import Mathlib.Algebra.BigOperators.Group.List.Basic
import Mathlib.Data.List.Basic
import Mathlib.Data.List.Pairwise
import Mathlib.Tactic.Common

namespace Relational

/-- The rows of a table, any two of which the unique constraints keep `apart`. -/
structure Table (ρ : Type*) (apart : ρ → ρ → Prop) where
  rows : List ρ
  unique : rows.Pairwise apart

namespace Table

variable {ρ : Type*} {apart : ρ → ρ → Prop}

def empty : Table ρ apart := ⟨[], List.Pairwise.nil⟩

/-- INSERT; `none` is a unique violation. -/
def insert [DecidableRel apart] (t : Table ρ apart) (r : ρ) : Option (Table ρ apart) :=
  if h : ∀ q ∈ t.rows, apart q r then
    some ⟨t.rows ++ [r], List.pairwise_append.mpr
      ⟨t.unique, List.pairwise_singleton _ _, fun q hq _ hr => List.mem_singleton.mp hr ▸ h q hq⟩⟩
  else none

/-- UPDATE, as the function it applies to each row. -/
def update (t : Table ρ apart) (f : ρ → ρ) (hf : ∀ a b, apart a b → apart (f a) (f b)) :
    Table ρ apart :=
  ⟨t.rows.map f, List.pairwise_map.mpr (t.unique.imp (hf _ _))⟩

/-- UPDATE .. WHERE `p`, of columns outside the unique constraints. -/
def updateWhere (t : Table ρ apart) (p : ρ → Bool) (f : ρ → ρ)
    (hf : ∀ a b, apart a b → apart (f a) b ∧ apart a (f b) ∧ apart (f a) (f b)) : Table ρ apart :=
  t.update (fun r => if p r then f r else r) (by
    intro a b h
    obtain ⟨hl, hr, hboth⟩ := hf a b h
    by_cases ha : p a <;> by_cases hb : p b
    · simpa [ha, hb] using hboth
    · simpa [ha, hb] using hl
    · simpa [ha, hb] using hr
    · simpa [ha, hb] using h)

/-- DELETE of the rows that satisfy `p`. -/
def delete (t : Table ρ apart) (p : ρ → Bool) : Table ρ apart :=
  ⟨t.rows.filter (fun r => !p r), t.unique.filter _⟩

@[simp] theorem rows_update (t : Table ρ apart) (f : ρ → ρ)
    (hf : ∀ a b, apart a b → apart (f a) (f b)) : (t.update f hf).rows = t.rows.map f := rfl

@[simp] theorem rows_updateWhere (t : Table ρ apart) (p : ρ → Bool) (f : ρ → ρ)
    (hf : ∀ a b, apart a b → apart (f a) b ∧ apart a (f b) ∧ apart (f a) (f b)) :
    (t.updateWhere p f hf).rows = t.rows.map (fun r => if p r then f r else r) := rfl

theorem updateWhere_of_none {t : Table ρ apart} {p : ρ → Bool} {f : ρ → ρ}
    {hf : ∀ a b, apart a b → apart (f a) b ∧ apart a (f b) ∧ apart (f a) (f b)}
    (h : ∀ r ∈ t.rows, p r = false) : t.updateWhere p f hf = t := by
  have hrows : t.rows.map (fun r => if p r then f r else r) = t.rows := by
    calc t.rows.map (fun r => if p r then f r else r)
        = t.rows.map id := List.map_congr_left (fun r hr => by simp [h r hr])
      _ = t.rows := List.map_id _
  cases t with
  | mk rows unique => simpa [updateWhere, update] using hrows

/-- Where the UPDATE finds one row, the new one stands in its place. -/
theorem mem_updateWhere_of_sole {t : Table ρ apart} {p : ρ → Bool} {f : ρ → ρ}
    {hf : ∀ a b, apart a b → apart (f a) b ∧ apart a (f b) ∧ apart (f a) (f b)} {r : ρ} (hr : r ∈ t.rows)
    (hp : p r = true) (hsole : ∀ q ∈ t.rows, p q = true → q = r) (q : ρ) :
    q ∈ (t.updateWhere p f hf).rows ↔ (q ∈ t.rows ∧ q ≠ r) ∨ q = f r := by
  rw [rows_updateWhere, List.mem_map]
  constructor
  · rintro ⟨x, hx, rfl⟩
    by_cases hpx : p x = true
    · rw [if_pos hpx, hsole x hx hpx]
      exact .inr rfl
    · rw [if_neg hpx]
      exact .inl ⟨hx, fun heq => hpx (heq ▸ hp)⟩
  · rintro (⟨hq, hne⟩ | rfl)
    · exact ⟨q, hq, if_neg fun hpq => hne (hsole q hq hpq)⟩
    · exact ⟨r, hr, if_pos hp⟩

@[simp] theorem mem_delete {t : Table ρ apart} {p : ρ → Bool} {r : ρ} :
    r ∈ (t.delete p).rows ↔ r ∈ t.rows ∧ p r = false := by
  simp [delete]

theorem rows_of_insert [DecidableRel apart] {t t' : Table ρ apart} {r : ρ}
    (h : t.insert r = some t') : t'.rows = t.rows ++ [r] ∧ ∀ q ∈ t.rows, apart q r := by
  unfold insert at h
  split at h
  next hq => cases Option.some.inj h; exact ⟨rfl, hq⟩
  next => simp at h

theorem mem_of_insert [DecidableRel apart] {t t' : Table ρ apart} {r q : ρ}
    (h : t.insert r = some t') : q ∈ t'.rows ↔ q ∈ t.rows ∨ q = r := by
  simp [(rows_of_insert h).1]

/-- Two rows that no unique constraint tells apart are one row. -/
theorem eq_of_not_apart [Std.Symm apart] {t : Table ρ apart} {a b : ρ}
    (ha : a ∈ t.rows) (hb : b ∈ t.rows) (h : ¬apart a b) : a = b := by
  by_contra hne
  exact h (t.unique.forall ha hb hne)

/-- The answers to a query with WHERE `p` ORDER BY `key`: rows with equal keys come in any order. -/
def Answers {κ : Type*} [LE κ] (t : Table ρ apart) (p : ρ → Bool) (key : ρ → κ) (l : List ρ) : Prop :=
  l.Perm (t.rows.filter p) ∧ l.Pairwise (fun a b => key a ≤ key b)

instance {κ : Type*} [LE κ] [DecidableLE κ] [DecidableEq ρ] (t : Table ρ apart) (p : ρ → Bool)
    (key : ρ → κ) (l : List ρ) : Decidable (t.Answers p key l) :=
  inferInstanceAs (Decidable (_ ∧ _))

theorem Answers.mem_iff {κ : Type*} [LE κ] {t : Table ρ apart} {p : ρ → Bool} {key : ρ → κ}
    {l : List ρ} (h : t.Answers p key l) {r : ρ} : r ∈ l ↔ r ∈ t.rows ∧ p r := by
  rw [h.1.mem_iff, List.mem_filter]

/-- What a query reads is itself free of duplicates. -/
theorem Answers.pairwise {κ : Type*} [LE κ] [Std.Symm apart] {t : Table ρ apart} {p : ρ → Bool}
    {key : ρ → κ} {l : List ρ} (h : t.Answers p key l) : l.Pairwise apart :=
  (h.1.pairwise_iff (fun hab => Std.Symm.symm _ _ hab)).mpr (t.unique.filter p)

theorem answers_sole {κ : Type*} [LE κ] {t : Table ρ apart} {p : ρ → Bool} {key : ρ → κ} {r : ρ}
    (hrows : t.rows = [r]) (hp : p r) : t.Answers p key [r] :=
  ⟨by simp [hrows, hp], List.pairwise_singleton _ _⟩

end Table

theorem find?_eq_of_unique {ρ : Type*} {l : List ρ} {p : ρ → Bool} {r : ρ} (hr : r ∈ l) (hp : p r)
    (hu : ∀ q ∈ l, p q → q = r) : l.find? p = some r := by
  cases hf : l.find? p with
  | none => exact absurd hp (by simpa using List.find?_eq_none.mp hf r hr)
  | some q => rw [hu q (List.mem_of_find?_eq_some hf) (List.find?_some hf)]

/-- The row that a query with two conditions finds meets both. -/
theorem of_find?_and {ρ : Type*} {l : List ρ} {p q : ρ → Prop} [DecidablePred p] [DecidablePred q] {r : ρ}
    (h : l.find? (fun r => p r && q r) = some r) : r ∈ l ∧ p r ∧ q r := by
  have hp := List.find?_some h
  simp only [Bool.and_eq_true, decide_eq_true_eq] at hp
  exact ⟨List.mem_of_find?_eq_some h, hp⟩

/-- An UPDATE that meets one row alters the table as it alters that row. -/
theorem forall₂_updated_iff {ρ : Type*} {R : ρ → ρ → Prop} (hR : ∀ q, R q q) {l : List ρ}
    {p : ρ → Bool} {f : ρ → ρ} {r : ρ} (hr : r ∈ l) (hp : p r) (hu : ∀ q ∈ l, p q → q = r) :
    List.Forall₂ R l (l.map (fun q => if p q then f q else q)) ↔ R r (f r) := by
  rw [List.forall₂_map_right_iff, List.forall₂_same]
  constructor
  · intro h
    simpa [hp] using h r hr
  · intro h q hq
    by_cases hpq : p q
    · rw [hu q hq hpq, if_pos hp]
      exact h
    · rw [if_neg hpq]
      exact hR q

/-- Changing one row changes a sum over the rows by the difference that row makes. -/
theorem sum_map_of_change {ρ M : Type*} [DecidableEq ρ] [AddCommGroup M] {l : List ρ} (hl : l.Nodup)
    {r : ρ} (hr : r ∈ l) {f : ρ → ρ} {w : ρ → M} (h : ∀ q ∈ l, q ≠ r → w (f q) = w q) :
    ((l.map f).map w).sum = (l.map w).sum - w r + w (f r) := by
  have hsplit := List.perm_cons_erase hr
  have hrest : (l.erase r).map (w ∘ f) = (l.erase r).map w := by
    refine List.map_congr_left (fun q hq => ?_)
    obtain ⟨hne, hmem⟩ := hl.mem_erase_iff.mp hq
    exact h q hmem hne
  rw [List.map_map, (hsplit.map (w ∘ f)).sum_eq, (hsplit.map w).sum_eq, List.map_cons, List.map_cons,
    List.sum_cons, List.sum_cons, hrest, Function.comp_apply, add_sub_cancel_left, add_comm]

/-- A table with a primary key. -/
abbrev Keyed {ρ κ : Type*} (key : ρ → κ) := Table ρ (fun a b => key a ≠ key b)

namespace Keyed

variable {ρ κ : Type*} [DecidableEq κ] {key : ρ → κ}

def lookup (t : Keyed key) (k : κ) : Option ρ := t.rows.find? (fun r => key r = k)

theorem lookup_eq_none {t : Keyed key} {k : κ} : lookup t k = none ↔ ∀ r ∈ t.rows, key r ≠ k := by
  simp [lookup]

theorem mem_iff_lookup {t : Keyed key} {r : ρ} : r ∈ t.rows ↔ lookup t (key r) = some r := by
  constructor
  · intro hr
    refine find?_eq_of_unique hr (by simp) (fun q hq hkey => ?_)
    have : Std.Symm (fun a b : ρ => key a ≠ key b) := ⟨fun _ _ h => h.symm⟩
    exact Table.eq_of_not_apart hq hr (not_not.mpr (by simpa using hkey))
  · exact List.mem_of_find?_eq_some

theorem key_of_lookup {t : Keyed key} {k : κ} {r : ρ} (h : lookup t k = some r) : key r = k := by
  simpa using List.find?_some h

theorem insert_eq_none {t : Keyed key} {r : ρ} : t.insert r = none ↔ lookup t (key r) ≠ none := by
  rw [ne_eq, lookup_eq_none]
  unfold Table.insert
  split
  next h => exact ⟨nofun, fun hn => absurd h hn⟩
  next h => exact ⟨fun _ => h, fun _ => rfl⟩

theorem lookup_of_insert {t t' : Keyed key} {r : ρ} (h : t.insert r = some t') (k : κ) :
    lookup t' k = if k = key r then some r else lookup t k := by
  obtain ⟨hrows, hnew⟩ := Table.rows_of_insert h
  unfold lookup
  rw [hrows, List.find?_append]
  by_cases hk : k = key r
  · have hold : t.rows.find? (fun q => key q = k) = none := by
      simpa [hk] using hnew
    rw [if_pos hk, hold]
    simp [hk]
  · rw [if_neg hk, List.find?_singleton]
    simp [Ne.symm hk]

theorem lookup_updateWhere {t : Keyed key} {k : κ} {f : ρ → ρ} (hf : ∀ r, key (f r) = key r)
    {hapart : ∀ a b, key a ≠ key b →
      key (f a) ≠ key b ∧ key a ≠ key (f b) ∧ key (f a) ≠ key (f b)} (k' : κ) :
    lookup (t.updateWhere (fun r => key r = k) f hapart) k' =
      if k' = k then (lookup t k).map f else lookup t k' := by
  unfold lookup
  rw [Table.rows_updateWhere, List.find?_map]
  have hsame : (fun r => decide (key r = k')) ∘ (fun r => if decide (key r = k) then f r else r) =
      fun r => decide (key r = k') := by
    funext r
    by_cases hr : key r = k <;> simp [hr, hf]
  rw [hsame]
  cases hfind : t.rows.find? (fun r => key r = k') with
  | none =>
    by_cases hk : k' = k
    · rw [if_pos hk, ← hk, hfind]
      rfl
    · rw [if_neg hk]
      rfl
  | some r =>
    have hr : key r = k' := by simpa using List.find?_some hfind
    by_cases hk : k' = k
    · rw [if_pos hk, ← hk, hfind]
      simp [hr, hk]
    · rw [if_neg hk]
      simp [hr, hk]

theorem lookup_delete {t : Keyed key} {k : κ} (k' : κ) :
    lookup (t.delete (fun r => key r = k)) k' = if k' = k then none else lookup t k' := by
  unfold lookup Table.delete
  rw [List.find?_filter]
  by_cases hk : k' = k
  · rw [if_pos hk, List.find?_eq_none]
    intro r _
    simp [hk]
  · rw [if_neg hk]
    congr 1
    funext r
    by_cases hr : key r = k'
    · simp [hr, hk]
    · simp [hr]

end Keyed

section Groups

variable {ρ κ M : Type*} [AddCommMonoid M]

theorem sum_filter_add {l : List ρ} (p : ρ → Bool) (f : ρ → M) :
    ((l.filter p).map f).sum + ((l.filter (!p ·)).map f).sum = (l.map f).sum := by
  rw [← List.sum_append, ← List.map_append]
  exact ((List.filter_append_perm p l).map f).sum_eq

/-- GROUP BY `key`: the sums over the groups add up to the one over all the rows. -/
theorem sum_groups [DecidableEq κ] {key : ρ → κ} {f : ρ → M} {ks : List κ} {l : List ρ} (hks : ks.Nodup)
    (hl : ∀ r ∈ l, key r ∈ ks) :
    (ks.map fun k => ((l.filter (key · = k)).map f).sum).sum = (l.map f).sum := by
  induction ks generalizing l with
  | nil =>
    rw [List.eq_nil_iff_forall_not_mem.mpr fun r hr => List.not_mem_nil (hl r hr)]
    rfl
  | cons k ks ih =>
    obtain ⟨hk, hks⟩ := List.nodup_cons.mp hks
    have hrest := ih hks (l := l.filter (fun r => !decide (key r = k))) fun r hr => by
      obtain ⟨hr, hne⟩ := List.mem_filter.mp hr
      have hne : key r ≠ k := by simpa using hne
      exact (List.mem_cons.mp (hl r hr)).resolve_left hne
    have hsame : ∀ k' ∈ ks, ((l.filter (fun r => !decide (key r = k))).filter (key · = k')) =
        l.filter (key · = k') := by
      intro k' hk'
      rw [List.filter_filter]
      refine List.filter_congr fun r _ => ?_
      by_cases hr : key r = k'
      · have hne : key r ≠ k := fun h => hk (h ▸ hr ▸ hk')
        simp [hr, hr ▸ hne]
      · simp [hr]
    rw [List.map_congr_left fun k' hk' => by rw [hsame k' hk']] at hrest
    rw [List.map_cons, List.sum_cons, hrest]
    exact sum_filter_add _ f

end Groups

section Decode

variable {ε α β : Type*} {f : α → Except ε β}

/-- A result set whose rows all decode is decoded row by row. -/
theorem mapM_eq_ok {g : α → β} {l : List α} (h : ∀ x ∈ l, f x = .ok (g x)) :
    l.mapM f = .ok (l.map g) := by
  induction l with
  | nil => rfl
  | cons x l ih =>
    have hx := h x (by simp)
    have hl := ih (fun y hy => h y (by simp [hy]))
    simp [List.mapM_cons, hx, hl, bind, Except.bind, pure, Except.pure]

/-- One row that does not decode fails the whole result set. -/
theorem mapM_eq_error {l : List α} {x : α} {e : ε} (hx : x ∈ l) (h : f x = .error e) :
    ∃ e', l.mapM f = .error e' := by
  induction l with
  | nil => simp at hx
  | cons y l ih =>
    cases hy : f y with
    | error e' => exact ⟨e', by simp [List.mapM_cons, hy, bind, Except.bind]⟩
    | ok z =>
      have hne : x ≠ y := by
        intro heq
        subst x
        simp [hy] at h
      obtain ⟨e', he⟩ := ih ((List.mem_cons.mp hx).resolve_left hne)
      exact ⟨e', by simp [List.mapM_cons, hy, he, bind, Except.bind]⟩

theorem exists_mapM_ok {l : List α} (h : ∀ x ∈ l, ∃ y, f x = .ok y) : ∃ l', l.mapM f = .ok l' := by
  induction l with
  | nil => exact ⟨[], rfl⟩
  | cons x l ih =>
    obtain ⟨y, hy⟩ := h x List.mem_cons_self
    obtain ⟨ys, hys⟩ := ih (fun z hz => h z (List.mem_cons_of_mem _ hz))
    refine ⟨y :: ys, ?_⟩
    rw [List.mapM_cons, hy, hys]
    rfl

/-- What is decoded of a result set is decoded row by row. -/
theorem forall₂_of_mapM {l : List α} {l' : List β} (h : l.mapM f = .ok l') :
    List.Forall₂ (fun x y => f x = .ok y) l l' := by
  induction l generalizing l' with
  | nil =>
    rw [List.mapM_nil] at h
    cases h
    exact .nil
  | cons x l ih =>
    rw [List.mapM_cons] at h
    cases hx : f x with
    | error e =>
      rw [hx] at h
      cases h
    | ok y =>
      cases hl : l.mapM f with
      | error e =>
        rw [hx, hl] at h
        cases h
      | ok ys =>
        rw [hx, hl] at h
        cases h
        exact .cons hx (ih hl)

end Decode

end Relational
