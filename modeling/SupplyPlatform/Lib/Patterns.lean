import Mathlib.Algebra.Ring.Nat
import Mathlib.Data.List.TakeWhile

namespace Patterns

variable {α β : Type}

/-- Symbols of one class, `least` of them, or as many as there are but not fewer. -/
structure Item (α : Type) where
  holds : α → Bool
  least : Nat
  greedy : Bool

def exactly (holds : α → Bool) (n : Nat) : Item α := ⟨holds, n, false⟩

def atLeast (holds : α → Bool) (n : Nat) : Item α := ⟨holds, n, true⟩

/-- The numbers from `n` down to `least`. -/
def descending (least : Nat) : Nat → List Nat
  | 0 => if least = 0 then [0] else []
  | n + 1 => if least ≤ n + 1 then (n + 1) :: descending least n else []

/-- How many symbols of a text an item may take, in the order they are tried. -/
def Item.counts (it : Item α) (s : List α) : List Nat :=
  if it.greedy then descending it.least (s.takeWhile it.holds).length
  else if it.least ≤ (s.takeWhile it.holds).length then [it.least] else []

/-- The first way found in which the items take a beginning of the text that leaves a rest as wanted: what
each item takes, and the rest. -/
def best (wanted : List α → Bool) : List (Item α) → List α → Option (List (List α) × List α)
  | [], s => if wanted s then some ([], s) else none
  | it :: its, s => (it.counts s).findSome? (fun n =>
    (best wanted its (s.drop n)).map (fun found => (s.take n :: found.1, found.2)))

/-- How long the match is that starts where the text does. -/
def matchLength (items : List (Item α)) (s : List α) : Option Nat :=
  (best (fun _ => true) items s).map (fun found => found.1.flatten.length)

/-- What the items take of a text that they match from its start to its end. -/
def submatches (items : List (Item α)) (s : List α) : Option (List (List α)) :=
  (best List.isEmpty items s).map Prod.fst

/-- `ReplaceAllStringFunc`, for items that do not match the empty text; the first `n` symbols belong to
the match before. -/
def replaceFrom (items : List (Item α)) (f : List α → List α) : Nat → List α → List α
  | _, [] => []
  | n + 1, _ :: s => replaceFrom items f n s
  | 0, x :: s =>
    match matchLength items (x :: s) with
    | some (n + 1) => f (x :: s.take n) ++ replaceFrom items f n s
    | _ => x :: replaceFrom items f 0 s

def replaceAll (items : List (Item α)) (f : List α → List α) (s : List α) : List α :=
  replaceFrom items f 0 s

theorem findSome?_descending {f : Nat → Option β} {least r k : Nat} {y : β} (hk : k ≤ r) (hleast : least ≤ k)
    (hy : f k = some y) (hnone : ∀ n, k < n → n ≤ r → f n = none) :
    (descending least r).findSome? f = some y := by
  induction r with
  | zero =>
    obtain rfl : k = 0 := Nat.le_zero.mp hk
    obtain rfl : least = 0 := Nat.le_zero.mp hleast
    simp [descending, hy]
  | succ r ih =>
    have hfirst : least ≤ r + 1 := Nat.le_trans hleast hk
    rw [descending, if_pos hfirst]
    by_cases heq : k = r + 1
    · subst heq
      rw [List.findSome?_cons_of_isSome (by simp [hy]), hy]
    · have hlast : f (r + 1) = none := hnone (r + 1) (by omega) (Nat.le_refl _)
      rw [List.findSome?_cons, hlast]
      exact ih (by omega) (fun n hn hnr => hnone n hn (by omega))

theorem of_mem_descending {least r n : Nat} (h : n ∈ descending least r) : least ≤ n ∧ n ≤ r := by
  induction r with
  | zero =>
    by_cases h0 : least = 0
    · rw [descending, if_pos h0, List.mem_singleton] at h
      omega
    · rw [descending, if_neg h0] at h
      cases h
  | succ r ih =>
    by_cases hle : least ≤ r + 1
    · rw [descending, if_pos hle] at h
      rcases List.mem_cons.mp h with rfl | h
      · omega
      · have hr := ih h
        omega
    · rw [descending, if_neg hle] at h
      cases h

theorem of_mem_counts {it : Item α} {s : List α} {n : Nat} (h : n ∈ it.counts s) :
    it.least ≤ n ∧ n ≤ (s.takeWhile it.holds).length := by
  unfold Item.counts at h
  split at h
  next => exact of_mem_descending h
  next =>
    split at h
    next hle =>
      rw [List.mem_singleton] at h
      omega
    next => cases h

section

variable {c : α → Bool}

theorem length_takeWhile_drop {s : List α} {n : Nat} (h : n ≤ (s.takeWhile c).length) :
    ((s.drop n).takeWhile c).length = (s.takeWhile c).length - n := by
  induction s generalizing n with
  | nil => simp
  | cons x s ih =>
    cases n with
    | zero => rfl
    | succ n =>
      cases hx : c x with
      | false => simp [hx] at h
      | true =>
        simp only [List.takeWhile_cons, hx, if_true, List.length_cons] at h ⊢
        rw [List.drop_succ_cons, ih (by omega)]
        omega

theorem best_exactly {wanted : List α → Bool} {b : Nat} {s : List α} (h : b = (s.takeWhile c).length)
    (hwanted : wanted (s.drop b) = true) : best wanted [exactly c b] s = some ([s.take b], s.drop b) := by
  have hcounts : (exactly c b).counts s = [b] := by simp [Item.counts, exactly, h]
  simp [best, hcounts, hwanted]

theorem best_exactly_none {wanted : List α → Bool} {b : Nat} {its : List (Item α)} {s : List α}
    (h : (s.takeWhile c).length < b) : best wanted (exactly c b :: its) s = none := by
  have hcounts : (exactly c b).counts s = [] := by simp [Item.counts, exactly, Nat.not_le.mpr h]
  rw [best, hcounts]
  rfl

/-- Two fixed numbers of symbols of a class with at least `m` between them take the whole run the text
starts with. -/
theorem best_span {wanted : List α → Bool} {a m b : Nat} {s : List α}
    (h : a + m + b ≤ (s.takeWhile c).length) (hwanted : wanted (s.drop (s.takeWhile c).length) = true) :
    best wanted [exactly c a, atLeast c m, exactly c b] s =
      some ([s.take a, (s.drop a).take ((s.takeWhile c).length - a - b),
        (s.drop ((s.takeWhile c).length - b)).take b], s.drop (s.takeWhile c).length) := by
  have hcounts : (exactly c a).counts s = [a] := by
    have hle : a ≤ (s.takeWhile c).length := by omega
    simp [Item.counts, exactly, hle]
  have hrest : ((s.drop a).takeWhile c).length = (s.takeWhile c).length - a :=
    length_takeWhile_drop (by omega)
  have hmany : (atLeast c m).counts (s.drop a) = descending m ((s.takeWhile c).length - a) := by
    simp [Item.counts, atLeast, hrest]
  have htail : ∀ n, n ≤ (s.takeWhile c).length - a →
      (((s.drop a).drop n).takeWhile c).length = (s.takeWhile c).length - a - n := by
    intro n hn
    rw [length_takeWhile_drop (by omega), hrest]
  have hspan : best wanted [atLeast c m, exactly c b] (s.drop a) =
      some ([(s.drop a).take ((s.takeWhile c).length - a - b), (s.drop ((s.takeWhile c).length - b)).take b],
        s.drop (s.takeWhile c).length) := by
    rw [best, hmany]
    refine findSome?_descending (k := (s.takeWhile c).length - a - b) (by omega) (by omega) ?_ ?_
    · have hdrop : (s.drop a).drop ((s.takeWhile c).length - a - b) =
          s.drop ((s.takeWhile c).length - b) := by
        rw [List.drop_drop]
        congr 1
        omega
      have hlast : ((s.drop a).drop ((s.takeWhile c).length - a - b)).drop b =
          s.drop (s.takeWhile c).length := by
        rw [hdrop, List.drop_drop]
        congr 1
        omega
      have hlength := htail ((s.takeWhile c).length - a - b) (by omega)
      rw [best_exactly (by omega) (by rw [hlast]; exact hwanted), hlast, hdrop]
      rfl
    · intro n hn hle
      rw [best_exactly_none (by rw [htail n hle]; omega)]
      rfl
  rw [best, hcounts, List.findSome?_singleton, hspan]
  rfl

end

theorem length_takeWhile_mono {c d : α → Bool} (h : ∀ x, c x = true → d x = true) (s : List α) :
    (s.takeWhile c).length ≤ (s.takeWhile d).length := by
  induction s with
  | nil => exact Nat.le_refl _
  | cons x s ih =>
    cases hx : c x with
    | false => simp [hx]
    | true =>
      rw [List.takeWhile_cons_of_pos hx, List.takeWhile_cons_of_pos (h x hx)]
      exact Nat.succ_le_succ ih

/-- Items of one class find nothing where too few symbols of it stand in a row. -/
theorem best_eq_none {wanted : List α → Bool} {d : α → Bool} {items : List (Item α)} {s : List α}
    (hclass : ∀ it ∈ items, ∀ x, it.holds x = true → d x = true)
    (h : (s.takeWhile d).length < (items.map Item.least).sum) : best wanted items s = none := by
  induction items generalizing s with
  | nil => simp at h
  | cons it its ih =>
    rw [best, List.findSome?_eq_none_iff]
    intro n hn
    obtain ⟨hleast, hn⟩ := of_mem_counts hn
    have hrun := length_takeWhile_mono (hclass it List.mem_cons_self) s
    rw [List.map_cons, List.sum_cons] at h
    have hfew : ((s.drop n).takeWhile d).length < (its.map Item.least).sum := by
      rw [length_takeWhile_drop (by omega)]
      omega
    rw [ih (fun it h => hclass it (List.mem_cons_of_mem _ h)) hfew]
    rfl

/-- No `k` symbols of the class stand in a row. -/
def NoRun (d : α → Bool) (k : Nat) (s : List α) : Prop := ∀ t, t <:+ s → (t.takeWhile d).length < k

/-- The same behind other items. -/
theorem best_append_eq_none {wanted : List α → Bool} {d : α → Bool} (before : List (Item α))
    {items : List (Item α)} {s : List α} (hclass : ∀ it ∈ items, ∀ x, it.holds x = true → d x = true)
    (h : NoRun d (items.map Item.least).sum s) : best wanted (before ++ items) s = none := by
  induction before generalizing s with
  | nil => exact best_eq_none hclass (h s (List.suffix_refl s))
  | cons it its ih =>
    rw [List.cons_append, best, List.findSome?_eq_none_iff]
    intro n _
    rw [ih (fun t ht => h t (ht.trans (List.drop_suffix n s)))]
    rfl

/-- The items match the run of symbols of the class the text starts with, if it has `k` of them. -/
def Spans (items : List (Item α)) (c : α → Bool) (k : Nat) : Prop :=
  ∀ s, matchLength items s = if k ≤ (s.takeWhile c).length then some (s.takeWhile c).length else none

theorem spans (c : α → Bool) (a m b : Nat) :
    Spans [exactly c a, atLeast c m, exactly c b] c (a + m + b) := by
  intro s
  have hlength : (s.takeWhile c).length ≤ s.length := (List.takeWhile_sublist c).length_le
  unfold matchLength
  split
  next hle =>
    rw [best_span hle rfl]
    simp only [Option.map_some, List.flatten_cons, List.flatten_nil, List.length_append, List.length_take,
      List.length_drop, List.length_nil, Option.some.injEq]
    omega
  next hlt =>
    rw [best_eq_none (d := c) (by simp [exactly, atLeast]) (by simp [exactly, atLeast]; omega)]
    rfl

section

variable {items : List (Item α)} {f : List α → List α}

theorem replaceFrom_eq (n : Nat) (s : List α) : replaceFrom items f n s = replaceAll items f (s.drop n) := by
  induction n generalizing s with
  | zero => rfl
  | succ n ih =>
    cases s with
    | nil => rfl
    | cons x s => exact ih s

theorem replaceAll_eq_self {s : List α} (h : ∀ t, t <:+ s → matchLength items t = none) :
    replaceAll items f s = s := by
  induction s with
  | nil => rfl
  | cons x s ih =>
    have hrest := ih (fun t ht => h t (ht.trans (List.suffix_cons x s)))
    rw [replaceAll, replaceFrom, h _ (List.suffix_refl _)]
    exact congrArg (x :: ·) hrest

end

/-- The text does not start with a symbol of the class. -/
def Stops (c : α → Bool) (s : List α) : Prop := ∀ x, s.head? = some x → c x = false

section

variable {c : α → Bool}

theorem Stops.takeWhile_eq {s : List α} (h : Stops c s) : s.takeWhile c = [] := by
  cases s with
  | nil => rfl
  | cons x s => rw [List.takeWhile_cons_of_neg (by simp [h x rfl])]

theorem takeWhile_append_stops {w t : List α} (hw : ∀ x ∈ w, c x = true) (ht : Stops c t) :
    (w ++ t).takeWhile c = w := by
  rw [List.takeWhile_append_of_pos hw, ht.takeWhile_eq, List.append_nil]

/-- A text is gone through by its runs of symbols of a class and its other symbols. -/
theorem runs_induction {motive : List α → Prop} (nil : motive [])
    (other : ∀ x s, c x = false → motive s → motive (x :: s))
    (run : ∀ w t, (∀ x ∈ w, c x = true) → Stops c t → motive t → motive (w ++ t)) (s : List α) :
    motive s := by
  have hall : ∀ n, ∀ s : List α, s.length ≤ n → motive s := by
    intro n
    induction n with
    | zero =>
      intro s hs
      obtain rfl := List.length_eq_zero_iff.mp (Nat.le_zero.mp hs)
      exact nil
    | succ n ih =>
      intro s hs
      cases s with
      | nil => exact nil
      | cons x s =>
        cases hx : c x with
        | false => exact other x s hx (ih s (Nat.le_of_succ_le_succ hs))
        | true =>
          have hsplit : (x :: s).takeWhile c ++ (x :: s).dropWhile c = x :: s :=
            List.takeWhile_append_dropWhile
          rw [← hsplit]
          refine run _ _ (fun y hy => List.mem_takeWhile_imp hy) (fun y hy => ?_) (ih _ ?_)
          · exact Bool.eq_false_iff.mpr (fun h => by
              have hnot := List.head?_dropWhile_not c (x :: s)
              rw [hy] at hnot
              simp [h] at hnot)
          · rw [List.dropWhile_cons_of_pos hx]
            exact Nat.le_trans (List.dropWhile_suffix c).length_le (Nat.le_of_succ_le_succ hs)
  exact hall s.length s (Nat.le_refl _)

end

section

variable {items : List (Item α)} {c d : α → Bool} {k : Nat} {f : List α → List α}

theorem replaceAll_other (hs : Spans items c k) (hk : 0 < k) {x : α} (hx : c x = false) (t : List α) :
    replaceAll items f (x :: t) = x :: replaceAll items f t := by
  have hnone : matchLength items (x :: t) = none := by
    rw [hs, List.takeWhile_cons_of_neg (by simp [hx]), if_neg (by simp; omega)]
  rw [replaceAll, replaceFrom, hnone]
  rfl

theorem replaceAll_short (hs : Spans items c k) {w t : List α} (hw : ∀ x ∈ w, c x = true) (ht : Stops c t)
    (hlt : w.length < k) : replaceAll items f (w ++ t) = w ++ replaceAll items f t := by
  induction w with
  | nil => rfl
  | cons x w ih =>
    have hnone : matchLength items (x :: w ++ t) = none := by
      rw [hs, takeWhile_append_stops hw ht, if_neg (Nat.not_le.mpr hlt)]
    have hrest := ih (fun y hy => hw y (List.mem_cons_of_mem x hy)) (Nat.lt_of_succ_lt hlt)
    rw [List.cons_append] at hnone ⊢
    rw [replaceAll, replaceFrom, hnone]
    exact congrArg (x :: ·) hrest

theorem replaceAll_long (hs : Spans items c k) (hk : 0 < k) {w t : List α} (hw : ∀ x ∈ w, c x = true)
    (ht : Stops c t) (hle : k ≤ w.length) :
    replaceAll items f (w ++ t) = f w ++ replaceAll items f t := by
  cases w with
  | nil =>
    rw [List.length_nil] at hle
    omega
  | cons x w =>
    have hmatch : matchLength items (x :: w ++ t) = some (w.length + 1) := by
      rw [hs, takeWhile_append_stops hw ht, if_pos hle, List.length_cons]
    rw [List.cons_append] at hmatch ⊢
    rw [replaceAll, replaceFrom, hmatch]
    simp only [replaceFrom_eq, List.take_left, List.drop_left]

theorem stops_replaceAll (hs : Spans items c k) (hk : 0 < k) {t : List α} (ht : Stops c t) :
    Stops c (replaceAll items f t) := by
  cases t with
  | nil => exact ht
  | cons x t =>
    rw [replaceAll_other hs hk (ht x rfl)]
    intro y hy
    exact ht y hy

theorem replaceAll_congr (hs : Spans items c k) (hk : 0 < k) {g : List α → List α}
    (h : ∀ w, (∀ x ∈ w, c x = true) → k ≤ w.length → f w = g w) (s : List α) :
    replaceAll items f s = replaceAll items g s := by
  induction s using runs_induction (c := c) with
  | nil => rfl
  | other x t hx ih => rw [replaceAll_other hs hk hx, replaceAll_other hs hk hx, ih]
  | run w t hw ht ih =>
    by_cases hle : k ≤ w.length
    · rw [replaceAll_long hs hk hw ht hle, replaceAll_long hs hk hw ht hle, h w hw hle, ih]
    · have hlt := Nat.lt_of_not_le hle
      rw [replaceAll_short hs hw ht hlt, replaceAll_short hs hw ht hlt, ih]

/-- What stands between the first `a` symbols and the last `b` is blotted out. -/
def keepEnds (a b : Nat) (blot : List α) (w : List α) : List α :=
  w.take a ++ blot ++ w.drop (w.length - b)

section

variable {a b : Nat} {blot w : List α}

theorem length_keepEnds (ha : a ≤ w.length) (hb : b ≤ w.length) :
    (keepEnds a b blot w).length = a + blot.length + b := by
  have hfirst : (w.take a).length = a := List.length_take_of_le ha
  have hlast : (w.drop (w.length - b)).length = b := by
    rw [List.length_drop]
    omega
  rw [keepEnds, List.length_append, List.length_append, hfirst, hlast]

theorem forall_mem_keepEnds (hblot : ∀ x ∈ blot, c x = true) (hw : ∀ x ∈ w, c x = true) :
    ∀ x ∈ keepEnds a b blot w, c x = true := by
  intro x hx
  rcases List.mem_append.mp hx with hx | hx
  · rcases List.mem_append.mp hx with hx | hx
    · exact hw x (List.mem_of_mem_take hx)
    · exact hblot x hx
  · exact hw x (List.mem_of_mem_drop hx)

theorem keepEnds_keepEnds (ha : a ≤ w.length) (hb : b ≤ w.length) :
    keepEnds a b blot (keepEnds a b blot w) = keepEnds a b blot w := by
  have hfirst : (w.take a).length = a := List.length_take_of_le ha
  have htake : (keepEnds a b blot w).take a = w.take a := by
    rw [keepEnds, List.append_assoc, List.take_left' hfirst]
  have hdrop : (keepEnds a b blot w).drop (a + blot.length) = w.drop (w.length - b) := by
    rw [keepEnds, List.drop_left' (by rw [List.length_append, hfirst])]
  rw [keepEnds, htake, length_keepEnds ha hb, Nat.add_sub_cancel, hdrop]
  rfl

end

/-- With a blot of symbols of the class that the items span, replacing a second time changes nothing. -/
theorem replaceAll_idem {a b : Nat} {blot : List α} (hs : Spans items c k) (hk : 0 < k)
    (hblot : ∀ x ∈ blot, c x = true) (ha : a ≤ k) (hb : b ≤ k) (hlong : k ≤ a + blot.length + b)
    (s : List α) : replaceAll items (keepEnds a b blot) (replaceAll items (keepEnds a b blot) s) =
      replaceAll items (keepEnds a b blot) s := by
  induction s using runs_induction (c := c) with
  | nil => rfl
  | other x t hx ih => rw [replaceAll_other hs hk hx, replaceAll_other hs hk hx, ih]
  | run w t hw ht ih =>
    have hstops : Stops c (replaceAll items (keepEnds a b blot) t) := stops_replaceAll hs hk ht
    by_cases hle : k ≤ w.length
    · have ha' : a ≤ w.length := Nat.le_trans ha hle
      have hb' : b ≤ w.length := Nat.le_trans hb hle
      have hends : ∀ x ∈ keepEnds a b blot w, c x = true := forall_mem_keepEnds hblot hw
      have hlength : (keepEnds a b blot w).length = a + blot.length + b := length_keepEnds ha' hb'
      have hsame : keepEnds a b blot (keepEnds a b blot w) = keepEnds a b blot w := keepEnds_keepEnds ha' hb'
      rw [replaceAll_long hs hk hw ht hle, replaceAll_long hs hk hends hstops (by omega), hsame, ih]
    · have hlt := Nat.lt_of_not_le hle
      rw [replaceAll_short hs hw ht hlt, replaceAll_short hs hw hstops hlt, ih]

end

section

variable {items : List (Item α)} {c d : α → Bool} {k : Nat}

theorem noRun_of_length_lt {s : List α} (h : s.length < k) : NoRun d k s := fun _ ht =>
  Nat.lt_of_le_of_lt (List.takeWhile_sublist d).length_le (Nat.lt_of_le_of_lt ht.length_le h)

theorem NoRun.cons {x : α} {s : List α} (hs : NoRun d k s) (h : ((x :: s).takeWhile d).length < k) :
    NoRun d k (x :: s) := by
  intro t ht
  rcases List.suffix_cons_iff.mp ht with rfl | ht
  · exact h
  · exact hs t ht

theorem NoRun.of_isInfix {s w : List α} (h : NoRun d k s) (hw : w <:+: s) (hall : ∀ x ∈ w, d x = true) :
    w.length < k := by
  obtain ⟨u, v, rfl⟩ := hw
  have hlt := h (w ++ v) ⟨u, by rw [List.append_assoc]⟩
  rw [List.takeWhile_append_of_pos hall, List.length_append] at hlt
  omega

theorem NoRun.append {u v : List α} (hv : NoRun d k v)
    (hu : ∀ u', u' <:+ u → ((u' ++ v).takeWhile d).length < k) : NoRun d k (u ++ v) := by
  induction u with
  | nil => exact hv
  | cons x u ih =>
    have hrest := ih (fun u' h => hu u' (h.trans (List.suffix_cons x u)))
    exact hrest.cons (hu (x :: u) (List.suffix_refl _))

theorem Stops.takeWhile_append {v : List α} (hv : Stops d v) (u : List α) :
    (u ++ v).takeWhile d = u.takeWhile d := by
  rw [List.takeWhile_append, hv.takeWhile_eq, List.append_nil]
  split
  next hall => exact ((List.takeWhile_sublist d).eq_of_length hall).symm
  next => rfl

theorem NoRun.append_stops {u v : List α} (hv : NoRun d k v) (hstops : Stops d v) (hu : u.length < k) :
    NoRun d k (u ++ v) := by
  refine hv.append (fun u' h => ?_)
  rw [hstops.takeWhile_append]
  exact Nat.lt_of_le_of_lt (List.takeWhile_sublist d).length_le (Nat.lt_of_le_of_lt h.length_le hu)

theorem stops_blot {blot : List α} (hne : blot ≠ []) (hblot : ∀ x ∈ blot, d x = false) (r : List α) :
    Stops d (blot ++ r) := by
  cases blot with
  | nil => exact absurd rfl hne
  | cons x blot =>
    intro y hy
    obtain rfl : x = y := Option.some.inj hy
    exact hblot x List.mem_cons_self

/-- What is kept in front of a blot is cut off from what comes behind it. -/
theorem NoRun.keepEnds_append {a b : Nat} {blot w v : List α} (hne : blot ≠ [])
    (hblot : ∀ x ∈ blot, d x = false) (ha : a < k) (h : NoRun d k (w.drop (w.length - b) ++ v)) :
    NoRun d k (keepEnds a b blot w ++ v) := by
  have hcut : NoRun d k (blot ++ (w.drop (w.length - b) ++ v)) := by
    clear hne
    induction blot with
    | nil => exact h
    | cons x blot ih =>
      have hx : d x = false := hblot x List.mem_cons_self
      refine (ih (fun y hy => hblot y (List.mem_cons_of_mem x hy))).cons ?_
      rw [List.takeWhile_cons_of_neg (by simp [hx]), List.length_nil]
      omega
  have htake : (w.take a).length ≤ a := List.length_take_le a w
  rw [keepEnds, List.append_assoc, List.append_assoc]
  exact hcut.append_stops (stops_blot hne hblot _) (by omega)

/-- No run of the class that the items span is left, nor one of a narrower class. -/
theorem noRun_replaceAll (hs : Spans items c k) (hd : ∀ x, d x = true → c x = true) {a b : Nat}
    {blot : List α} (hne : blot ≠ []) (hblot : ∀ x ∈ blot, d x = false) (ha : a < k) (hb : b < k)
    (s : List α) : NoRun d k (replaceAll items (keepEnds a b blot) s) := by
  have hk : 0 < k := by omega
  have hnot : ∀ x, c x = false → d x = false := by
    intro x hx
    cases h : d x with
    | false => rfl
    | true => exact absurd (hd x h) (by simp [hx])
  induction s using runs_induction (c := c) with
  | nil => exact noRun_of_length_lt hk
  | other x t hx ih =>
    rw [replaceAll_other hs hk hx]
    refine ih.cons ?_
    rw [List.takeWhile_cons_of_neg (by simp [hnot x hx])]
    exact hk
  | run w t hw ht ih =>
    have hrest : Stops d (replaceAll items (keepEnds a b blot) t) :=
      fun x hx => hnot x (stops_replaceAll hs hk ht x hx)
    by_cases hle : k ≤ w.length
    · rw [replaceAll_long hs hk hw ht hle]
      refine NoRun.keepEnds_append hne hblot ha (ih.append_stops hrest ?_)
      rw [List.length_drop]
      omega
    · have hlt := Nat.lt_of_not_le hle
      rw [replaceAll_short hs hw ht hlt]
      exact ih.append_stops hrest hlt

theorem length_takeWhile_append_mono {v v' : List α} (h : (v'.takeWhile d).length ≤ (v.takeWhile d).length)
    (u : List α) : ((u ++ v').takeWhile d).length ≤ ((u ++ v).takeWhile d).length := by
  rw [List.takeWhile_append, List.takeWhile_append]
  split
  next => simp only [List.length_append]; omega
  next => exact Nat.le_refl _

/-- Replacing does not make the run longer that the text starts with. -/
theorem length_takeWhile_replaceAll (hs : Spans items c k) (hk : 0 < k) {a b : Nat} {blot : List α}
    (hne : blot ≠ []) (hblot : ∀ x ∈ blot, d x = false) (s : List α) :
    ((replaceAll items (keepEnds a b blot) s).takeWhile d).length ≤ (s.takeWhile d).length := by
  induction s using runs_induction (c := c) with
  | nil => exact Nat.le_refl _
  | other x t hx ih =>
    rw [replaceAll_other hs hk hx]
    exact length_takeWhile_append_mono ih [x]
  | run w t hw ht ih =>
    by_cases hle : k ≤ w.length
    · rw [replaceAll_long hs hk hw ht hle, keepEnds, List.append_assoc, List.append_assoc,
        (stops_blot hne hblot _).takeWhile_append]
      have hsplit : w ++ t = w.take a ++ (w.drop a ++ t) := by
        rw [← List.append_assoc, List.take_append_drop]
      have hnone : (([] : List α).takeWhile d).length ≤ ((w.drop a ++ t).takeWhile d).length := Nat.zero_le _
      have hlonger := length_takeWhile_append_mono hnone (w.take a)
      rw [List.append_nil] at hlonger
      rw [hsplit]
      exact hlonger
    · rw [replaceAll_short hs hw ht (Nat.lt_of_not_le hle)]
      exact length_takeWhile_append_mono ih w

/-- Replacing what the items of one class span leaves the runs of another class as short as they were. -/
theorem NoRun.replaceAll (hs : Spans items c k) (hk : 0 < k) {n a b : Nat} {blot : List α}
    (hne : blot ≠ []) (hblot : ∀ x ∈ blot, d x = false) (ha : a < n) {s : List α} (h : NoRun d n s) :
    NoRun d n (replaceAll items (keepEnds a b blot) s) := by
  have hshort : ∀ {u t : List α}, NoRun d n (u ++ t) → ∀ u', u' <:+ u →
      ((u' ++ Patterns.replaceAll items (keepEnds a b blot) t).takeWhile d).length < n := by
    intro u t h u' hu'
    have hstart := length_takeWhile_replaceAll (a := a) (b := b) hs hk hne hblot t
    have hmono := length_takeWhile_append_mono hstart u'
    obtain ⟨r, rfl⟩ := hu'
    have hlt := h (u' ++ t) ⟨r, by rw [List.append_assoc]⟩
    exact Nat.lt_of_le_of_lt hmono hlt
  induction s using runs_induction (c := c) with
  | nil => exact h
  | other x t hx ih =>
    rw [replaceAll_other hs hk hx]
    have hrest := ih (fun r hr => h r (hr.trans (List.suffix_cons x t)))
    exact hrest.cons (hshort (u := [x]) h [x] (List.suffix_refl _))
  | run w t hw ht ih =>
    have hrest := ih (fun r hr => h r (hr.trans (List.suffix_append w t)))
    by_cases hle : k ≤ w.length
    · rw [replaceAll_long hs hk hw ht hle]
      refine NoRun.keepEnds_append hne hblot ha (hrest.append (fun u' hu' => ?_))
      exact hshort h u' (hu'.trans (List.drop_suffix _ w))
    · rw [replaceAll_short hs hw ht (Nat.lt_of_not_le hle)]
      exact hrest.append (hshort h)

end

end Patterns
