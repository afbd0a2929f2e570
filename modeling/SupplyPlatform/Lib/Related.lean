import Mathlib.Data.List.Forall2
import SupplyPlatform.Lib.Table

namespace Relational

section Related

variable {ρ ρ' : Type*} {R : ρ → ρ' → Prop} {l : List ρ} {l' : List ρ'}

theorem rel_find {p : ρ → Bool} {q : ρ' → Bool} (hpq : ∀ a b, R a b → p a = q b) (h : List.Forall₂ R l l') :
    Option.Rel R (l.find? p) (l'.find? q) := by
  induction h with
  | nil => exact .none
  | @cons a b l l' hab _ ih =>
    rw [List.find?_cons, List.find?_cons, hpq a b hab]
    split
    next => exact .some hab
    next => exact ih

theorem rel_forall {P : ρ → Prop} {Q : ρ' → Prop} (hPQ : ∀ a b, R a b → (P a ↔ Q b))
    (h : List.Forall₂ R l l') : (∀ a ∈ l, P a) ↔ ∀ b ∈ l', Q b := by
  induction h with
  | nil => simp
  | @cons a b l l' hab _ ih => rw [List.forall_mem_cons, List.forall_mem_cons, hPQ a b hab, ih]

/-- ORDER BY of related rows, which the order compares alike. -/
theorem rel_mergeSort {le : ρ → ρ → Bool} {le' : ρ' → ρ' → Bool}
    (hle : ∀ a b a' b', R a a' → R b b' → le a b = le' a' b') (h : List.Forall₂ R l l') :
    List.Forall₂ R (l.mergeSort le) (l'.mergeSort le') := by
  have hleft : (l.zip l').map Prod.fst = l := List.map_fst_zip (Nat.le_of_eq h.length_eq)
  have hright : (l.zip l').map Prod.snd = l' := List.map_snd_zip (Nat.le_of_eq h.length_eq.symm)
  have hrel : ∀ p ∈ l.zip l', R p.1 p.2 := fun p hp => List.forall₂_zip h hp
  have hfst := List.map_mergeSort (l := l.zip l') (f := Prod.fst) (r := fun p q => le p.1 q.1) (s := le)
    (fun _ _ _ _ => rfl)
  have hsnd := List.map_mergeSort (l := l.zip l') (f := Prod.snd) (r := fun p q => le p.1 q.1) (s := le')
    (fun p hp q hq => hle _ _ _ _ (hrel p hp) (hrel q hq))
  rw [hleft] at hfst
  rw [hright] at hsnd
  rw [← hfst, ← hsnd, List.forall₂_map_left_iff, List.forall₂_map_right_iff, List.forall₂_same]
  exact fun p hp => hrel p (List.mem_mergeSort.mp hp)

variable {apart : ρ → ρ → Prop} {apart' : ρ' → ρ' → Prop} {t : Table ρ apart} {t' : Table ρ' apart'}

theorem rel_insert [DecidableRel apart] [DecidableRel apart']
    (hapart : ∀ a b a' b', R a a' → R b b' → (apart a b ↔ apart' a' b')) (h : List.Forall₂ R t.rows t'.rows)
    {r : ρ} {r' : ρ'} (hr : R r r') :
    Option.Rel (fun u u' => List.Forall₂ R u.rows u'.rows) (t.insert r) (t'.insert r') := by
  have hsame := rel_forall (P := fun q => apart q r) (Q := fun q => apart' q r')
    (fun a b hab => hapart a r b r' hab hr) h
  unfold Table.insert
  by_cases hnew : ∀ q ∈ t'.rows, apart' q r'
  · rw [dif_pos (hsame.mpr hnew), dif_pos hnew]
    exact .some (List.rel_append h (.cons hr .nil))
  · rw [dif_neg (mt hsame.mp hnew), dif_neg hnew]
    exact .none

theorem rel_updateWhere {p : ρ → Bool} {q : ρ' → Bool} {f : ρ → ρ} {g : ρ' → ρ'}
    (hf : ∀ a b, apart a b → apart (f a) b ∧ apart a (f b) ∧ apart (f a) (f b))
    (hg : ∀ a b, apart' a b → apart' (g a) b ∧ apart' a (g b) ∧ apart' (g a) (g b))
    (hpq : ∀ a b, R a b → p a = q b) (hfg : ∀ a b, R a b → p a = true → R (f a) (g b))
    (h : List.Forall₂ R t.rows t'.rows) :
    List.Forall₂ R (t.updateWhere p f hf).rows (t'.updateWhere q g hg).rows := by
  rw [Table.rows_updateWhere, Table.rows_updateWhere]
  refine List.rel_map (fun a b hab => ?_) h
  cases hp : p a with
  | true => simpa [← hpq a b hab, hp] using hfg a b hab hp
  | false => simpa [← hpq a b hab, hp] using hab

theorem rel_delete {p : ρ → Bool} {q : ρ' → Bool} (hpq : ∀ a b, R a b → p a = q b)
    (h : List.Forall₂ R t.rows t'.rows) : List.Forall₂ R (t.delete p).rows (t'.delete q).rows :=
  List.rel_filter (fun a b hab => by simp [hpq a b hab]) h

theorem rel_lookup {κ : Type*} [DecidableEq κ] {key : ρ → κ} {key' : ρ' → κ} {u : Keyed key} {u' : Keyed key'}
    (hkey : ∀ a b, R a b → key a = key' b) (h : List.Forall₂ R u.rows u'.rows) (k : κ) :
    Option.Rel R (Keyed.lookup u k) (Keyed.lookup u' k) :=
  rel_find (fun a b hab => by rw [hkey a b hab]) h

end Related

end Relational
