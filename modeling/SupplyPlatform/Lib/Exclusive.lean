import Mathlib.Data.List.Nodup
import Mathlib.Logic.Function.Basic
import Mathlib.Tactic.Common

namespace Holding

variable {ι κ : Type*}

/-- No key is held twice, neither by two holders nor by one. -/
structure Exclusive (held : ι → List κ) : Prop where
  nodup : ∀ i, (held i).Nodup
  once : ∀ {i j k}, k ∈ held i → k ∈ held j → i = j

theorem exclusive_nil : Exclusive (fun _ : ι => ([] : List κ)) :=
  ⟨fun _ => List.nodup_nil, fun h => absurd h List.not_mem_nil⟩

variable [DecidableEq ι]

/-- A holder may take keys that nobody else holds. -/
theorem Exclusive.take {held : ι → List κ} (h : Exclusive held) {i : ι} {ks : List κ}
    (hn : ks.Nodup) (hfree : ∀ k ∈ ks, ∀ j, j ≠ i → k ∉ held j) :
    Exclusive (Function.update held i ks) := by
  refine ⟨fun j => ?_, fun {a b k} ha hb => ?_⟩
  · by_cases hj : j = i
    · subst j; simpa using hn
    · simpa [hj] using h.nodup j
  · by_cases hai : a = i <;> by_cases hbi : b = i
    · rw [hai, hbi]
    · subst a
      simp only [Function.update_self, Function.update_of_ne hbi] at ha hb
      exact absurd hb (hfree k ha b hbi)
    · subst b
      simp only [Function.update_self, Function.update_of_ne hai] at ha hb
      exact absurd ha (hfree k hb a hai)
    · simp only [Function.update_of_ne hai, Function.update_of_ne hbi] at ha hb
      exact h.once ha hb

/-- A holder may let go of keys. -/
theorem Exclusive.release {held : ι → List κ} (h : Exclusive held) {i : ι} {ks : List κ}
    (hs : ks.Sublist (held i)) : Exclusive (Function.update held i ks) :=
  h.take (hs.nodup (h.nodup i)) fun _ hk _ hj hk' => hj (h.once hk' (hs.subset hk))

end Holding
