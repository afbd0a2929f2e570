import Mathlib.Algebra.Order.Group.Int
import Mathlib.Data.Finset.Card
import Mathlib.Data.Finset.Range
import Mathlib.Data.Int.ConditionallyCompleteOrder
import Mathlib.Order.ConditionallyCompleteLattice.Basic
import Mathlib.Order.Interval.Finset.Nat
import Mathlib.Order.Monotone.Basic
import Mathlib.Tactic.Common

namespace Bursts

variable {t : Nat → Int} {pause : Int} {i m : Nat}

/-- Of the events at `t 0, t 1, ..`, the number since the last `pause` up to the event `i`. -/
def burst (t : Nat → Int) (pause : Int) : Nat → Nat
  | 0 => 1
  | i + 1 => if t (i + 1) - t i < pause then burst t pause i + 1 else 1

/-- The event `i` begins a burst. -/
def First (t : Nat → Int) (pause : Int) (i : Nat) : Prop :=
  ∀ j, i = j + 1 → pause ≤ t i - t j

/-- The `m` events before the event `i` are there, and there is no pause among them. -/
def Dense (t : Nat → Int) (pause : Int) (m i : Nat) : Prop :=
  m ≤ i ∧ ∀ j, i - m ≤ j → j < i → t (j + 1) - t j < pause

theorem burst_succ (t : Nat → Int) (pause : Int) (i : Nat) :
    burst t pause (i + 1) = if t (i + 1) - t i < pause then burst t pause i + 1 else 1 := rfl

theorem burst_pos (t : Nat → Int) (pause : Int) (i : Nat) : 0 < burst t pause i := by
  cases i with
  | zero => exact Nat.one_pos
  | succ i => unfold burst; split <;> omega

theorem first_iff : First t pause i ↔ burst t pause i = 1 := by
  cases i with
  | zero => exact iff_of_true (fun j hj => by omega) rfl
  | succ i =>
    have hpos := burst_pos t pause i
    unfold burst
    constructor
    · intro h
      have := h i rfl
      rw [if_neg (by omega)]
    · intro h j hj
      have hij : j = i := by omega
      subst hij
      split at h <;> omega

theorem lt_burst_iff : m < burst t pause i ↔ Dense t pause m i := by
  induction i generalizing m with
  | zero =>
    simp only [burst, Dense]
    constructor
    · intro h
      exact ⟨by omega, fun j _ hj => by omega⟩
    · intro h
      omega
  | succ i ih =>
    cases m with
    | zero => exact iff_of_true (burst_pos t pause (i + 1)) ⟨by omega, fun j _ hj => by omega⟩
    | succ m =>
      have hih := @ih m
      unfold Dense at hih ⊢
      unfold burst
      constructor
      · intro h
        split at h
        next hgap =>
          obtain ⟨hle, hgaps⟩ := hih.mp (by omega)
          refine ⟨by omega, fun j hj hji => ?_⟩
          by_cases hlast : j = i
          · subst hlast
            exact hgap
          · exact hgaps j (by omega) (by omega)
        next => omega
      · rintro ⟨hle, hgaps⟩
        have hgap := hgaps i (by omega) (by omega)
        rw [if_pos hgap]
        have := hih.mpr ⟨by omega, fun j hj hji => hgaps j (by omega) (by omega)⟩
        omega

/-- Within less than a pause of its first event a burst goes on. -/
theorem burst_of_first (ht : Monotone t) {f j : Nat} (hf : First t pause f) (hfj : f ≤ j)
    (hnear : t j - t f < pause) : burst t pause j = j - f + 1 := by
  induction j, hfj using Nat.le_induction with
  | base => rw [first_iff.mp hf]; omega
  | succ j hfj ih =>
    have hmono : t j ≤ t (j + 1) := ht (Nat.le_succ j)
    have hmono' : t f ≤ t j := ht hfj
    have := ih (by omega)
    unfold burst
    rw [if_pos (by omega)]
    omega

/-- Fewer than `m` events are less than `window` before the event `i` when the `m`th before it is
not, or is not there. -/
theorem card_window_lt_iff (ht : Monotone t) {window : Int} (hm : 1 ≤ m) :
    ((Finset.range i).filter (fun j => t i - window < t j)).card < m ↔
      (m ≤ i → t (i - m) + window ≤ t i) := by
  constructor
  · intro hcard hmi
    by_contra hlt
    -- all `m` events from the `m`th one on are in the window
    have hsub : Finset.Ico (i - m) i ⊆ (Finset.range i).filter (fun j => t i - window < t j) := by
      intro j hj
      obtain ⟨hlo, hhi⟩ := Finset.mem_Ico.mp hj
      have := ht hlo
      exact Finset.mem_filter.mpr ⟨Finset.mem_range.mpr hhi, by omega⟩
    have := Finset.card_le_card hsub
    rw [Nat.card_Ico] at this
    omega
  · intro h
    by_cases hmi : m ≤ i
    · have hold := h hmi
      have hsub : (Finset.range i).filter (fun j => t i - window < t j) ⊆
          Finset.Ico (i - m + 1) i := by
        intro j hj
        obtain ⟨hj, hnear⟩ := Finset.mem_filter.mp hj
        refine Finset.mem_Ico.mpr ⟨?_, Finset.mem_range.mp hj⟩
        by_contra hlt
        have := @ht j (i - m) (by omega)
        omega
      have := Finset.card_le_card hsub
      rw [Nat.card_Ico] at this
      omega
    · have := Finset.card_le_card (Finset.filter_subset (fun j => t i - window < t j) (Finset.range i))
      rw [Finset.card_range] at this
      omega

end Bursts
