import Mathlib.Data.List.DropRight

namespace SupplyPlatform.Slices

variable {α : Type}

/-- The loop `for ; i < j; i, j = i+1, j-1` that swaps the ends. -/
def swapEnds (xs : Array α) (i j : Nat) : Array α :=
  if i < j then swapEnds (xs.swapIfInBounds i j) (i + 1) (j - 1) else xs
termination_by j - i

theorem getElem?_swap_ends {xs : Array α} {i j : Nat} (hi : i < xs.size) (hj : j < xs.size) (k : Nat) :
    (xs.swapIfInBounds i j)[k]? = if k = i then xs[j]? else if k = j then xs[i]? else xs[k]? := by
  rw [Array.swapIfInBounds_def, dif_pos hi, dif_pos hj, Array.getElem?_swap]
  by_cases hki : k = i
  · subst hki
    by_cases hkj : j = k
    · subst hkj
      simp [hi]
    · simp [hkj, hj]
  · by_cases hkj : k = j
    · subst hkj
      simp [hki, hi]
    · simp [hki, hkj, Ne.symm hki, Ne.symm hkj]

/-- The part from `i` to `j` is turned round, the rest is as it was. -/
theorem getElem?_swapEnds {xs : Array α} {i j : Nat} (hj : j < xs.size) (k : Nat) :
    (swapEnds xs i j)[k]? = if i ≤ k ∧ k ≤ j then xs[i + j - k]? else xs[k]? := by
  fun_induction swapEnds xs i j with
  | case1 xs i j hlt ih =>
    have hi : i < xs.size := Nat.lt_trans hlt hj
    rw [ih (by rw [Array.size_swapIfInBounds]; omega), getElem?_swap_ends hi hj, getElem?_swap_ends hi hj]
    have hsum : i + 1 + (j - 1) - k = i + j - k := by omega
    rw [hsum]
    -- inside, at one of the ends, or outside
    by_cases hin : i + 1 ≤ k ∧ k ≤ j - 1
    · rw [if_pos hin, if_neg (by omega), if_neg (by omega), if_pos (by omega)]
    · rw [if_neg hin]
      by_cases hki : k = i
      · subst hki
        rw [if_pos rfl, if_pos (by omega), Nat.add_sub_cancel_left]
      · by_cases hkj : k = j
        · subst hkj
          rw [if_neg hki, if_pos rfl, if_pos (by omega), Nat.add_sub_cancel]
        · rw [if_neg hki, if_neg hkj, if_neg (by omega)]
  | case2 xs i j hle =>
    by_cases hin : i ≤ k ∧ k ≤ j
    · have hk : i + j - k = k := by omega
      rw [if_pos hin, hk]
    · rw [if_neg hin]

theorem swapEnds_eq_reverse (xs : Array α) : swapEnds xs 0 (xs.size - 1) = xs.reverse := by
  by_cases hempty : xs.size = 0
  · rw [Array.eq_empty_of_size_eq_zero hempty, swapEnds]
    rfl
  · refine Array.ext_getElem? (fun k => ?_)
    rw [getElem?_swapEnds (by omega)]
    by_cases hk : k < xs.size
    · rw [if_pos (by omega), Array.getElem?_reverse hk, Nat.zero_add]
    · rw [if_neg (by omega), Array.getElem?_eq_none (by omega), Array.getElem?_eq_none (by
        rw [Array.size_reverse]
        omega)]

/-- Of a longer list, the end of a given length is the end of what the shorter one had and the rest. -/
theorem rtake_append (xs ys : List α) (n : Nat) : (xs ++ ys).rtake n = (xs.rtake n ++ ys).rtake n := by
  simp only [List.rtake_eq_reverse_take_reverse, List.reverse_append, List.reverse_reverse,
    List.take_append, List.take_take, Nat.min_eq_left (Nat.sub_le _ _)]

end SupplyPlatform.Slices
