import Mathlib.Data.List.Basic

namespace Subsequences

variable {α β : Type*}

/-- An element may be moved past others as far as a test can tell, if those that pass it with the
element are equal to it. -/
theorem filter_cons_eq_filter_concat {q : α → Bool} {x : α} {xs : List α}
    (h : ∀ y ∈ xs, q x = true → q y = true → y = x) : (x :: xs).filter q = (xs ++ [x]).filter q := by
  cases hx : q x with
  | false => simp [hx]
  | true =>
    have hsame : xs.filter q = List.replicate (xs.filter q).length x := by
      refine List.eq_replicate_iff.mpr ⟨rfl, fun y hy => ?_⟩
      obtain ⟨hmem, hy⟩ := List.mem_filter.mp hy
      exact h y hmem hx hy
    rw [List.filter_cons_of_pos hx, List.filter_append, List.filter_cons_of_pos hx, List.filter_nil, hsame]
    exact List.replicate_succ.symm.trans List.replicate_succ'

theorem filterMap_sublist_filterMap {f g : α → Option β} {xs : List α}
    (h : ∀ x ∈ xs, g x = none ∨ g x = f x) : (xs.filterMap g).Sublist (xs.filterMap f) := by
  induction xs with
  | nil => exact List.Sublist.refl []
  | cons x xs ih =>
    have hrest := ih (fun y hy => h y (List.mem_cons_of_mem x hy))
    rcases h x List.mem_cons_self with hnone | hsame
    · rw [List.filterMap_cons_none hnone]
      cases hf : f x with
      | none => rw [List.filterMap_cons_none hf]; exact hrest
      | some y => rw [List.filterMap_cons_some hf]; exact hrest.cons y
    · cases hf : f x with
      | none => rw [List.filterMap_cons_none hf, List.filterMap_cons_none (hsame.trans hf)]; exact hrest
      | some y =>
        rw [List.filterMap_cons_some hf, List.filterMap_cons_some (hsame.trans hf)]
        exact hrest.cons_cons y

/-- What is found under the numbers from `k` on comes after what is found under those before. -/
theorem concat_sublist_filterMap_range {f g : Nat → Option β} {n k : Nat} {y : β} (hlt : k < n)
    (hk : f k = some y) (hbefore : ∀ m < k, g m = none ∨ g m = f m) (hafter : ∀ m, k ≤ m → g m = none) :
    ((List.range n).filterMap g ++ [y]).Sublist ((List.range n).filterMap f) := by
  obtain ⟨d, rfl⟩ := Nat.exists_eq_add_of_lt hlt
  have hrange : List.range (k + d + 1) = List.range k ++ k :: (List.range d).map (fun m => k + 1 + m) := by
    rw [Nat.add_right_comm, List.range_add, List.range_succ, List.append_assoc]
    rfl
  have hnone : (k :: (List.range d).map (fun m => k + 1 + m)).filterMap g = [] := by
    refine List.filterMap_eq_nil_iff.mpr (fun m hm => hafter m ?_)
    rcases List.mem_cons.mp hm with rfl | hm
    · exact Nat.le_refl m
    · obtain ⟨i, -, rfl⟩ := List.mem_map.mp hm
      omega
  have hhead := filterMap_sublist_filterMap (fun m hm => hbefore m (List.mem_range.mp hm))
  rw [hrange, List.filterMap_append, List.filterMap_append, hnone, List.append_nil,
    List.filterMap_cons_some hk]
  exact hhead.append ((List.nil_sublist _).cons_cons y)

end Subsequences
