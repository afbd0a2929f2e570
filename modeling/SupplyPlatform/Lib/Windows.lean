import Mathlib.Data.Int.Order.Basic
import Mathlib.Tactic.Common

namespace Windows

variable {window now : Int} {limit : Nat} {log : List Int}

/-- At most `limit` entries of the log are within less than `window` of each other. -/
def Within (window : Int) (limit : Nat) (log : List Int) : Prop :=
  ∀ p : Int → Bool, (∀ x y, p x = true → p y = true → y - x < window) → log.countP p ≤ limit

theorem Within.nil : Within window limit [] := fun _ _ => Nat.zero_le _

/-- An entry may be added when fewer than `limit` are less than `window` before it. -/
theorem Within.snoc (h : Within window limit log)
    (hlt : (log.filter (fun t => decide (now - window < t))).length < limit) :
    Within window limit (log ++ [now]) := by
  intro p hp
  rw [List.countP_append]
  cases hnow : p now with
  | false =>
    have := h p hp
    simpa [hnow] using this
  | true =>
    have hsub : log.countP p ≤ log.countP (fun t => decide (now - window < t)) := by
      refine List.countP_mono_left (fun x _ hx => ?_)
      have := hp x now hx hnow
      exact decide_eq_true (by omega)
    rw [← List.countP_eq_length_filter] at hlt
    simp only [List.countP_singleton, hnow, if_true]
    omega

theorem Within.ico (h : Within window limit log) (since : Int) :
    log.countP (fun t => decide (since ≤ t ∧ t < since + window)) ≤ limit := by
  refine h _ (fun x y hx hy => ?_)
  have hx' := of_decide_eq_true hx
  have hy' := of_decide_eq_true hy
  omega

theorem Within.ioc (h : Within window limit log) (since : Int) :
    log.countP (fun t => decide (since < t ∧ t ≤ since + window)) ≤ limit := by
  refine h _ (fun x y hx hy => ?_)
  have hx' := of_decide_eq_true hx
  have hy' := of_decide_eq_true hy
  omega

end Windows
