import Mathlib.Data.List.Chain
import Mathlib.Tactic.Common

namespace Optimistic

variable {ρ : Type*}

/-- The values a row under optimistic locking has had, newest first: every write that got through
found the version it expected and left the next one. -/
def History (version : ρ → Int) (values : List ρ) : Prop :=
  values.IsChain (fun newer older => version newer = version older + 1)

variable {version : ρ → Int} {r q : ρ} {values : List ρ}

theorem History.push (h : History version (r :: values)) (hq : version q = version r + 1) :
    History version (q :: r :: values) :=
  List.isChain_cons_cons.mpr ⟨hq, h⟩

theorem History.older_lt (h : History version (r :: values)) (hq : q ∈ values) :
    version q < version r := by
  induction values generalizing r with
  | nil => simp at hq
  | cons s values ih =>
    obtain ⟨hrs, hrest⟩ := List.isChain_cons_cons.mp h
    rcases List.mem_cons.mp hq with rfl | hq
    · omega
    · have hlt := ih hrest hq
      omega

/-- A version names one value: who still finds the version once read finds the value once read. -/
theorem History.eq_newest (h : History version (r :: values)) (hq : q ∈ r :: values)
    (hv : version q = version r) : q = r := by
  rcases List.mem_cons.mp hq with heq | hq
  · exact heq
  · have hlt := h.older_lt hq
    omega

end Optimistic
