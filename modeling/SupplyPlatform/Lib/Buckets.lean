import Mathlib.Algebra.BigOperators.Group.List.Basic
import Mathlib.Algebra.Order.Field.Basic
import Mathlib.Tactic.Linarith
import Mathlib.Tactic.Ring

namespace Buckets

variable {K : Type*} [Field K] [LinearOrder K] [IsStrictOrderedRing K]

/-- What a log of times and amounts has granted from `a` to `b`. -/
def grantedIn (log : List (K × K)) (a b : K) : K :=
  ((log.filter (fun g => decide (a ≤ g.1 ∧ g.1 ≤ b))).map Prod.snd).sum

/-- A bucket with `level` in it at `now`: what it has granted so far is paid by what it started with and
what has run into it. -/
structure Metered (burst rate : K) (log : List (K × K)) (level now : K) : Prop where
  rate_nonneg : 0 ≤ rate
  nonneg : 0 ≤ level
  le_burst : level ≤ burst
  past : ∀ g ∈ log, g.1 ≤ now
  since : ∀ a ≤ now, grantedIn log a now + level ≤ burst + rate * (now - a)
  between : ∀ a b, a ≤ b → grantedIn log a b ≤ burst + rate * (b - a)

section

variable {burst rate : K} {log : List (K × K)} {level level' now now' a b x : K}

omit [IsStrictOrderedRing K] in
theorem grantedIn_snoc (log : List (K × K)) (t x a b : K) :
    grantedIn (log ++ [(t, x)]) a b = grantedIn log a b + if a ≤ t ∧ t ≤ b then x else 0 := by
  unfold grantedIn
  rw [List.filter_append, List.map_append, List.sum_append]
  by_cases h : a ≤ t ∧ t ≤ b
  · have hkept : [(t, x)].filter (fun g => decide (a ≤ g.1 ∧ g.1 ≤ b)) = [(t, x)] := by
      simp [h]
    rw [if_pos h, hkept, List.map_singleton, List.sum_singleton]
  · have hleft : [(t, x)].filter (fun g => decide (a ≤ g.1 ∧ g.1 ≤ b)) = [] := by
      simpa using h
    rw [if_neg h, hleft, List.map_nil, List.sum_nil]

omit [IsStrictOrderedRing K] in
/-- Nothing is granted later than the log goes. -/
theorem grantedIn_of_past (h : ∀ g ∈ log, g.1 ≤ now) (hlt : now < a) : grantedIn log a b = 0 := by
  have hnone : log.filter (fun g => decide (a ≤ g.1 ∧ g.1 ≤ b)) = [] := by
    rw [List.filter_eq_nil_iff]
    intro g hg hin
    exact absurd (of_decide_eq_true hin).1 (not_le.mpr ((h g hg).trans_lt hlt))
  unfold grantedIn
  rw [hnone, List.map_nil, List.sum_nil]

omit [IsStrictOrderedRing K] in
theorem grantedIn_until (h : ∀ g ∈ log, g.1 ≤ now) (hle : now ≤ b) :
    grantedIn log a b = grantedIn log a now := by
  unfold grantedIn
  congr 2
  refine List.filter_congr (fun g hg => ?_)
  simp only [h g hg, (h g hg).trans hle, and_true]

theorem Metered.start (hrate : 0 ≤ rate) (hburst : 0 ≤ burst) (now : K) :
    Metered burst rate [] burst now where
  rate_nonneg := hrate
  nonneg := hburst
  le_burst := le_refl _
  past := nofun
  since := fun a ha => by
    have hrun := mul_nonneg hrate (sub_nonneg.mpr ha)
    simp only [grantedIn, List.filter_nil, List.map_nil, List.sum_nil]
    linarith
  between := fun a b hab => by
    have hrun := mul_nonneg hrate (sub_nonneg.mpr hab)
    simp only [grantedIn, List.filter_nil, List.map_nil, List.sum_nil]
    linarith

/-- Time passes, and what has run into the bucket meanwhile is in it at most. -/
theorem Metered.wait (h : Metered burst rate log level now) (hle : now ≤ now') (hnonneg : 0 ≤ level')
    (hburst : level' ≤ burst) (hlevel : level' ≤ level + rate * (now' - now)) :
    Metered burst rate log level' now' where
  rate_nonneg := h.rate_nonneg
  nonneg := hnonneg
  le_burst := hburst
  past := fun g hg => (h.past g hg).trans hle
  since := fun a ha => by
    rcases le_or_gt a now with hbefore | hafter
    · have hsince := h.since a hbefore
      have hsplit : rate * (now' - a) = rate * (now' - now) + rate * (now - a) := by ring
      rw [grantedIn_until h.past hle, hsplit]
      linarith
    · have hrun := mul_nonneg h.rate_nonneg (sub_nonneg.mpr ha)
      rw [grantedIn_of_past h.past hafter]
      linarith
  between := h.between

/-- A full bucket may be thrown away for a new one. -/
theorem Metered.renew (h : Metered burst rate log level now) (hle : now ≤ now') (hfull : burst ≤ level) :
    Metered burst rate log burst now' := by
  have hrun := mul_nonneg h.rate_nonneg (sub_nonneg.mpr hle)
  exact h.wait hle (h.nonneg.trans h.le_burst) (le_refl _) (by linarith)

/-- What is in the bucket is granted. -/
theorem Metered.take (h : Metered burst rate log level now) (hx : 0 ≤ x) (hle : x ≤ level) :
    Metered burst rate (log ++ [(now, x)]) (level - x) now where
  rate_nonneg := h.rate_nonneg
  nonneg := sub_nonneg.mpr hle
  le_burst := by linarith [h.le_burst]
  past := fun g hg => by
    rcases List.mem_append.mp hg with hg | hg
    · exact h.past g hg
    · rw [List.mem_singleton.mp hg]
  since := fun a ha => by
    have hsince := h.since a ha
    rw [grantedIn_snoc, if_pos ⟨ha, le_refl _⟩]
    linarith
  between := fun a b hab => by
    rw [grantedIn_snoc]
    split
    next hin =>
      have hsince := h.since a hin.1
      have hrun : rate * (now - a) ≤ rate * (b - a) :=
        mul_le_mul_of_nonneg_left (sub_le_sub_right hin.2 a) h.rate_nonneg
      rw [grantedIn_until h.past hin.2]
      linarith
    next =>
      rw [add_zero]
      exact h.between a b hab

end

end Buckets
