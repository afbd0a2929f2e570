import Mathlib.Algebra.Order.Ring.Int
import Mathlib.Tactic.NormNum
import SupplyPlatform.OutboxRunner

namespace SupplyPlatform.Outbox

/-- The two variables of the loop of `CalculateOutboxBackoff`. -/
structure BackoffState where
  attempt : Int
  backoff : Int
  deriving DecidableEq

/-- One pass of the loop: it returns, or it doubles `backoff` and goes on. -/
def backoffPass (retryCount : Int) (s : BackoffState) : Int ⊕ BackoffState :=
  if s.attempt < retryCount then
    if s.backoff ≥ defaultMaxBackoffSeconds then .inl defaultMaxBackoffSeconds
    else if s.backoff > defaultMaxBackoffSeconds / 2 then .inl defaultMaxBackoffSeconds
    else .inr ⟨s.attempt + 1, s.backoff * 2⟩
  else .inl s.backoff

/-- The passes from `s` double `backoff` into the states listed, and then return `value`. -/
inductive BackoffRun (retryCount : Int) : BackoffState → List BackoffState → Int → Prop
  | done {s : BackoffState} {value : Int} (h : backoffPass retryCount s = .inl value) :
      BackoffRun retryCount s [] value
  | doubled {s t : BackoffState} {passes : List BackoffState} {value : Int}
      (h : backoffPass retryCount s = .inr t) (rest : BackoffRun retryCount t passes value) :
      BackoffRun retryCount s (t :: passes) value

def backoffStart : BackoffState := ⟨1, defaultInitialBackoffSeconds⟩

theorem backoffPass_doubled {retryCount attempt backoff : Int} (hcount : attempt < retryCount)
    (hsmall : backoff ≤ 30) :
    backoffPass retryCount ⟨attempt, backoff⟩ = .inr ⟨attempt + 1, backoff * 2⟩ := by
  have hfirst : ¬ backoff ≥ defaultMaxBackoffSeconds := by
    unfold defaultMaxBackoffSeconds
    omega
  have hsecond : ¬ backoff > defaultMaxBackoffSeconds / 2 := by
    unfold defaultMaxBackoffSeconds
    omega
  rw [backoffPass, if_pos hcount, if_neg hfirst, if_neg hsecond]

theorem backoffPass_counted {retryCount : Int} {s : BackoffState} (h : ¬ s.attempt < retryCount) :
    backoffPass retryCount s = .inl s.backoff := if_neg h

theorem backoffPass_capped {retryCount attempt backoff : Int} (hcount : attempt < retryCount)
    (hlarge : 30 < backoff) :
    backoffPass retryCount ⟨attempt, backoff⟩ = .inl defaultMaxBackoffSeconds := by
  have hsecond : backoff > defaultMaxBackoffSeconds / 2 := hlarge
  rw [backoffPass, if_pos hcount, if_pos hsecond, ite_self]

theorem two_pow_le {k bound : Nat} (h : k ≤ bound) : (2 : Int) ^ k ≤ 2 ^ bound :=
  pow_le_pow_right₀ (by omega) h

/-- At 32 the second threshold is passed, below it the loop doubles. -/
theorem backoffLoop_two_pow {k : Nat} (hk : k ≤ 5) (attempts : Nat) :
    backoffLoop (2 ^ k) attempts = min 60 (2 ^ (k + attempts)) := by
  induction attempts generalizing k with
  | zero =>
    have hsmall := two_pow_le hk
    rw [backoffLoop, Nat.add_zero]
    omega
  | succ attempts ih =>
    rcases Nat.lt_or_ge k 5 with h | h
    · have hsmall := two_pow_le (Nat.le_of_lt_succ h)
      have hfirst : ¬ (2 : Int) ^ k ≥ defaultMaxBackoffSeconds := by
        unfold defaultMaxBackoffSeconds
        omega
      have hsecond : ¬ (2 : Int) ^ k > defaultMaxBackoffSeconds / 2 := by
        unfold defaultMaxBackoffSeconds
        omega
      rw [backoffLoop, if_neg hfirst, if_neg hsecond, ← pow_succ, ih (by omega)]
      congr 2
      omega
    · have hcap : (2 : Int) ^ 6 ≤ 2 ^ (k + (attempts + 1)) := two_pow_le (by omega)
      have hk5 : k = 5 := by omega
      rw [backoffLoop, hk5, if_neg (by decide), if_pos (by decide), ← hk5]
      unfold defaultMaxBackoffSeconds
      omega

/-- The loop over the attempts still to count is the loop of the source. -/
theorem BackoffRun.value_eq {retryCount : Int} {s : BackoffState} {passes : List BackoffState}
    {value : Int} (h : BackoffRun retryCount s passes value) :
    value = backoffLoop s.backoff (retryCount - s.attempt).toNat := by
  induction h with
  | @done s value h =>
    by_cases hcount : s.attempt < retryCount
    · obtain ⟨left, hleft⟩ : ∃ left, (retryCount - s.attempt).toNat = left + 1 :=
        ⟨(retryCount - s.attempt).toNat - 1, by omega⟩
      rw [hleft, backoffLoop]
      unfold backoffPass at h
      rw [if_pos hcount] at h
      split_ifs at h ⊢ with hfirst hsecond
      · exact (Sum.inl.inj h).symm
      · exact (Sum.inl.inj h).symm
    · have hnone : (retryCount - s.attempt).toNat = 0 := by omega
      rw [backoffPass_counted hcount] at h
      rw [hnone, backoffLoop]
      exact (Sum.inl.inj h).symm
  | @doubled s t passes value h _ ih =>
    by_cases hcount : s.attempt < retryCount
    · have hleft : (retryCount - s.attempt).toNat = (retryCount - (s.attempt + 1)).toNat + 1 := by
        omega
      unfold backoffPass at h
      rw [if_pos hcount] at h
      split_ifs at h with hfirst hsecond
      obtain rfl := Sum.inr.inj h
      rw [ih, hleft, backoffLoop, if_neg hfirst, if_neg hsecond]
    · rw [backoffPass_counted hcount] at h
      cases h

/-- From `2 ^ k` seconds at most `5 - k` doublings are left, whatever the count of attempts. -/
theorem backoffRun_two_pow (retryCount : Int) {k : Nat} (hk : k ≤ 5) (attempt : Int) :
    ∃ passes value, BackoffRun retryCount ⟨attempt, 2 ^ k⟩ passes value ∧ passes.length + k ≤ 5 ∧
      ∀ s ∈ passes, s.attempt ≤ retryCount ∧ 0 < s.backoff ∧ s.backoff ≤ 2 ^ 5 := by
  induction hleft : 5 - k generalizing k attempt with
  | zero =>
    obtain rfl : k = 5 := by omega
    by_cases hcount : attempt < retryCount
    · have hpass : backoffPass retryCount ⟨attempt, 2 ^ 5⟩ = .inl defaultMaxBackoffSeconds :=
        backoffPass_capped hcount (by decide)
      exact ⟨[], _, .done hpass, Nat.le_refl 5, fun _ hs => absurd hs List.not_mem_nil⟩
    · exact ⟨[], _, .done (backoffPass_counted hcount), Nat.le_refl 5,
        fun _ hs => absurd hs List.not_mem_nil⟩
  | succ left ih =>
    have hsmall : (2 : Int) ^ k ≤ 2 ^ 4 := two_pow_le (by omega)
    by_cases hcount : attempt < retryCount
    · have hpass : backoffPass retryCount ⟨attempt, 2 ^ k⟩ = .inr ⟨attempt + 1, 2 ^ k * 2⟩ :=
        backoffPass_doubled hcount (by omega)
      obtain ⟨passes, value, hrun, hlength, hall⟩ := ih (by omega : k + 1 ≤ 5) (attempt + 1) (by omega)
      rw [pow_succ] at hrun
      refine ⟨_, value, .doubled hpass hrun, by rw [List.length_cons]; omega, fun s hs => ?_⟩
      rcases List.mem_cons.mp hs with rfl | hs
      · have hpos : (0 : Int) < 2 ^ k := by positivity
        have hdoubled : (2 : Int) ^ k * 2 ≤ 2 ^ 5 := by omega
        exact ⟨hcount, Int.mul_pos hpos (by decide), hdoubled⟩
      · exact hall s hs
    · exact ⟨[], _, .done (backoffPass_counted hcount), by simpa using hk,
        fun _ hs => absurd hs List.not_mem_nil⟩

theorem calculateOutboxBackoff_eq_min (retryCount maxRetries : Int) :
    calculateOutboxBackoff retryCount maxRetries = min 60 (2 ^ (max retryCount 1 - 1).toNat) := by
  have hclamp : (if retryCount ≤ 0 then 1 else retryCount) = max retryCount 1 := by
    split_ifs <;> omega
  have hloop := backoffLoop_two_pow (Nat.zero_le 5) (max retryCount 1 - 1).toNat
  rw [Nat.zero_add] at hloop
  rw [← hloop, pow_zero, ← hclamp]
  rfl

theorem min_sixty_mono {n m : Nat} (h : n ≤ m) : min 60 ((2 : Int) ^ n) ≤ min 60 (2 ^ m) := by
  have := two_pow_le h
  omega

/-- The passes of the loop and its result for any count of retries. -/
theorem calculateOutboxBackoff_capped_doubling (retryCount maxRetries : Int) :
    calculateOutboxBackoff retryCount maxRetries = min 60 (2 ^ (max retryCount 1 - 1).toNat) ∧
    (1 ≤ calculateOutboxBackoff retryCount maxRetries ∧
      calculateOutboxBackoff retryCount maxRetries ≤ 60) ∧
    (∀ later maxRetries', retryCount ≤ later →
      calculateOutboxBackoff retryCount maxRetries ≤ calculateOutboxBackoff later maxRetries') ∧
    ∃ passes, BackoffRun (max retryCount 1) backoffStart passes
        (calculateOutboxBackoff retryCount maxRetries) ∧
      passes.length ≤ 6 ∧
      ∀ s ∈ passes, s.attempt ≤ max retryCount 1 ∧ 0 < s.backoff ∧ s.backoff < 2 ^ 63 := by
  have hvalue := calculateOutboxBackoff_eq_min retryCount maxRetries
  refine ⟨hvalue, ⟨?_, ?_⟩, fun later maxRetries' hle => ?_, ?_⟩
  · have hpos : (0 : Int) < 2 ^ (max retryCount 1 - 1).toNat := by positivity
    omega
  · omega
  · rw [hvalue, calculateOutboxBackoff_eq_min later]
    exact min_sixty_mono (by omega)
  · obtain ⟨passes, value, hrun, hlength, hall⟩ :=
      backoffRun_two_pow (max retryCount 1) (Nat.zero_le 5) 1
    have hreturned : value = calculateOutboxBackoff retryCount maxRetries := by
      rw [hrun.value_eq, backoffLoop_two_pow (Nat.zero_le 5), Nat.zero_add, hvalue]
    rw [hreturned] at hrun
    refine ⟨passes, hrun, by omega, fun s hs => ?_⟩
    obtain ⟨hattempt, hpos, hbound⟩ := hall s hs
    exact ⟨hattempt, hpos, by omega⟩

end SupplyPlatform.Outbox
