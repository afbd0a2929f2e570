import Mathlib.Data.Rat.Floor
import SupplyPlatform.TokenBucketBound

namespace SupplyPlatform.Gateway.TokenBucketLimiter

open Maps

/-- How many of `n` calls of `Allow` at one moment are admitted. -/
def stillAdmitted (l : TokenBucketLimiter) (key : String) (now : Time) : Nat → Nat
  | 0 => 0
  | n + 1 => (if (l.allow key now now).2 then 1 else 0) + stillAdmitted (l.allow key now now).1 key now n

/-- `Remaining` is the number of calls that would be admitted. -/
def RemainingExact (l : TokenBucketLimiter) (key : String) (now : Time) : Prop :=
  ∀ n, (l.stillAdmitted key now n : Int) = min (n : Int) (l.getLimit key).remaining

/-- A refill at the moment would not change the number of whole tokens; a bucket yet to be made has none. -/
def Current (l : TokenBucketLimiter) (key : String) (now : Time) : Prop :=
  match l.buckets.lookup key with
  | none => truncate (l.defaultRPM * l.burstMultiplier) ≤ 0
  | some bucket => -1 < bucket.tokens ∧
      ∀ n : Nat, 1 ≤ n → ((n : ℚ) ≤ bucket.tokens ↔ (n : ℚ) ≤ (refill bucket now).tokens)

/-- The bucket is full as it is stored, or less than what it lacks of another whole token has run in. -/
def Unmoved (rpm : Int) (multiplier : ℚ) (l : TokenBucketLimiter) (key : String) (now : Time) : Prop :=
  match l.buckets.lookup key with
  | none => BucketSystem.burst rpm multiplier = 0
  | some bucket => bucket.tokens = BucketSystem.burst rpm multiplier ∨
      bucket.tokens + seconds (sub now bucket.lastRefill) * (rpm / 60) < ⌊bucket.tokens⌋ + 1

section

variable {l : TokenBucketLimiter} {key : String} {now : Time} {x : ℚ}

theorem truncate_of_nonneg (h : 0 ≤ x) : truncate x = ⌊x⌋ := by
  rw [Rat.floor_def']
  exact Int.tdiv_eq_ediv_of_nonneg (Rat.num_nonneg.mpr h)

theorem truncate_neg (x : ℚ) : truncate (-x) = -truncate x := by
  unfold truncate
  rw [Rat.num_neg_eq_neg_num, Rat.den_neg_eq_den, Int.neg_tdiv]

theorem truncate_nonneg_iff (x : ℚ) : 0 ≤ truncate x ↔ -1 < x := by
  rcases le_or_gt 0 x with hx | hx
  · rw [truncate_of_nonneg hx, Int.floor_nonneg]
    exact ⟨fun _ => neg_one_lt_zero.trans_le hx, fun _ => hx⟩
  · have hneg := truncate_of_nonneg (neg_nonneg.mpr hx.le)
    rw [truncate_neg] at hneg
    have hfloor : ⌊-x⌋ < 1 ↔ -x < 1 := by
      rw [Int.floor_lt, Int.cast_one]
    rw [← neg_lt, ← hfloor]
    omega

/-- A whole number of tokens is there exactly when it is there without the fraction. -/
theorem le_truncate_iff {n : Nat} (hn : 1 ≤ n) (x : ℚ) : (n : Int) ≤ truncate x ↔ (n : ℚ) ≤ x := by
  rcases le_or_gt 0 x with hx | hx
  · rw [truncate_of_nonneg hx, Int.le_floor, Int.cast_natCast]
  · have hneg := truncate_of_nonneg (neg_nonneg.mpr hx.le)
    rw [truncate_neg] at hneg
    have hfloor : 0 ≤ ⌊-x⌋ := Int.floor_nonneg.mpr (neg_nonneg.mpr hx.le)
    have hpos : (0 : ℚ) < n := Nat.cast_pos.mpr hn
    exact ⟨fun hle => by omega, fun hle => absurd hle (not_le.mpr (hx.trans hpos))⟩

/-- What a call at the moment finds in the bucket. -/
def level (l : TokenBucketLimiter) (key : String) (now : Time) : ℚ :=
  (refill (l.bucketOf key now) now).tokens

theorem allow_admits_iff (l : TokenBucketLimiter) (key : String) (now : Time) :
    (l.allow key now now).2 = true ↔ 1 ≤ l.level key now := by
  unfold TokenBucketLimiter.allow TokenBucketLimiter.allowToken level
  dsimp only
  split
  next hle => simpa using hle
  next hlt => simpa using hlt

theorem elapsed_self (now : Time) : seconds (sub now now) = 0 := by
  unfold sub seconds
  rw [Int.sub_self]
  simp

/-- A refill at the moment of the last one changes nothing. -/
theorem refill_at_once {bucket : TokenBucket} (hnow : bucket.lastRefill = now)
    (hmax : bucket.tokens ≤ bucket.maxTokens) : (refill bucket now).tokens = bucket.tokens := by
  rw [BucketSystem.refill_tokens, hnow, elapsed_self, zero_mul, add_zero, min_eq_right hmax]

theorem refill_within (bucket : TokenBucket) (now : Time) :
    (refill bucket now).tokens ≤ (refill bucket now).maxTokens := by
  rw [BucketSystem.refill_tokens]
  exact min_le_left _ _

theorem level_allow (l : TokenBucketLimiter) (key : String) (now : Time) :
    (l.allow key now now).1.level key now =
      if (l.allow key now now).2 then l.level key now - 1 else l.level key now := by
  have hwithin := refill_within (l.bucketOf key now) now
  unfold TokenBucketLimiter.allow TokenBucketLimiter.allowToken level
  dsimp only
  split
  next hle =>
    rw [BucketSystem.bucketOf_of_lookup (Finmap.lookup_insert _), if_pos rfl, Int.cast_one]
    exact refill_at_once rfl ((sub_le_self _ zero_le_one).trans hwithin)
  next hlt =>
    rw [BucketSystem.bucketOf_of_lookup (Finmap.lookup_insert _)]
    exact refill_at_once rfl hwithin

theorem stillAdmitted_eq (l : TokenBucketLimiter) (key : String) (now : Time) (n : Nat) :
    (l.stillAdmitted key now n : Int) = min (n : Int) (max 0 ⌊l.level key now⌋) := by
  induction n generalizing l with
  | zero =>
    have hnonneg := le_max_left 0 ⌊l.level key now⌋
    simp [stillAdmitted]
  | succ n ih =>
    have hadmits := allow_admits_iff l key now
    rw [← Int.cast_one, ← Int.le_floor] at hadmits
    rw [stillAdmitted, Int.natCast_add, ih, level_allow]
    cases hallow : (l.allow key now now).2 with
    | true =>
      have hroom := hadmits.mp hallow
      rw [if_pos rfl, if_pos rfl, Int.floor_sub_one]
      omega
    | false =>
      have hnone := not_le.mp (fun hle => Bool.false_ne_true (hallow.symm.trans (hadmits.mpr hle)))
      rw [if_neg Bool.false_ne_true, if_neg Bool.false_ne_true]
      omega

theorem remainingExact_iff_floor (l : TokenBucketLimiter) (key : String) (now : Time) :
    l.RemainingExact key now ↔ (l.getLimit key).remaining = max 0 ⌊l.level key now⌋ := by
  constructor
  · intro hexact
    have hmany := hexact ((max 0 ⌊l.level key now⌋).toNat + (l.getLimit key).remaining.toNat)
    rw [stillAdmitted_eq] at hmany
    omega
  · intro heq n
    rw [stillAdmitted_eq, heq]

/-- Two numbers of tokens have as many whole ones when they pass the same whole numbers. -/
theorem truncate_eq_iff (x y : ℚ) : truncate x = max 0 ⌊y⌋ ↔
    -1 < x ∧ ∀ n : Nat, 1 ≤ n → ((n : ℚ) ≤ x ↔ (n : ℚ) ≤ y) := by
  rw [← truncate_nonneg_iff]
  have hwhole : ∀ n : Nat, 1 ≤ n → (((n : ℚ) ≤ x ↔ (n : ℚ) ≤ y) ↔
      ((n : Int) ≤ truncate x ↔ (n : Int) ≤ ⌊y⌋)) := by
    intro n hn
    rw [le_truncate_iff hn, Int.le_floor, Int.cast_natCast]
  constructor
  · intro heq
    refine ⟨by omega, fun n hn => (hwhole n hn).mpr ?_⟩
    omega
  · rintro ⟨hnonneg, hsame⟩
    by_contra hne
    -- the larger of the two is a whole number that only one of them passes
    have hlarger := (hwhole (max (truncate x) ⌊y⌋).toNat (by omega)).mp (hsame _ (by omega))
    omega

theorem level_of_none (h : l.buckets.lookup key = none) (now : Time) :
    l.level key now = truncate (l.defaultRPM * l.burstMultiplier) := by
  unfold level
  rw [BucketSystem.bucketOf_of_none h]
  exact refill_at_once rfl (le_refl _)

theorem level_of_lookup {bucket : TokenBucket} (h : l.buckets.lookup key = some bucket) (now : Time) :
    l.level key now = (refill bucket now).tokens := by
  unfold level
  rw [BucketSystem.bucketOf_of_lookup h]

theorem remainingExact_iff_current (l : TokenBucketLimiter) (key : String) (now : Time) :
    l.RemainingExact key now ↔ l.Current key now := by
  rw [remainingExact_iff_floor]
  cases hb : l.buckets.lookup key with
  | none =>
    simp only [TokenBucketLimiter.getLimit, Current, hb]
    rw [level_of_none hb, Int.floor_intCast]
    omega
  | some bucket =>
    simp only [TokenBucketLimiter.getLimit, Current, hb]
    rw [level_of_lookup hb]
    exact truncate_eq_iff _ _

end

section

open BucketSystem Transition

variable {rpm tpm : Int} {multiplier : ℚ} {s : BucketSystem} {now : Time} {key : String}

/-- With settings and calls that are not negative, a bucket has run on only where another whole token is
in it. -/
theorem remainingExact_iff_unmoved (hrpm : 0 ≤ rpm) (hs : Sound rpm multiplier s)
    (hbounded : Bounded rpm multiplier s) (hburst : 0 ≤ burst rpm multiplier) (hnow : s.now ≤ now) :
    s.limiter.RemainingExact key now ↔ s.limiter.Unmoved rpm multiplier key now := by
  rw [remainingExact_iff_floor]
  cases hb : s.limiter.buckets.lookup key with
  | none =>
    have hlevel : s.limiter.level key now = burst rpm multiplier := by
      rw [level_of_none hb, hs.rpm_eq, hs.multiplier_eq]
      rfl
    simp only [TokenBucketLimiter.getLimit, Unmoved, hb]
    rw [hlevel, Int.floor_intCast]
    omega
  | some bucket =>
    obtain ⟨hnonneg, hle⟩ := hbounded.tokens key bucket hb
    have hmade := (hs.made key bucket hb).later hnow
    have hrun := mul_nonneg (elapsed_nonneg hmade.past) (rate_nonneg hrpm)
    have hgrows : ⌊bucket.tokens⌋ ≤ ⌊s.limiter.level key now⌋ := by
      refine Int.floor_le_floor ?_
      rw [level_of_lookup hb, refill_tokens, hmade.maxTokens_eq, hmade.tokensPerSec_eq]
      exact le_min hle (le_add_of_nonneg_right hrun)
    have hwhole : 0 ≤ ⌊bucket.tokens⌋ := Int.floor_nonneg.mpr hnonneg
    have hcap : (burst rpm multiplier : ℚ) < ⌊bucket.tokens⌋ + 1 ↔ bucket.tokens = burst rpm multiplier := by
      rw [← Int.cast_one, ← Int.cast_add, Int.cast_lt, Int.lt_add_one_iff, Int.le_floor]
      exact ⟨fun hge => le_antisymm hle hge, fun heq => heq.ge⟩
    have hstays : ⌊s.limiter.level key now⌋ < ⌊bucket.tokens⌋ + 1 ↔
        bucket.tokens = burst rpm multiplier ∨
          bucket.tokens + seconds (sub now bucket.lastRefill) * (rpm / 60) < ⌊bucket.tokens⌋ + 1 := by
      rw [Int.floor_lt, level_of_lookup hb, refill_tokens, hmade.maxTokens_eq, hmade.tokensPerSec_eq,
        Int.cast_add, Int.cast_one, min_lt_iff, hcap]
    simp only [TokenBucketLimiter.getLimit, Unmoved, hb]
    rw [truncate_of_nonneg hnonneg, ← hstays]
    omega

/-- `Remaining` is right of a key and a moment exactly where the bucket that is stored, if there is one,
has the whole tokens it would have after a refill, and a new one would have none. -/
theorem remaining_exact_iff (rpm tpm : Int) (multiplier : ℚ) (start : Time) :
    (∀ s key d, Reach step anyStep (BucketSystem.start rpm tpm multiplier start) s →
      (s.limiter.RemainingExact key (s.now + (d : Nat)) ↔ s.limiter.Current key (s.now + (d : Nat)))) ∧
    (0 ≤ rpm → 0 ≤ burst rpm multiplier → ∀ s key d,
      Reach step NonNegative (BucketSystem.start rpm tpm multiplier start) s →
      (s.limiter.RemainingExact key (s.now + (d : Nat)) ↔
        s.limiter.Unmoved rpm multiplier key (s.now + (d : Nat)))) := by
  refine ⟨fun s key d _ => remainingExact_iff_current _ _ _, fun hrpm hburst s key d hreach => ?_⟩
  exact remainingExact_iff_unmoved hrpm (sound_of_reach hreach) (bounded_of_reach hrpm hburst hreach) hburst
    (le_add_lag _ _)

theorem sampleBuckets_remaining_exact_iff :
    sampleBuckets.limiter.RemainingExact "tenant-1" (sampleBuckets.now + (0 : Nat)) ↔
      sampleBuckets.limiter.Unmoved 60 (3 / 2) "tenant-1" (sampleBuckets.now + (0 : Nat)) :=
  (remaining_exact_iff 60 1000 (3 / 2) 0).2 (by decide) (by decide +kernel) sampleBuckets "tenant-1" 0
    sampleBuckets_reached

/-- A key that has not been seen is told that nothing remains, and one that has is not told of the token
that has run in since. -/
theorem sampleBuckets_remaining :
    ((sampleBuckets.limiter.getLimit "tenant-2").remaining,
      sampleBuckets.limiter.stillAdmitted "tenant-2" sampleBuckets.now 1) = (0, 1) ∧
    ((sampleBuckets.limiter.getLimit "tenant-1").remaining,
      sampleBuckets.limiter.stillAdmitted "tenant-1" sampleBuckets.now 51) = (50, 51) ∧
    ¬∀ s key, Reach step NonNegative (BucketSystem.start 60 1000 (3 / 2) 0) s →
      s.limiter.RemainingExact key s.now := by
  have hnew : ((sampleBuckets.limiter.getLimit "tenant-2").remaining,
      sampleBuckets.limiter.stillAdmitted "tenant-2" sampleBuckets.now 1) = (0, 1) := by
    decide +kernel
  refine ⟨hnew, by decide +kernel, fun hexact => ?_⟩
  obtain ⟨hremaining, hadmitted⟩ := Prod.mk.inj hnew
  have hone := hexact sampleBuckets "tenant-2" sampleBuckets_reached 1
  rw [hremaining, hadmitted] at hone
  exact absurd hone (by decide)

end

end SupplyPlatform.Gateway.TokenBucketLimiter
