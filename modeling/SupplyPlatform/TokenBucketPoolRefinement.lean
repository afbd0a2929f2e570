import SupplyPlatform.TokenBucketPool

namespace SupplyPlatform.Gateway.PoolSystem

open BucketPool BucketSystem Maps Transition
open TokenBucketLimiter (refill)

variable {rpm tpm : Int} {multiplier : ℚ} {p q : PoolSystem} {s : BucketSystem} {key : String} {w n : Nat}
  {bucket : TokenBucket} {now : Time}

/-- The bucket that the map has for the key. -/
def find (l : BucketPool) (key : String) : Option TokenBucket := (l.buckets.lookup key).map l.bucket

/-- The key has no bucket in the map, or a full one. -/
def Full (l : BucketPool) (key : String) : Prop :=
  ∀ bucket, find l key = some bucket → bucket.maxTokens ≤ bucket.tokens

/-- The buckets by address do what the map of a sequential limiter does, full buckets apart. -/
structure Refines (rpm : Int) (multiplier : ℚ) (p : PoolSystem) (s : BucketSystem) : Prop where
  sound : Sound rpm multiplier s
  rpm_eq : p.limiter.defaultRPM = rpm
  multiplier_eq : p.limiter.burstMultiplier = multiplier
  now_eq : s.now = p.now
  granted_eq : s.granted = p.current.map (fun g => (g.key, g.time, 1))
  made : ∀ w, w < p.limiter.allocated → Made rpm multiplier p.now (p.limiter.bucket w)
  fresh : ∀ key w, p.limiter.buckets.lookup key = some w → w < p.limiter.allocated
  own : ∀ key key' w, p.limiter.buckets.lookup key = some w → p.limiter.buckets.lookup key' = some w →
    key = key'
  held : ∀ n key w, p.held n = some (key, w) →
    w < p.limiter.allocated ∧ ∀ key', p.limiter.buckets.lookup key' = some w → key' = key
  alike : ∀ key, find p.limiter key = s.limiter.buckets.lookup key ∨ (Full p.limiter key ∧ FullOrNew s key)

theorem find_of_lookup {l : BucketPool} (h : l.buckets.lookup key = some w) :
    find l key = some (l.bucket w) := by
  rw [find, h, Option.map_some]

theorem find_setBucket_self {l : BucketPool} (h : l.buckets.lookup key = some w) (bucket : TokenBucket) :
    find (l.setBucket w bucket) key = some bucket := by
  rw [find_of_lookup (l := l.setBucket w bucket) h]
  exact congrArg some (Function.update_self _ _ _)

theorem find_setBucket_of_ne {l : BucketPool} (h : l.buckets.lookup key ≠ some w) (bucket : TokenBucket) :
    find (l.setBucket w bucket) key = find l key := by
  unfold find
  cases hk : l.buckets.lookup key with
  | none =>
    rw [show (l.setBucket w bucket).buckets.lookup key = none from hk]
    rfl
  | some v =>
    rw [show (l.setBucket w bucket).buckets.lookup key = some v from hk]
    exact congrArg some (Function.update_of_ne (fun hv : v = w => h (hv ▸ hk)) _ _)

/-- A full bucket is full again after any time. -/
theorem refill_of_full (h : Made rpm multiplier now bucket) (hrpm : 0 ≤ rpm)
    (hfull : bucket.maxTokens ≤ bucket.tokens) :
    refill bucket now = ⟨burst rpm multiplier, burst rpm multiplier, rpm / 60, now⟩ := by
  have hrun := mul_nonneg (elapsed_nonneg h.past) (rate_nonneg hrpm)
  have htokens := refill_tokens bucket now
  rw [h.tokensPerSec_eq, min_eq_left (by linarith), h.maxTokens_eq] at htokens
  rw [← htokens, ← h.tokensPerSec_eq]
  nth_rewrite 2 [htokens]
  rw [← h.maxTokens_eq]
  rfl

theorem Refines.start (rpm tpm : Int) (multiplier : ℚ) (now : Time) :
    Refines rpm multiplier (PoolSystem.start rpm tpm multiplier now)
      (BucketSystem.start rpm tpm multiplier now) where
  sound := Sound.start rpm tpm multiplier now
  rpm_eq := rfl
  multiplier_eq := rfl
  now_eq := rfl
  granted_eq := rfl
  made _ h := absurd h (Nat.not_lt_zero _)
  fresh _ _ h := by cases h
  own _ _ _ h := by cases h
  held _ _ _ h := by cases h
  alike _ := .inl rfl

/-- The call goes on with the bucket that the sequential limiter goes on with. -/
theorem Refines.refill (h : Refines rpm multiplier p s) (hrpm : 0 ≤ rpm)
    (hw : p.limiter.buckets.lookup key = some w) :
    TokenBucketLimiter.refill (s.limiter.bucketOf key s.now) (s.now + (0 : Nat)) =
      TokenBucketLimiter.refill (p.limiter.bucket w) p.now := by
  have hnow : s.now + ((0 : Nat) : Int) = p.now := by
    rw [h.now_eq]
    exact Int.add_zero _
  rcases h.alike key with hsame | ⟨hfull, hfull'⟩
  · rw [find_of_lookup hw] at hsame
    rw [bucketOf_of_lookup hsame.symm, hnow]
  · rw [hfull'.refill h.sound hrpm, hnow, refill_of_full (h.made w (h.fresh key w hw)) hrpm
      (hfull _ (find_of_lookup hw))]

/-- What the second critical section answers. -/
theorem takeTokens_answer (l : BucketPool) (w : Nat) (tokens : Int) (now : Time) :
    (l.takeTokens w tokens now).2 = true ↔
      (tokens : ℚ) ≤ (TokenBucketLimiter.refill (l.bucket w) now).tokens := by
  unfold takeTokens
  dsimp only
  split
  next henough => exact iff_of_true rfl henough
  next hfew => exact iff_of_false Bool.false_ne_true hfew

/-- What the second critical section leaves in the bucket. -/
theorem takeTokens_limiter (l : BucketPool) (w : Nat) (tokens : Int) (now : Time) :
    (l.takeTokens w tokens now).1 = l.setBucket w { TokenBucketLimiter.refill (l.bucket w) now with
      tokens := if (l.takeTokens w tokens now).2
        then (TokenBucketLimiter.refill (l.bucket w) now).tokens - tokens
        else (TokenBucketLimiter.refill (l.bucket w) now).tokens } := by
  unfold takeTokens
  dsimp only
  split
  · rfl
  · rfl

theorem Refines.answer (h : Refines rpm multiplier p s) (hrpm : 0 ≤ rpm)
    (hw : p.limiter.buckets.lookup key = some w) :
    (s.allowToken key 1 0).2 = (p.limiter.takeTokens w 1 p.now).2 := by
  rw [Bool.eq_iff_iff, allowToken_answer, takeTokens_answer, h.refill hrpm hw]

theorem Refines.leftBy (h : Refines rpm multiplier p s) (hrpm : 0 ≤ rpm)
    (hw : p.limiter.buckets.lookup key = some w) :
    (p.limiter.takeTokens w 1 p.now).1 = p.limiter.setBucket w (s.leftBy key 1 0) := by
  rw [takeTokens_limiter, BucketSystem.leftBy]
  dsimp only
  rw [h.answer hrpm hw, h.refill hrpm hw]

theorem made_newBucket (h : Refines rpm multiplier p s) :
    p.limiter.newBucket p.now = ⟨burst rpm multiplier, burst rpm multiplier, rpm / 60, p.now⟩ := by
  unfold BucketPool.newBucket TokenBucketLimiter.newBucket burst
  dsimp only [newTokenBucketLimiter]
  rw [h.rpm_eq, h.multiplier_eq]

/-- A call finds the bucket of its key, which the map keeps. -/
theorem Refines.find (h : Refines rpm multiplier p s) (hw : p.limiter.buckets.lookup key = some w) :
    Refines rpm multiplier { p with held := Function.update p.held n (some (key, w)) } s := by
  refine { h with held := fun m k v hm => ?_ }
  rcases update_some_cases hm with ⟨-, hkw⟩ | ⟨-, hm⟩
  · cases hkw
    exact ⟨h.fresh key w hw, fun key' hw' => h.own key' key w hw' hw⟩
  · exact h.held m k v hm

/-- A call makes a bucket for its key, a full one, as the sequential limiter will when it is used. -/
theorem Refines.addBucket (h : Refines rpm multiplier p s) (hnone : p.limiter.buckets.lookup key = none) :
    Refines rpm multiplier { p with
      limiter := { p.limiter.setBucket p.limiter.allocated (p.limiter.newBucket p.now) with
        buckets := p.limiter.buckets.insert key p.limiter.allocated,
        allocated := p.limiter.allocated + 1 },
      held := Function.update p.held n (some (key, p.limiter.allocated)) } s where
  sound := h.sound
  rpm_eq := h.rpm_eq
  multiplier_eq := h.multiplier_eq
  now_eq := h.now_eq
  granted_eq := h.granted_eq
  made v hv := by
    dsimp only [setBucket]
    by_cases hnew : v = p.limiter.allocated
    · rw [hnew, Function.update_self, made_newBucket h]
      exact ⟨rfl, rfl, le_refl _⟩
    · rw [Function.update_of_ne hnew]
      exact h.made v (Nat.lt_of_le_of_ne (Nat.lt_succ_iff.mp hv) hnew)
  fresh k v hv := by
    rcases lookup_insert_cases hv with ⟨-, rfl⟩ | ⟨-, hv⟩
    · exact Nat.lt_succ_self _
    · exact Nat.lt_succ_of_lt (h.fresh k v hv)
  own k k' v hv hv' := by
    rcases lookup_insert_cases hv with ⟨rfl, rfl⟩ | ⟨-, hv⟩
    · rcases lookup_insert_cases hv' with ⟨rfl, -⟩ | ⟨-, hv'⟩
      · rfl
      · exact absurd (h.fresh k' _ hv') (Nat.lt_irrefl _)
    · rcases lookup_insert_cases hv' with ⟨-, rfl⟩ | ⟨-, hv'⟩
      · exact absurd (h.fresh k _ hv) (Nat.lt_irrefl _)
      · exact h.own k k' v hv hv'
  held m k v hm := by
    rcases update_some_cases hm with ⟨-, hkw⟩ | ⟨-, hm⟩
    · cases hkw
      refine ⟨Nat.lt_succ_self _, fun k' hk' => ?_⟩
      rcases lookup_insert_cases hk' with ⟨rfl, -⟩ | ⟨-, hk'⟩
      · rfl
      · exact absurd (h.fresh k' _ hk') (Nat.lt_irrefl _)
    · obtain ⟨hlt, hone⟩ := h.held m k v hm
      refine ⟨Nat.lt_succ_of_lt hlt, fun k' hk' => ?_⟩
      rcases lookup_insert_cases hk' with ⟨-, rfl⟩ | ⟨-, hk'⟩
      · exact absurd hlt (Nat.lt_irrefl _)
      · exact hone k' hk'
  alike k := by
    have hfind : ∀ k, k ≠ key → PoolSystem.find
        { p.limiter.setBucket p.limiter.allocated (p.limiter.newBucket p.now) with
          buckets := p.limiter.buckets.insert key p.limiter.allocated,
          allocated := p.limiter.allocated + 1 } k = PoolSystem.find p.limiter k := by
      intro k hk
      rw [← find_setBucket_of_ne (fun hv => absurd (h.fresh k _ hv) (Nat.lt_irrefl _))
        (p.limiter.newBucket p.now)]
      unfold PoolSystem.find
      dsimp only
      rw [Finmap.lookup_insert_of_ne _ hk]
      rfl
    unfold Full
    by_cases hk : k = key
    · subst hk
      refine .inr ⟨fun bucket hb => ?_, ?_⟩
      · rw [find_of_lookup (Finmap.lookup_insert _)] at hb
        have hbucket := (Option.some.inj hb).symm
        dsimp only [setBucket] at hbucket
        rw [Function.update_self, made_newBucket h] at hbucket
        rw [hbucket]
      · rcases h.alike k with hsame | ⟨-, hfull⟩
        · intro bucket hb
          rw [PoolSystem.find, hnone, hb] at hsame
          cases hsame
        · exact hfull
    · rw [hfind k hk]
      exact h.alike k

/-- A call that has given its bucket back. -/
theorem Refines.release (h : Refines rpm multiplier p s) :
    Refines rpm multiplier { p with held := Function.update p.held n none } s :=
  { h with held := fun m k v hm => h.held m k v (of_update_none hm).2 }

/-- A call takes its token from the bucket that the map has for the key, as the sequential limiter does. -/
theorem Refines.take (h : Refines rpm multiplier p s) (hrpm : 0 ≤ rpm)
    (hw : p.limiter.buckets.lookup key = some w) :
    Refines rpm multiplier (p.takeToken n key w) (s.allowToken key 1 0).1 := by
  have hfresh : p.isStale key w = false := decide_eq_false (not_not.mpr hw)
  have hnow : s.now + ((0 : Nat) : Int) = p.now := by
    rw [h.now_eq]
    exact Int.add_zero _
  have hmade : Made rpm multiplier p.now (s.leftBy key 1 0) := by
    rw [← hnow]
    exact ((h.sound.bucketOf key).refill _).take _
  have hown : ∀ k, k ≠ key → p.limiter.buckets.lookup k ≠ some w := fun k hk hk' => hk (h.own k key w hk' hw)
  unfold takeToken
  dsimp only
  rw [h.leftBy hrpm hw, ← h.answer hrpm hw, hfresh]
  refine (show Refines rpm multiplier { p with
    limiter := p.limiter.setBucket w (s.leftBy key 1 0),
    granted := if (s.allowToken key 1 0).2 then p.granted ++ [⟨key, p.now, false⟩] else p.granted }
    (s.allowToken key 1 0).1 from
    ⟨h.sound.allowToken key 1 0, h.rpm_eq, h.multiplier_eq, hnow, ?_, fun v hv => ?_, h.fresh, h.own,
      h.held, fun k => ?_⟩).release
  · rw [allowToken_granted, h.granted_eq, hnow]
    unfold current
    dsimp only
    split
    next => simp
    next => rfl
  · dsimp only [setBucket]
    by_cases hsame : v = w
    · rw [hsame, Function.update_self]
      exact hmade
    · rw [Function.update_of_ne hsame]
      exact h.made v hv
  · unfold Full FullOrNew
    rw [allowToken_limiter]
    dsimp only
    by_cases hk : k = key
    · rw [hk, find_setBucket_self hw, Finmap.lookup_insert]
      exact .inl rfl
    · rw [find_setBucket_of_ne (hown k hk), Finmap.lookup_insert_of_ne _ hk]
      exact h.alike k

/-- A call takes its token from a bucket that is no longer in the map, and the map has none of it. -/
theorem Refines.takeStale (h : Refines rpm multiplier p s) (hn : p.held n = some (key, w))
    (hw : p.limiter.buckets.lookup key ≠ some w) : Refines rpm multiplier (p.takeToken n key w) s := by
  obtain ⟨hlt, hone⟩ := h.held n key w hn
  have hstale : p.isStale key w = true := decide_eq_true hw
  have hout : ∀ k, p.limiter.buckets.lookup k ≠ some w := by
    intro k hk
    cases hone k hk
    exact hw hk
  unfold takeToken
  dsimp only
  rw [takeTokens_limiter, hstale]
  refine (show Refines rpm multiplier { p with
    limiter := p.limiter.setBucket w _,
    granted := if (p.limiter.takeTokens w 1 p.now).2 then p.granted ++ [⟨key, p.now, true⟩] else p.granted }
    s from
    ⟨h.sound, h.rpm_eq, h.multiplier_eq, h.now_eq, ?_, fun v hv => ?_, h.fresh, h.own, h.held,
      fun k => ?_⟩).release
  · rw [h.granted_eq]
    unfold current
    dsimp only
    split
    next => simp
    next => rfl
  · dsimp only [setBucket]
    by_cases hsame : v = w
    · rw [hsame, Function.update_self]
      exact ((h.made w hlt).refill p.now).take _
    · rw [Function.update_of_ne hsame]
      exact h.made v hv
  · unfold Full
    rw [find_setBucket_of_ne (hout k)]
    exact h.alike k

/-- The cleanup takes a full bucket out of the map, which the sequential limiter may keep. -/
theorem Refines.cleanBucket (h : Refines rpm multiplier p s) (key : String) (since : Time) :
    Refines rpm multiplier { p with limiter := p.limiter.cleanBucket key since } s := by
  unfold BucketPool.cleanBucket
  split
  next => exact h
  next w hw =>
    split
    next hidle =>
      refine ⟨h.sound, h.rpm_eq, h.multiplier_eq, h.now_eq, h.granted_eq, h.made,
        fun k v hv => h.fresh k v (lookup_of_lookup_erase hv),
        fun k k' v hv hv' => h.own k k' v (lookup_of_lookup_erase hv) (lookup_of_lookup_erase hv'),
        fun m k v hm => ⟨(h.held m k v hm).1,
          fun k' hk' => (h.held m k v hm).2 k' (lookup_of_lookup_erase hk')⟩,
        fun k => ?_⟩
      unfold Full PoolSystem.find
      dsimp only
      by_cases hk : k = key
      · subst hk
        rw [Finmap.lookup_erase]
        refine .inr ⟨nofun, fun bucket hb => ?_⟩
        rcases h.alike k with hsame | ⟨-, hfull⟩
        · rw [find_of_lookup hw, hb] at hsame
          cases hsame
          exact hidle.1
        · exact hfull bucket hb
      · rw [Finmap.lookup_erase_ne hk]
        exact h.alike k
    next => exact h

theorem Refines.tick (h : Refines rpm multiplier p s) (d : Nat) :
    Refines rpm multiplier { p with now := p.now + d } { s with now := s.now + d } where
  sound := h.sound.tick d
  rpm_eq := h.rpm_eq
  multiplier_eq := h.multiplier_eq
  now_eq := congrArg (· + (d : Int)) h.now_eq
  granted_eq := h.granted_eq
  made w hw := (h.made w hw).later (le_add_lag _ _)
  fresh := h.fresh
  own := h.own
  held := h.held
  alike := h.alike

/-- What a step does, one step of the sequential limiter does, or none. -/
theorem Refines.step {a : Action} (h : Refines rpm multiplier p s) (hrpm : 0 ≤ rpm)
    (hs : PoolSystem.step p a = some q) :
    ∃ t, Reach BucketSystem.step NonNegative s t ∧ Refines rpm multiplier q t := by
  cases a with
  | findBucket n key =>
    simp only [PoolSystem.step] at hs
    split at hs
    next =>
      cases hs
      refine ⟨s, Reach.refl s, ?_⟩
      unfold BucketPool.findBucket
      split
      next w hw => exact h.find hw
      next hnone => exact h.addBucket hnone
    next => cases hs
  | takeToken n =>
    simp only [PoolSystem.step] at hs
    split at hs
    next key w hn =>
      cases hs
      by_cases hw : p.limiter.buckets.lookup key = some w
      · exact ⟨_, (Reach.refl s).next (a := .allowToken key 1 0) (Int.one_nonneg) rfl, h.take hrpm hw⟩
      · exact ⟨s, Reach.refl s, h.takeStale hn hw⟩
    next => cases hs
  | startSweep =>
    simp only [PoolSystem.step] at hs
    split at hs
    next => cases hs; exact ⟨s, Reach.refl s, { h with }⟩
    next => cases hs
  | cleanBucket key =>
    simp only [PoolSystem.step] at hs
    split at hs
    next sweep _ =>
      split at hs
      next => cases hs; exact ⟨s, Reach.refl s, { h.cleanBucket key sweep.now with }⟩
      next => cases hs
    next => cases hs
  | endSweep =>
    simp only [PoolSystem.step] at hs
    split at hs
    next =>
      split at hs
      next => cases hs; exact ⟨s, Reach.refl s, { h with }⟩
      next => cases hs
    next => cases hs
  | tick d =>
    cases hs
    exact ⟨_, (Reach.refl s).next (a := .tick d) trivial rfl, h.tick d⟩

theorem refines_of_reach (hrpm : 0 ≤ rpm)
    (h : Reach step anyStep (PoolSystem.start rpm tpm multiplier now) p) :
    ∃ s, Reach BucketSystem.step NonNegative (BucketSystem.start rpm tpm multiplier now) s ∧
      Refines rpm multiplier p s := by
  refine h.invariant (I := fun p => ∃ s, Reach BucketSystem.step NonNegative
    (BucketSystem.start rpm tpm multiplier now) s ∧ Refines rpm multiplier p s)
    ⟨_, Reach.refl _, Refines.start rpm tpm multiplier now⟩ ?_
  rintro p a q ⟨s, hreach, hrefines⟩ - hs
  obtain ⟨t, hrest, hrefines⟩ := hrefines.step hrpm hs
  exact ⟨t, hreach.trans hrest, hrefines⟩

/-- How many grants are for the key in the period. -/
def grantsIn (granted : List Grant) (key : String) (during : Time → Bool) : Nat :=
  granted.countP (fun g => decide (g.key = key) && during g.time)

/-- The sequential log of unit grants, counted. -/
theorem grantedIn_log (hgranted : s.granted = p.current.map (fun g => (g.key, g.time, 1))) (key : String)
    (a b : Time) : Buckets.grantedIn (s.log key) (seconds a) (seconds b) =
      (grantsIn p.current key (fun t => decide (a ≤ t ∧ t ≤ b)) : ℚ) := by
  unfold BucketSystem.log Buckets.grantedIn grantsIn
  rw [hgranted]
  generalize p.current = granted
  induction granted with
  | nil => rfl
  | cons g granted ih =>
    rw [List.map_cons, List.filter_cons, List.countP_cons]
    by_cases hkey : g.key = key
    · by_cases hin : a ≤ g.time ∧ g.time ≤ b
      · have hsec : seconds a ≤ seconds g.time ∧ seconds g.time ≤ seconds b :=
          ⟨seconds_le.mpr hin.1, seconds_le.mpr hin.2⟩
        simp only [hkey, decide_true, if_true, List.map_cons, List.filter_cons, hsec, and_self,
          List.sum_cons, ih, hin, Bool.and_self, Nat.cast_add, Nat.cast_one, Int.cast_one]
        exact add_comm _ _
      · have hsec : ¬(seconds a ≤ seconds g.time ∧ seconds g.time ≤ seconds b) := by
          rwa [seconds_le, seconds_le]
        simp only [hkey, decide_true, if_true, List.map_cons, List.filter_cons, hsec, decide_false,
          Bool.false_eq_true, if_false, ih, hin, Bool.and_false, Nat.add_zero]
    · simp only [hkey, decide_false, Bool.false_eq_true, if_false, ih, Bool.false_and, Nat.add_zero]

/-- The admitted calls whose bucket was no longer in the map. -/
def staleGrants (p : PoolSystem) : List Grant := p.granted.filter Grant.stale

theorem grantsIn_granted (p : PoolSystem) (key : String) (during : Time → Bool) :
    grantsIn p.granted key during = grantsIn p.current key during + grantsIn p.staleGrants key during := by
  unfold grantsIn current staleGrants
  rw [List.countP_filter, List.countP_filter]
  induction p.granted with
  | nil => rfl
  | cons g granted ih =>
    rw [List.countP_cons, List.countP_cons, List.countP_cons, ih]
    cases g.stale with
    | true =>
      simp only [Bool.not_true, Bool.and_false, Bool.and_true, Bool.false_eq_true, if_false]
      omega
    | false =>
      simp only [Bool.not_false, Bool.and_false, Bool.and_true, Bool.false_eq_true, if_false]
      omega

/-- The step takes no bucket out of the map that a call holds. -/
def Unheld (p : PoolSystem) : Action → Prop
  | .cleanBucket key => ∀ sweep w n k, p.sweep = some sweep → p.limiter.buckets.lookup key = some w →
      p.held n = some (k, w) → (p.limiter.cleanBucket key sweep.now).buckets.lookup key = some w
  | _ => True

/-- The map has what the calls hold, and every call admitted so far has taken from the map. -/
structure Linked (p : PoolSystem) : Prop where
  held : ∀ n key w, p.held n = some (key, w) → p.limiter.buckets.lookup key = some w
  granted : p.staleGrants = []

theorem buckets_takeTokens (l : BucketPool) (w : Nat) (tokens : Int) (now : Time) :
    (l.takeTokens w tokens now).1.buckets = l.buckets := by
  rw [takeTokens_limiter]
  rfl

theorem Linked.takeToken (h : Linked p) (hn : p.held n = some (key, w)) : Linked (p.takeToken n key w) := by
  have hw := h.held n key w hn
  have hfresh : p.isStale key w = false := decide_eq_false (not_not.mpr hw)
  refine ⟨fun m k v hm => ?_, ?_⟩
  · have hsame : (p.takeToken n key w).limiter.buckets = p.limiter.buckets := buckets_takeTokens _ _ _ _
    rw [hsame]
    exact h.held m k v (of_update_none hm).2
  · have hnone := h.granted
    unfold staleGrants PoolSystem.takeToken at *
    dsimp only
    rw [hfresh]
    split
    next => rw [List.filter_append, hnone]; rfl
    next => exact hnone

theorem Linked.findBucket (h : Linked p) (n : Nat) (key : String) : Linked { p with
    limiter := (p.limiter.findBucket key p.now).1,
    held := Function.update p.held n (some (key, (p.limiter.findBucket key p.now).2)) } := by
  refine ⟨fun m k v hm => ?_, h.granted⟩
  cases hk : p.limiter.buckets.lookup key with
  | some w =>
    simp only [BucketPool.findBucket, hk] at hm ⊢
    rcases update_some_cases hm with ⟨-, hkw⟩ | ⟨-, hm⟩
    · cases hkw
      exact hk
    · exact h.held m k v hm
  | none =>
    simp only [BucketPool.findBucket, hk] at hm ⊢
    rcases update_some_cases hm with ⟨-, hkw⟩ | ⟨-, hm⟩
    · cases hkw
      exact Finmap.lookup_insert _
    · exact lookup_insert_of_fresh hk (h.held m k v hm)

theorem lookup_cleanBucket_of_ne (l : BucketPool) {k : String} (hk : k ≠ key) (since : Time) :
    (l.cleanBucket key since).buckets.lookup k = l.buckets.lookup k := by
  unfold BucketPool.cleanBucket
  split
  next => rfl
  next =>
    split
    next => exact Finmap.lookup_erase_ne hk
    next => rfl

theorem Linked.cleanBucket {sweep : Sweep} (h : Linked p) (hok : Unheld p (.cleanBucket key))
    (hsweep : p.sweep = some sweep) :
    Linked { p with limiter := p.limiter.cleanBucket key sweep.now } := by
  refine ⟨fun m k v hm => ?_, h.granted⟩
  have hv := h.held m k v hm
  by_cases hk : k = key
  · rw [hk] at hv hm ⊢
    exact hok sweep v m key hsweep hv hm
  · exact (lookup_cleanBucket_of_ne p.limiter hk sweep.now).trans hv

theorem Linked.step {a : Action} (h : Linked p) (hok : Unheld p a) (hs : PoolSystem.step p a = some q) :
    Linked q := by
  cases a with
  | findBucket n key =>
    simp only [PoolSystem.step] at hs
    split at hs
    next => cases hs; exact h.findBucket n key
    next => cases hs
  | takeToken n =>
    simp only [PoolSystem.step] at hs
    split at hs
    next hn => cases hs; exact h.takeToken hn
    next => cases hs
  | startSweep =>
    simp only [PoolSystem.step] at hs
    split at hs
    next => cases hs; exact ⟨h.held, h.granted⟩
    next => cases hs
  | cleanBucket key =>
    simp only [PoolSystem.step] at hs
    split at hs
    next sweep hsweep =>
      split at hs
      next =>
        cases hs
        have hclean := h.cleanBucket hok hsweep
        exact ⟨hclean.held, hclean.granted⟩
      next => cases hs
    next => cases hs
  | endSweep =>
    simp only [PoolSystem.step] at hs
    split at hs
    next =>
      split at hs
      next => cases hs; exact ⟨h.held, h.granted⟩
      next => cases hs
    next => cases hs
  | tick d => cases hs; exact ⟨h.held, h.granted⟩

/-- The grants under a key stay within the capacity and the rate, but for those from stale buckets. -/
theorem grants_bounded (hrpm : 0 ≤ rpm) (hburst : 0 ≤ burst rpm multiplier)
    (hreach : Reach step anyStep (PoolSystem.start rpm tpm multiplier now) p) (key : String) {a b : Time}
    (hab : a ≤ b) :
    (grantsIn p.granted key (fun t => decide (a ≤ t ∧ t ≤ b)) : ℚ) ≤
      burst rpm multiplier + rpm / 60 * seconds (b - a) +
        grantsIn p.staleGrants key (fun t => decide (a ≤ t ∧ t ≤ b)) := by
  obtain ⟨s, hs, hrefines⟩ := refines_of_reach hrpm hreach
  have hwithin := (bounded_of_reach hrpm hburst hs).granted key a b hab
  rw [grantedIn_log hrefines.granted_eq] at hwithin
  rw [grantsIn_granted, Nat.cast_add]
  exact add_le_add_left hwithin _

/-- In any interleaving of calls of `Allow` with the cleanup loop, the calls that take from a bucket of the
map are admitted as in a sequential run; a key has more than its capacity and its rate only through
buckets that the cleanup has taken out of the map while a call held them. -/
theorem interleaved_calls_bounded (rpm tpm : Int) (multiplier : ℚ) (now : Time) (hrpm : 0 ≤ rpm)
    (hburst : 0 ≤ burst rpm multiplier) :
    (∀ p, Reach step anyStep (PoolSystem.start rpm tpm multiplier now) p →
      (∃ s, Reach BucketSystem.step NonNegative (BucketSystem.start rpm tpm multiplier now) s ∧
        s.now = p.now ∧ s.granted = p.current.map (fun g => (g.key, g.time, 1))) ∧
      ∀ key a b, a ≤ b → (grantsIn p.granted key (fun t => decide (a ≤ t ∧ t ≤ b)) : ℚ) ≤
        burst rpm multiplier + rpm / 60 * seconds (b - a) +
          grantsIn p.staleGrants key (fun t => decide (a ≤ t ∧ t ≤ b))) ∧
    ∀ p, Reach step Unheld (PoolSystem.start rpm tpm multiplier now) p → p.staleGrants = [] := by
  refine ⟨fun p hreach => ⟨?_, fun key a b hab => grants_bounded hrpm hburst hreach key hab⟩, ?_⟩
  · obtain ⟨s, hs, hrefines⟩ := refines_of_reach hrpm hreach
    exact ⟨s, hs, hrefines.now_eq, hrefines.granted_eq⟩
  · intro p hreach
    have hlinked : Linked p :=
      hreach.invariant ⟨nofun, rfl⟩ (fun _ _ _ h hok hs => h.step hok hs)
    exact hlinked.granted

/-- A call holds its bucket for more than ten minutes, the cleanup takes it out of the map, and the next
call makes another. -/
def staleCalls : List Action :=
  [.findBucket 0 "tenant-1", .tick 601000000000, .startSweep, .cleanBucket "tenant-1", .endSweep,
    .findBucket 1 "tenant-1", .takeToken 1, .takeToken 0]

theorem interleaved_calls_bounded_sample : ∃ p,
    Reach step anyStep (PoolSystem.start 60 1000 (3 / 2) 0) p ∧ p.staleGrants.length = 1 ∧
    grantsIn p.granted "tenant-1" (fun t => decide (0 ≤ t ∧ t ≤ 601 * second)) = 2 ∧
    (2 : ℚ) ≤ burst 60 (3 / 2) + 60 / 60 * seconds (601 * second - 0) +
      grantsIn p.staleGrants "tenant-1" (fun t => decide (0 ≤ t ∧ t ≤ 601 * second)) := by
  have hrun : (exec step (PoolSystem.start 60 1000 (3 / 2) 0) staleCalls).map
      (fun p => (p.staleGrants.length,
        grantsIn p.granted "tenant-1" (fun t => decide (0 ≤ t ∧ t ≤ 601 * second)))) = some (1, 2) := by
    decide +kernel
  obtain ⟨p, hp, hcounts⟩ := Option.map_eq_some_iff.mp hrun
  obtain ⟨hstale, hgranted⟩ := Prod.mk.inj hcounts
  have hbound := ((interleaved_calls_bounded 60 1000 (3 / 2) 0 (by decide) (by decide +kernel)).1 p
    (reach_of_exec hp)).2 "tenant-1" 0 (601 * second) (by decide)
  rw [hgranted] at hbound
  exact ⟨p, reach_of_exec hp, hstale, hgranted, hbound⟩

end SupplyPlatform.Gateway.PoolSystem
