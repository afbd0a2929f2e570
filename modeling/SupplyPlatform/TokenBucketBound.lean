import SupplyPlatform.Lib.Buckets
import SupplyPlatform.TokenBucket

namespace SupplyPlatform.Gateway.BucketSystem

open Maps TokenBucketLimiter Transition

/-- The capacity of a new bucket. -/
def burst (rpm : Int) (multiplier : ℚ) : Int := truncate (rpm * multiplier)

/-- What has been granted under the key: the times in seconds, with the tokens. -/
def log (s : BucketSystem) (key : String) : List (ℚ × ℚ) :=
  (s.granted.filter (fun g => g.1 = key)).map (fun g => (seconds g.2.1, (g.2.2 : ℚ)))

/-- The call asks for no negative number of tokens. -/
def NonNegative : BucketSystem → Call → Prop
  | _, .allowToken _ tokens _ => 0 ≤ tokens
  | _, _ => True

structure Bounded (rpm : Int) (multiplier : ℚ) (s : BucketSystem) : Prop where
  tokens : ∀ key bucket, s.limiter.buckets.lookup key = some bucket →
    0 ≤ bucket.tokens ∧ bucket.tokens ≤ burst rpm multiplier
  granted : ∀ key (a b : Time), a ≤ b →
    Buckets.grantedIn (s.log key) (seconds a) (seconds b) ≤ burst rpm multiplier + rpm / 60 * seconds (b - a)

def Call.isCleanup : Call → Bool
  | .cleanup _ => true
  | _ => false

/-- The calls without the passes of `cleanup`. -/
def withoutCleanup (calls : List Call) : List Call := calls.filter (fun c => !c.isCleanup)

/-- Two runs that differ in passes of `cleanup` only give the same answers. -/
def CleanupUnseen (s : BucketSystem) : Prop :=
  ∀ calls calls' t t', withoutCleanup calls = withoutCleanup calls' →
    exec step s calls = some t → exec step s calls' = some t' →
    t'.granted = t.granted ∧
      ∀ key tokens lag, (t'.allowToken key tokens lag).2 = (t.allowToken key tokens lag).2

section

theorem second_pos : (0 : ℚ) < second := by
  unfold second
  norm_num

theorem seconds_le {d e : Int} : seconds d ≤ seconds e ↔ d ≤ e := by
  unfold seconds
  rw [div_le_div_iff_of_pos_right second_pos, Int.cast_le]

theorem seconds_sub (d e : Int) : seconds (d - e) = seconds d - seconds e := by
  unfold seconds
  rw [Int.cast_sub, sub_div]

theorem sub_le {t u : Time} (h : u ≤ t) : sub t u ≤ t - u := by
  have hpos : (0 : Int) ≤ t - u := Int.sub_nonneg_of_le h
  exact max_le (le_trans (by decide) hpos) (min_le_right _ _)

theorem sub_nonneg_of_le {t u : Time} (h : u ≤ t) : 0 ≤ sub t u := by
  have hpos : (0 : Int) ≤ t - u := Int.sub_nonneg_of_le h
  exact le_max_of_le_right (le_min (by decide) hpos)

/-- What is counted as elapsed is no more than what has passed. -/
theorem elapsed_le {t u : Time} (h : u ≤ t) : seconds (sub t u) ≤ seconds t - seconds u := by
  rw [← seconds_sub]
  exact seconds_le.mpr (sub_le h)

theorem elapsed_nonneg {t u : Time} (h : u ≤ t) : 0 ≤ seconds (sub t u) := by
  have hzero : seconds 0 = 0 := by simp [seconds]
  rw [← hzero]
  exact seconds_le.mpr (sub_nonneg_of_le h)

end

section

variable {rpm tpm : Int} {multiplier : ℚ} {s t : BucketSystem} {bucket : TokenBucket} {now : Time}

theorem rate_nonneg (h : 0 ≤ rpm) : (0 : ℚ) ≤ rpm / 60 :=
  div_nonneg (Int.cast_nonneg h) (by norm_num)

theorem refill_tokens (bucket : TokenBucket) (now : Time) : (refill bucket now).tokens =
    min bucket.maxTokens (bucket.tokens + seconds (sub now bucket.lastRefill) * bucket.tokensPerSec) := by
  unfold refill
  dsimp only
  split
  next hover => rw [min_eq_left hover.le]
  next hwithin => rw [min_eq_right (not_lt.mp hwithin)]

/-- A bucket of a limiter with these settings. -/
structure Made (rpm : Int) (multiplier : ℚ) (now : Time) (bucket : TokenBucket) : Prop where
  maxTokens_eq : bucket.maxTokens = burst rpm multiplier
  tokensPerSec_eq : bucket.tokensPerSec = rpm / 60
  past : bucket.lastRefill ≤ now

theorem Made.later {now' : Time} (h : Made rpm multiplier now bucket) (hle : now ≤ now') :
    Made rpm multiplier now' bucket :=
  { h with past := le_trans h.past hle }

theorem Made.refill (h : Made rpm multiplier now bucket) (now' : Time) :
    Made rpm multiplier now' (refill bucket now') :=
  ⟨h.maxTokens_eq, h.tokensPerSec_eq, le_refl _⟩

theorem Made.take (h : Made rpm multiplier now bucket) (tokens : ℚ) :
    Made rpm multiplier now { bucket with tokens := tokens } :=
  ⟨h.maxTokens_eq, h.tokensPerSec_eq, h.past⟩

/-- The limiter keeps its settings, and every bucket is one of its own. -/
structure Sound (rpm : Int) (multiplier : ℚ) (s : BucketSystem) : Prop where
  rpm_eq : s.limiter.defaultRPM = rpm
  multiplier_eq : s.limiter.burstMultiplier = multiplier
  made : ∀ key bucket, s.limiter.buckets.lookup key = some bucket → Made rpm multiplier s.now bucket

theorem Sound.newBucket (h : Sound rpm multiplier s) (now : Time) :
    s.limiter.newBucket s.limiter.defaultRPM s.limiter.defaultTPM now =
      ⟨burst rpm multiplier, burst rpm multiplier, rpm / 60, now⟩ := by
  unfold TokenBucketLimiter.newBucket burst
  rw [h.rpm_eq, h.multiplier_eq]

theorem Sound.bucketOf (h : Sound rpm multiplier s) (key : String) :
    Made rpm multiplier s.now (s.limiter.bucketOf key s.now) := by
  unfold TokenBucketLimiter.bucketOf
  split
  next hb => exact h.made key _ hb
  next =>
    rw [h.newBucket]
    exact ⟨rfl, rfl, le_refl _⟩

/-- The bucket that a call of `AllowToken` leaves behind. -/
def leftBy (s : BucketSystem) (key : String) (tokens : Int) (lag : Nat) : TokenBucket :=
  let bucket := refill (s.limiter.bucketOf key s.now) (s.now + lag)
  { bucket with tokens := if (s.allowToken key tokens lag).2 then bucket.tokens - tokens else bucket.tokens }

theorem allowToken_answer (s : BucketSystem) (key : String) (tokens : Int) (lag : Nat) :
    (s.allowToken key tokens lag).2 = true ↔
      (tokens : ℚ) ≤ (refill (s.limiter.bucketOf key s.now) (s.now + lag)).tokens := by
  unfold BucketSystem.allowToken TokenBucketLimiter.allowToken
  dsimp only
  split
  next hle => simp [hle]
  next hlt => simp [hlt]

/-- What a call does to the limiter. -/
theorem allowToken_limiter (s : BucketSystem) (key : String) (tokens : Int) (lag : Nat) :
    (s.allowToken key tokens lag).1.limiter =
      { s.limiter with buckets := s.limiter.buckets.insert key (s.leftBy key tokens lag) } := by
  unfold leftBy BucketSystem.allowToken TokenBucketLimiter.allowToken
  dsimp only
  split
  · rfl
  · rfl

theorem allowToken_granted (s : BucketSystem) (key : String) (tokens : Int) (lag : Nat) :
    (s.allowToken key tokens lag).1.granted =
      if (s.allowToken key tokens lag).2 then s.granted ++ [(key, s.now + lag, tokens)]
      else s.granted := by
  unfold BucketSystem.allowToken
  dsimp only

theorem le_add_lag (now : Time) (lag : Nat) : now ≤ now + lag :=
  Int.le_add_of_nonneg_right (Int.natCast_nonneg lag)

theorem Sound.allowToken (h : Sound rpm multiplier s) (key : String) (tokens : Int) (lag : Nat) :
    Sound rpm multiplier (s.allowToken key tokens lag).1 where
  rpm_eq := by
    rw [allowToken_limiter]
    exact h.rpm_eq
  multiplier_eq := by
    rw [allowToken_limiter]
    exact h.multiplier_eq
  made := by
    rw [allowToken_limiter]
    refine forall_lookup_insert (fun k b hb => (h.made k b hb).later (le_add_lag _ _)) ?_
    exact ((h.bucketOf key).refill _).take _

theorem Sound.tick (h : Sound rpm multiplier s) (d : Nat) :
    Sound rpm multiplier { s with now := s.now + d } where
  rpm_eq := h.rpm_eq
  multiplier_eq := h.multiplier_eq
  made key b hb := (h.made key b hb).later (le_add_lag _ _)

/-- A round of the cleanup leaves the limiter as it is, or takes a full bucket out of the map. -/
theorem cleanBucket_cases (l : TokenBucketLimiter) (now : Time) (key : String) :
    l.cleanBucket now key = l ∨
      ∃ bucket, l.buckets.lookup key = some bucket ∧ bucket.maxTokens ≤ bucket.tokens ∧
        l.cleanBucket now key = { l with buckets := l.buckets.erase key } := by
  unfold cleanBucket
  split
  next => exact .inl rfl
  next bucket hb =>
    split
    next hidle => exact .inr ⟨bucket, hb, hidle.1, rfl⟩
    next => exact .inl rfl

theorem lookup_of_cleanBucket {l : TokenBucketLimiter} {key other : String}
    (h : (l.cleanBucket now key).buckets.lookup other = some bucket) :
    l.buckets.lookup other = some bucket := by
  rcases cleanBucket_cases l now key with hsame | ⟨-, -, -, herase⟩
  · rwa [hsame] at h
  · rw [herase] at h
    exact lookup_of_lookup_erase h

/-- What every round of the cleanup keeps, a pass keeps. -/
theorem cleanup_induction {P : BucketSystem → Prop} (h : P s)
    (hround : ∀ l key, P { s with limiter := l } → P { s with limiter := l.cleanBucket s.now key })
    (order : List String) : P (s.cleanup order) := by
  unfold BucketSystem.cleanup TokenBucketLimiter.cleanup
  generalize hl : s.limiter = l
  have hstart : P { s with limiter := l } := by
    rw [← hl]
    exact h
  clear hl h
  induction order generalizing l with
  | nil => exact hstart
  | cons key order ih => exact ih _ (hround l key hstart)

theorem Sound.cleanBucket (h : Sound rpm multiplier s) (key : String) :
    Sound rpm multiplier { s with limiter := s.limiter.cleanBucket s.now key } := by
  rcases cleanBucket_cases s.limiter s.now key with hsame | ⟨bucket, -, -, herase⟩
  · rw [hsame]
    exact h
  · rw [herase]
    exact ⟨h.rpm_eq, h.multiplier_eq, fun k b hb => h.made k b (lookup_of_lookup_erase hb)⟩

theorem Sound.cleanup (h : Sound rpm multiplier s) (order : List String) :
    Sound rpm multiplier (s.cleanup order) :=
  cleanup_induction h (fun _ key hl => hl.cleanBucket key) order

theorem Sound.start (rpm tpm : Int) (multiplier : ℚ) (now : Time) :
    Sound rpm multiplier (BucketSystem.start rpm tpm multiplier now) :=
  ⟨rfl, rfl, nofun⟩

/-- What a pass of the cleanup does in a run. -/
theorem step_cleanup {order : List String} (h : step s (.cleanup order) = some t) :
    t = s.cleanup order := by
  simp only [BucketSystem.step] at h
  split at h
  · exact (Option.some.inj h).symm
  · cases h

theorem Sound.step {c : Call} (h : Sound rpm multiplier s) (hs : step s c = some t) :
    Sound rpm multiplier t := by
  cases c with
  | allowToken key tokens lag =>
    cases hs
    exact h.allowToken key tokens lag
  | cleanup order =>
    rw [step_cleanup hs]
    exact h.cleanup order
  | tick d =>
    cases hs
    exact h.tick d

theorem sound_of_reach {ok : BucketSystem → Call → Prop}
    (h : Reach step ok (BucketSystem.start rpm tpm multiplier now) s) : Sound rpm multiplier s :=
  h.invariant (Sound.start rpm tpm multiplier now) (fun _ _ _ h _ hs => h.step hs)

theorem log_allowToken_self (s : BucketSystem) (key : String) (tokens : Int) (lag : Nat) :
    (s.allowToken key tokens lag).1.log key = s.log key ++
      if (s.allowToken key tokens lag).2 then [(seconds (s.now + lag), (tokens : ℚ))] else [] := by
  unfold log
  rw [allowToken_granted]
  cases (s.allowToken key tokens lag).2 with
  | true => simp
  | false => simp

theorem log_allowToken_of_ne (s : BucketSystem) {key other : String} (hne : other ≠ key) (tokens : Int)
    (lag : Nat) : (s.allowToken key tokens lag).1.log other = s.log other := by
  unfold log
  rw [allowToken_granted]
  cases (s.allowToken key tokens lag).2 with
  | true => simp [hne.symm]
  | false => rfl

theorem bucketOf_of_lookup {l : TokenBucketLimiter} {key : String}
    (h : l.buckets.lookup key = some bucket) (now : Time) : l.bucketOf key now = bucket := by
  unfold TokenBucketLimiter.bucketOf
  rw [h]

theorem bucketOf_of_none {l : TokenBucketLimiter} {key : String} (h : l.buckets.lookup key = none)
    (now : Time) : l.bucketOf key now = l.newBucket l.defaultRPM l.defaultTPM now := by
  unfold TokenBucketLimiter.bucketOf
  rw [h]

/-- What has been granted under a key is paid for by the bucket that a call would go on with. -/
def Metered (rpm : Int) (multiplier : ℚ) (s : BucketSystem) (key : String) : Prop :=
  Buckets.Metered (burst rpm multiplier : ℚ) (rpm / 60) (s.log key)
    (s.limiter.bucketOf key s.now).tokens (seconds (s.limiter.bucketOf key s.now).lastRefill)

/-- A key without a bucket gets a full one, whenever it comes. -/
theorem Metered.wait {key : String} (h : Metered rpm multiplier s key) (hs : Sound rpm multiplier s)
    (ht : Sound rpm multiplier t) (hlog : t.log key = s.log key)
    (hlookup : t.limiter.buckets.lookup key = s.limiter.buckets.lookup key) (hnow : s.now ≤ t.now) :
    Metered rpm multiplier t key := by
  unfold Metered at h ⊢
  rw [hlog]
  cases hb : s.limiter.buckets.lookup key with
  | some bucket =>
    rw [bucketOf_of_lookup hb] at h
    rw [bucketOf_of_lookup (hlookup.trans hb)]
    exact h
  | none =>
    rw [bucketOf_of_none hb, hs.newBucket] at h
    rw [bucketOf_of_none (hlookup.trans hb), ht.newBucket]
    exact h.renew (seconds_le.mpr hnow) (le_refl _)

/-- A full bucket that is taken out of the map makes room for a new one. -/
theorem Metered.erased {key : String} (h : Metered rpm multiplier s key) (hs : Sound rpm multiplier s)
    (ht : Sound rpm multiplier t) (hlog : t.log key = s.log key) (hnow : t.now = s.now)
    (hb : s.limiter.buckets.lookup key = some bucket) (hfull : bucket.maxTokens ≤ bucket.tokens)
    (hgone : t.limiter.buckets.lookup key = none) : Metered rpm multiplier t key := by
  have hmade := hs.made key bucket hb
  unfold Metered at h ⊢
  rw [bucketOf_of_lookup hb] at h
  rw [hlog, bucketOf_of_none hgone, ht.newBucket, hnow]
  exact h.renew (seconds_le.mpr hmade.past) (hmade.maxTokens_eq ▸ hfull)

/-- The bucket of a call, refilled at its second reading of the clock. -/
theorem Metered.refill {key : String} (h : Metered rpm multiplier s key) (hs : Sound rpm multiplier s)
    (lag : Nat) :
    Buckets.Metered (burst rpm multiplier : ℚ) (rpm / 60) (s.log key)
      (TokenBucketLimiter.refill (s.limiter.bucketOf key s.now) (s.now + lag)).tokens
      (seconds (s.now + lag)) := by
  have hmade := (hs.bucketOf key).later (le_add_lag s.now lag)
  have helapsed := elapsed_nonneg hmade.past
  have hwithin := mul_le_mul_of_nonneg_left (elapsed_le hmade.past) h.rate_nonneg
  have hrun := mul_nonneg helapsed h.rate_nonneg
  have hlevel := h.nonneg
  have hburst := h.nonneg.trans h.le_burst
  refine Buckets.Metered.wait h (seconds_le.mpr hmade.past) ?_ ?_ ?_
  · rw [refill_tokens, hmade.maxTokens_eq, hmade.tokensPerSec_eq]
    exact le_min hburst (add_nonneg hlevel hrun)
  · rw [refill_tokens, hmade.maxTokens_eq]
    exact min_le_left _ _
  · rw [refill_tokens, hmade.tokensPerSec_eq, mul_comm (seconds _)]
    exact (min_le_right _ _).trans (by linarith)

theorem leftBy_tokens (s : BucketSystem) (key : String) (tokens : Int) (lag : Nat) :
    (s.leftBy key tokens lag).tokens = if (s.allowToken key tokens lag).2
      then (TokenBucketLimiter.refill (s.limiter.bucketOf key s.now) (s.now + lag)).tokens - tokens
      else (TokenBucketLimiter.refill (s.limiter.bucketOf key s.now) (s.now + lag)).tokens := by
  unfold leftBy
  dsimp only

theorem Metered.allowToken_self {key : String} {tokens : Int} (h : Metered rpm multiplier s key)
    (hs : Sound rpm multiplier s) (htokens : 0 ≤ tokens) (lag : Nat) :
    Metered rpm multiplier (s.allowToken key tokens lag).1 key := by
  have hrefilled := h.refill hs lag
  have hleft : (s.allowToken key tokens lag).1.limiter.buckets.lookup key =
      some (s.leftBy key tokens lag) := by
    rw [allowToken_limiter]
    exact Finmap.lookup_insert _
  unfold Metered
  rw [bucketOf_of_lookup hleft, log_allowToken_self, leftBy_tokens,
    show (s.leftBy key tokens lag).lastRefill = s.now + lag from rfl]
  cases hanswer : (s.allowToken key tokens lag).2 with
  | true =>
    have henough := (allowToken_answer s key tokens lag).mp hanswer
    simp only [if_true]
    exact hrefilled.take (Int.cast_nonneg htokens) henough
  | false =>
    simp only [Bool.false_eq_true, if_false, List.append_nil]
    exact hrefilled

theorem Metered.allowToken {key other : String} {tokens : Int} (h : Metered rpm multiplier s other)
    (hs : Sound rpm multiplier s) (htokens : 0 ≤ tokens) (lag : Nat) :
    Metered rpm multiplier (s.allowToken key tokens lag).1 other := by
  by_cases hk : other = key
  · subst hk
    exact h.allowToken_self hs htokens lag
  · refine h.wait hs (hs.allowToken key tokens lag) (log_allowToken_of_ne s hk tokens lag) ?_
      (le_add_lag _ _)
    rw [allowToken_limiter]
    exact Finmap.lookup_insert_of_ne _ hk

theorem Metered.cleanBucket {key other : String} (h : Metered rpm multiplier s other)
    (hs : Sound rpm multiplier s) :
    Metered rpm multiplier { s with limiter := s.limiter.cleanBucket s.now key } other := by
  have ht := hs.cleanBucket key
  rcases cleanBucket_cases s.limiter s.now key with hsame | ⟨bucket, hb, hfull, herase⟩
  · rw [hsame]
    exact h
  · rw [herase] at ht ⊢
    by_cases hk : other = key
    · subst hk
      exact h.erased hs ht rfl rfl hb hfull (Finmap.lookup_erase _ _)
    · exact h.wait hs ht rfl (Finmap.lookup_erase_ne hk) (le_refl _)

theorem Metered.start (hrpm : 0 ≤ rpm) (hburst : 0 ≤ burst rpm multiplier) (now : Time) (key : String) :
    Metered rpm multiplier (BucketSystem.start rpm tpm multiplier now) key := by
  have hnone : (BucketSystem.start rpm tpm multiplier now).limiter.buckets.lookup key = none :=
    Finmap.lookup_empty key
  unfold Metered
  rw [bucketOf_of_none hnone, (Sound.start rpm tpm multiplier now).newBucket]
  exact Buckets.Metered.start (rate_nonneg hrpm) (Int.cast_nonneg hburst) _

/-- What holds in a run whose calls ask for no negative numbers of tokens. -/
structure Paid (rpm : Int) (multiplier : ℚ) (s : BucketSystem) : Prop where
  sound : Sound rpm multiplier s
  metered : ∀ key, Metered rpm multiplier s key

theorem Paid.step {c : Call} (h : Paid rpm multiplier s) (hc : NonNegative s c) (hs : step s c = some t) :
    Paid rpm multiplier t := by
  refine ⟨h.sound.step hs, fun other => ?_⟩
  cases c with
  | allowToken key tokens lag =>
    cases hs
    exact (h.metered other).allowToken h.sound hc lag
  | cleanup order =>
    have hpaid : Paid rpm multiplier (s.cleanup order) :=
      cleanup_induction h (fun _ key hl =>
        ⟨hl.sound.cleanBucket key, fun k => (hl.metered k).cleanBucket hl.sound⟩) order
    rw [step_cleanup hs]
    exact hpaid.metered other
  | tick d =>
    cases hs
    exact (h.metered other).wait h.sound (h.sound.tick d) rfl rfl (le_add_lag _ _)

theorem Paid.bounded (h : Paid rpm multiplier s) : Bounded rpm multiplier s where
  tokens key bucket hb := by
    have hmetered := h.metered key
    unfold Metered at hmetered
    rw [bucketOf_of_lookup hb] at hmetered
    exact ⟨hmetered.nonneg, hmetered.le_burst⟩
  granted key a b hab := by
    rw [seconds_sub]
    exact (h.metered key).between _ _ (seconds_le.mpr hab)

theorem bounded_of_reach (hrpm : 0 ≤ rpm) (hburst : 0 ≤ burst rpm multiplier)
    (hreach : Reach step NonNegative (BucketSystem.start rpm tpm multiplier now) s) :
    Bounded rpm multiplier s := by
  have hpaid : Paid rpm multiplier s :=
    hreach.invariant ⟨Sound.start rpm tpm multiplier now, Metered.start hrpm hburst now⟩
      (fun _ _ _ h hc hs => h.step hc hs)
  exact hpaid.bounded

/-- The key has no bucket, or a full one. -/
def FullOrNew (s : BucketSystem) (key : String) : Prop :=
  ∀ bucket, s.limiter.buckets.lookup key = some bucket → bucket.maxTokens ≤ bucket.tokens

/-- A call that finds no bucket or a full one goes on with a full one. -/
theorem FullOrNew.refill {key : String} (h : FullOrNew s key) (hs : Sound rpm multiplier s)
    (hrpm : 0 ≤ rpm) (lag : Nat) :
    TokenBucketLimiter.refill (s.limiter.bucketOf key s.now) (s.now + lag) =
      ⟨burst rpm multiplier, burst rpm multiplier, rpm / 60, s.now + lag⟩ := by
  have hmade := (hs.bucketOf key).later (le_add_lag s.now lag)
  have hfull : (s.limiter.bucketOf key s.now).maxTokens ≤ (s.limiter.bucketOf key s.now).tokens := by
    cases hb : s.limiter.buckets.lookup key with
    | some bucket =>
      rw [bucketOf_of_lookup hb]
      exact h bucket hb
    | none =>
      rw [bucketOf_of_none hb, hs.newBucket]
  have hrun := mul_nonneg (elapsed_nonneg hmade.past) (rate_nonneg hrpm)
  have htokens := refill_tokens (s.limiter.bucketOf key s.now) (s.now + lag)
  rw [hmade.tokensPerSec_eq, min_eq_left (by linarith), hmade.maxTokens_eq] at htokens
  rw [← htokens, ← hmade.tokensPerSec_eq]
  nth_rewrite 2 [htokens]
  rw [← hmade.maxTokens_eq]
  rfl

/-- Two limiters that differ in full buckets only. -/
structure Alike (rpm : Int) (multiplier : ℚ) (s t : BucketSystem) : Prop where
  left : Sound rpm multiplier s
  right : Sound rpm multiplier t
  now_eq : t.now = s.now
  granted_eq : t.granted = s.granted
  buckets : ∀ key, t.limiter.buckets.lookup key = s.limiter.buckets.lookup key ∨
    (FullOrNew s key ∧ FullOrNew t key)

theorem Alike.refill (h : Alike rpm multiplier s t) (hrpm : 0 ≤ rpm) (key : String) (lag : Nat) :
    TokenBucketLimiter.refill (t.limiter.bucketOf key t.now) (t.now + lag) =
      TokenBucketLimiter.refill (s.limiter.bucketOf key s.now) (s.now + lag) := by
  rcases h.buckets key with hsame | ⟨hfull, hfull'⟩
  · rw [h.now_eq]
    cases hb : s.limiter.buckets.lookup key with
    | some bucket => rw [bucketOf_of_lookup hb, bucketOf_of_lookup (hsame.trans hb)]
    | none =>
      rw [bucketOf_of_none hb, bucketOf_of_none (hsame.trans hb), h.left.newBucket, h.right.newBucket]
  · rw [hfull.refill h.left hrpm, hfull'.refill h.right hrpm, h.now_eq]

theorem Alike.answer (h : Alike rpm multiplier s t) (hrpm : 0 ≤ rpm) (key : String) (tokens : Int)
    (lag : Nat) : (t.allowToken key tokens lag).2 = (s.allowToken key tokens lag).2 := by
  rw [Bool.eq_iff_iff, allowToken_answer, allowToken_answer, h.refill hrpm]

theorem Alike.leftBy (h : Alike rpm multiplier s t) (hrpm : 0 ≤ rpm) (key : String) (tokens : Int)
    (lag : Nat) : t.leftBy key tokens lag = s.leftBy key tokens lag := by
  unfold BucketSystem.leftBy
  rw [h.answer hrpm, h.refill hrpm]

theorem Alike.allowToken (h : Alike rpm multiplier s t) (hrpm : 0 ≤ rpm) (key : String) (tokens : Int)
    (lag : Nat) :
    Alike rpm multiplier (s.allowToken key tokens lag).1 (t.allowToken key tokens lag).1 where
  left := h.left.allowToken key tokens lag
  right := h.right.allowToken key tokens lag
  now_eq := congrArg (· + (lag : Int)) h.now_eq
  granted_eq := by
    rw [allowToken_granted, allowToken_granted, h.answer hrpm, h.granted_eq, h.now_eq]
  buckets other := by
    unfold FullOrNew
    rw [allowToken_limiter, allowToken_limiter, h.leftBy hrpm]
    dsimp only
    rw [lookup_insert, lookup_insert]
    by_cases hk : other = key
    · rw [if_pos hk, if_pos hk]
      exact .inl rfl
    · rw [if_neg hk, if_neg hk]
      exact h.buckets other

theorem Alike.tick (h : Alike rpm multiplier s t) (d : Nat) :
    Alike rpm multiplier { s with now := s.now + d } { t with now := t.now + d } where
  left := h.left.tick d
  right := h.right.tick d
  now_eq := congrArg (· + (d : Int)) h.now_eq
  granted_eq := h.granted_eq
  buckets := h.buckets

/-- A round of the cleanup in one of the two. -/
theorem Alike.cleanBucket (h : Alike rpm multiplier s t) (key : String) :
    Alike rpm multiplier { s with limiter := s.limiter.cleanBucket s.now key } t := by
  have hleft := h.left.cleanBucket key
  rcases cleanBucket_cases s.limiter s.now key with hsame | ⟨bucket, hb, hfull, herase⟩
  · rw [hsame]
    exact h
  · rw [herase] at hleft ⊢
    refine ⟨hleft, h.right, h.now_eq, h.granted_eq, fun other => ?_⟩
    unfold FullOrNew
    dsimp only
    rw [lookup_erase]
    by_cases hk : other = key
    · subst hk
      rw [if_pos rfl]
      refine .inr ⟨nofun, fun bucket' hb' => ?_⟩
      rcases h.buckets other with hsame | ⟨-, hfull'⟩
      · rw [hsame, hb] at hb'
        cases hb'
        exact hfull
      · exact hfull' bucket' hb'
    · rw [if_neg hk]
      exact h.buckets other

/-- A run goes like the run of the same calls without the passes of the cleanup. -/
theorem Alike.run {calls : List Call} {s' : BucketSystem} (h : Alike rpm multiplier s t) (hrpm : 0 ≤ rpm)
    (hs : exec step s calls = some s') :
    ∃ t', exec step t (withoutCleanup calls) = some t' ∧ Alike rpm multiplier s' t' := by
  induction calls generalizing s t with
  | nil =>
    cases hs
    exact ⟨t, rfl, h⟩
  | cons c calls ih =>
    obtain ⟨u, hu, hrest⟩ := Option.bind_eq_some_iff.mp hs
    cases c with
    | allowToken key tokens lag =>
      cases hu
      exact ih (h.allowToken hrpm key tokens lag) hrest
    | cleanup order =>
      rw [step_cleanup hu] at hrest
      exact ih (cleanup_induction (P := fun s => Alike rpm multiplier s t) h
        (fun _ key hl => hl.cleanBucket key) order) hrest
    | tick d =>
      cases hu
      exact ih (h.tick d) hrest

theorem Sound.alike (h : Sound rpm multiplier s) : Alike rpm multiplier s s :=
  ⟨h, h, rfl, rfl, fun _ => .inl rfl⟩

theorem Sound.cleanupUnseen (h : Sound rpm multiplier s) (hrpm : 0 ≤ rpm) : CleanupUnseen s := by
  intro calls calls' t t' hcalls ht ht'
  obtain ⟨u, hu, halike⟩ := h.alike.run hrpm ht
  obtain ⟨u', hu', halike'⟩ := h.alike.run hrpm ht'
  rw [← hcalls, hu] at hu'
  cases hu'
  refine ⟨halike'.granted_eq.symm.trans halike.granted_eq, fun key tokens lag => ?_⟩
  rw [← halike'.answer hrpm, ← halike.answer hrpm]

/-- Whatever calls are made and passes of the cleanup come between them, the buckets stay within the
capacity, what they grant stays within the capacity and the rate, and the cleanup is never seen. -/
theorem buckets_bounded (hrpm : 0 ≤ rpm) (hburst : 0 ≤ burst rpm multiplier) :
    ∀ now s, Reach step NonNegative (BucketSystem.start rpm tpm multiplier now) s →
      Bounded rpm multiplier s ∧ CleanupUnseen s := by
  intro now s hreach
  exact ⟨bounded_of_reach hrpm hburst hreach, (sound_of_reach hreach).cleanupUnseen hrpm⟩

/-- Forty tokens have been granted, and a second has passed. -/
def sampleBuckets : BucketSystem :=
  let s := ((BucketSystem.start 60 1000 (3 / 2) 0).allowToken "tenant-1" 40 0).1
  { s with now := s.now + second.toNat }

theorem sampleBuckets_reached :
    Reach step NonNegative (BucketSystem.start 60 1000 (3 / 2) 0) sampleBuckets := by
  have hasked : NonNegative (BucketSystem.start 60 1000 (3 / 2) 0) (.allowToken "tenant-1" 40 0) :=
    Int.natCast_nonneg 40
  exact ((Reach.refl _).next hasked rfl).next (a := .tick second.toNat) trivial rfl

theorem sampleBuckets_bounded : Bounded 60 (3 / 2) sampleBuckets ∧ CleanupUnseen sampleBuckets :=
  buckets_bounded (by decide) (by decide +kernel) 0 sampleBuckets sampleBuckets_reached

end

end SupplyPlatform.Gateway.BucketSystem
