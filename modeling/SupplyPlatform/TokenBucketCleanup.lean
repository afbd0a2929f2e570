import SupplyPlatform.TokenBucketBound

namespace SupplyPlatform.Gateway.BucketSystem

open Maps TokenBucketLimiter Transition

/-- The bucket has been left alone for ten minutes, and for as long as it takes to be full again. -/
def Restored (bucket : TokenBucket) (now : Time) : Prop :=
  10 * 60 * second < now - bucket.lastRefill ∧
    bucket.maxTokens ≤ bucket.tokens + seconds (now - bucket.lastRefill) * bucket.tokensPerSec

instance (bucket : TokenBucket) (now : Time) : Decidable (Restored bucket now) :=
  inferInstanceAs (Decidable (_ ∧ _))

/-- If no call is made from now on, the next pass of `cleanup` takes out every bucket that is restored by
then, and after some time all of them. -/
structure Empties (s : BucketSystem) : Prop where
  restored : ∀ (d : Nat) order key bucket, Enumerates s.limiter.buckets order →
    s.limiter.buckets.lookup key = some bucket → Restored bucket (s.now + d) →
    (s.limiter.cleanup (s.now + d) order).buckets.lookup key = none
  quiet : ∃ d : Nat, ∀ d' : Nat, d ≤ d' → ∀ order, Enumerates s.limiter.buckets order →
    (s.limiter.cleanup (s.now + d') order).buckets = ∅

/-- Every bucket is full as it is stored. -/
def AllFull (s : BucketSystem) : Prop := ∀ key, FullOrNew s key

/-- The bucket is full as the call stores it. -/
def LeavesFull (s : BucketSystem) : Call → Prop
  | .allowToken key tokens lag => (s.leftBy key tokens lag).maxTokens ≤ (s.leftBy key tokens lag).tokens
  | _ => True

/-- The call asks for no token, or for more than a bucket can have. -/
def TakesNothing (rpm : Int) (multiplier : ℚ) : BucketSystem → Call → Prop
  | _, .allowToken _ tokens _ => tokens ≤ 0 ∨ burst rpm multiplier < tokens
  | _, _ => True

section

variable {rpm tpm : Int} {multiplier : ℚ} {s t : BucketSystem} {bucket : TokenBucket} {now : Time}
  {l : TokenBucketLimiter} {key other : String} {order : List String}

theorem cleanBucket_lookup_of_ne (hne : other ≠ key) :
    (l.cleanBucket now key).buckets.lookup other = l.buckets.lookup other := by
  rcases cleanBucket_cases l now key with hsame | ⟨bucket, -, -, herase⟩
  · rw [hsame]
  · rw [herase]
    exact Finmap.lookup_erase_ne hne

theorem cleanup_cons (l : TokenBucketLimiter) (now : Time) (key : String) (order : List String) :
    l.cleanup now (key :: order) = (l.cleanBucket now key).cleanup now order := rfl

theorem cleanBucket_of_lookup (h : l.buckets.lookup key = some bucket) (now : Time) :
    l.cleanBucket now key =
      if bucket.maxTokens ≤ bucket.tokens ∧ 10 * 60 * second < sub now bucket.lastRefill then
        { l with buckets := l.buckets.erase key }
      else l := by
  unfold TokenBucketLimiter.cleanBucket
  rw [h]

theorem cleanup_lookup_of_none (h : l.buckets.lookup key = none) (order : List String) :
    (l.cleanup now order).buckets.lookup key = none := by
  induction order generalizing l with
  | nil => exact h
  | cons first order ih =>
    rw [cleanup_cons]
    refine ih ?_
    cases hb : (l.cleanBucket now first).buckets.lookup key with
    | none => rfl
    | some bucket =>
      rw [lookup_of_cleanBucket hb] at h
      cases h

/-- A pass leaves a bucket that is not full as it is stored. -/
theorem cleanup_keeps (h : l.buckets.lookup key = some bucket) (hspent : bucket.tokens < bucket.maxTokens)
    (now : Time) (order : List String) : (l.cleanup now order).buckets.lookup key = some bucket := by
  induction order generalizing l with
  | nil => exact h
  | cons first order ih =>
    rw [cleanup_cons]
    refine ih ?_
    by_cases hk : key = first
    · subst hk
      rw [cleanBucket_of_lookup h, if_neg (fun hfull => absurd hfull.1 (not_le.mpr hspent))]
      exact h
    · rw [cleanBucket_lookup_of_ne hk]
      exact h

/-- A pass takes out a bucket that is full as it is stored and has been left alone. -/
theorem cleanup_removes (h : l.buckets.lookup key = some bucket) (hfull : bucket.maxTokens ≤ bucket.tokens)
    (hidle : 10 * 60 * second < sub now bucket.lastRefill) (hmem : key ∈ order) :
    (l.cleanup now order).buckets.lookup key = none := by
  induction order generalizing l with
  | nil => cases hmem
  | cons first order ih =>
    rw [cleanup_cons]
    by_cases hk : key = first
    · subst hk
      refine cleanup_lookup_of_none ?_ order
      rw [cleanBucket_of_lookup h, if_pos ⟨hfull, hidle⟩]
      exact Finmap.lookup_erase _ _
    · refine ih ?_ ((List.mem_cons.mp hmem).resolve_left hk)
      rw [cleanBucket_lookup_of_ne hk]
      exact h

theorem lt_sub {d : Int} {u : Time} (h : d < now - u) (hd : d < 2 ^ 63 - 1) : d < sub now u :=
  lt_max_of_lt_right (lt_min hd h)

theorem AllFull.removes (h : AllFull s) (horder : Enumerates s.limiter.buckets order) (d : Nat)
    (hb : s.limiter.buckets.lookup key = some bucket)
    (hidle : 10 * 60 * second < s.now + d - bucket.lastRefill) :
    (s.limiter.cleanup (s.now + d) order).buckets.lookup key = none :=
  cleanup_removes hb (h key bucket hb) (lt_sub hidle (by decide)) (horder.mem hb)

/-- Only the buckets that are stored full are ever taken out. -/
theorem Sound.empties_iff (h : Sound rpm multiplier s) : Empties s ↔ AllFull s := by
  constructor
  · intro hempties key bucket hb
    by_contra hspent
    obtain ⟨d, hquiet⟩ := hempties.quiet
    obtain ⟨order, horder⟩ := exists_enumerates s.limiter.buckets
    have hkept := cleanup_keeps hb (not_le.mp hspent) (s.now + d) order
    rw [hquiet d (le_refl d) order horder, Finmap.lookup_empty] at hkept
    cases hkept
  · intro hfull
    refine ⟨fun d order key bucket horder hb hrestored => hfull.removes horder d hb hrestored.1, ?_⟩
    refine ⟨(10 * 60 * second + 1).toNat, fun d hd order horder => Finmap.ext_lookup (fun key => ?_)⟩
    rw [Finmap.lookup_empty]
    cases hb : s.limiter.buckets.lookup key with
    | none => exact cleanup_lookup_of_none hb order
    | some bucket =>
      refine hfull.removes horder d hb ?_
      have hpast : bucket.lastRefill ≤ s.now := (h.made key bucket hb).past
      have hlong : 10 * 60 * second + 1 ≤ (d : Int) := Int.toNat_le.mp hd
      exact Int.lt_of_lt_of_le (Int.lt_of_lt_of_le (Int.lt_succ _) hlong)
        (Int.le_sub_left_of_add_le (Int.add_le_add_right hpast _))

theorem allowToken_allFull_iff (h : AllFull s) (key : String) (tokens : Int) (lag : Nat) :
    AllFull (s.allowToken key tokens lag).1 ↔ LeavesFull s (.allowToken key tokens lag) := by
  unfold AllFull FullOrNew
  rw [allowToken_limiter]
  constructor
  · exact fun hfull => hfull key _ (Finmap.lookup_insert _)
  · exact fun hleft => forall_lookup_insert h hleft

/-- Only a call of `AllowToken` can leave a bucket that is not full. -/
theorem AllFull.step_iff {c : Call} (h : AllFull s) (hs : step s c = some t) :
    AllFull t ↔ LeavesFull s c := by
  cases c with
  | allowToken key tokens lag =>
    cases hs
    exact allowToken_allFull_iff h key tokens lag
  | cleanup order =>
    rw [step_cleanup hs]
    refine ⟨fun _ => trivial, fun _ => ?_⟩
    exact cleanup_induction (P := AllFull) h
      (fun l first hl key bucket hb => hl key bucket (lookup_of_cleanBucket hb)) order
  | tick d =>
    cases hs
    exact ⟨fun _ => trivial, fun _ => h⟩

theorem AllFull.leavesFull_iff (h : AllFull s) (hs : Sound rpm multiplier s) (hrpm : 0 ≤ rpm) (c : Call) :
    LeavesFull s c ↔ TakesNothing rpm multiplier s c := by
  cases c with
  | allowToken key tokens lag =>
    have hrefill := (h key).refill hs hrpm lag
    have hmax : (s.leftBy key tokens lag).maxTokens = burst rpm multiplier := by
      unfold leftBy
      rw [hrefill]
    have hanswer := allowToken_answer s key tokens lag
    rw [hrefill] at hanswer
    have hbelow : ((tokens : ℚ) ≤ burst rpm multiplier) ↔ tokens ≤ burst rpm multiplier := Int.cast_le
    show (s.leftBy key tokens lag).maxTokens ≤ (s.leftBy key tokens lag).tokens ↔
      tokens ≤ 0 ∨ burst rpm multiplier < tokens
    rw [hmax, leftBy_tokens, hrefill]
    cases hgranted : (s.allowToken key tokens lag).2 with
    | true =>
      have hle := hbelow.mp (hanswer.mp hgranted)
      simp only [if_true, le_sub_self_iff, Int.cast_nonpos]
      exact ⟨.inl, fun hor => hor.resolve_right (not_lt.mpr hle)⟩
    | false =>
      have hlt : burst rpm multiplier < tokens :=
        not_le.mp (fun hle => Bool.false_ne_true (hgranted.symm.trans (hanswer.mpr (hbelow.mpr hle))))
      simp only [Bool.false_eq_true, if_false, le_refl, hlt, or_true]
  | cleanup order => exact Iff.rfl
  | tick d => exact Iff.rfl

theorem AllFull.start (rpm tpm : Int) (multiplier : ℚ) (now : Time) :
    AllFull (BucketSystem.start rpm tpm multiplier now) := nofun

/-- A run stays one that empties as long as its calls meet what amounts to leaving the buckets full. -/
theorem empties_throughout_iff {ok : BucketSystem → Call → Prop}
    (hok : ∀ s c, Sound rpm multiplier s → AllFull s → (LeavesFull s c ↔ ok s c)) (now : Time)
    (calls : List Call) :
    Throughout step Empties (BucketSystem.start rpm tpm multiplier now) calls ↔
      EachStep step ok (BucketSystem.start rpm tpm multiplier now) calls := by
  refine throughout_iff_eachStep (I := fun s => Sound rpm multiplier s ∧ AllFull s) ?_ ?_ ?_
    ⟨Sound.start rpm tpm multiplier now, AllFull.start rpm tpm multiplier now⟩ calls
  · intro s c t h hc hs
    exact ⟨h.1.step hs, (h.2.step_iff hs).mpr ((hok s c h.1 h.2).mpr hc)⟩
  · exact fun s h => h.1.empties_iff.mpr h.2
  · intro s c t h hnot hs hempties
    have hfull : AllFull t := (h.1.step hs).empties_iff.mp hempties
    exact hnot ((hok s c h.1 h.2).mp ((h.2.step_iff hs).mp hfull))

/-- The map empties in the end exactly when every bucket is full as it is stored, and it always does
exactly in the runs that take nothing from any bucket. -/
theorem quiet_empties_iff (rpm tpm : Int) (multiplier : ℚ) (now : Time) :
    (∀ s, Reach step anyStep (BucketSystem.start rpm tpm multiplier now) s → (Empties s ↔ AllFull s)) ∧
    (∀ calls, Throughout step Empties (BucketSystem.start rpm tpm multiplier now) calls ↔
      EachStep step LeavesFull (BucketSystem.start rpm tpm multiplier now) calls) ∧
    (0 ≤ rpm → ∀ calls, Throughout step Empties (BucketSystem.start rpm tpm multiplier now) calls ↔
      EachStep step (TakesNothing rpm multiplier) (BucketSystem.start rpm tpm multiplier now) calls) := by
  refine ⟨fun s hreach => (sound_of_reach hreach).empties_iff, ?_, fun hrpm => ?_⟩
  · exact empties_throughout_iff (fun _ _ _ _ => Iff.rfl) now
  · exact empties_throughout_iff (fun s c hs hfull => hfull.leavesFull_iff hs hrpm c) now

/-- One token is taken, and eleven minutes pass until the cleanup. -/
def sampleQuiet : List Call :=
  [.allowToken "tenant-1" 1 0, .tick (11 * 60 * second).toNat, .cleanup ["tenant-1"]]

theorem sampleQuiet_empties_iff :
    Throughout step Empties (BucketSystem.start 60 1000 1 0) sampleQuiet ↔
      EachStep step (TakesNothing 60 1) (BucketSystem.start 60 1000 1 0) sampleQuiet :=
  (quiet_empties_iff 60 1000 1 0).2.2 (by decide) sampleQuiet

/-- The bucket could have been filled eleven times over, and is still there after the cleanup. -/
theorem sampleQuiet_keeps_bucket :
    (exec step (BucketSystem.start 60 1000 1 0) sampleQuiet).map (fun s =>
      (s.now, s.limiter.buckets.lookup "tenant-1")) =
      some (11 * 60 * second, some ⟨59, 60, 1, 0⟩) ∧
    Restored ⟨59, 60, 1, 0⟩ (11 * 60 * second) ∧
    ¬Throughout step Empties (BucketSystem.start 60 1000 1 0) sampleQuiet := by
  have hkept : (exec step (BucketSystem.start 60 1000 1 0) sampleQuiet).map (fun s =>
      (s.now, s.limiter.buckets.lookup "tenant-1")) =
      some (11 * 60 * second, some ⟨59, 60, 1, 0⟩) := by
    decide +kernel
  refine ⟨hkept, by decide +kernel, fun hempties => ?_⟩
  obtain ⟨s, hs, hstored⟩ := Option.map_eq_some_iff.mp hkept
  have hfull : AllFull s := (sound_of_reach (reach_of_exec hs)).empties_iff.mp (hempties.of_exec hs)
  have hsixty := hfull "tenant-1" _ (congrArg Prod.snd hstored)
  norm_num at hsixty

end

end SupplyPlatform.Gateway.BucketSystem
