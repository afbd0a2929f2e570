import SupplyPlatform.TokenBucketBound

namespace SupplyPlatform.Gateway

/-- The limiter with its buckets by address: `buckets` is the map, and `bucket` holds every bucket made so
far, also one that is no longer in the map. -/
structure BucketPool where
  defaultRPM : Int
  defaultTPM : Int
  burstMultiplier : ℚ
  buckets : Finmap (fun _ : String => Nat)
  bucket : Nat → TokenBucket
  allocated : Nat

namespace BucketPool

open TokenBucketLimiter

def newBucketPool (defaultRPM defaultTPM : Int) (burstMultiplier : ℚ) : BucketPool :=
  ⟨defaultRPM, defaultTPM, burstMultiplier, ∅, fun _ => ⟨0, 0, 0, 0⟩, 0⟩

def newBucket (l : BucketPool) (now : Time) : TokenBucket :=
  (newTokenBucketLimiter l.defaultRPM l.defaultTPM l.burstMultiplier).newBucket l.defaultRPM l.defaultTPM now

def setBucket (l : BucketPool) (w : Nat) (bucket : TokenBucket) : BucketPool :=
  { l with bucket := Function.update l.bucket w bucket }

/-- The part of `AllowToken` under `l.mu`. -/
def findBucket (l : BucketPool) (key : String) (now : Time) : BucketPool × Nat :=
  match l.buckets.lookup key with
  | some w => (l, w)
  | none =>
    ({ l.setBucket l.allocated (l.newBucket now) with
        buckets := l.buckets.insert key l.allocated, allocated := l.allocated + 1 }, l.allocated)

/-- The part of `AllowToken` under the bucket's mutex. -/
def takeTokens (l : BucketPool) (w : Nat) (tokens : Int) (now : Time) : BucketPool × Bool :=
  let bucket := refill (l.bucket w) now
  if (tokens : ℚ) ≤ bucket.tokens then
    (l.setBucket w { bucket with tokens := bucket.tokens - tokens }, true)
  else (l.setBucket w bucket, false)

def getLimit (l : BucketPool) (key : String) : Limit :=
  match l.buckets.lookup key with
  | none =>
    { rpm := l.defaultRPM, tpm := l.defaultTPM, burst := truncate (l.defaultRPM * l.burstMultiplier),
      remaining := 0, resetAt := Settlements.zeroTime }
  | some w =>
    { rpm := l.defaultRPM, tpm := l.defaultTPM, burst := truncate (l.bucket w).maxTokens,
      remaining := truncate (l.bucket w).tokens, resetAt := (l.bucket w).lastRefill + 60 * second }

/-- One round of the loop of `cleanup`. -/
def cleanBucket (l : BucketPool) (key : String) (now : Time) : BucketPool :=
  match l.buckets.lookup key with
  | none => l
  | some w =>
    if (l.bucket w).maxTokens ≤ (l.bucket w).tokens ∧ 10 * 60 * second < sub now (l.bucket w).lastRefill then
      { l with buckets := l.buckets.erase key }
    else l

end BucketPool

/-- A call of `Allow` that has been admitted; `stale` says that its bucket was no longer in the map. -/
structure Grant where
  key : String
  time : Time
  stale : Bool
  deriving DecidableEq

/-- The limiter with the calls of `Allow` that hold a bucket between their two critical sections, and the
log of the calls admitted so far. -/
structure PoolSystem where
  limiter : BucketPool
  held : Nat → Option (String × Nat)
  sweep : Option Sweep
  now : Time
  granted : List Grant

namespace PoolSystem

open BucketPool TokenBucketLimiter

inductive Action
  | findBucket (n : Nat) (key : String)
  | takeToken (n : Nat)
  | startSweep
  | cleanBucket (key : String)
  | endSweep
  | tick (d : Nat)
  deriving DecidableEq

def start (defaultRPM defaultTPM : Int) (burstMultiplier : ℚ) (now : Time) : PoolSystem :=
  ⟨newBucketPool defaultRPM defaultTPM burstMultiplier, fun _ => none, none, now, []⟩

/-- The call holds a bucket of the key that the cleanup has taken out of the map. -/
def isStale (s : PoolSystem) (key : String) (w : Nat) : Bool :=
  decide (s.limiter.buckets.lookup key ≠ some w)

def takeToken (s : PoolSystem) (n : Nat) (key : String) (w : Nat) : PoolSystem :=
  let answer := s.limiter.takeTokens w 1 s.now
  { s with
    limiter := answer.1, held := Function.update s.held n none,
    granted := if answer.2 then s.granted ++ [⟨key, s.now, s.isStale key w⟩] else s.granted }

def step (s : PoolSystem) : Action → Option PoolSystem
  | .findBucket n key =>
    match s.sweep, s.held n with
    | none, none => some { s with
        limiter := (s.limiter.findBucket key s.now).1,
        held := Function.update s.held n (some (key, (s.limiter.findBucket key s.now).2)) }
    | _, _ => none
  | .takeToken n =>
    match s.held n with
    | some (key, w) => some (s.takeToken n key w)
    | none => none
  | .startSweep =>
    match s.sweep with
    | none => some { s with sweep := some ⟨s.now, s.limiter.buckets.keys⟩ }
    | some _ => none
  | .cleanBucket key =>
    match s.sweep with
    | some sweep =>
      if key ∈ sweep.todo then some { s with
        limiter := s.limiter.cleanBucket key sweep.now,
        sweep := some { sweep with todo := sweep.todo.erase key } }
      else none
    | none => none
  | .endSweep =>
    match s.sweep with
    | some sweep => if sweep.todo = ∅ then some { s with sweep := none } else none
    | none => none
  | .tick d => some { s with now := s.now + d }

/-- The admitted calls whose bucket was in the map. -/
def current (s : PoolSystem) : List Grant := s.granted.filter (fun g => !g.stale)

end PoolSystem

end SupplyPlatform.Gateway
