import Mathlib.Algebra.Order.Ring.Rat
import SupplyPlatform.SlidingWindow
import SupplyPlatform.Settlement

namespace SupplyPlatform.Gateway

/-- `time.Time.Sub`, whose result is a 64-bit duration and saturates. -/
def sub (t u : Time) : Int := max (-2 ^ 63) (min (2 ^ 63 - 1) (t - u))

def seconds (d : Int) : ℚ := d / second

/-- `int(x)`. -/
def truncate (x : ℚ) : Int := x.num.tdiv x.den

structure TokenBucket where
  tokens : ℚ
  maxTokens : ℚ
  tokensPerSec : ℚ
  lastRefill : Time
  deriving DecidableEq

structure TokenBucketLimiter where
  buckets : Finmap (fun _ : String => TokenBucket)
  defaultRPM : Int
  defaultTPM : Int
  burstMultiplier : ℚ

def newTokenBucketLimiter (defaultRPM defaultTPM : Int) (burstMultiplier : ℚ) : TokenBucketLimiter :=
  ⟨∅, defaultRPM, defaultTPM, burstMultiplier⟩

namespace TokenBucketLimiter

def newBucket (l : TokenBucketLimiter) (rpm _tpm : Int) (now : Time) : TokenBucket :=
  let burst := truncate (rpm * l.burstMultiplier)
  { tokens := burst, maxTokens := burst, tokensPerSec := rpm / 60, lastRefill := now }

def refill (bucket : TokenBucket) (now : Time) : TokenBucket :=
  let tokens := bucket.tokens + seconds (sub now bucket.lastRefill) * bucket.tokensPerSec
  { bucket with
    tokens := if bucket.maxTokens < tokens then bucket.maxTokens else tokens, lastRefill := now }

/-- The bucket that `AllowToken` goes on with. -/
def bucketOf (l : TokenBucketLimiter) (key : String) (now : Time) : TokenBucket :=
  match l.buckets.lookup key with
  | some bucket => bucket
  | none => l.newBucket l.defaultRPM l.defaultTPM now

/-- `AllowToken`, which reads the clock for a new bucket and again to refill it. -/
def allowToken (l : TokenBucketLimiter) (key : String) (tokens : Int) (now refilled : Time) :
    TokenBucketLimiter × Bool :=
  let bucket := refill (l.bucketOf key now) refilled
  if (tokens : ℚ) ≤ bucket.tokens then
    ({ l with buckets := l.buckets.insert key { bucket with tokens := bucket.tokens - tokens } }, true)
  else ({ l with buckets := l.buckets.insert key bucket }, false)

def allow (l : TokenBucketLimiter) (key : String) (now refilled : Time) : TokenBucketLimiter × Bool :=
  l.allowToken key 1 now refilled

def getLimit (l : TokenBucketLimiter) (key : String) : Limit :=
  match l.buckets.lookup key with
  | none =>
    { rpm := l.defaultRPM, tpm := l.defaultTPM, burst := truncate (l.defaultRPM * l.burstMultiplier),
      remaining := 0, resetAt := Settlements.zeroTime }
  | some bucket =>
    { rpm := l.defaultRPM, tpm := l.defaultTPM, burst := truncate bucket.maxTokens,
      remaining := truncate bucket.tokens, resetAt := bucket.lastRefill + 60 * second }

/-- One round of the loop of `cleanup`. -/
def cleanBucket (l : TokenBucketLimiter) (now : Time) (key : String) : TokenBucketLimiter :=
  match l.buckets.lookup key with
  | none => l
  | some bucket =>
    if bucket.maxTokens ≤ bucket.tokens ∧ 10 * 60 * second < sub now bucket.lastRefill then
      { l with buckets := l.buckets.erase key }
    else l

/-- A pass of `cleanup`, which goes over the map in some order. -/
def cleanup (l : TokenBucketLimiter) (now : Time) (order : List String) : TokenBucketLimiter :=
  order.foldl (fun l key => l.cleanBucket now key) l

end TokenBucketLimiter

/-- The limiter with its clock and the log of what it has granted. -/
structure BucketSystem where
  limiter : TokenBucketLimiter
  now : Time
  granted : List (String × Time × Int)

namespace BucketSystem

open TokenBucketLimiter

/-- The calls of a sequential run; `lag` is what passes between the two readings of the clock in a call. -/
inductive Call
  | allowToken (key : String) (tokens : Int) (lag : Nat)
  | cleanup (order : List String)
  | tick (d : Nat)
  deriving DecidableEq

def start (defaultRPM defaultTPM : Int) (burstMultiplier : ℚ) (now : Time) : BucketSystem :=
  ⟨newTokenBucketLimiter defaultRPM defaultTPM burstMultiplier, now, []⟩

def allowToken (s : BucketSystem) (key : String) (tokens : Int) (lag : Nat) : BucketSystem × Bool :=
  let answer := s.limiter.allowToken key tokens s.now (s.now + lag)
  ({ limiter := answer.1, now := s.now + lag,
     granted := if answer.2 then s.granted ++ [(key, s.now + lag, tokens)] else s.granted }, answer.2)

def cleanup (s : BucketSystem) (order : List String) : BucketSystem :=
  { s with limiter := s.limiter.cleanup s.now order }

def step (s : BucketSystem) : Call → Option BucketSystem
  | .allowToken key tokens lag => some (s.allowToken key tokens lag).1
  | .cleanup order => if Maps.Enumerates s.limiter.buckets order then some (s.cleanup order) else none
  | .tick d => some { s with now := s.now + d }

end BucketSystem

end SupplyPlatform.Gateway
