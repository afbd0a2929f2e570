import SupplyPlatform.Request
import Mathlib.Logic.Function.Basic

namespace SupplyPlatform.RateLimits

/-- `degradationHandler` says whether one is set. -/
structure RateLimitConfig where
  enabled : Bool
  requests : Int
  window : Int
  headerType : String
  limitByTenant : Bool
  limitByUser : Bool
  limitByIP : Bool
  limitByEndpoint : Bool
  degradationEnabled : Bool
  degradationHandler : Bool
  fallbackCode : Int
  deriving DecidableEq

def defaultRateLimitConfig : RateLimitConfig :=
  { enabled := true, requests := 1000, window := 60 * second, headerType := "X-RateLimit",
    limitByTenant := true, limitByUser := true, limitByIP := true, limitByEndpoint := true,
    degradationEnabled := true, degradationHandler := false, fallbackCode := 429 }

structure TokenBucket where
  capacity : Int
  rate : Int
  tokens : Int
  lastRefill : Time
  deriving DecidableEq

def newTokenBucket (capacity rate : Int) (now : Time) : TokenBucket :=
  { capacity := capacity, rate := rate, tokens := capacity, lastRefill := now }

namespace TokenBucket

/-- `refill`. The source multiplies in floating point, which is exact at rate 0, the only rate a
bucket of the middleware has. -/
def refill (tb : TokenBucket) (now : Time) : TokenBucket :=
  let tokensToAdd := Int.tdiv ((now - tb.lastRefill) * tb.rate) second + tb.tokens
  { tb with tokens := if tb.capacity < tokensToAdd then tb.capacity else tokensToAdd, lastRefill := now }

def allow (tb : TokenBucket) (now : Time) : TokenBucket × Bool :=
  if 0 < (tb.refill now).tokens then
    ({ tb.refill now with tokens := (tb.refill now).tokens - 1 }, true)
  else (tb.refill now, false)

def remaining (tb : TokenBucket) (now : Time) : TokenBucket × Int :=
  (tb.refill now, (tb.refill now).tokens)

end TokenBucket

structure RateLimitMiddleware where
  config : RateLimitConfig
  buckets : String → Option TokenBucket

/-- `NewRateLimitHandler`. -/
def newRateLimitHandler (config : RateLimitConfig) : RateLimitMiddleware :=
  { config := config, buckets := fun _ => none }

/-- How a request is answered, with the headers set before: by the next handler, by the degradation
handler, or by `http.Error`. -/
inductive Response
  | next (headers : List (String × String))
  | degraded (headers : List (String × String))
  | error (headers : List (String × String)) (text : String) (code : Int)
  deriving DecidableEq

def Response.admitted : Response → Bool
  | .next _ => true
  | _ => false

def getTenantIDFromRequest (r : HttpRequest) : Int :=
  match r.claims with
  | some claims => claims.tenantID
  | none => 0

def getUserIDFromRequest (r : HttpRequest) : String :=
  match r.claims with
  | some claims => claims.subjectID
  | none => "unknown"

def getRateLimitKey (config : RateLimitConfig) (r : HttpRequest) : String :=
  let keyParts :=
    (if config.limitByTenant then ["tenant:" ++ toString (getTenantIDFromRequest r)] else []) ++
    (if config.limitByUser then ["user:" ++ getUserIDFromRequest r] else []) ++
    (if config.limitByIP then ["ip:" ++ getClientIP r] else []) ++
    (if config.limitByEndpoint then [r.path] else [])
  if keyParts.isEmpty then "default" else ":".intercalate keyParts

namespace RateLimitMiddleware

/-- `getBucket`: a new bucket has the requests of a window for its capacity and is not refilled. -/
def getBucket (rl : RateLimitMiddleware) (key : String) (now : Time) : TokenBucket :=
  (rl.buckets key).getD (newTokenBucket rl.config.requests 0 now)

def store (rl : RateLimitMiddleware) (key : String) (bucket : TokenBucket) : RateLimitMiddleware :=
  { rl with buckets := Function.update rl.buckets key (some bucket) }

def handleRateLimitExceeded (config : RateLimitConfig) (now : Time) : Response :=
  let headers := [("Retry-After", toString (Int.tdiv config.window second)),
    ("X-RateLimit-Reset", toString ((now + config.window) / second))]
  if config.degradationEnabled && config.degradationHandler then .degraded headers
  else .error headers "rate limit exceeded" config.fallbackCode

def rateLimitHeaders (config : RateLimitConfig) (remaining : Int) (now : Time) :
    List (String × String) :=
  [(config.headerType ++ "-Limit", toString config.requests),
    (config.headerType ++ "-Remaining", toString remaining),
    (config.headerType ++ "-Reset", toString ((now + config.window) / second))]

/-- `ServeHTTP`, for requests in the order of their `Allow`: a bucket is never removed, and its lock is
held for each of its methods. -/
def serveHTTP (rl : RateLimitMiddleware) (r : HttpRequest) (now : Time) :
    RateLimitMiddleware × Response :=
  if rl.config.enabled = false then (rl, .next [])
  else
    let key := getRateLimitKey rl.config r
    match (rl.getBucket key now).allow now with
    | (bucket, false) => (rl.store key bucket, handleRateLimitExceeded rl.config now)
    | (bucket, true) =>
      (rl.store key (bucket.remaining now).1,
        .next (rateLimitHeaders rl.config (bucket.remaining now).2 now))

end RateLimitMiddleware

/-- A request and when it comes. -/
structure Arrival where
  request : HttpRequest
  time : Time
  deriving DecidableEq

/-- The middleware with the arrivals it has admitted, in order. -/
def serve (s : RateLimitMiddleware × List Arrival) (a : Arrival) :
    RateLimitMiddleware × List Arrival :=
  ((s.1.serveHTTP a.request a.time).1,
    if (s.1.serveHTTP a.request a.time).2.admitted then s.2 ++ [a] else s.2)

def serveAll (config : RateLimitConfig) (arrivals : List Arrival) : RateLimitMiddleware × List Arrival :=
  arrivals.foldl serve (newRateLimitHandler config, [])

end SupplyPlatform.RateLimits
