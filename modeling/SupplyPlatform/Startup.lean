import SupplyPlatform.BruteForce
import SupplyPlatform.Lib.Runs
import SupplyPlatform.MemoryExpiry

namespace SupplyPlatform.Startup

open Auth Transition

inductive Env
  | dev
  | staging
  | prod
  deriving DecidableEq

/-- What an interface variable holds that is given a pointer: a nil pointer leaves it not nil. -/
inductive PointerInterface
  | nilInterface
  | nilPointer
  | pointer
  deriving DecidableEq

/-- `*cache.RedisCache` handed over as a `TokenCacheBackend`. -/
def asTokenCacheBackend (connected : Bool) : PointerInterface :=
  if connected then .pointer else .nilPointer

inductive TokenStatusBackend
  | database (redisCache : PointerInterface)
  | memory
  deriving DecidableEq

/-- How `CheckTokenStatus` ends. -/
inductive Checked
  | status (status : String)
  | failed
  | panicked
  deriving DecidableEq

/-- `answer` is what the database, or the cache in front of it, says of the token. The in-memory backend
knows no revoked token, as nothing calls its `RevokeToken`. -/
def TokenStatusBackend.checkTokenStatus (answer : Option String) : TokenStatusBackend → Checked
  | .memory => .status "active"
  -- the pointer passes the test against nil, and its method follows it
  | .database .nilPointer => .panicked
  | .database _ =>
    match answer with
    | some status => .status status
    | none => .failed

/-- `Runtime`, the fields that the startup of the workers and the checks of a request read. -/
structure Runtime where
  env : Env
  db : Bool
  redisCache : Bool
  authEnabled : Bool
  tokenBackend : TokenStatusBackend
  revocationSubscriber : Bool
  deriving DecidableEq

/-- What `newDB` and `newRedisCache` say at startup. -/
structure Connections where
  db : Except String Unit
  redisCache : Except String Unit

/-- `buildSecurityBundle`: with a database the backend is the subscriber as well. -/
def buildSecurityBundle (db redisCache : Bool) : TokenStatusBackend × Bool :=
  if db then (.database (asTokenCacheBackend redisCache), true) else (.memory, false)

/-- `buildAPIBundle` fails where production has no idempotency repository, which comes with the
database. -/
def buildAPIBundle (env : Env) (db : Bool) : Except String Unit :=
  if !db && env = .prod then .error "idempotency repository unavailable" else .ok ()

def runtimeOf (env : Env) (db redisCache : Bool) : Except String Runtime :=
  match buildAPIBundle env db with
  | .error err => .error err
  | .ok () => .ok
    { env, db, redisCache, authEnabled := env ≠ .dev
      tokenBackend := (buildSecurityBundle db redisCache).1
      revocationSubscriber := (buildSecurityBundle db redisCache).2 }

/-- `BuildRuntime`. -/
def buildRuntime (env : Env) (c : Connections) : Except String Runtime :=
  match c.db with
  | .error err =>
    if env = .prod then .error ("database unavailable: " ++ err) else runtimeOf env false c.redisCache.isOk
  | .ok () => runtimeOf env true c.redisCache.isOk

/-- What `StartBackgroundWorkers` leaves running. -/
inductive Worker
  | outboxProcessor
  | partitionMaintenance
  | compensation
  deriving DecidableEq

/-- Where the main goroutine stands, named after what it does next; `subscribed` is the loop of
`SubscribeTokenRevoked`. -/
inductive Main
  | buildRuntime
  | startRevocationSubscriber (r : Runtime)
  | subscribed (r : Runtime)
  | startOutboxProcessor (r : Runtime)
  | startPartitionMaintenanceWorker (r : Runtime)
  | startCompensationWorker (r : Runtime)
  | awaitSignal
  | shutdown
  | exited (message : Option String)
  deriving DecidableEq

/-- Where a request stands on its way through the middlewares. -/
inductive Stage
  | idle
  | auth (x : InFlight)
  | rateLimit (r : HttpRequest)
  | served (r : HttpRequest)
  | ended
  deriving DecidableEq

def Stage.free : Stage → Bool
  | .auth _ | .rateLimit _ => false
  | _ => true

/-- The process of supply-api. `http` is the runtime behind the server, `serverErr` the channel that a
failure to listen is sent to, `cancelled` says that `rootCtx` is; `served` are the requests for protected
paths that the routes have been given. -/
structure Process where
  env : Env
  connections : Connections
  main : Main
  http : Option Runtime
  serverErr : Option String
  cancelled : Bool
  tokenCache : MemoryExpiry.TokenCache
  started : List Worker
  stage : Nat → Stage
  served : List HttpRequest
  now : Time

inductive Action
  | tick (elapsed : Nat)
  | proceed
  | receiveRevocation (payload : String)
  | contextDone
  | signal
  | serverFails (err : String)
  | accept (n : Nat) (r : HttpRequest)
  | verifyToken (n : Nat) (claims : Option TokenClaims)
  | checkTokenStatus (n : Nat) (answer : Option String)
  | rateLimit (n : Nat) (admitted : Bool)

namespace Process

def start (env : Env) (connections : Connections) (now : Time) : Process :=
  { env, connections, main := .buildRuntime, http := none, serverErr := none, cancelled := false
    tokenCache := .new, started := [], stage := fun _ => .idle, served := [], now }

def goTo (s : Process) (main : Main) : Process := { s with main := main }

/-- `Fatalf` ends the process, as does the end of `main`, or a signal nobody has asked for. -/
def exit (s : Process) (message : Option String) : Process :=
  { s with main := .exited message, http := none }

def fatal (s : Process) (otherwise err : String) : Process :=
  s.exit (some ((if s.env = .prod then "production startup requirement failed: " else otherwise) ++ err))

def startWorker (s : Process) (worker : Worker) : Process := { s with started := worker :: s.started }

/-- `startBackgroundWorkersWithViewAndFactory` once `startRevocationSubscriber` has returned. -/
def afterSubscriber (s : Process) (r : Runtime) : Process :=
  if r.db then s.goTo (.startOutboxProcessor r) else s.goTo .awaitSignal

/-- `startOutboxProcessor`: the broker is nil without a Redis cache. -/
def startOutboxProcessor (s : Process) (r : Runtime) : Process :=
  if r.redisCache then (s.startWorker .outboxProcessor).goTo (.startPartitionMaintenanceWorker r)
  else if r.env = .prod then s.fatal "failed to start background workers: " "outbox message broker unavailable"
  else s.goTo (.startPartitionMaintenanceWorker r)

/-- The next statement of the main goroutine, where it does not wait. -/
def proceed (s : Process) : Option Process :=
  match s.main with
  | .buildRuntime =>
    match buildRuntime s.env s.connections with
    | .error err => some (s.fatal "failed to build runtime: " err)
    | .ok r => some { s with main := .startRevocationSubscriber r, http := some r }
  | .startRevocationSubscriber r =>
    if r.revocationSubscriber && r.redisCache then some (s.goTo (.subscribed r))
    else some (s.afterSubscriber r)
  | .startOutboxProcessor r => some (s.startOutboxProcessor r)
  | .startPartitionMaintenanceWorker r =>
    some ((s.startWorker .partitionMaintenance).goTo (.startCompensationWorker r))
  | .startCompensationWorker _ => some ((s.startWorker .compensation).goTo .awaitSignal)
  | .awaitSignal => s.serverErr.map (fun err => s.exit (some ("server failed: " ++ err)))
  | .shutdown => some (s.exit none)
  | .subscribed _ | .exited _ => none

/-- SIGINT or SIGTERM: until `signal.Notify` has been called they kill the process. -/
def signal (s : Process) : Option Process :=
  match s.main with
  | .awaitSignal => some { s with main := .shutdown, cancelled := true }
  | .shutdown | .exited _ => none
  | _ => some (s.exit none)

def setStage (s : Process) (n : Nat) (x : Stage) : Process :=
  { s with stage := Function.update s.stage n x }

/-- `TokenVerifyMiddleware` has gone as far as `x`. -/
def inAuth (s : Process) (n : Nat) : InFlight → Process
  | .passed r => s.setStage n (.rateLimit r)
  | .rejected _ _ => s.setStage n .ended
  | x => s.setStage n (.auth x)

/-- The routes are given the request. -/
def serve (s : Process) (n : Nat) (r : HttpRequest) : Process :=
  { s with served := if shouldBypassAuth r.path then s.served else r :: s.served }.setStage n (.served r)

/-- `checkTokenStatus` of the middleware: its own cache first, then the backend. -/
def checkTokenStatus (s : Process) (backend : TokenStatusBackend) (tokenID : String)
    (answer : Option String) : Checked :=
  match s.tokenCache.get s.now tokenID with
  | (status, true) => .status status
  | (_, false) => backend.checkTokenStatus answer

/-- A request that has passed `QueryKeyRejectMiddleware` and `BearerExtractMiddleware` is accepted; in the
development environment the chain has neither these two, nor the check of tokens, nor a rate limit. -/
def accept (s : Process) (runtime : Runtime) (n : Nat) (r : HttpRequest) : Process :=
  if runtime.env = .dev then s.serve n r
  else s.inAuth n ((⟨runtime.authEnabled, none⟩ : AuthMiddleware).accept r s.now).2

/-- `TokenVerifyMiddleware` once the status of the token has been asked for; a panic goes past
`Recovery`, which stands behind this middleware, and ends the request. -/
def statusChecked (s : Process) (n : Nat) (r : HttpRequest) (claims : TokenClaims) : Checked → Process
  | .panicked => s.setStage n .ended
  | .failed => s.inAuth n (.rejected r errStatusUnavailable)
  | .status status =>
    if status = "active" then s.inAuth n (.passed { r with claims := some claims })
    else s.inAuth n (.rejected r errTokenInactive)

/-- A step of the main goroutine, of the server or of one request. Nothing but `shutdown` cancels
`rootCtx`, and nothing writes to the cache of the middleware. -/
def step (s : Process) : Action → Option Process
  | .tick elapsed => some { s with now := s.now + elapsed }
  | .proceed => s.proceed
  | .receiveRevocation _ =>
    match s.main with
    | .subscribed _ => some s
    | _ => none
  | .contextDone =>
    match s.main with
    | .subscribed r => if s.cancelled then some (s.afterSubscriber r) else none
    | _ => none
  | .signal => s.signal
  | .serverFails err => s.http.map (fun _ => { s with serverErr := some err })
  | .accept n r =>
    if (s.stage n).free && s.serverErr.isNone then s.http.map (fun runtime => s.accept runtime n r) else none
  | .verifyToken n claims =>
    match s.http, s.stage n with
    | some _, .auth (.verifyToken r _) =>
      match claims with
      | none => some (s.inAuth n (.rejected r errInvalidToken))
      | some claims => some (s.inAuth n (.checkTokenStatus r claims))
    | _, _ => none
  | .checkTokenStatus n answer =>
    match s.http, s.stage n with
    | some runtime, .auth (.checkTokenStatus r claims) =>
      some (s.statusChecked n r claims (s.checkTokenStatus runtime.tokenBackend claims.id answer))
    | _, _ => none
  | .rateLimit n admitted =>
    match s.http, s.stage n with
    | some _, .rateLimit r => some (if admitted then s.serve n r else s.setStage n .ended)
    | _, _ => none

end Process

end SupplyPlatform.Startup
