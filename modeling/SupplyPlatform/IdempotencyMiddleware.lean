import SupplyPlatform.Lib.Runs
import SupplyPlatform.IdempotencyRepository

namespace SupplyPlatform.Idempotency

open Relational

/-- What lies outside: the hash function, and PostgreSQL's reading of bytes as JSONB with the JSON
texts `json.Marshal` gives for an error and for an empty answer. -/
structure Env (J : Type) where
  sha256 : List UInt8 → Vector UInt8 32
  jsonb : List UInt8 → Option J
  errorBody : String → J
  okBody : J

structure IdempotencyConfig where
  ttl : Int
  processingTTL : Int
  deriving DecidableEq

/-- `NewIdempotencyMiddleware` fills in the defaults. -/
def newIdempotencyMiddleware (config : IdempotencyConfig) : IdempotencyConfig :=
  { ttl := if config.ttl = 0 then 24 * 3600 * second else config.ttl,
    processingTTL := if config.processingTTL = 0 then 30 * second else config.processingTTL }

/-- A request as `Wrap` reads it; an absent header is the empty string. -/
structure Request where
  path : String
  requestID : String
  idempotencyKey : String
  tenantID : Int
  operatorID : Int
  body : List UInt8
  deriving DecidableEq

def trimApiPath (path : String) : String :=
  if "/api/v1".toList.isPrefixOf path.toList then String.ofList (path.toList.drop 7) else path

def extractIdempotencyKey (r : Request) : Except String IdempotencyKey :=
  if r.requestID = "" then .error "missing X-Request-Id header"
  else if r.idempotencyKey = "" then .error "missing Idempotency-Key header"
  else if r.idempotencyKey.utf8ByteSize < 16 ∨ 128 < r.idempotencyKey.utf8ByteSize then
    .error "Idempotency-Key length must be 16-128"
  else .ok { tenantID := r.tenantID, operatorID := r.operatorID, apiPath := trimApiPath r.path,
             key := r.idempotencyKey }

def hexDigit (n : Nat) : Char :=
  if n < 10 then Char.ofNat (48 + n) else Char.ofNat (87 + n)

def hexEncode (bytes : List UInt8) : String :=
  String.ofList (bytes.flatMap (fun b => [hexDigit (b.toNat / 16), hexDigit (b.toNat % 16)]))

variable {J : Type}

def computePayloadHash (env : Env J) (body : List UInt8) : String :=
  hexEncode (env.sha256 body).toList

/-- The calls a handler makes on its `http.ResponseWriter`. -/
inductive WriterCall
  | writeHeader (statusCode : Int)
  | write (b : List UInt8)
  deriving DecidableEq

/-- `statusCapturingResponseWriter`: the zero status stays until `WriteHeader` is called. -/
structure CapturingWriter where
  statusCode : Int
  body : List UInt8
  deriving DecidableEq

def CapturingWriter.call (w : CapturingWriter) : WriterCall → CapturingWriter
  | .writeHeader statusCode => { w with statusCode := statusCode }
  | .write b => { w with body := w.body ++ b }

/-- One run of the wrapped handler. -/
structure HandlerRun where
  calls : List WriterCall
  err : Option String
  deriving DecidableEq

def HandlerRun.captured (run : HandlerRun) : CapturingWriter :=
  run.calls.foldl CapturingWriter.call { statusCode := 0, body := [] }

/-- The status the client receives: that of the first call, 200 when it is not `WriteHeader`. -/
def HandlerRun.wireStatus (run : HandlerRun) : Int :=
  match run.calls with
  | .writeHeader statusCode :: _ => statusCode
  | _ => 200

/-- What a client is answered; `aborted` is net/http refusing a status outside 100..999. -/
inductive Answer (J : Type)
  | error (status : Int) (code : String) (message : RepoError)
  | processing (retryAfterMs : Int) (requestID : String)
  | replay (status : Int) (body : Option J)
  | aborted
  | handled (run : HandlerRun)
  deriving DecidableEq

def writeIdempotentReplay (status : Int) (body : Option J) : Answer J :=
  if 100 ≤ status ∧ status ≤ 999 then .replay status body else .aborted

/-- Where a request stands in `Wrap`. `acquired` is the time of the upsert that gave it the record,
if it was an upsert that gave it. -/
inductive Phase (J : Type)
  | idle
  | arrived (req : Request)
  | checked (req : Request)
  | refused (req : Request) (err : DbError)
  | locked (req : Request) (record : IdempotencyRecord J) (acquired : Option Time)
  | executing (req : Request) (record : IdempotencyRecord J) (acquired : Option Time)
  | executed (req : Request) (record : IdempotencyRecord J) (acquired : Option Time)
      (run : HandlerRun)
  | done (answer : Answer J)
  deriving DecidableEq

/-- `Wrap` between `GetByKey` and `AcquireLock`. -/
def check (env : Env J) (config : IdempotencyConfig) (now : Time) (req : Request) :
    Except RepoError (Option (IdempotencyRecord J)) → Phase J
  | .error err => .done (.error 500 "IDEMPOTENCY_CHECK_FAILED" err)
  | .ok none => .checked req
  | .ok (some existing) =>
    match existing.status with
    | .succeeded =>
      if existing.payloadHash = computePayloadHash env req.body then
        .done (writeIdempotentReplay existing.responseCode existing.responseBody)
      else
        .done (.error 409 "IDEMPOTENCY_PAYLOAD_MISMATCH" (.message
          ("same idempotency key but different payload, original request_id: " ++
            existing.requestID)))
    | .processing =>
      if now - existing.updatedAt < config.processingTTL then
        .done (.processing ((config.processingTTL - (now - existing.updatedAt)) / 1000000)
          existing.requestID)
      else .checked req
    | .failed => .checked req

/-- The request id and the hash are filled in on the record in memory only. -/
def fillRecord (env : Env J) (req : Request) (record : IdempotencyRecord J) : IdempotencyRecord J :=
  if record.id ≠ 0 ∧ (record.requestID = "" ∨ record.payloadHash = "") then
    { record with requestID := req.requestID, payloadHash := computePayloadHash env req.body }
  else record

/-- `Wrap` after `AcquireLock`. -/
def acquired (env : Env J) (req : Request) (at_ : Option Time) :
    Except RepoError (IdempotencyRecord J) → Phase J
  | .error err => .done (.error 500 "IDEMPOTENCY_LOCK_FAILED" err)
  | .ok record => .locked req (fillRecord env req record) at_

/-- The update after the handler; a body that is no JSON fails the statement. -/
def storeResult (env : Env J) (t : IdempotencyTable J) (now : Time) (id : Int) (run : HandlerRun) :
    Option (IdempotencyTable J) :=
  match run.err with
  | some err => some (updateFailed t now id 500 (env.errorBody err))
  | none =>
    let successBody := if run.captured.body = [] then some env.okBody else env.jsonb run.captured.body
    successBody.map (updateSuccess t now id run.captured.statusCode)

inductive Event
  | began (n : Nat) (at_ : Time)
  | recorded (expiresAt : Time)
  deriving DecidableEq

/-- The table, the requests, the clock, the last value of the id sequence, and a log, newest first,
of the handlers that began and of the successes recorded with their expiry. -/
structure State (J : Type) where
  table : IdempotencyTable J
  phase : Nat → Phase J
  now : Time
  lastID : Int
  log : List Event

inductive Action
  | tick (elapsed : Nat)
  | arrive (n : Nat) (req : Request) (readErr : Option String)
  | getByKey (n : Nat) (lost : Bool)
  | upsert (n : Nat) (id : Int) (fault : Fault)
  | acquireExisting (n : Nat) (lost : Bool)
  | begin_ (n : Nat)
  | finish (n : Nat) (run : HandlerRun)
  | update (n : Nat) (fault : Fault)
  | stop (n : Nat)
  | deleteExpired
  deriving DecidableEq

def State.setPhase (s : State J) (n : Nat) (x : Phase J) : State J :=
  { s with phase := Function.update s.phase n x }

/-- A success written to the row with this id. -/
def recordedSuccess (t : IdempotencyTable J) (id : Int) (run : HandlerRun) : List Event :=
  if run.err = none then
    ((t.rows.filter (fun r => r.id = id)).map (fun r => .recorded r.expiresAt))
  else []

/-- One atomic step of the requests that carry `key`: a statement, or the handler beginning or
ending. A client whose request is answered may send another. -/
def step (env : Env J) (config : IdempotencyConfig) (key : IdempotencyKey) (s : State J) :
    Action → Option (State J)
  | .tick elapsed => some { s with now := s.now + elapsed }
  | .arrive n req readErr =>
    match s.phase n with
    | .idle | .done _ =>
      match extractIdempotencyKey req, readErr with
      | .error msg, _ =>
        some (s.setPhase n (.done (.error 400 "IDEMPOTENCY_KEY_INVALID" (.message msg))))
      | .ok _, some msg => some (s.setPhase n (.done (.error 400 "BODY_READ_ERROR" (.message msg))))
      | .ok k, none => if k = key then some (s.setPhase n (.arrived req)) else none
    | _ => none
  | .getByKey n lost =>
    match s.phase n with
    | .arrived req =>
      let found := if lost then .error (.wrap "failed to get idempotency record" .connection)
        else getByKey s.table s.now key
      some (s.setPhase n (check env config s.now req found))
    | _ => none
  | .upsert n id fault =>
    match s.phase n with
    | .checked req =>
      if s.lastID < id then
        match fault, upsert s.table s.now key config.ttl id with
        | .unapplied, _ => some (s.setPhase n (.refused req .connection))
        | .none, .ok (t, record) =>
          some ({ s with table := t, lastID := id }.setPhase n
            (acquired env req (some s.now) (.ok record)))
        | .applied, .ok (t, _) =>
          some ({ s with table := t, lastID := id }.setPhase n (.refused req .connection))
        | _, .error err => some (s.setPhase n (.refused req err))
      else none
    | _ => none
  | .acquireExisting n lost =>
    match s.phase n with
    | .refused req err =>
      let found := if lost then
          .error (.wrapGet "failed to acquire idempotency lock" err
            (.wrap "failed to get idempotency record" .connection))
        else acquireExisting s.table s.now key err
      some (s.setPhase n (acquired env req none found))
    | _ => none
  | .begin_ n =>
    match s.phase n with
    | .locked req record at_ =>
      some ({ s with log := .began n s.now :: s.log }.setPhase n (.executing req record at_))
    | _ => none
  | .finish n run =>
    match s.phase n with
    | .executing req record at_ => some (s.setPhase n (.executed req record at_ run))
    | _ => none
  | .update n fault =>
    match s.phase n with
    | .executed _ record _ run =>
      match fault, storeResult env s.table s.now record.id run with
      | .unapplied, _ => some (s.setPhase n (.done (.handled run)))
      | _, none => some (s.setPhase n (.done (.handled run)))
      | _, some t =>
        some ({ s with table := t, log := recordedSuccess s.table record.id run ++ s.log }.setPhase n
          (.done (.handled run)))
    | _ => none
  | .stop n => some (s.setPhase n .idle)
  | .deleteExpired => some { s with table := deleteExpired s.table s.now }

def State.start (t : IdempotencyTable J) (now : Time) : State J :=
  { table := t, phase := fun _ => .idle, now := now,
    lastID := (t.rows.map (·.id)).foldr max 0, log := [] }

end SupplyPlatform.Idempotency
