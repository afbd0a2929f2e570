import SupplyPlatform.QueryKeys
import SupplyPlatform.TokenAuth

namespace SupplyPlatform.Gateway

open Settlements (zeroTime)
open Strings Transition
open TokenRuntime (Runtime TokenRecord TokenStatus VerifiedToken extractBearerToken)

/-- The `data` of an answer of the introspection endpoint. -/
structure Introspection where
  tokenID : String
  subjectID : String
  role : String
  status : String
  scope : List String
  issuedAt : Time
  expiresAt : Time
  deriving DecidableEq

def statusText : TokenStatus → String
  | .active => "active"
  | .revoked => "revoked"
  | .expired => "expired"

/-- What the introspection endpoint makes of a record. -/
def introspection (record : TokenRecord) : Introspection :=
  ⟨record.tokenID, record.subjectID, record.role, statusText record.status, record.scope,
    record.issuedAt, record.expiresAt⟩

structure RemoteResolvedToken where
  status : String
  expiresAt : Time
  deriving DecidableEq

structure RemoteTokenRuntime where
  records : Finmap (fun _ : String => RemoteResolvedToken)

namespace RemoteTokenRuntime

/-- The status that `Verify` records. -/
def recordedStatus (lower : Char → Char) (data : Introspection) : String :=
  toLower lower (trimSpace data.status)

/-- `Verify` from the decoded answer on. -/
def verify (lower : Char → Char) (rt : RemoteTokenRuntime) (data : Introspection) :
    Except String (RemoteTokenRuntime × VerifiedToken) :=
  if trimSpace data.tokenID = "" then .error "token introspection response missing token_id"
  else .ok (⟨rt.records.insert data.tokenID ⟨recordedStatus lower data, data.expiresAt⟩⟩,
    ⟨data.tokenID, data.subjectID, data.role, data.scope, data.issuedAt, data.expiresAt⟩)

def resolve (rt : RemoteTokenRuntime) (now : Time) (tokenID : String) : Except String String :=
  match rt.records.lookup tokenID with
  | none => .error "token status not cached; verify must run before resolve"
  | some record =>
    if record.expiresAt ≠ zeroTime ∧ ¬now < record.expiresAt ∧ record.status = "active" then .ok "expired"
    else .ok record.status

end RemoteTokenRuntime

/-- Where a request stands in `tokenAuthMiddleware`, named after what comes next. `late` says that the
token had been revoked when the introspection of the request was answered; `.error` is a status of the
answer other than 200. -/
inductive AuthStage
  | introspect (r : WebRequest) (requestID rawToken : String)
  | record (r : WebRequest) (requestID : String) (answer : Except Nat Introspection) (late : Bool)
  | resolve (r : WebRequest) (requestID : String) (claims : VerifiedToken) (late : Bool)
  | authorize (r : WebRequest) (requestID : String) (claims : VerifiedToken) (late : Bool)
  | passed (r : WebRequest)
  | handled (r : WebRequest) (principal : Principal) (late : Bool)
  | refused (r : WebRequest) (response : ErrorResponse)

/-- The gateway's requests over the map they share, with the token runtime they ask. `revoked` are the
ids of the tokens that have been revoked there. -/
structure AuthGateway where
  paths : PathConfig
  trustedProxies : List String
  remote : Runtime
  revoked : List String
  runtime : RemoteTokenRuntime
  now : Time
  requests : Nat → Option AuthStage
  audit : List (Nat × AuditEvent)

namespace AuthGateway

/-- `answer` is the introspection at the token runtime, and with `fail` the call comes back with an
error on the way there or back. -/
inductive Action
  | remote (a : TokenRuntime.Action)
  | tick (elapsed : Nat)
  | accept (n : Nat) (r : WebRequest)
  | answer (n : Nat)
  | fail (n : Nat)
  | record (n : Nat)
  | resolve (n : Nat)
  | authorize (n : Nat)

def start (paths : PathConfig) (trustedProxies : List String) (remoteNow now : Time) : AuthGateway :=
  ⟨withDefaults paths, trustedProxies, .start remoteNow, [], ⟨∅⟩, now, fun _ => none, []⟩

def event (s : AuthGateway) (r : WebRequest) (eventName requestID tokenID subjectID resultCode : String) :
    AuditEvent :=
  { eventName := eventName, requestID := requestID, tokenID := tokenID, subjectID := subjectID,
    route := r.path, resultCode := resultCode, clientIP := extractClientIP s.trustedProxies r,
    createdAt := s.now }

def setStage (s : AuthGateway) (n : Nat) (stage : AuthStage) : AuthGateway :=
  { s with requests := Function.update s.requests n (some stage) }

def exit (s : AuthGateway) (n : Nat) (e : AuditEvent) (stage : AuthStage) : AuthGateway :=
  { s.setStage n stage with audit := (n, e) :: s.audit }

def refuse (s : AuthGateway) (n : Nat) (r : WebRequest) (requestID eventName tokenID subjectID : String)
    (status : Nat) (code message : String) : AuthGateway :=
  s.exit n (s.event r eventName requestID tokenID subjectID code)
    (.refused r ⟨status, requestID, code, message⟩)

def accept (s : AuthGateway) (n : Nat) (r : WebRequest) : AuthGateway :=
  if s.paths.shouldProtect r.path = false then s.setStage n (.passed r)
  else
    let (r', requestID) := r.ensureRequestID s.now
    match extractBearerToken r'.authorization with
    | none => s.refuse n r' requestID "token.authn.fail" "" "" 401 "AUTH_MISSING_BEARER"
        "missing bearer token"
    | some rawToken => s.setStage n (.introspect r' requestID rawToken)

/-- `Verify` has returned an error. -/
def verifyFailed (s : AuthGateway) (n : Nat) (r : WebRequest) (requestID : String) : AuthGateway :=
  s.refuse n r requestID "token.authn.fail" "" "" 401 "AUTH_INVALID_TOKEN" "invalid bearer token"

def answerStep (s : AuthGateway) (n : Nat) (r : WebRequest) (requestID rawToken : String) : AuthGateway :=
  let result := s.remote.store.introspect s.remote.now rawToken
  let s' := { s with remote := s.remote.answer result }
  match result.2 with
  | .error _ => s'.setStage n (.record r requestID (.error 422) false)
  | .ok found =>
    s'.setStage n (.record r requestID (.ok (introspection found)) (decide (found.tokenID ∈ s.revoked)))

def recordStep (lower : Char → Char) (s : AuthGateway) (n : Nat) (r : WebRequest) (requestID : String)
    (answer : Except Nat Introspection) (late : Bool) : AuthGateway :=
  match answer with
  | .error _ => s.verifyFailed n r requestID
  | .ok data =>
    match s.runtime.verify lower data with
    | .error _ => s.verifyFailed n r requestID
    | .ok (runtime, claims) => { s with runtime := runtime }.setStage n (.resolve r requestID claims late)

def resolveStep (s : AuthGateway) (n : Nat) (r : WebRequest) (requestID : String)
    (claims : VerifiedToken) (late : Bool) : AuthGateway :=
  if s.runtime.resolve s.now claims.tokenID = .ok "active" then
    s.setStage n (.authorize r requestID claims late)
  else
    s.refuse n r requestID "token.authn.fail" claims.tokenID claims.subjectID 401 "AUTH_TOKEN_INACTIVE"
      "token is inactive"

def authorizeStep (s : AuthGateway) (n : Nat) (r : WebRequest) (requestID : String)
    (claims : VerifiedToken) (late : Bool) : AuthGateway :=
  if Gateway.authorize r.path r.method claims.scope claims.role then
    s.exit n (s.event r "token.authn.success" requestID claims.tokenID claims.subjectID "OK")
      (.handled { r with requestID := some requestID }
        ⟨requestID, claims.tokenID, claims.subjectID, claims.role, claims.scope⟩ late)
  else
    s.refuse n r requestID "token.authz.denied" claims.tokenID claims.subjectID 403
      "AUTH_SCOPE_DENIED" "scope denied"

/-- The ids of the tokens that are revoked once `a` is done at the token runtime. -/
def revokedBy (s : AuthGateway) : TokenRuntime.Action → List String
  | .revoke tokenID reason =>
    if (s.remote.store.revoke s.remote.now tokenID reason).2.isOk then tokenID :: s.revoked
    else s.revoked
  | _ => s.revoked

def step (sha256 : String → String) (lower : Char → Char) (s : AuthGateway) : Action → Option AuthGateway
  | .remote a =>
    (s.remote.step sha256 a).map (fun remote => { s with remote := remote, revoked := s.revokedBy a })
  | .tick elapsed => some { s with now := s.now + elapsed }
  | .accept n r =>
    match s.requests n with
    | none => some (s.accept n r)
    | some _ => none
  | .answer n =>
    match s.requests n with
    | some (.introspect r requestID rawToken) => some (s.answerStep n r requestID rawToken)
    | _ => none
  | .fail n =>
    match s.requests n with
    | some (.introspect r requestID _) => some (s.verifyFailed n r requestID)
    | some (.record r requestID _ _) => some (s.verifyFailed n r requestID)
    | _ => none
  | .record n =>
    match s.requests n with
    | some (.record r requestID answer late) => some (s.recordStep lower n r requestID answer late)
    | _ => none
  | .resolve n =>
    match s.requests n with
    | some (.resolve r requestID claims late) => some (s.resolveStep n r requestID claims late)
    | _ => none
  | .authorize n =>
    match s.requests n with
    | some (.authorize r requestID claims late) => some (s.authorizeStep n r requestID claims late)
    | _ => none

end AuthGateway

end SupplyPlatform.Gateway
