import SupplyPlatform.ScopeAuthorizer
import SupplyPlatform.TokenRuntimeIssue
import SupplyPlatform.WebRequest

namespace SupplyPlatform.TokenRuntime

open Settlements (zeroTime)
open InMemoryRuntimeStore Strings Transition

def extractBearerToken (authHeader : String) : Option String :=
  if hasPrefix authHeader "Bearer " then
    let token := trimSpace (String.ofList (authHeader.toList.drop "Bearer ".toList.length))
    if token = "" then none else some token
  else none

/-- `ready` says that the verifier, the resolver and the authorizer are there. -/
structure AuthMiddlewareConfig where
  paths : PathConfig
  ready : Bool
  deriving DecidableEq

/-- Where a request stands in `TokenAuthMiddleware`, named after what comes next. `passed` is a request
whose path is not protected, and for `handled` the handler has run. -/
inductive Stage
  | verify (r : WebRequest) (requestID rawToken : String)
  | resolve (r : WebRequest) (requestID rawToken : String) (claims : VerifiedToken)
  | authorize (r : WebRequest) (requestID rawToken : String) (claims : VerifiedToken)
  | passed (r : WebRequest)
  | handled (r : WebRequest) (principal : Principal)
  | refused (r : WebRequest) (response : ErrorResponse)
  deriving DecidableEq

/-- The runtime with the requests in the middleware over it, and the audit events with the request each
is about, the newest first. -/
structure Server where
  cfg : AuthMiddlewareConfig
  runtime : Runtime
  requests : Nat → Option Stage
  audit : List (Nat × AuditEvent)

inductive Server.Action
  | runtime (a : TokenRuntime.Action)
  | accept (n : Nat) (r : WebRequest)
  | verify (n : Nat)
  | resolve (n : Nat)
  | authorize (n : Nat)

namespace Server

def start (cfg : AuthMiddlewareConfig) (now : Time) : Server :=
  ⟨{ cfg with paths := withDefaults cfg.paths }, .start now, fun _ => none, []⟩

/-- The event that the request emits, with the ids it knows by then. -/
def event (s : Server) (r : WebRequest) (eventName requestID tokenID subjectID resultCode : String) :
    AuditEvent :=
  { eventName := eventName, requestID := requestID, tokenID := tokenID, subjectID := subjectID,
    route := r.path, resultCode := resultCode, clientIP := extractClientIP r,
    createdAt := s.runtime.now }

def setStage (s : Server) (n : Nat) (stage : Stage) : Server :=
  { s with requests := Function.update s.requests n (some stage) }

/-- An exit of the middleware: one event, and the request is done. -/
def exit (s : Server) (n : Nat) (e : AuditEvent) (stage : Stage) : Server :=
  { s.setStage n stage with audit := (n, e) :: s.audit }

def refuse (s : Server) (n : Nat) (r : WebRequest) (requestID eventName tokenID subjectID : String)
    (status : Nat) (code message : String) : Server :=
  s.exit n (s.event r eventName requestID tokenID subjectID code)
    (.refused r ⟨status, requestID, code, message⟩)

def accept (s : Server) (n : Nat) (r : WebRequest) : Server :=
  if s.cfg.paths.shouldProtect r.path = false then s.setStage n (.passed r)
  else
    let (r', requestID) := r.ensureRequestID s.runtime.now
    if s.cfg.ready = false then
      s.setStage n (.refused r' ⟨503, requestID, "AUTH_NOT_READY",
        "auth middleware dependencies are not ready"⟩)
    else
      match extractBearerToken r'.authorization with
      | none => s.refuse n r' requestID "token.authn.fail" "" "" 401 "AUTH_MISSING_BEARER"
          "missing bearer token"
      | some rawToken => s.setStage n (.verify r' requestID rawToken)

def verifyStep (s : Server) (n : Nat) (r : WebRequest) (requestID rawToken : String) : Server :=
  match s.runtime.store.verify rawToken with
  | .error _ => s.refuse n r requestID "token.authn.fail" "" "" 401 "AUTH_INVALID_TOKEN"
      "invalid bearer token"
  | .ok claims => s.setStage n (.resolve r requestID rawToken claims)

/-- `Resolve` is the step of the runtime, here with what the middleware makes of its answer. -/
def resolveStep (s : Server) (n : Nat) (r : WebRequest) (requestID rawToken : String)
    (claims : VerifiedToken) : Server :=
  let s' := { s with
    runtime := s.runtime.answer (s.runtime.store.lookup s.runtime.now claims.tokenID) }
  match (s.runtime.store.resolve s.runtime.now claims.tokenID).2 with
  | .ok .active => s'.setStage n (.authorize r requestID rawToken claims)
  | _ => s'.refuse n r requestID "token.authn.fail" claims.tokenID claims.subjectID 401
      "AUTH_TOKEN_INACTIVE" "token is inactive"

def authorizeStep (s : Server) (n : Nat) (r : WebRequest) (requestID : String)
    (claims : VerifiedToken) : Server :=
  if TokenRuntime.authorize r.path r.method claims.scope claims.role then
    s.exit n (s.event r "token.authn.success" requestID claims.tokenID claims.subjectID "OK")
      (.handled { r with requestID := some requestID }
        ⟨requestID, claims.tokenID, claims.subjectID, claims.role, claims.scope⟩)
  else
    s.refuse n r requestID "token.authz.denied" claims.tokenID claims.subjectID 403
      "AUTH_SCOPE_DENIED" "scope denied"

def step (sha256 : String → String) (s : Server) : Action → Option Server
  | .runtime a => (s.runtime.step sha256 a).map (fun runtime => { s with runtime := runtime })
  | .accept n r =>
    match s.requests n with
    | none => some (s.accept n r)
    | some _ => none
  | .verify n =>
    match s.requests n with
    | some (.verify r requestID rawToken) => some (s.verifyStep n r requestID rawToken)
    | _ => none
  | .resolve n =>
    match s.requests n with
    | some (.resolve r requestID rawToken claims) => some (s.resolveStep n r requestID rawToken claims)
    | _ => none
  | .authorize n =>
    match s.requests n with
    | some (.authorize r requestID _ claims) => some (s.authorizeStep n r requestID claims)
    | _ => none

/-- What is drawn is drawn for the first time. -/
def FreshDraws (sha256 : String → String) (s : Server) : Action → Prop
  | .runtime a => s.runtime.FreshDraws sha256 a
  | _ => True

end Server

end SupplyPlatform.TokenRuntime
