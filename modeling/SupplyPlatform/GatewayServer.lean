import SupplyPlatform.GatewayPrincipal
import SupplyPlatform.SlidingWindow

namespace SupplyPlatform.Gateway

open Strings Transition

def extractRateLimitKey (r : WebRequest) : String :=
  if r.authorization = "" then ""
  else if hasPrefix r.authorization "Bearer " then
    let token := trimSpace (String.ofList (r.authorization.toList.drop "Bearer ".toList.length))
    if token ≠ "" then token else r.authorization
  else r.authorization

/-- The key that the middleware of the rate limit asks for. -/
def limitKey (r : WebRequest) : String :=
  if extractRateLimitKey r = "" then r.remoteAddr else extractRateLimitKey r

/-- A limiter as its middleware sees it. `Allow` has two critical sections: `ask` finds what the key has,
and `answer` admits the request or not. `log` has the keys of the requests admitted so far, with the times. -/
structure Limiter (Λ A : Type) where
  step : Λ → A → Option Λ
  ask : Nat → String → A
  answer : Nat → A
  tick : Nat → A
  background : A → Bool
  asked : Λ → Nat → Option String
  admits : Λ → Nat → Bool
  now : Λ → Time
  log : Λ → List (String × Time)
  getLimit : Λ → String → Limit
  of_ask : ∀ {s t n key}, step s (ask n key) = some t →
    log t = log s ∧ asked t n = some key ∧ ∀ m, m ≠ n → asked t m = asked s m
  of_answer : ∀ {s t n key}, step s (answer n) = some t → asked s n = some key →
    log t = (if admits s n then log s ++ [(key, now s)] else log s) ∧ ∀ m, m ≠ n → asked t m = asked s m
  of_tick : ∀ {s t d}, step s (tick d) = some t → log t = log s ∧ asked t = asked s
  of_background : ∀ {s t a}, background a = true → step s a = some t → log t = log s ∧ asked t = asked s

/-- Where a request stands before the middleware of the tokens, named after what comes next. -/
inductive GateStage
  | answer (r : WebRequest)
  | headers (r : WebRequest)
  | limited (r : WebRequest) (limit : Limit)
  | filter (r : WebRequest)
  | rejected (r : WebRequest) (rejection : Rejection)
  | passed (r : WebRequest)
  deriving DecidableEq

/-- A request that the limiter has admitted. -/
structure Admission where
  number : Nat
  request : WebRequest
  time : Time
  deriving DecidableEq

/-- The routes of the completions: the limiter, and the middleware behind it. -/
structure GatewayServer (Λ : Type) where
  limiter : Λ
  gate : Nat → Option GateStage
  admissions : List Admission
  auth : AuthGateway

namespace GatewayServer

/-- `limiter` is a step of the limiter's own cleanup, and `auth` one of the middleware of the tokens, or
of the token runtime. -/
inductive Action (A : Type)
  | arrive (n : Nat) (r : WebRequest)
  | answer (n : Nat)
  | headers (n : Nat)
  | filter (n : Nat)
  | limiter (a : A)
  | auth (a : AuthGateway.Action)
  | tick (d : Nat)

/-- The middleware of the tokens goes on by itself. -/
def within : AuthGateway.Action → Bool
  | .accept _ _ => false
  | .tick _ => false
  | _ => true

section

variable {Λ A : Type}

def start (limiter : Λ) (trustedProxies : List String) (remoteNow now : Time) : GatewayServer Λ :=
  ⟨limiter, fun _ => none, [], .start AuthGateway.bootstrapPaths trustedProxies remoteNow now⟩

def setGate (s : GatewayServer Λ) (n : Nat) (stage : GateStage) : GatewayServer Λ :=
  { s with gate := Function.update s.gate n (some stage) }

/-- `Allow` has returned. -/
def answerStep (L : Limiter Λ A) (s : GatewayServer Λ) (n : Nat) (r : WebRequest) (limiter : Λ) :
    GatewayServer Λ :=
  if L.admits s.limiter n then
    { s.setGate n (.filter r) with
      limiter := limiter, admissions := s.admissions ++ [⟨n, r, L.now s.limiter⟩] }
  else { s.setGate n (.headers r) with limiter := limiter }

/-- `requestIDMiddleware` and `queryKeyRejectMiddleware`, up to the middleware of the tokens. -/
def filterStep (lower : Char → Char) (s : GatewayServer Λ) (n : Nat) (r : WebRequest) : GatewayServer Λ :=
  let (r', _) := r.ensureRequestID s.auth.now
  match queryKeyReject lower s.auth.trustedProxies r' s.auth.now with
  | some rejection => s.setGate n (.rejected r rejection)
  | none => { s.setGate n (.passed r) with auth := s.auth.accept n r' }

def step (L : Limiter Λ A) (sha256 : String → String) (lower : Char → Char) (s : GatewayServer Λ) :
    Action A → Option (GatewayServer Λ)
  | .arrive n r =>
    if s.gate n = none ∧ r.path ∈ AuthGateway.completionRoutes then
      (L.step s.limiter (L.ask n (limitKey r))).map (fun limiter =>
        { s.setGate n (.answer r) with limiter := limiter })
    else none
  | .answer n =>
    match s.gate n with
    | some (.answer r) => (L.step s.limiter (L.answer n)).map (s.answerStep L n r)
    | _ => none
  | .headers n =>
    match s.gate n with
    | some (.headers r) => some (s.setGate n (.limited r (L.getLimit s.limiter (limitKey r))))
    | _ => none
  | .filter n =>
    match s.gate n with
    | some (.filter r) => some (s.filterStep lower n r)
    | _ => none
  | .limiter a =>
    if L.background a then (L.step s.limiter a).map (fun limiter => { s with limiter := limiter }) else none
  | .auth a =>
    if within a then (s.auth.step sha256 lower a).map (fun auth => { s with auth := auth }) else none
  | .tick d =>
    (L.step s.limiter (L.tick d)).map (fun limiter =>
      { s with limiter := limiter, auth := { s.auth with now := s.auth.now + d } })

/-- What a step asks of the limiter. -/
def limiterAction (L : Limiter Λ A) : Action A → Option A
  | .arrive n r => some (L.ask n (limitKey r))
  | .answer n => some (L.answer n)
  | .limiter a => some a
  | .tick d => some (L.tick d)
  | _ => none

/-- The limiter's step meets its condition, and what the token runtime draws is drawn for the first time. -/
def Fair (L : Limiter Λ A) (ok : Λ → A → Prop) (sha256 : String → String) (s : GatewayServer Λ)
    (a : Action A) : Prop :=
  (∀ b, limiterAction L a = some b → ok s.limiter b) ∧
    ∀ b, a = .auth b → AuthGateway.FreshRemote sha256 s.auth b

/-- The token that the handler has been given for the request. -/
def handledToken (s : GatewayServer Λ) (n : Nat) : Option String :=
  match s.auth.requests n with
  | some (.handled _ p _) => some p.tokenID
  | _ => none

/-- How many requests the handlers have got under the token, among those admitted at such a time. -/
def handledCount (s : GatewayServer Λ) (tokenID : String) (during : Time → Bool) : Nat :=
  s.admissions.countP (fun g => decide (s.handledToken g.number = some tokenID) && during g.time)

end

end GatewayServer

end SupplyPlatform.Gateway
