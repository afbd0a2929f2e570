import SupplyPlatform.Lib.Runs
import SupplyPlatform.Request
import SupplyPlatform.Settlement

namespace SupplyPlatform.Auth

open Settlements (zeroTime)

structure AttemptRecord where
  count : Int
  lockedUntil : Time
  lastAttempt : Time
  deriving DecidableEq

structure BruteForceProtection where
  maxAttempts : Int
  lockoutDuration : Int
  attempts : String → Option AttemptRecord
  cleanupCounter : Int

def newBruteForceProtection (maxAttempts lockoutDuration : Int) : BruteForceProtection :=
  { maxAttempts := maxAttempts, lockoutDuration := lockoutDuration, attempts := fun _ => none,
    cleanupCounter := 0 }

namespace BruteForceProtection

/-- What a cleanup removes; twice the lockout is computed in 64 bits. -/
def expired (b : BruteForceProtection) (now : Time) (record : AttemptRecord) : Bool :=
  record.lockedUntil < now &&
    record.lastAttempt < now + Int.bmod (-b.lockoutDuration * 2) (2 ^ 64)

def cleanupExpiredLocked (b : BruteForceProtection) (now : Time) : BruteForceProtection :=
  { b with attempts := fun ip => (b.attempts ip).filter (fun record => !b.expired now record) }

def triggerCleanup (b : BruteForceProtection) (now : Time) : BruteForceProtection :=
  if 100 ≤ b.cleanupCounter + 1 then ({ b with cleanupCounter := 0 } : BruteForceProtection).cleanupExpiredLocked now
  else { b with cleanupCounter := b.cleanupCounter + 1 }

def store (b : BruteForceProtection) (ip : String) (record : Option AttemptRecord) :
    BruteForceProtection :=
  { b with attempts := Function.update b.attempts ip record }

/-- A record with one more failure. -/
def failed (b : BruteForceProtection) (now : Time) (record : AttemptRecord) : AttemptRecord :=
  { count := record.count + 1,
    lockedUntil :=
      if b.maxAttempts ≤ record.count + 1 then now + b.lockoutDuration else record.lockedUntil,
    lastAttempt := now }

def recordFailedAttempt (b : BruteForceProtection) (ip : String) (now : Time) : BruteForceProtection :=
  let record := (b.attempts ip).getD ⟨0, zeroTime, zeroTime⟩
  (b.store ip (some (b.failed now record))).triggerCleanup now

/-- `IsLocked`, with the time that remains. It writes to the record: one whose lock is before now starts
over, and a record that has never been locked has the zero time there. -/
def isLocked (b : BruteForceProtection) (ip : String) (now : Time) : BruteForceProtection × Bool × Int :=
  match b.attempts ip with
  | none => (b, false, 0)
  | some record =>
    if b.maxAttempts ≤ record.count ∧ now < record.lockedUntil then (b, true, record.lockedUntil - now)
    else if record.lockedUntil < now then
      (b.store ip (some { record with count := 0, lockedUntil := zeroTime }), false, 0)
    else (b, false, 0)

def reset (b : BruteForceProtection) (ip : String) : BruteForceProtection := b.store ip none

def cleanExpired (b : BruteForceProtection) (now : Time) : BruteForceProtection :=
  b.cleanupExpiredLocked now

end BruteForceProtection

/-- What `writeAuthError` sends. -/
structure AuthError where
  status : Int
  code : String
  message : String
  deriving DecidableEq

def errAccountLocked (remaining : Int) : AuthError :=
  ⟨429, "AUTH_ACCOUNT_LOCKED",
    "too many failed attempts, try again in " ++ durationString remaining.toNat⟩

def errTokenMissing : AuthError := ⟨401, "AUTH_TOKEN_MISSING", "bearer token is missing"⟩

def errTokenInvalid : AuthError := ⟨401, "AUTH_TOKEN_INVALID", "bearer token is invalid"⟩

def errInvalidToken : AuthError := ⟨401, "AUTH_INVALID_TOKEN", "token verification failed"⟩

def errStatusUnavailable : AuthError :=
  ⟨401, "AUTH_TOKEN_STATUS_UNAVAILABLE", "token status backend is unavailable"⟩

def errTokenInactive : AuthError := ⟨401, "AUTH_TOKEN_INACTIVE", "token is revoked or expired"⟩

/-- Where a request stands in `TokenVerifyMiddleware`, named after what comes next. `passed` has reached
the next handler, with the claims now in its context. -/
inductive InFlight
  | idle
  | verifyToken (r : HttpRequest) (tokenString : String)
  | checkTokenStatus (r : HttpRequest) (claims : TokenClaims)
  | passed (r : HttpRequest)
  | rejected (r : HttpRequest) (err : AuthError)
  deriving DecidableEq

def InFlight.free : InFlight → Bool
  | .idle => true
  | .passed _ => true
  | .rejected _ _ => true
  | _ => false

structure AuthMiddleware where
  enabled : Bool
  bruteForce : Option BruteForceProtection

def shouldBypassAuth (path : String) : Bool :=
  path = "/actuator/health" || path = "/actuator/health/live" || path = "/actuator/health/ready"

/-- The request past the brute-force check. -/
def bearer (r : HttpRequest) : InFlight :=
  match r.bearerToken with
  | none => .rejected r errTokenMissing
  | some tokenString =>
    if tokenString = "" then .rejected r errTokenInvalid else .verifyToken r tokenString

/-- `TokenVerifyMiddleware` up to the verification. -/
def AuthMiddleware.accept (m : AuthMiddleware) (r : HttpRequest) (now : Time) :
    AuthMiddleware × InFlight :=
  if shouldBypassAuth r.path then (m, .passed r)
  else if m.enabled = false then (m, .passed r)
  else
    match m.bruteForce with
    | none => (m, bearer r)
    | some b =>
      match b.isLocked (getClientIP r) now with
      | (b', true, remaining) => ({ m with bruteForce := some b' }, .rejected r (errAccountLocked remaining))
      | (b', false, _) => ({ m with bruteForce := some b' }, bearer r)

/-- The middleware with the requests in it; `failures` are the failed verifications of an address since
its last `Reset`, the newest first. -/
structure Server where
  auth : AuthMiddleware
  request : Nat → InFlight
  failures : String → List Time
  now : Time

/-- `claims` is the answer of `verifyToken`, `status` that of `checkTokenStatus`. -/
inductive Server.Action
  | tick (elapsed : Nat)
  | accept (n : Nat) (r : HttpRequest)
  | verifyToken (n : Nat) (claims : Option TokenClaims)
  | checkTokenStatus (n : Nat) (status : Option String)
  | reset (ip : String)
  | cleanExpired

namespace Server

def setRequest (s : Server) (n : Nat) (x : InFlight) : Server :=
  { s with request := Function.update s.request n x }

/-- The failed verification of a request from `ip`. -/
def fail (s : Server) (ip : String) : Server :=
  { s with auth := { s.auth with bruteForce := s.auth.bruteForce.map (fun b => b.recordFailedAttempt ip s.now) },
           failures := Function.update s.failures ip (s.now :: s.failures ip) }

def step (s : Server) : Server.Action → Option Server
  | .tick elapsed => some { s with now := s.now + elapsed }
  | .accept n r =>
    if (s.request n).free then
      some ({ s with auth := (s.auth.accept r s.now).1 }.setRequest n (s.auth.accept r s.now).2)
    else none
  | .verifyToken n claims =>
    match s.request n with
    | .verifyToken r _ =>
      match claims with
      | none => some ((s.fail (getClientIP r)).setRequest n (.rejected r errInvalidToken))
      | some claims => some (s.setRequest n (.checkTokenStatus r claims))
    | _ => none
  | .checkTokenStatus n status =>
    match s.request n with
    | .checkTokenStatus r claims =>
      match status with
      | none => some (s.setRequest n (.rejected r errStatusUnavailable))
      | some status =>
        if status = "active" then some (s.setRequest n (.passed { r with claims := some claims }))
        else some (s.setRequest n (.rejected r errTokenInactive))
    | _ => none
  | .reset ip =>
    some { s with auth := { s.auth with bruteForce := s.auth.bruteForce.map (fun b => b.reset ip) },
                  failures := Function.update s.failures ip [] }
  | .cleanExpired =>
    some { s with auth := { s.auth with bruteForce := s.auth.bruteForce.map (fun b => b.cleanExpired s.now) } }

def start (maxAttempts lockoutDuration : Int) (now : Time) : Server :=
  { auth := ⟨true, some (newBruteForceProtection maxAttempts lockoutDuration)⟩, request := fun _ => .idle,
    failures := fun _ => [], now := now }

end Server

end SupplyPlatform.Auth
