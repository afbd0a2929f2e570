import Mathlib.Data.List.Sort
import SupplyPlatform.Lib.Maps
import SupplyPlatform.Lib.Runs
import SupplyPlatform.Lib.Strings
import SupplyPlatform.Request
import SupplyPlatform.Settlement

namespace SupplyPlatform.TokenRuntime

open Settlements (zeroTime)
open Strings

inductive TokenStatus
  | active
  | revoked
  | expired
  deriving DecidableEq

structure TokenRecord where
  tokenID : String
  accessToken : String
  subjectID : String
  role : String
  scope : List String
  issuedAt : Time
  expiresAt : Time
  status : TokenStatus
  requestID : String
  revokedReason : String
  deriving DecidableEq

structure IssueTokenInput where
  subjectID : String
  role : String
  scope : List String
  ttl : Int
  requestID : String
  idempotencyKey : String
  deriving DecidableEq

structure IdempotencyEntry where
  requestHash : String
  tokenID : String
  deriving DecidableEq

abbrev GoMap (ν : Type) := Finmap (fun _ : String => ν)

structure InMemoryRuntimeStore where
  records : GoMap TokenRecord
  tokenToID : GoMap String
  idempotencyByKey : GoMap IdempotencyEntry

/-- The record that `Issue` has made before it takes the lock. -/
structure Candidate where
  record : TokenRecord
  idempotencyKey : String
  requestHash : String
  deriving DecidableEq

/-- `NewAuthError`. -/
structure AuthError where
  code : String
  cause : String
  deriving DecidableEq

structure VerifiedToken where
  tokenID : String
  subjectID : String
  role : String
  scope : List String
  issuedAt : Time
  expiresAt : Time
  deriving DecidableEq

def hexDigit (n : Nat) : Char := Nat.digitChar (n % 16)

/-- `hex.EncodeToString`. -/
def encodeToString (bytes : List UInt8) : String :=
  String.ofList (bytes.flatMap (fun b => [hexDigit (b.toNat / 16), hexDigit b.toNat]))

/-- `generateTokenID`, of what `rand.Read` gives. -/
def generateTokenID (entropy : Except String (List UInt8)) : Except String String :=
  entropy.map (fun bytes => "tok_" ++ encodeToString bytes)

def generateAccessToken (entropy : Except String (List UInt8)) : Except String String :=
  entropy.map (fun bytes => "ptk_" ++ encodeToString bytes)

/-- `hashIssueInput`; `sha256` is the digest in hexadecimal. -/
def hashIssueInput (sha256 : String → String) (input : IssueTokenInput) : String :=
  let joined := ",".intercalate (input.scope.insertionSort (· ≤ ·))
  sha256 (trimSpace input.subjectID ++ "|" ++ trimSpace input.role ++ "|" ++ joined ++ "|" ++
    durationString input.ttl.toNat)

/-- `Issue` up to the lock; `now` is the clock it reads. -/
def prepareIssue (sha256 : String → String) (now : Time) (input : IssueTokenInput)
    (idEntropy tokenEntropy : Except String (List UInt8)) : Except String Candidate :=
  if trimSpace input.subjectID = "" then .error "subject_id is required"
  else if trimSpace input.role = "" then .error "role is required"
  else if input.ttl ≤ 0 then .error "ttl must be positive"
  else if input.scope = [] then .error "scope must not be empty"
  else do
    let tokenID ← generateTokenID idEntropy
    let accessToken ← generateAccessToken tokenEntropy
    return {
      record := {
        tokenID := tokenID, accessToken := accessToken, subjectID := input.subjectID,
        role := input.role, scope := input.scope, issuedAt := now, expiresAt := now + input.ttl,
        status := .active, requestID := input.requestID, revokedReason := "" },
      idempotencyKey := trimSpace input.idempotencyKey,
      requestHash := hashIssueInput sha256 input }

def applyExpiry (now : Time) (record : TokenRecord) : TokenRecord :=
  if record.status = .active ∧ record.expiresAt ≠ zeroTime ∧ ¬ now < record.expiresAt then
    { record with status := .expired }
  else record

namespace InMemoryRuntimeStore

def empty : InMemoryRuntimeStore := ⟨∅, ∅, ∅⟩

def save (s : InMemoryRuntimeStore) (record : TokenRecord) (idempotencyKey requestHash : String) :
    InMemoryRuntimeStore where
  records := s.records.insert record.tokenID record
  tokenToID := s.tokenToID.insert record.accessToken record.tokenID
  idempotencyByKey :=
    if idempotencyKey ≠ "" then
      s.idempotencyByKey.insert idempotencyKey ⟨requestHash, record.tokenID⟩
    else s.idempotencyByKey

def getByTokenID (s : InMemoryRuntimeStore) (tokenID : String) : Option TokenRecord :=
  s.records.lookup tokenID

/-- `GetByAccessToken`: the record, and the id it stands under. -/
def getByAccessToken (s : InMemoryRuntimeStore) (accessToken : String) :
    Option (String × TokenRecord) :=
  match s.tokenToID.lookup accessToken with
  | none => none
  | some tokenID => (s.records.lookup tokenID).map (fun record => (tokenID, record))

def lookupIdempotency (s : InMemoryRuntimeStore) (idempotencyKey : String) :
    Option IdempotencyEntry :=
  s.idempotencyByKey.lookup idempotencyKey

def tokenCount (s : InMemoryRuntimeStore) : Nat := s.records.keys.card

/-- A write through the pointer that is stored under `tokenID`. -/
def write (s : InMemoryRuntimeStore) (tokenID : String) (record : TokenRecord) :
    InMemoryRuntimeStore :=
  { s with records := s.records.insert tokenID record }

/-- What `Issue` finds under its key. -/
def lookupIssued (s : InMemoryRuntimeStore) (c : Candidate) : Except String (Option TokenRecord) :=
  if c.idempotencyKey = "" then .ok none
  else
    match s.lookupIdempotency c.idempotencyKey with
    | none => .ok none
    | some entry =>
      if entry.requestHash ≠ c.requestHash then .error "idempotency key payload mismatch"
      else .ok (s.getByTokenID entry.tokenID)

/-- `Issue` under the lock, and whether it has replayed. The record it replays is returned as it is
stored. -/
def commitIssue (s : InMemoryRuntimeStore) (c : Candidate) :
    InMemoryRuntimeStore × Except String (TokenRecord × Bool) :=
  match s.lookupIssued c with
  | .error err => (s, .error err)
  | .ok (some existing) => (s, .ok (existing, true))
  | .ok none => (s.save c.record c.idempotencyKey c.requestHash, .ok (c.record, false))

/-- `Refresh`, with the clock as `applyExpiry` and then as it itself reads it. -/
def refresh (s : InMemoryRuntimeStore) (now later : Time) (tokenID : String) (ttl : Int) :
    InMemoryRuntimeStore × Except String TokenRecord :=
  if ttl ≤ 0 then (s, .error "ttl must be positive")
  else
    match s.getByTokenID tokenID with
    | none => (s, .error "token not found")
    | some stored =>
      let record := applyExpiry now stored
      if record.status ≠ .active then (s.write tokenID record, .error "token is not active")
      else
        let refreshed := { record with expiresAt := later + ttl }
        (s.write tokenID refreshed, .ok refreshed)

def revoke (s : InMemoryRuntimeStore) (now : Time) (tokenID reason : String) :
    InMemoryRuntimeStore × Except String TokenRecord :=
  match s.getByTokenID tokenID with
  | none => (s, .error "token not found")
  | some stored =>
    let revoked := { applyExpiry now stored with status := .revoked, revokedReason := trimSpace reason }
    (s.write tokenID revoked, .ok revoked)

/-- A record that was asked for, with its expiry applied. -/
def read (s : InMemoryRuntimeStore) (now : Time) (found : Option (String × TokenRecord)) :
    InMemoryRuntimeStore × Except String TokenRecord :=
  match found with
  | none => (s, .error "token not found")
  | some (tokenID, stored) => (s.write tokenID (applyExpiry now stored), .ok (applyExpiry now stored))

def introspect (s : InMemoryRuntimeStore) (now : Time) (accessToken : String) :
    InMemoryRuntimeStore × Except String TokenRecord :=
  s.read now (s.getByAccessToken accessToken)

def lookup (s : InMemoryRuntimeStore) (now : Time) (tokenID : String) :
    InMemoryRuntimeStore × Except String TokenRecord :=
  s.read now ((s.getByTokenID tokenID).map (fun record => (tokenID, record)))

/-- `Resolve`: `Lookup`, of which only the status is returned. -/
def resolve (s : InMemoryRuntimeStore) (now : Time) (tokenID : String) :
    InMemoryRuntimeStore × Except AuthError TokenStatus :=
  match s.lookup now tokenID with
  | (s', .ok record) => (s', .ok record.status)
  | (s', .error cause) => (s', .error ⟨"AUTH_INVALID_TOKEN", cause⟩)

def verify (s : InMemoryRuntimeStore) (rawToken : String) : Except AuthError VerifiedToken :=
  match s.getByAccessToken rawToken with
  | none => .error ⟨"AUTH_INVALID_TOKEN", "token not found"⟩
  | some (_, record) =>
    .ok { tokenID := record.tokenID, subjectID := record.subjectID, role := record.role,
          scope := record.scope, issuedAt := record.issuedAt, expiresAt := record.expiresAt }

end InMemoryRuntimeStore

/-- What an operation has told its caller about a token; `refreshed` says that it was `Refresh`. -/
structure Report where
  tokenID : String
  status : TokenStatus
  expiresAt : Time
  time : Time
  refreshed : Bool
  deriving DecidableEq

/-- An `Issue` that came back without an error, under its trimmed key. -/
structure Issued where
  key : String
  tokenID : String
  accessToken : String
  replayed : Bool
  deriving DecidableEq

/-- The runtime with the `Issue` calls that have not taken the lock yet. `drawn` are the ids and access
tokens drawn so far, `reports` and `issued` what has been returned, the newest first. -/
structure Runtime where
  store : InMemoryRuntimeStore
  now : Time
  calls : Nat → Option Candidate
  drawn : List (String × String)
  reports : List Report
  issued : List Issued

/-- One operation; `Issue` is two, and `lag` is the time that passes within `Refresh`. -/
inductive Action
  | tick (elapsed : Nat)
  | prepareIssue (n : Nat) (input : IssueTokenInput) (idEntropy tokenEntropy : Except String (List UInt8))
  | commitIssue (n : Nat)
  | refresh (tokenID : String) (ttl : Int) (lag : Nat)
  | revoke (tokenID reason : String)
  | introspect (accessToken : String)
  | lookup (tokenID : String)
  | verify (rawToken : String)
  | resolve (tokenID : String)
  deriving DecidableEq

namespace Runtime

open InMemoryRuntimeStore

def start (now : Time) : Runtime := ⟨.empty, now, fun _ => none, [], [], []⟩

def report (record : TokenRecord) (time : Time) (refreshed : Bool) : Report :=
  ⟨record.tokenID, record.status, record.expiresAt, time, refreshed⟩

/-- The runtime after an operation that returns a record. -/
def answer (s : Runtime) (result : InMemoryRuntimeStore × Except String TokenRecord) : Runtime :=
  match result.2 with
  | .ok record => { s with store := result.1, reports := report record s.now false :: s.reports }
  | .error _ => { s with store := result.1 }

def step (sha256 : String → String) (s : Runtime) : Action → Option Runtime
  | .tick elapsed => some { s with now := s.now + elapsed }
  | .prepareIssue n input idEntropy tokenEntropy =>
    if s.calls n = none then
      match prepareIssue sha256 s.now input idEntropy tokenEntropy with
      | .error _ => some s
      | .ok c =>
        some { s with calls := Function.update s.calls n (some c),
                      drawn := (c.record.tokenID, c.record.accessToken) :: s.drawn }
    else none
  | .commitIssue n =>
    match s.calls n with
    | none => none
    | some c =>
      match s.store.commitIssue c with
      | (store, .error _) => some { s with store := store, calls := Function.update s.calls n none }
      | (store, .ok (record, replayed)) =>
        some { s with store := store, calls := Function.update s.calls n none,
                      reports := report record s.now false :: s.reports,
                      issued := ⟨c.idempotencyKey, record.tokenID, record.accessToken, replayed⟩ ::
                        s.issued }
  | .refresh tokenID ttl lag =>
    match s.store.refresh s.now (s.now + lag) tokenID ttl with
    | (store, .error _) => some { s with store := store }
    | (store, .ok record) =>
      some { s with store := store, now := s.now + lag,
                    reports := report record (s.now + lag) true :: s.reports }
  | .revoke tokenID reason => some (s.answer (s.store.revoke s.now tokenID reason))
  | .introspect accessToken => some (s.answer (s.store.introspect s.now accessToken))
  | .lookup tokenID => some (s.answer (s.store.lookup s.now tokenID))
  | .verify _ => some s
  -- of the record that `Lookup` returns, `Resolve` tells the status
  | .resolve tokenID => some (s.answer (s.store.lookup s.now tokenID))

/-- Whether an operation comes back with an error. -/
def fails (sha256 : String → String) (s : Runtime) : Action → Bool
  | .tick _ => false
  | .prepareIssue _ input idEntropy tokenEntropy =>
    !(prepareIssue sha256 s.now input idEntropy tokenEntropy).isOk
  | .commitIssue n =>
    match s.calls n with
    | none => false
    | some c => !(s.store.commitIssue c).2.isOk
  | .refresh tokenID ttl lag => !(s.store.refresh s.now (s.now + lag) tokenID ttl).2.isOk
  | .revoke tokenID reason => !(s.store.revoke s.now tokenID reason).2.isOk
  | .introspect accessToken => !(s.store.introspect s.now accessToken).2.isOk
  | .lookup tokenID => !(s.store.lookup s.now tokenID).2.isOk
  | .verify rawToken => !(s.store.verify rawToken).isOk
  | .resolve tokenID => !(s.store.resolve s.now tokenID).2.isOk

end Runtime

end SupplyPlatform.TokenRuntime
