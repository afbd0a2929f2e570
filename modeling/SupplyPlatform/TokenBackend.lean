import SupplyPlatform.TokenStatus

namespace SupplyPlatform.Tokens

open Relational

/-- What `SetTokenStatus` stores under a token's key, and when Redis drops it. -/
structure CacheEntry where
  status : TokenStatus
  expiresAt : Int
  deadline : Option Time
  deriving DecidableEq

def CacheEntry.live (e : CacheEntry) (now : Time) : Bool :=
  match e.deadline with
  | some deadline => now < deadline
  | none => true

/-- Where a call of `CheckTokenStatus`, `RevokeToken` or `RevokeBySubjectID` stands, named after what
it does next. `after` says that the call began when `RevokeToken` had returned for its token; `moved`
are the tokens the UPDATE of `RevokeBySubjectID` has revoked, `cleared` those whose cache entry it has
since deleted. -/
inductive Call
  | idle
  | cacheGet (tokenID : String) (after : Bool)
  | dbGet (tokenID : String) (after : Bool)
  | cacheSet (tokenID : String) (status : TokenStatus) (after : Bool)
  | checked (tokenID : String) (after : Bool) (result : Except RepoError TokenStatus)
  | dbRevoke (tokenID reason : String)
  | invalidate (tokenID : String)
  | revoked (result : Except RepoError Unit)
  | list (subjectID : Int) (reason : String)
  | dbRevokeAll (subjectID : Int) (reason : String) (tokenIDs : List String)
  | invalidateAll (tokenIDs moved cleared : List String)
  | revokedAll (result : Except RepoError Unit) (moved cleared : List String)
  deriving DecidableEq

/-- A slot in which a new call may begin. -/
def Call.free : Call → Bool
  | .idle => true
  | .checked _ _ _ => true
  | .revoked _ => true
  | .revokedAll _ _ _ => true
  | _ => false

/-- `DBTokenStatusBackend` with the registry and the cache behind it; `returned` are the tokens for
which `RevokeToken` has returned nil. -/
structure Backend where
  table : TokenTable
  cache : String → Option CacheEntry
  hasCache : Bool
  cacheTTL : Int
  call : Nat → Call
  now : Time
  returned : List String

inductive Backend.Action
  | tick (elapsed : Nat)
  | create (record : TokenStatusRecord) (id : Int)
  | updateVerificationCount (tokenID : String)
  | check (n : Nat) (tokenID : String)
  | cacheGet (n : Nat) (fails : Bool)
  | dbGet (n : Nat) (failure : Option DbError)
  | cacheSet (n : Nat) (fault : Fault)
  | revokeToken (n : Nat) (tokenID reason : String)
  | dbRevoke (n : Nat) (fault : Fault)
  | invalidate (n : Nat) (fault : Fault)
  | revokeBySubjectID (n : Nat) (subjectID : Int) (reason : String)
  | list (n : Nat) (records : Option (List TokenStatusRecord))
  | dbRevokeAll (n : Nat) (fault : Fault)
  | invalidateNext (n : Nat) (fault : Fault)

namespace Backend

def setCall (s : Backend) (n : Nat) (x : Call) : Backend :=
  { s with call := Function.update s.call n x }

/-- `GetTokenStatus` of the cache. -/
def lookup (s : Backend) (tokenID : String) : Option CacheEntry :=
  (s.cache tokenID).filter (fun e => e.live s.now)

/-- The entry `CheckTokenStatus` stores; without a positive TTL Redis keeps the key. -/
def entry (s : Backend) (status : TokenStatus) : CacheEntry :=
  { status := status, expiresAt := (s.now + s.cacheTTL) / second,
    deadline := if 0 < s.cacheTTL then some (s.now + s.cacheTTL) else none }

/-- `SetTokenStatus`. -/
def setTokenStatus (s : Backend) (tokenID : String) (status : TokenStatus) : Backend :=
  { s with cache := Function.update s.cache tokenID (some (s.entry status)) }

/-- `InvalidateToken`. -/
def invalidateToken (s : Backend) (tokenID : String) : Backend :=
  { s with cache := Function.update s.cache tokenID none }

/-- A cache write as a fault leaves it. -/
def reaching (fault : Fault) (s s' : Backend) : Backend :=
  match fault with
  | .unapplied => s
  | _ => s'

def errGetStatus (cause : DbError) : RepoError :=
  .wrap "failed to get token status: failed to get token status record" cause

def errRevoke : RepoError :=
  .wrap "failed to revoke token in db: failed to revoke token" .connection

def errNotRevoked : RepoError :=
  .message "failed to revoke token in db: token not found or already revoked"

def errRevokeAll : RepoError :=
  .wrap "failed to revoke tokens by subject_id: failed to revoke tokens by subject_id" .connection

/-- `RevokeToken` has revoked the row: with a cache it goes on to the invalidation. -/
def revokedInDb (s : Backend) (n : Nat) (tokenID : String) : Backend :=
  if s.hasCache then s.setCall n (.invalidate tokenID)
  else { s with returned := tokenID :: s.returned }.setCall n (.revoked (.ok ()))

/-- `RevokeBySubjectID` after its UPDATE of `count` rows. -/
def revokedAllInDb (s : Backend) (n : Nat) (tokenIDs moved : List String) (count : Nat) : Backend :=
  if count = 0 ∨ ¬s.hasCache then s.setCall n (.revokedAll (.ok ()) moved [])
  else s.setCall n (.invalidateAll tokenIDs moved [])

/-- The tokens an UPDATE of the subject's active rows revokes. -/
def movedBy (t : TokenTable) (subjectID : Int) : List String :=
  (t.rows.filter (activeOf subjectID)).map (·.tokenID)

/-- One access to the cache or to the database. A failed `Set` or `Del` is not reported to anyone. -/
def step (s : Backend) : Backend.Action → Option Backend
  | .tick elapsed => some { s with now := s.now + elapsed }
  | .create record id => some { s with table := (Tokens.create s.table record id s.now).1 }
  | .updateVerificationCount tokenID =>
    some { s with table := Tokens.updateVerificationCount s.table tokenID s.now }
  | .check n tokenID =>
    if (s.call n).free then
      some (s.setCall n (if s.hasCache then .cacheGet tokenID (decide (tokenID ∈ s.returned))
        else .dbGet tokenID (decide (tokenID ∈ s.returned))))
    else none
  | .cacheGet n fails =>
    match s.call n with
    | .cacheGet tokenID after =>
      match fails, s.lookup tokenID with
      | false, some cached => some (s.setCall n (.checked tokenID after (.ok cached.status)))
      | _, _ => some (s.setCall n (.dbGet tokenID after))
    | _ => none
  | .dbGet n failure =>
    match s.call n with
    | .dbGet tokenID after =>
      match failure with
      | some cause => some (s.setCall n (.checked tokenID after (.error (errGetStatus cause))))
      | none =>
        if s.hasCache then
          some (s.setCall n (.cacheSet tokenID (getStatus s.table s.now tokenID) after))
        else some (s.setCall n (.checked tokenID after (.ok (getStatus s.table s.now tokenID))))
    | _ => none
  | .cacheSet n fault =>
    match s.call n with
    | .cacheSet tokenID status after =>
      some ((reaching fault s (s.setTokenStatus tokenID status)).setCall n
        (.checked tokenID after (.ok status)))
    | _ => none
  | .revokeToken n tokenID reason =>
    if (s.call n).free then some (s.setCall n (.dbRevoke tokenID reason)) else none
  | .dbRevoke n fault =>
    match s.call n with
    | .dbRevoke tokenID reason =>
      match fault, Tokens.revoke s.table tokenID reason s.now with
      | .none, (t, .ok ()) => some ({ s with table := t }.revokedInDb n tokenID)
      | .none, (t, .error _) => some ({ s with table := t }.setCall n (.revoked (.error errNotRevoked)))
      | .applied, (t, _) => some ({ s with table := t }.setCall n (.revoked (.error errRevoke)))
      | .unapplied, _ => some (s.setCall n (.revoked (.error errRevoke)))
    | _ => none
  | .invalidate n fault =>
    match s.call n with
    | .invalidate tokenID =>
      some ({ reaching fault s (s.invalidateToken tokenID) with
                returned := tokenID :: s.returned }.setCall n (.revoked (.ok ())))
    | _ => none
  | .revokeBySubjectID n subjectID reason =>
    if (s.call n).free then
      some (s.setCall n (if s.hasCache then .list subjectID reason
        else .dbRevokeAll subjectID reason []))
    else none
  | .list n records =>
    match s.call n with
    | .list subjectID reason =>
      match records with
      | none => some (s.setCall n (.dbRevokeAll subjectID reason []))
      | some records =>
        if ListActiveBySubjectID s.table subjectID s.now records then
          some (s.setCall n (.dbRevokeAll subjectID reason (records.map (·.tokenID))))
        else none
    | _ => none
  | .dbRevokeAll n fault =>
    match s.call n with
    | .dbRevokeAll subjectID reason tokenIDs =>
      match fault, Tokens.revokeBySubjectID s.table subjectID reason s.now with
      | .none, (t, count) =>
        some ({ s with table := t }.revokedAllInDb n tokenIDs (movedBy s.table subjectID) count)
      | .applied, (t, _) =>
        some ({ s with table := t }.setCall n
          (.revokedAll (.error errRevokeAll) (movedBy s.table subjectID) []))
      | .unapplied, _ => some (s.setCall n (.revokedAll (.error errRevokeAll) [] []))
    | _ => none
  | .invalidateNext n fault =>
    match s.call n with
    | .invalidateAll [] moved cleared => some (s.setCall n (.revokedAll (.ok ()) moved cleared))
    | .invalidateAll (tokenID :: rest) moved cleared =>
      some ((reaching fault s (s.invalidateToken tokenID)).setCall n
        (.invalidateAll rest moved (if fault = .unapplied then cleared else tokenID :: cleared)))
    | _ => none

/-- `NewDBTokenStatusBackend`, with ten seconds for a TTL of 0. -/
def start (t : TokenTable) (hasCache : Bool) (cacheTTL : Int) (now : Time) : Backend :=
  { table := t, cache := fun _ => none, hasCache := hasCache,
    cacheTTL := if cacheTTL = 0 then 10 * second else cacheTTL, call := fun _ => .idle, now := now,
    returned := [] }

end Backend

end SupplyPlatform.Tokens
