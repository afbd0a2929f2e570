import Mathlib.Algebra.Group.Int.Defs
import SupplyPlatform.IssueHash
import SupplyPlatform.TokenApi

namespace SupplyPlatform.TokenRuntime

open InMemoryRuntimeStore Strings

/-- The body of a request to `.../issue`. -/
structure IssueBody where
  subjectID : String
  role : String
  ttlSeconds : Int
  scope : List String
  deriving DecidableEq

structure IssueRequest where
  method : String
  xRequestID : String
  idempotencyKey : String
  body : Except String IssueBody

inductive IssueResponse
  | error (status : Nat) (code message : String)
  | issued (requestID tokenID accessToken : String) (issuedAt expiresAt : Time) (status : TokenStatus)
  deriving DecidableEq

def validateIssueRequest (req : IssueBody) : Except String Unit :=
  if trimSpace req.subjectID = "" then .error "subject_id is required"
  else if req.ttlSeconds < 60 then .error "ttl_seconds must be >= 60"
  else if req.scope = [] then .error "scope is required"
  else if req.role = "owner" ∨ req.role = "viewer" ∨ req.role = "admin" then .ok ()
  else .error ("unsupported role: " ++ req.role)

/-- What `handleIssue` gives to `IssueAndAudit`. -/
def IssueRequest.input (req : IssueRequest) (body : IssueBody) : IssueTokenInput where
  subjectID := body.subjectID
  role := body.role
  scope := body.scope
  ttl := secondsDuration body.ttlSeconds
  requestID := trimSpace req.xRequestID
  idempotencyKey := trimSpace req.idempotencyKey

namespace TokenAPI

/-- `emitAudit` of an event of `IssueAndAudit`. -/
def emitIssue (s : TokenAPI) (eventName requestID tokenID subjectID resultCode : String) : TokenAPI :=
  { s with audit := s.audit.map (fun events =>
      { eventName := eventName, requestID := requestID, tokenID := tokenID, subjectID := subjectID,
        route := "/api/v1/platform/tokens/issue", resultCode := resultCode, clientIP := "",
        createdAt := s.runtime.now } :: events) }

/-- `Issue`: its clock reads `called`, and it finds `s` when it holds the lock. -/
def issue (sha256 : String → String) (s : TokenAPI) (called : Time) (input : IssueTokenInput)
    (idEntropy tokenEntropy : Except String (List UInt8)) : TokenAPI × Except String TokenRecord :=
  match prepareIssue sha256 called input idEntropy tokenEntropy with
  | .error err => (s, .error err)
  | .ok c =>
    let drawn := (c.record.tokenID, c.record.accessToken) :: s.runtime.drawn
    match s.runtime.store.commitIssue c with
    | (store, .error err) => ({ s with runtime := { s.runtime with store := store, drawn := drawn } }, .error err)
    | (store, .ok (record, replayed)) =>
      ({ s with runtime := { s.runtime with
           store := store, drawn := drawn,
           reports := Runtime.report record s.runtime.now false :: s.runtime.reports,
           issued := ⟨c.idempotencyKey, record.tokenID, record.accessToken, replayed⟩ ::
             s.runtime.issued } },
        .ok record)

def issueAndAudit (sha256 : String → String) (s : TokenAPI) (called : Time) (input : IssueTokenInput)
    (idEntropy tokenEntropy : Except String (List UInt8)) : TokenAPI × Except String TokenRecord :=
  match s.issue sha256 called input idEntropy tokenEntropy with
  | (t, .error err) =>
    (t.emitIssue "token.issue.fail" input.requestID "" input.subjectID "ISSUE_FAILED", .error err)
  | (t, .ok record) =>
    (t.emitIssue "token.issue.success" input.requestID record.tokenID record.subjectID "OK", .ok record)

def handleIssue (sha256 : String → String) (s : TokenAPI) (called : Time) (req : IssueRequest)
    (idEntropy tokenEntropy : Except String (List UInt8)) : TokenAPI × IssueResponse :=
  if req.method ≠ "POST" then (s, .error 405 "METHOD_NOT_ALLOWED" "method not allowed")
  else if trimSpace req.xRequestID = "" ∨ trimSpace req.idempotencyKey = "" then
    (s, .error 400 "BAD_REQUEST" "missing X-Request-Id or Idempotency-Key")
  else
    match req.body with
    | .error err => (s, .error 400 "BAD_REQUEST" err)
    | .ok body =>
      match validateIssueRequest body with
      | .error err => (s, .error 400 "BAD_REQUEST" err)
      | .ok () =>
        match s.issueAndAudit sha256 called (req.input body) idEntropy tokenEntropy with
        | (t, .error err) =>
          if contains err "idempotency key payload mismatch" then
            (t, .error 409 "IDEMPOTENCY_CONFLICT" "idempotency key payload mismatch")
          else (t, .error 422 "ISSUE_FAILED" err)
        | (t, .ok record) =>
          (t, .issued (trimSpace req.xRequestID) record.tokenID record.accessToken record.issuedAt
            record.expiresAt record.status)

/-- The request got the token that stands under its key, and nothing was stored. -/
def Replays (s t : TokenAPI) (key tokenID : String) : Prop :=
  t.runtime.store = s.runtime.store ∧
    ∃ entry r, s.runtime.store.idempotencyByKey.lookup key = some entry ∧
      s.runtime.store.records.lookup entry.tokenID = some r ∧ r.tokenID = tokenID

/-- The token is stored with this expiry. -/
def StoredUntil (t : TokenAPI) (tokenID : String) (expires : Time) : Prop :=
  ∃ r, t.runtime.store.records.lookup tokenID = some r ∧ r.expiresAt = expires

/-- Whatever is asked for with this `ttl_seconds`, a token that is issued lives for so long from the call
on; a replay is of an earlier call. -/
def IssuesExactly (ttlSeconds : Int) : Prop :=
  ∀ sha256 s called req body e e' t requestID tokenID accessToken issuedAt expiresAt status,
    req.body = .ok body → body.ttlSeconds = ttlSeconds →
    handleIssue sha256 s called req e e' =
      (t, .issued requestID tokenID accessToken issuedAt expiresAt status) →
    s.Replays t (trimSpace req.idempotencyKey) tokenID ∨
      t.StoredUntil tokenID (called + ttlSeconds * second)

/-- The same of a token that is refreshed. -/
def RefreshesExactly (ttlSeconds : Int) : Prop :=
  ∀ s tokenID req wait lag t requestID id previous expiresAt status,
    req.body = .ok ttlSeconds →
    handleRefresh s tokenID req wait lag = (t, .refreshed requestID id previous expiresAt status) →
    t.StoredUntil tokenID (s.runtime.now + wait + lag + ttlSeconds * second)

section

variable {sha256 : String → String} {s t : TokenAPI} {called : Time} {input : IssueTokenInput}
  {e e' : Except String (List UInt8)} {record : TokenRecord}

theorem issue_ok (h : s.issue sha256 called input e e' = (t, .ok record)) :
    0 < input.ttl ∧ (s.Replays t (trimSpace input.idempotencyKey) record.tokenID ∨
      t.StoredUntil record.tokenID (called + input.ttl)) := by
  unfold issue at h
  cases hmade : prepareIssue sha256 called input e e' with
  | error err =>
    rw [hmade] at h
    cases h
  | ok c =>
    obtain ⟨⟨-, -, httl, -⟩, tokenID, accessToken, -, -, rfl⟩ := prepareIssue_made hmade
    refine ⟨httl, ?_⟩
    simp only [hmade, commitIssue] at h
    cases hfound : s.runtime.store.lookupIssued _ with
    | error err =>
      rw [hfound] at h
      cases h
    | ok found =>
      rw [hfound] at h
      cases found with
      | none =>
        cases h
        exact .inr ⟨_, Finmap.lookup_insert _, rfl⟩
      | some existing =>
        cases h
        obtain ⟨-, id, hentry, hstored⟩ := lookupIssued_some hfound
        exact .inl ⟨rfl, _, record, hentry, hstored, rfl⟩

/-- What a successful request has passed. -/
theorem handleIssue_issued {req : IssueRequest} {body : IssueBody}
    {requestID tokenID accessToken : String} {issuedAt expiresAt : Time} {status : TokenStatus}
    (hbody : req.body = .ok body)
    (h : s.handleIssue sha256 called req e e' =
      (t, .issued requestID tokenID accessToken issuedAt expiresAt status)) :
    validateIssueRequest body = .ok () ∧
      ∃ u r, s.issue sha256 called (req.input body) e e' = (u, .ok r) ∧ t.runtime = u.runtime ∧
        r.tokenID = tokenID := by
  unfold handleIssue issueAndAudit at h
  split at h
  · cases h
  split at h
  · cases h
  rw [hbody] at h
  cases hvalid : validateIssueRequest body with
  | error err =>
    simp only [hvalid] at h
    cases h
  | ok =>
    rcases hissue : s.issue sha256 called (req.input body) e e' with ⟨u, err | r⟩
    · simp only [hvalid, hissue] at h
      split at h
      · cases h
      · cases h
    · simp only [hvalid, hissue] at h
      cases h
      exact ⟨rfl, u, r, rfl, rfl, rfl⟩

theorem handleIssue_of_issue {req : IssueRequest} {body : IssueBody} {u : TokenAPI}
    (hmethod : req.method = "POST")
    (hids : ¬(trimSpace req.xRequestID = "" ∨ trimSpace req.idempotencyKey = ""))
    (hbody : req.body = .ok body) (hvalid : validateIssueRequest body = .ok ())
    (hissue : s.issue sha256 called (req.input body) e e' = (u, .ok record)) :
    s.handleIssue sha256 called req e e' =
      (u.emitIssue "token.issue.success" (trimSpace req.xRequestID) record.tokenID record.subjectID "OK",
        .issued (trimSpace req.xRequestID) record.tokenID record.accessToken record.issuedAt
          record.expiresAt record.status) := by
  have hpost : ¬req.method ≠ "POST" := not_not.mpr hmethod
  simp only [handleIssue, issueAndAudit, if_neg hpost, if_neg hids, hbody, hvalid, hissue]
  rfl

end

theorem ttl_of_validated {body : IssueBody} (h : validateIssueRequest body = .ok ()) :
    60 ≤ body.ttlSeconds := by
  unfold validateIssueRequest at h
  split at h
  · cases h
  split at h
  · cases h
  next httl => exact Int.not_lt.mp httl

/-- From 60 on, the product is exact up to 9223372036. -/
theorem secondsDuration_eq_iff {ttlSeconds : Int} (h : 60 ≤ ttlSeconds) :
    secondsDuration ttlSeconds = ttlSeconds * second ↔ ttlSeconds ≤ 9223372036 := by
  unfold secondsDuration second
  constructor
  · intro heq
    have hlt := Int.bmod_lt (x := ttlSeconds * 1000000000) (m := 2 ^ 64) (by decide)
    omega
  · intro hle
    exact Int.bmod_eq_of_le (by omega) (by omega)

/-- The lifetime is exact where the product is, and where the product is refused. -/
def Fits (ttlSeconds : Int) : Prop := ttlSeconds ≤ 9223372036 ∨ secondsDuration ttlSeconds ≤ 0

theorem Fits.secondsDuration_eq {ttlSeconds : Int} (h : Fits ttlSeconds) (hle : 60 ≤ ttlSeconds)
    (hpos : 0 < secondsDuration ttlSeconds) : secondsDuration ttlSeconds = ttlSeconds * second := by
  rcases h with hfits | hrefused
  · exact (secondsDuration_eq_iff hle).mpr hfits
  · exact absurd hpos (Int.not_lt.mpr hrefused)

theorem issuesExactly_of_fits {ttlSeconds : Int} (h : Fits ttlSeconds) : IssuesExactly ttlSeconds := by
  intro sha256 s called req body e e' t requestID tokenID accessToken issuedAt expiresAt status hbody httl hdone
  obtain ⟨hvalid, u, r, hissue, hruntime, rfl⟩ := handleIssue_issued hbody hdone
  obtain ⟨hpos, hleft⟩ := issue_ok hissue
  have hduration : secondsDuration ttlSeconds = ttlSeconds * second := by
    rw [← httl] at h ⊢
    exact h.secondsDuration_eq (ttl_of_validated hvalid) hpos
  have hkey : trimSpace (req.input body).idempotencyKey = trimSpace req.idempotencyKey :=
    trimSpace_trimSpace _
  have hinput : (req.input body).ttl = ttlSeconds * second := by
    rw [← hduration, ← httl]
    rfl
  rw [hkey, hinput] at hleft
  unfold Replays StoredUntil at hleft ⊢
  rwa [hruntime]

theorem refreshesExactly_of_fits {ttlSeconds : Int} (h : Fits ttlSeconds) :
    RefreshesExactly ttlSeconds := by
  intro s tokenID req wait lag t requestID id previous expiresAt status hbody hdone
  obtain ⟨ttl, r, hwf, hpos, -, hexpires, hr, -, hrexpires⟩ := handleRefresh_refreshed hdone
  cases Except.ok.inj (hbody.symm.trans hwf.body)
  rw [h.secondsDuration_eq hwf.ttl hpos] at hexpires
  exact ⟨r, hr, hrexpires.trans hexpires⟩

def sampleStart : TokenAPI := ⟨Runtime.start 0, none⟩

/-- The first token of an API lives for the duration that `Issue` is given. -/
theorem issue_first (sha256 : String → String) (input : IssueTokenInput) (h : input.Accepted)
    (called : Time) : ∃ u r, sampleStart.issue sha256 called input (.ok []) (.ok []) = (u, .ok r) ∧
      u.StoredUntil r.tokenID (called + input.ttl) := by
  obtain ⟨c, hc⟩ := prepareIssue_of_accepted sha256 h called [] []
  have hexpires : c.record.expiresAt = called + input.ttl := by
    obtain ⟨-, tokenID, accessToken, -, -, rfl⟩ := prepareIssue_made hc
    rfl
  have hcommit : sampleStart.runtime.store.commitIssue c =
      (sampleStart.runtime.store.save c.record c.idempotencyKey c.requestHash, .ok (c.record, false)) :=
    commitIssue_empty c
  obtain ⟨u, hissue, hstore⟩ : ∃ u,
      sampleStart.issue sha256 called input (.ok []) (.ok []) = (u, .ok c.record) ∧
        u.runtime.store = sampleStart.runtime.store.save c.record c.idempotencyKey c.requestHash := by
    simp only [issue, hc, hcommit]
    exact ⟨_, rfl, rfl⟩
  refine ⟨u, c.record, hissue, c.record, ?_, hexpires⟩
  rw [hstore]
  exact Finmap.lookup_insert _

/-- A token is asked for from an API that has none. -/
def sampleBody (ttlSeconds : Int) : IssueBody := ⟨"user-1", "owner", ttlSeconds, ["read"]⟩

def sampleIssue (ttlSeconds : Int) : IssueRequest := ⟨"POST", "req-1", "k-1", .ok (sampleBody ttlSeconds)⟩

theorem sampleIssue_issued {ttlSeconds : Int} (hle : 60 ≤ ttlSeconds)
    (hpos : 0 < secondsDuration ttlSeconds) :
    ∃ t requestID tokenID accessToken issuedAt expiresAt status,
      sampleStart.handleIssue id 0 (sampleIssue ttlSeconds) (.ok []) (.ok []) =
        (t, .issued requestID tokenID accessToken issuedAt expiresAt status) ∧
      t.StoredUntil tokenID (secondsDuration ttlSeconds) := by
  have hids : ¬(trimSpace "req-1" = "" ∨ trimSpace "k-1" = "") := by decide
  have huser : trimSpace "user-1" ≠ "" := by decide
  have hrole : trimSpace "owner" ≠ "" := by decide
  have hvalid : validateIssueRequest (sampleBody ttlSeconds) = .ok () := by
    unfold validateIssueRequest sampleBody
    rw [if_neg huser, if_neg (Int.not_lt.mpr hle), if_neg nofun, if_pos (.inl rfl)]
  obtain ⟨u, r, hissue, hstored⟩ := issue_first id
    ((sampleIssue ttlSeconds).input (sampleBody ttlSeconds)) ⟨huser, hrole, hpos, nofun⟩ 0
  rw [Int.zero_add] at hstored
  exact ⟨_, _, _, _, _, _, _, handleIssue_of_issue rfl hids rfl hvalid hissue, hstored⟩

/-- An API with an active token. -/
def sampleActive : TokenAPI where
  runtime := { Runtime.start 0 with
    store := InMemoryRuntimeStore.empty.write "tok_1"
      { tokenID := "tok_1", accessToken := "ptk_1", subjectID := "user-1", role := "owner",
        scope := ["read"], issuedAt := 0, expiresAt := second, status := .active, requestID := "req-1",
        revokedReason := "" } }
  audit := none

theorem sampleActive_activeUntil : ActiveUntil sampleActive.runtime.store.records "tok_1" second :=
  ⟨_, Finmap.lookup_insert _, rfl, rfl⟩

theorem not_issuesExactly {ttlSeconds : Int} (hlarge : 9223372036 < ttlSeconds)
    (hpos : 0 < secondsDuration ttlSeconds) : ¬IssuesExactly ttlSeconds := by
  intro hexact
  have hle : 60 ≤ ttlSeconds := by omega
  obtain ⟨t, requestID, tokenID, accessToken, issuedAt, expiresAt, status, hdone, r, hr, hexpires⟩ :=
    sampleIssue_issued hle hpos
  rcases hexact _ _ _ _ _ _ _ _ _ _ _ _ _ _ rfl rfl hdone with ⟨-, entry, -, hentry, -⟩ | ⟨r', hr', hexact'⟩
  · rw [show sampleStart.runtime.store.idempotencyByKey = ∅ from rfl, Finmap.lookup_empty] at hentry
    cases hentry
  · cases Option.some.inj (hr.symm.trans hr')
    rw [hexpires, Int.zero_add] at hexact'
    exact absurd ((secondsDuration_eq_iff hle).mp hexact') (Int.not_le.mpr hlarge)

theorem not_refreshesExactly {ttlSeconds : Int} (hlarge : 9223372036 < ttlSeconds)
    (hpos : 0 < secondsDuration ttlSeconds) : ¬RefreshesExactly ttlSeconds := by
  intro hexact
  have hle : 60 ≤ ttlSeconds := by omega
  have hid : trimSpace "req-2" ≠ "" := by decide
  have hkey : trimSpace "k-2" ≠ "" := by decide
  have hwf : WellFormed ⟨"POST", "req-2", "k-2", .ok ttlSeconds⟩ ttlSeconds := ⟨rfl, hid, hkey, rfl, hle⟩
  have hlt : sampleActive.runtime.now + (0 : Nat) < second := by decide
  obtain ⟨t, requestID, id, previous, status, hdone⟩ :=
    handleRefresh_of_active 0 hwf hpos sampleActive_activeUntil hlt
  obtain ⟨r', hr', hexact'⟩ := hexact _ _ _ _ _ _ _ _ _ _ _ rfl hdone
  obtain ⟨ttl, r, hwf', -, -, hexpires, hr, -, hrexpires⟩ := handleRefresh_refreshed hdone
  cases Option.some.inj (hr.symm.trans hr')
  rw [hrexpires] at hexact'
  exact absurd ((secondsDuration_eq_iff hle).mp (Int.add_left_cancel hexact')) (Int.not_le.mpr hlarge)

/-- A lifetime is exact exactly when the product of the seconds fits 64 bits or is refused, for a token
that is issued and for one that is refreshed. -/
theorem lifetime_exact_iff (ttlSeconds : Int) :
    (IssuesExactly ttlSeconds ↔ Fits ttlSeconds) ∧ (RefreshesExactly ttlSeconds ↔ Fits ttlSeconds) := by
  refine ⟨⟨fun hexact => ?_, issuesExactly_of_fits⟩, ⟨fun hexact => ?_, refreshesExactly_of_fits⟩⟩
  · by_contra hfits
    obtain ⟨hlarge, hpos⟩ := not_or.mp hfits
    exact not_issuesExactly (Int.not_le.mp hlarge) (Int.not_le.mp hpos) hexact
  · by_contra hfits
    obtain ⟨hlarge, hpos⟩ := not_or.mp hfits
    exact not_refreshesExactly (Int.not_le.mp hlarge) (Int.not_le.mp hpos) hexact

/-- A token for 585 years lives for less than a third of a second. -/
theorem lifetime_wraps :
    (∃ t requestID tokenID accessToken issuedAt expiresAt status,
      sampleStart.handleIssue id 0 (sampleIssue 18446744074) (.ok []) (.ok []) =
        (t, .issued requestID tokenID accessToken issuedAt expiresAt status) ∧
      t.StoredUntil tokenID 290448384) ∧
    ¬IssuesExactly 18446744074 ∧ ¬RefreshesExactly 18446744074 := by
  have hduration : secondsDuration 18446744074 = 290448384 := by decide
  have hpos : 0 < secondsDuration 18446744074 := by
    rw [hduration]
    decide
  refine ⟨?_, not_issuesExactly (by decide) hpos, not_refreshesExactly (by decide) hpos⟩
  rw [← hduration]
  exact sampleIssue_issued (by decide) hpos

end TokenAPI

end SupplyPlatform.TokenRuntime
