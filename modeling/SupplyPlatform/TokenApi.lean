import SupplyPlatform.TokenRuntimeIssue
import SupplyPlatform.TokenRuntimeLifecycle
import SupplyPlatform.WebRequest

namespace SupplyPlatform.TokenRuntime

open Settlements (zeroTime)
open InMemoryRuntimeStore Strings Transition

/-- A request to `.../refresh`; the body is the `ttl_seconds` that it is decoded to. -/
structure RefreshRequest where
  method : String
  xRequestID : String
  idempotencyKey : String
  body : Except String Int

inductive RefreshResponse
  | error (status : Nat) (code message : String)
  | refreshed (requestID tokenID : String) (previousExpiresAt expiresAt : Time) (status : TokenStatus)
  deriving DecidableEq

/-- The API over the runtime, with the events that have gone to the auditor, if there is one. -/
structure TokenAPI where
  runtime : Runtime
  audit : Option (List AuditEvent)

def mapRuntimeError (msg : String) : Nat × String :=
  if contains msg "not found" then (404, "TOKEN_NOT_FOUND")
  else if contains msg "not active" then (409, "TOKEN_NOT_ACTIVE")
  else if contains msg "idempotency key payload mismatch" then (409, "IDEMPOTENCY_CONFLICT")
  else (422, "BUSINESS_ERROR")

/-- `time.Duration(seconds) * time.Second`, in 64 bits. -/
def secondsDuration (seconds : Int) : Int := Int.bmod (seconds * second) (2 ^ 64)

namespace TokenAPI

/-- What `Refresh` does in the handler. -/
def refresh (s : TokenAPI) (requestID tokenID : String) (ttl : Int) (previous : Time) (lag : Nat) :
    TokenAPI × RefreshResponse :=
  match s.runtime.store.refresh s.runtime.now (s.runtime.now + lag) tokenID ttl with
  | (store, .error err) =>
    ({ s with runtime := { s.runtime with store := store } },
      .error (mapRuntimeError err).1 (mapRuntimeError err).2 err)
  | (store, .ok record) =>
    ({ runtime := { s.runtime with
         store := store, now := s.runtime.now + lag,
         reports := Runtime.report record (s.runtime.now + lag) true :: s.runtime.reports },
       audit := s.audit.map (fun events =>
         { eventName := "token.refresh.success", requestID := requestID, tokenID := record.tokenID,
           subjectID := record.subjectID, route := "/api/v1/platform/tokens/" ++ tokenID ++ "/refresh",
           resultCode := "OK", clientIP := "", createdAt := s.runtime.now + lag } :: events) },
     .refreshed requestID record.tokenID previous record.expiresAt record.status)

/-- `handleRefresh`; `wait` is the time between `Lookup` and `Refresh`, `lag` that within `Refresh`. The
key is asked for and read no further. -/
def handleRefresh (s : TokenAPI) (tokenID : String) (req : RefreshRequest) (wait lag : Nat) :
    TokenAPI × RefreshResponse :=
  if req.method ≠ "POST" then (s, .error 405 "METHOD_NOT_ALLOWED" "method not allowed")
  else if trimSpace req.xRequestID = "" ∨ trimSpace req.idempotencyKey = "" then
    (s, .error 400 "BAD_REQUEST" "missing X-Request-Id or Idempotency-Key")
  else
    match req.body with
    | .error err => (s, .error 400 "BAD_REQUEST" err)
    | .ok ttlSeconds =>
      if ttlSeconds < 60 then (s, .error 400 "BAD_REQUEST" "ttl_seconds must be >= 60")
      else
        let before := s.runtime.store.lookup s.runtime.now tokenID
        let previous := match before.2 with
          | .ok record => record.expiresAt
          | .error _ => zeroTime
        let looked := s.runtime.answer before
        refresh { s with runtime := { looked with now := looked.now + wait } } (trimSpace req.xRequestID)
          tokenID (secondsDuration ttlSeconds) previous lag

/-- The request gets as far as `Refresh`. -/
structure WellFormed (req : RefreshRequest) (ttlSeconds : Int) : Prop where
  method : req.method = "POST"
  xRequestID : trimSpace req.xRequestID ≠ ""
  idempotencyKey : trimSpace req.idempotencyKey ≠ ""
  body : req.body = .ok ttlSeconds
  ttl : 60 ≤ ttlSeconds

/-- The runtime when `Refresh` is called. -/
def looked (s : TokenAPI) (tokenID : String) (wait : Nat) : TokenAPI :=
  { s with runtime := { s.runtime.answer (s.runtime.store.lookup s.runtime.now tokenID) with
      now := (s.runtime.answer (s.runtime.store.lookup s.runtime.now tokenID)).now + wait } }

variable {req : RefreshRequest}

theorem handleRefresh_of_wellFormed {ttlSeconds : Int} (h : WellFormed req ttlSeconds) (s : TokenAPI)
    (tokenID : String) (wait lag : Nat) :
    ∃ previous, s.handleRefresh tokenID req wait lag = (s.looked tokenID wait).refresh
      (trimSpace req.xRequestID) tokenID (secondsDuration ttlSeconds) previous lag := by
  have hids : ¬(trimSpace req.xRequestID = "" ∨ trimSpace req.idempotencyKey = "") :=
    not_or.mpr ⟨h.xRequestID, h.idempotencyKey⟩
  have hmethod : ¬req.method ≠ "POST" := not_not.mpr h.method
  have httl : ¬ttlSeconds < 60 := Int.not_lt.mpr h.ttl
  simp only [handleRefresh, if_neg hmethod, if_neg hids, h.body, if_neg httl]
  exact ⟨_, rfl⟩

/-- A request that is refused before `Refresh` leaves everything as it is. -/
theorem wellFormed_or_refused (s : TokenAPI) (tokenID : String) (req : RefreshRequest) (wait lag : Nat) :
    (∃ ttlSeconds, WellFormed req ttlSeconds) ∨
      ∃ status code message, s.handleRefresh tokenID req wait lag = (s, .error status code message) := by
  unfold handleRefresh
  split
  next => exact .inr ⟨_, _, _, rfl⟩
  next hmethod =>
    split
    next => exact .inr ⟨_, _, _, rfl⟩
    next hids =>
      obtain ⟨hid, hkey⟩ := not_or.mp hids
      split
      next => exact .inr ⟨_, _, _, rfl⟩
      next ttlSeconds hbody =>
        split
        next => exact .inr ⟨_, _, _, rfl⟩
        next httl => exact .inl ⟨ttlSeconds, not_not.mp hmethod, hid, hkey, hbody, Int.not_lt.mp httl⟩

@[simp] theorem answer_now (s : Runtime) (result : InMemoryRuntimeStore × Except String TokenRecord) :
    (s.answer result).now = s.now := by
  unfold Runtime.answer
  split
  · rfl
  · rfl

@[simp] theorem looked_now (s : TokenAPI) (tokenID : String) (wait : Nat) :
    (s.looked tokenID wait).runtime.now = s.runtime.now + wait := by
  simp [looked]

/-- The two outcomes of `Refresh`. -/
theorem refresh_cases (s : TokenAPI) (requestID tokenID : String) (ttl : Int) (previous : Time)
    (lag : Nat) :
    (∃ t err, s.refresh requestID tokenID ttl previous lag =
      (t, .error (mapRuntimeError err).1 (mapRuntimeError err).2 err)) ∨
    ∃ stored t, 0 < ttl ∧ s.runtime.store.records.lookup tokenID = some stored ∧
      (applyExpiry s.runtime.now stored).status = .active ∧
      t.runtime.now = s.runtime.now + lag ∧
      t.runtime.store.records.lookup tokenID =
        some { stored with expiresAt := s.runtime.now + lag + ttl } ∧
      s.refresh requestID tokenID ttl previous lag =
        (t, .refreshed requestID stored.tokenID previous (s.runtime.now + lag + ttl) stored.status) := by
  rcases s.runtime.store.refresh_cases s.runtime.now (s.runtime.now + lag) tokenID ttl with
    ⟨err, heq⟩ | ⟨stored, hfound, hstatus, heq⟩ | ⟨stored, hpos, hfound, hstatus, heq⟩
  · exact .inl ⟨_, err, by simp only [TokenAPI.refresh, heq]; rfl⟩
  · exact .inl ⟨_, _, by simp only [TokenAPI.refresh, heq]; rfl⟩
  · refine .inr ⟨stored, _, hpos, hfound, hstatus, ?_, ?_, by simp only [TokenAPI.refresh, heq]; rfl⟩
    · rfl
    · exact Finmap.lookup_insert _

section

variable {sha256 : String → String} {s t : TokenAPI} {tokenID : String} {wait lag : Nat}

/-- What a successful refresh leaves. -/
theorem handleRefresh_refreshed {requestID id : String} {previous expires : Time} {status : TokenStatus}
    (h : s.handleRefresh tokenID req wait lag = (t, .refreshed requestID id previous expires status)) :
    ∃ ttlSeconds r, WellFormed req ttlSeconds ∧ 0 < secondsDuration ttlSeconds ∧
      t.runtime.now = s.runtime.now + wait + lag ∧
      expires = s.runtime.now + wait + lag + secondsDuration ttlSeconds ∧
      t.runtime.store.records.lookup tokenID = some r ∧ r.status = .active ∧ r.expiresAt = expires := by
  rcases wellFormed_or_refused s tokenID req wait lag with ⟨ttlSeconds, hwf⟩ | ⟨_, _, _, hrefused⟩
  · obtain ⟨prev, heq⟩ := handleRefresh_of_wellFormed hwf s tokenID wait lag
    rcases (s.looked tokenID wait).refresh_cases (trimSpace req.xRequestID) tokenID
      (secondsDuration ttlSeconds) prev lag with
      ⟨_, _, hfail⟩ | ⟨stored, u, hpos, hfound, hstatus, hnow, hstored, hdone⟩
    · rw [heq, hfail] at h
      cases h
    · rw [heq, hdone] at h
      cases h
      rw [looked_now] at hnow hstored
      refine ⟨ttlSeconds, _, hwf, hpos, hnow, by rw [looked_now], hstored,
        (active_of_applyExpiry hstatus).1, by rw [looked_now]⟩
  · rw [hrefused] at h
    cases h

/-- Nothing is drawn twice, and the operation does not refresh or revoke the token. -/
def Elsewhere (sha256 : String → String) (tokenID : String) (s : Runtime) (a : Action) : Prop :=
  s.FreshDraws sha256 a ∧ (∀ ttl lag, a ≠ .refresh tokenID ttl lag) ∧ ∀ reason, a ≠ .revoke tokenID reason

/-- The token is stored as active until `expires`. -/
def ActiveUntil (records : GoMap TokenRecord) (tokenID : String) (expires : Time) : Prop :=
  ∃ r, records.lookup tokenID = some r ∧ r.status = .active ∧ r.expiresAt = expires

theorem applyExpiry_of_lt {now : Time} {r : TokenRecord} (h : now < r.expiresAt) : applyExpiry now r = r :=
  if_neg (fun hcond => hcond.2.2 h)

theorem ActiveUntil.insert {records : GoMap TokenRecord} {expires : Time} {id : String} {r' : TokenRecord}
    (h : ActiveUntil records tokenID expires)
    (hsame : id = tokenID → r'.status = .active ∧ r'.expiresAt = expires) :
    ActiveUntil (records.insert id r') tokenID expires :=
  Maps.exists_lookup_insert h (fun hid => hsame hid.symm)

/-- Before the token expires, reading it changes nothing. -/
theorem ActiveUntil.expiry {records : GoMap TokenRecord} {expires now : Time} {id : String}
    {stored : TokenRecord} (h : ActiveUntil records tokenID expires) (hlt : now < expires)
    (found : records.lookup id = some stored) :
    ActiveUntil (records.insert id (applyExpiry now stored)) tokenID expires := by
  refine h.insert (fun hid => ?_)
  subst hid
  obtain ⟨r, hr, hstatus, rfl⟩ := h
  cases Option.some.inj (found.symm.trans hr)
  rw [applyExpiry_of_lt hlt]
  exact ⟨hstatus, rfl⟩

theorem now_le_of_effect {r r' : Runtime} {a : Action} (e : Runtime.Effect sha256 r a r') :
    r.now ≤ r'.now := by
  cases e with
  | tick elapsed => exact Int.le_add_of_nonneg_right (Int.natCast_nonneg _)
  | @refreshed id ttl lag stored positive found status =>
    exact Int.le_add_of_nonneg_right (Int.natCast_nonneg _)
  | _ => exact Int.le_refl _

/-- What is done elsewhere before the token expires leaves it active. -/
theorem ActiveUntil.effect {r r' : Runtime} {a : Action} {expires : Time}
    (h : ActiveUntil r.store.records tokenID expires) (e : Runtime.Effect sha256 r a r')
    (hc : r.Consistent) (hok : Elsewhere sha256 tokenID r a) (hlt : r.now < expires) :
    ActiveUntil r'.store.records tokenID expires := by
  obtain ⟨-, hrefresh, hrevoke⟩ := hok
  cases e with
  | tick elapsed => exact h
  | unchanged => exact h
  | prepared c idle made => exact h
  | mismatch c pending => exact h
  | replayed c id existing pending key entry stored found => exact h
  | @saved n c pending found =>
    refine h.insert (fun hid => ?_)
    obtain ⟨stored, hstored, -⟩ := h
    rw [← hid, (hc.pending.fresh n c pending).1] at hstored
    cases hstored
  | read _ id stored found => exact h.expiry hlt found
  | inactive stored found status => exact h.expiry hlt found
  | @refreshed id ttl lag stored positive found status =>
    refine h.insert (fun hid => ?_)
    subst hid
    exact absurd rfl (hrefresh ttl lag)
  | @revoked id reason stored found =>
    refine h.insert (fun hid => ?_)
    subst hid
    exact absurd rfl (hrevoke reason)

theorem now_le_of_reach {r r' : Runtime} {ok : Runtime → Action → Prop}
    (h : Reach (Runtime.step sha256) ok r r') : r.now ≤ r'.now :=
  h.invariant (I := fun u => r.now ≤ u.now) (Int.le_refl _)
    (fun _ _ _ hle _ hs => Int.le_trans hle (now_le_of_effect (Runtime.step_effect hs)))

/-- As long as the clock has not moved, the token stays as a refresh left it. -/
theorem activeUntil_of_reach {r r' : Runtime} {expires : Time}
    (hreach : Reach (Runtime.step sha256) (Elsewhere sha256 tokenID) r r') (hc : r.Consistent)
    (h : ActiveUntil r.store.records tokenID expires) (hlt : r.now < expires) (hnow : r'.now = r.now) :
    ActiveUntil r'.store.records tokenID expires := by
  have hinv : r'.Consistent ∧ r.now ≤ r'.now ∧
      (r'.now = r.now → ActiveUntil r'.store.records tokenID expires) := by
    refine hreach.invariant (I := fun u => u.Consistent ∧ r.now ≤ u.now ∧
      (u.now = r.now → ActiveUntil u.store.records tokenID expires)) ⟨hc, Int.le_refl _, fun _ => h⟩ ?_
    -- the clock never goes back, so it has not moved before either
    rintro u a v ⟨hcu, hle, hactive⟩ hok hs
    have heffect := Runtime.step_effect hs
    have huv := now_le_of_effect heffect
    refine ⟨heffect.consistent hok.1 hcu, Int.le_trans hle huv, fun hv => ?_⟩
    have hu : u.now = r.now := Int.le_antisymm (hv ▸ huv) hle
    exact (hactive hu).effect heffect hcu hok (hu ▸ hlt)
  exact hinv.2.2 hnow

theorem refresh_step (sha256 : String → String) (s : TokenAPI) (requestID tokenID : String) (ttl : Int)
    (previous : Time) (lag : Nat) :
    s.runtime.step sha256 (.refresh tokenID ttl lag) =
      some (s.refresh requestID tokenID ttl previous lag).1.runtime := by
  rcases hresult : s.runtime.store.refresh s.runtime.now (s.runtime.now + lag) tokenID ttl with ⟨store, result⟩
  cases result with
  | error err => simp only [Runtime.step, TokenAPI.refresh, hresult]
  | ok record => simp only [Runtime.step, TokenAPI.refresh, hresult]

/-- The handler is the operations `Lookup` and `Refresh` of the runtime. -/
theorem handleRefresh_consistent (hc : s.runtime.Consistent) (tokenID : String) (req : RefreshRequest)
    (wait lag : Nat) : (s.handleRefresh tokenID req wait lag).1.runtime.Consistent := by
  rcases wellFormed_or_refused s tokenID req wait lag with ⟨ttlSeconds, hwf⟩ | ⟨_, _, _, hrefused⟩
  · obtain ⟨prev, heq⟩ := handleRefresh_of_wellFormed hwf s tokenID wait lag
    have hlookup : s.runtime.step id (.lookup tokenID) =
        some (s.runtime.answer (s.runtime.store.lookup s.runtime.now tokenID)) := rfl
    have hlooked := (Runtime.step_effect hlookup).consistent trivial hc
    have htick : (s.runtime.answer (s.runtime.store.lookup s.runtime.now tokenID)).step id (.tick wait) =
        some (s.looked tokenID wait).runtime := rfl
    have hwaited := (Runtime.step_effect htick).consistent trivial hlooked
    have hrefresh := refresh_step id (s.looked tokenID wait) (trimSpace req.xRequestID) tokenID
      (secondsDuration ttlSeconds) prev lag
    rw [heq]
    exact (Runtime.step_effect hrefresh).consistent trivial hwaited
  · rw [hrefused]
    exact hc

theorem looked_activeUntil {expires : Time} (h : ActiveUntil s.runtime.store.records tokenID expires)
    (hlt : s.runtime.now < expires) (wait : Nat) :
    ActiveUntil (s.looked tokenID wait).runtime.store.records tokenID expires := by
  obtain ⟨r, hr, -⟩ := id h
  unfold looked
  dsimp only
  rw [Runtime.answer_store, InMemoryRuntimeStore.lookup, getByTokenID, hr]
  exact h.expiry hlt hr

/-- A token that is still active is refreshed. -/
theorem handleRefresh_of_active {ttlSeconds : Int} {expires : Time} (lag : Nat)
    (hwf : WellFormed req ttlSeconds) (hpos : 0 < secondsDuration ttlSeconds)
    (h : ActiveUntil s.runtime.store.records tokenID expires)
    (hlt : s.runtime.now + wait < expires) :
    ∃ t requestID id previous status, s.handleRefresh tokenID req wait lag =
        (t, .refreshed requestID id previous
          (s.runtime.now + wait + lag + secondsDuration ttlSeconds) status) := by
  obtain ⟨prev, heq⟩ := handleRefresh_of_wellFormed hwf s tokenID wait lag
  have hnow : s.runtime.now < expires :=
    Int.lt_of_le_of_lt (Int.le_add_of_nonneg_right (Int.natCast_nonneg wait)) hlt
  obtain ⟨r, hr, hstatus, hexpires⟩ := looked_activeUntil h hnow wait
  have hkeep : applyExpiry (s.looked tokenID wait).runtime.now r = r :=
    applyExpiry_of_lt (by rw [looked_now, hexpires]; exact hlt)
  have hrefresh : (s.looked tokenID wait).runtime.store.refresh (s.looked tokenID wait).runtime.now
      ((s.looked tokenID wait).runtime.now + lag) tokenID (secondsDuration ttlSeconds) =
      ((s.looked tokenID wait).runtime.store.write tokenID { r with
          expiresAt := (s.looked tokenID wait).runtime.now + lag + secondsDuration ttlSeconds },
        .ok { r with
          expiresAt := (s.looked tokenID wait).runtime.now + lag + secondsDuration ttlSeconds }) := by
    have hnonpos : ¬secondsDuration ttlSeconds ≤ 0 := Int.not_le.mpr hpos
    simp only [InMemoryRuntimeStore.refresh, if_neg hnonpos, getByTokenID, hr, hkeep, hstatus, ne_eq,
      not_true_eq_false, if_false]
  rw [heq, ← looked_now s tokenID wait]
  simp only [TokenAPI.refresh, hrefresh]
  exact ⟨_, _, _, _, _, rfl⟩

/-- The second of two requests answers with the `expires_at` of the first and leaves the token's expiry
as the first set it. -/
def HasOneEffect (s₁ : TokenAPI) (tokenID : String) (expires : Time)
    (second : TokenAPI × RefreshResponse) : Prop :=
  (∃ requestID id previous status, second.2 = .refreshed requestID id previous expires status) ∧
    (second.1.runtime.store.records.lookup tokenID).map TokenRecord.expiresAt =
      (s₁.runtime.store.records.lookup tokenID).map TokenRecord.expiresAt

theorem same_clock {since now ttl : Int} (h : since + ttl = now + ttl) : since = now := by omega

theorem clock_stopped {since now : Int} {wait lag : Nat} (hle : since ≤ now)
    (hsame : now + wait + lag = since) : now = since ∧ wait = 0 ∧ lag = 0 := by
  omega

end

/-- Two requests with one key and one body have the effect of one exactly when the clock reads the same
in both calls of `Refresh`, whatever is done with other tokens in between. -/
theorem repeated_refresh_iff {sha256 : String → String} {now : Time} {s₀ s₁ s₂ : TokenAPI}
    {tokenID requestID id : String} {req : RefreshRequest} {wait lag wait' lag' : Nat}
    {previous expires : Time} {status : TokenStatus} {xRequestID : String}
    (hstart : Reach (Runtime.step sha256) (Runtime.FreshDraws sha256) (Runtime.start now) s₀.runtime)
    (hfirst : s₀.handleRefresh tokenID req wait lag =
      (s₁, .refreshed requestID id previous expires status))
    (hbetween : Reach (Runtime.step sha256) (Elsewhere sha256 tokenID) s₁.runtime s₂.runtime)
    (hid : trimSpace xRequestID ≠ "") :
    HasOneEffect s₁ tokenID expires
        (s₂.handleRefresh tokenID { req with xRequestID := xRequestID } wait' lag') ↔
      s₂.runtime.now + wait' + lag' = s₁.runtime.now := by
  obtain ⟨ttlSeconds, r, hwf, hpos, hnow, hexpires, hr, hactive, hrexpires⟩ := handleRefresh_refreshed hfirst
  rw [← hnow] at hexpires
  constructor
  · rintro ⟨⟨_, _, _, _, hsecond⟩, -⟩
    obtain ⟨ttlSeconds', _, hwf', _, _, hexpires', -⟩ := handleRefresh_refreshed (Prod.ext rfl hsecond)
    cases Except.ok.inj (hwf.body.symm.trans hwf'.body)
    rw [hexpires] at hexpires'
    exact (same_clock hexpires').symm
  · intro hsame
    have hwf' : WellFormed { req with xRequestID := xRequestID } ttlSeconds :=
      { hwf with xRequestID := hid }
    have hlt : s₁.runtime.now < expires := by
      rw [hexpires]
      exact Int.lt_add_of_pos_right _ hpos
    have hconsistent : s₁.runtime.Consistent := by
      have := handleRefresh_consistent (Runtime.consistent_of_reach hstart) tokenID req wait lag
      rwa [hfirst] at this
    obtain ⟨hstill, rfl, rfl⟩ := clock_stopped (now_le_of_reach hbetween) hsame
    have hkept := activeUntil_of_reach hbetween hconsistent ⟨r, hr, hactive, hrexpires⟩ hlt hstill
    have hlater : s₂.runtime.now + (0 : Nat) < expires := by
      rw [hstill, Int.natCast_zero, Int.add_zero]
      exact hlt
    obtain ⟨s₃, requestID', id', previous', status', hsecond⟩ :=
      handleRefresh_of_active 0 hwf' hpos hkept hlater
    rw [hstill, Int.natCast_zero, Int.add_zero, Int.add_zero, ← hexpires] at hsecond
    obtain ⟨_, r', _, _, _, _, hr', _, hrexpires'⟩ := handleRefresh_refreshed hsecond
    refine ⟨⟨requestID', id', previous', status', by rw [hsecond]⟩, ?_⟩
    rw [hsecond]
    simp only [hr', hr, Option.map_some, hrexpires, hrexpires']

/-- The token of `issuedSample` is refreshed for a minute. -/
def sampleRefresh : RefreshRequest := ⟨"POST", "req-2", "k-2", .ok 60⟩

def sampleIssued : TokenAPI := ⟨Runtime.issuedSample, none⟩

def sampleRefreshed : TokenAPI := (sampleIssued.handleRefresh "tok_0101010101010101" sampleRefresh 0 0).1

theorem sampleIssued_reach : Reach (Runtime.step id) (Runtime.FreshDraws id) (Runtime.start 0)
    sampleIssued.runtime := by
  have hprepared : Reach (Runtime.step id) (Runtime.FreshDraws id) (Runtime.start 0)
      Runtime.preparedSample :=
    Runtime.reach_after (Reach.refl _) (fun _ _ _ hd => by cases hd) (by decide)
  exact Runtime.reach_after (a := .commitIssue 0) hprepared trivial (by decide)

theorem sampleRefresh_first : sampleIssued.handleRefresh "tok_0101010101010101" sampleRefresh 0 0 =
    (sampleRefreshed, .refreshed "req-2" "tok_0101010101010101" second (60 * second) .active) := by
  refine Prod.ext rfl ?_
  decide

/-- The request is sent again at once. -/
theorem repeated_refresh_at_once :
    HasOneEffect sampleRefreshed "tok_0101010101010101" (60 * second)
      (sampleRefreshed.handleRefresh "tok_0101010101010101" { sampleRefresh with xRequestID := "req-3" }
        0 0) := by
  refine (repeated_refresh_iff sampleIssued_reach sampleRefresh_first (Reach.refl _)
    (by decide)).mpr ?_
  rw [Int.natCast_zero, Int.add_zero, Int.add_zero]

/-- A second later. -/
def sampleLater : TokenAPI := ⟨sampleRefreshed.runtime.after (.tick 1000000000), none⟩

/-- Sent again a second later, the request moves the expiry by that second. -/
theorem repeated_refresh_moves_expiry :
    Reach (Runtime.step id) (Elsewhere id "tok_0101010101010101") sampleRefreshed.runtime
      sampleLater.runtime ∧
    (sampleLater.handleRefresh "tok_0101010101010101" sampleRefresh 0 0).2 =
      .refreshed "req-2" "tok_0101010101010101" (60 * second) (61 * second) .active ∧
    ¬HasOneEffect sampleRefreshed "tok_0101010101010101" (60 * second)
      (sampleLater.handleRefresh "tok_0101010101010101" sampleRefresh 0 0) := by
  have hsecond : (sampleLater.handleRefresh "tok_0101010101010101" sampleRefresh 0 0).2 =
      .refreshed "req-2" "tok_0101010101010101" (60 * second) (61 * second) .active := by
    decide
  refine ⟨(Reach.refl _).next (a := .tick 1000000000) ⟨trivial, nofun, nofun⟩ rfl, hsecond, ?_⟩
  rintro ⟨⟨_, _, _, _, h⟩, -⟩
  rw [hsecond] at h
  cases h

end TokenAPI

end SupplyPlatform.TokenRuntime
