import SupplyPlatform.RemoteRevocation
import SupplyPlatform.TokenAuthStep

namespace SupplyPlatform.Gateway.AuthGateway

open Settlements (zeroTime)
open Strings Transition
open TokenRuntime (Runtime TokenRecord VerifiedToken Bears ClaimsOf extractBearerToken)
open TokenRuntime.InMemoryRuntimeStore (getByAccessToken_eq_some)

variable {sha256 : String → String} {lower : Char → Char} {s s₀ t : AuthGateway} {a : Action} {n m : Nat}

/-- The prefixes that `BuildServer` gives to the middleware. -/
def bootstrapPaths : PathConfig where
  protectedPrefixes := ["/v1/chat/completions", "/v1/completions", "/api/v1/chat/completions",
    "/api/v1/completions", "/api/v1/supply", "/api/v1/platform"]
  excludedPrefixes := ["/health", "/healthz", "/metrics", "/readyz"]

/-- The paths under which `BuildMux` has put the handlers of completions. -/
def completionRoutes : List String :=
  ["/v1/chat/completions", "/v1/completions", "/api/v1/chat/completions", "/api/v1/completions"]

/-- What the token runtime draws is drawn for the first time. -/
def FreshRemote (sha256 : String → String) (s : AuthGateway) : Action → Prop
  | .remote a => s.remote.FreshDraws sha256 a
  | _ => True

def eventsOf (s : AuthGateway) (n : Nat) : List AuditEvent :=
  (s.audit.filter (fun x => decide (x.1 = n))).map Prod.snd

/-- In a state of the run the token runtime had the token active and not expired. -/
def WasActive (sha256 : String → String) (lower : Char → Char) (s₀ s : AuthGateway) (tokenID : String) :
    Prop :=
  ∃ s₁ record, Reach (step sha256 lower) (FreshRemote sha256) s₀ s₁ ∧
    Reach (step sha256 lower) (FreshRemote sha256) s₁ s ∧
    s₁.remote.store.records.lookup tokenID = some record ∧ record.status = .active ∧
    (record.expiresAt = zeroTime ∨ s₁.remote.now < record.expiresAt)

/-- The request bears a token that the token runtime has stored with these claims. -/
def BearsToken (s : AuthGateway) (r : WebRequest) (claims : VerifiedToken) : Prop :=
  ∃ rawToken, extractBearerToken r.authorization = some rawToken ∧
    ClaimsOf s.remote.store rawToken claims

/-- The request was let in as the one its token was issued to, and the audit trail says so once. -/
structure LetIn (sha256 : String → String) (lower : Char → Char) (s₀ s : AuthGateway) (n : Nat)
    (r : WebRequest) (p : Principal) : Prop where
  issued : ∃ issuedAt expiresAt,
    s.BearsToken r ⟨p.tokenID, p.subjectID, p.role, p.scope, issuedAt, expiresAt⟩
  active : WasActive sha256 lower s₀ s p.tokenID
  authorized : Gateway.authorize r.path r.method p.scope p.role = true
  audited : ∃ e, s.eventsOf n = [e] ∧ e.resultCode = "OK" ∧ e.requestID = p.requestID ∧
    e.tokenID = p.tokenID ∧ e.subjectID = p.subjectID ∧ e.route = r.path

/-- The audit trail has the refusal once, with the code and the request id of the response. -/
def TurnedAway (s : AuthGateway) (n : Nat) (r : WebRequest) (response : ErrorResponse) : Prop :=
  ∃ e, s.eventsOf n = [e] ∧ e.resultCode = response.code ∧ e.requestID = response.requestID ∧
    e.route = r.path

/-- What is known of a request by its stage. -/
def StageOk (sha256 : String → String) (lower : Char → Char) (s₀ s : AuthGateway) (n : Nat) :
    AuthStage → Prop
  | .introspect r _ rawToken => s.eventsOf n = [] ∧ extractBearerToken r.authorization = some rawToken
  | .record r _ answer _ => s.eventsOf n = [] ∧ ∀ data, answer = .ok data →
    s.BearsToken r ⟨data.tokenID, data.subjectID, data.role, data.scope, data.issuedAt, data.expiresAt⟩ ∧
    (RemoteTokenRuntime.recordedStatus lower data = "active" → WasActive sha256 lower s₀ s data.tokenID)
  | .resolve r _ claims _ => s.eventsOf n = [] ∧ s.BearsToken r claims
  | .authorize r _ claims _ => s.eventsOf n = [] ∧ s.BearsToken r claims ∧
    WasActive sha256 lower s₀ s claims.tokenID
  | .passed r => s₀.paths.shouldProtect r.path = false ∧ s.eventsOf n = []
  | .handled r p _ => LetIn sha256 lower s₀ s n r p
  | .refused r response => s.TurnedAway n r response

structure Accounts (sha256 : String → String) (lower : Char → Char) (s₀ s : AuthGateway) : Prop where
  reached : Reach (step sha256 lower) (FreshRemote sha256) s₀ s
  paths : s.paths = s₀.paths
  consistent : s.remote.Consistent
  recorded : ∀ id record, s.runtime.records.lookup id = some record → record.status = "active" →
    WasActive sha256 lower s₀ s id
  idle : ∀ n, s.requests n = none → s.eventsOf n = []
  stages : ∀ n stage, s.requests n = some stage → StageOk sha256 lower s₀ s n stage

theorem accounts_start (sha256 : String → String) (lower : Char → Char) (paths : PathConfig)
    (trustedProxies : List String) (remoteNow now : Time) :
    Accounts sha256 lower (start paths trustedProxies remoteNow now)
      (start paths trustedProxies remoteNow now) where
  reached := Reach.refl _
  paths := rfl
  consistent := Runtime.consistent_start remoteNow
  recorded id record h := by
    rw [show (start paths trustedProxies remoteNow now).runtime.records = ∅ from rfl] at h
    cases h
  idle _ _ := rfl
  stages _ _ h := by cases h

theorem WasActive.next {tokenID : String} (h : WasActive sha256 lower s₀ s tokenID)
    (hok : FreshRemote sha256 s a) (hstep : s.step sha256 lower a = some t) :
    WasActive sha256 lower s₀ t tokenID := by
  obtain ⟨s₁, record, hbefore, hsince, hrecord⟩ := h
  exact ⟨s₁, record, hbefore, hsince.next hok hstep, hrecord⟩

/-- What is known of a request is known after a step that is not its own. -/
theorem StageOk.mono {stage : AuthStage} (h : StageOk sha256 lower s₀ s n stage)
    (events : t.eventsOf n = s.eventsOf n)
    (claims : ∀ rawToken claims, ClaimsOf s.remote.store rawToken claims →
      ClaimsOf t.remote.store rawToken claims)
    (active : ∀ tokenID, WasActive sha256 lower s₀ s tokenID → WasActive sha256 lower s₀ t tokenID) :
    StageOk sha256 lower s₀ t n stage := by
  have bears : ∀ r c, s.BearsToken r c → t.BearsToken r c := by
    rintro r c ⟨rawToken, hbearer, hclaims⟩
    exact ⟨rawToken, hbearer, claims rawToken c hclaims⟩
  cases stage with
  | introspect r requestID rawToken => exact ⟨events.trans h.1, h.2⟩
  | record r requestID answer late =>
    refine ⟨events.trans h.1, fun data hdata => ?_⟩
    obtain ⟨hbears, hactive⟩ := h.2 data hdata
    exact ⟨bears _ _ hbears, fun hstatus => active _ (hactive hstatus)⟩
  | resolve r requestID c late => exact ⟨events.trans h.1, bears _ _ h.2⟩
  | authorize r requestID c late => exact ⟨events.trans h.1, bears _ _ h.2.1, active _ h.2.2⟩
  | passed r => exact ⟨h.1, events.trans h.2⟩
  | handled r p late =>
    obtain ⟨⟨issuedAt, expiresAt, hbears⟩, hactive, hauthorized, e, he, haudited⟩ := h
    exact ⟨⟨issuedAt, expiresAt, bears _ _ hbears⟩, active _ hactive, hauthorized, e, events.trans he,
      haudited⟩
  | refused r response =>
    obtain ⟨e, he, hcode⟩ := h
    exact ⟨e, events.trans he, hcode⟩

theorem eventsOf_exit (s : AuthGateway) (n : Nat) (e : AuditEvent) (stage : AuthStage) :
    (s.exit n e stage).eventsOf n = e :: s.eventsOf n := by
  simp [eventsOf, exit, setStage]

theorem eventsOf_exit_of_ne {e : AuditEvent} {stage : AuthStage} (h : m ≠ n) :
    (s.exit n e stage).eventsOf m = s.eventsOf m := by
  simp [eventsOf, exit, setStage, Ne.symm h]

theorem requests_setStage (s : AuthGateway) (n : Nat) (stage : AuthStage) :
    (s.setStage n stage).requests n = some stage :=
  Function.update_self n _ _

/-- The parts of the gateway that a step for the request `n` may change. -/
structure Moves (sha256 : String → String) (s t : AuthGateway) (n : Nat) : Prop where
  paths : t.paths = s.paths
  remote : ∃ b, s.remote.FreshDraws sha256 b ∧ Runtime.Effect sha256 s.remote b t.remote
  requests : ∀ m, m ≠ n → t.requests m = s.requests m
  events : ∀ m, m ≠ n → t.eventsOf m = s.eventsOf m

theorem moves_setStage (s : AuthGateway) (n : Nat) (stage : AuthStage) :
    Moves sha256 s (s.setStage n stage) n :=
  ⟨rfl, ⟨.tick 0, trivial, .unchanged _⟩, fun _ hm => Function.update_of_ne hm _ _, fun _ _ => rfl⟩

theorem moves_exit (s : AuthGateway) (n : Nat) (e : AuditEvent) (stage : AuthStage) :
    Moves sha256 s (s.exit n e stage) n :=
  ⟨rfl, ⟨.tick 0, trivial, .unchanged _⟩, fun _ hm => Function.update_of_ne hm _ _,
    fun _ hm => eventsOf_exit_of_ne hm⟩

/-- A step for the request `n` keeps what is known when it leaves that request, and what the map of the
gateway has, well. -/
theorem Accounts.move (h : Accounts sha256 lower s₀ s) (hstep : s.step sha256 lower a = some t)
    (hok : FreshRemote sha256 s a) (moves : Moves sha256 s t n)
    (recorded : ∀ id record, t.runtime.records.lookup id = some record → record.status = "active" →
      WasActive sha256 lower s₀ s id)
    {stage : AuthStage} (hstage : t.requests n = some stage)
    (good : StageOk sha256 lower s₀ t n stage) : Accounts sha256 lower s₀ t := by
  obtain ⟨b, hdraws, effect⟩ := moves.remote
  refine ⟨h.reached.next hok hstep, moves.paths.trans h.paths, effect.consistent hdraws h.consistent, ?_,
    fun m hm => ?_, fun m stage' hm => ?_⟩
  · exact fun id record hr hactive => (recorded id record hr hactive).next hok hstep
  · by_cases hmn : m = n
    · rw [hmn, hstage] at hm
      cases hm
    · rw [moves.events m hmn]
      exact h.idle m (moves.requests m hmn ▸ hm)
  · by_cases hmn : m = n
    · subst hmn
      cases Option.some.inj (hstage.symm.trans hm)
      exact good
    · rw [moves.requests m hmn] at hm
      exact (h.stages m stage' hm).mono (moves.events m hmn) (fun _ _ hc => effect.claimsOf h.consistent hc)
        (fun _ hactive => hactive.next hok hstep)

/-- An operation of the token runtime keeps what is known. -/
theorem Accounts.remoteStep {b : TokenRuntime.Action} {remote : Runtime} {revoked : List String}
    (h : Accounts sha256 lower s₀ s) (hok : FreshRemote sha256 s a)
    (hstep : s.step sha256 lower a = some { s with remote := remote, revoked := revoked })
    (hdraws : s.remote.FreshDraws sha256 b) (effect : Runtime.Effect sha256 s.remote b remote) :
    Accounts sha256 lower s₀ { s with remote := remote, revoked := revoked } :=
  ⟨h.reached.next hok hstep, h.paths, effect.consistent hdraws h.consistent,
    fun id record hr hactive => (h.recorded id record hr hactive).next hok hstep, h.idle,
    fun m stage hm => (h.stages m stage hm).mono rfl (fun _ _ hc => effect.claimsOf h.consistent hc)
      (fun _ hactive => hactive.next hok hstep)⟩

theorem moves_refuse (s : AuthGateway) (n : Nat) (r : WebRequest)
    (requestID eventName tokenID subjectID : String) (status : Nat) (code message : String) :
    Moves sha256 s (s.refuse n r requestID eventName tokenID subjectID status code message) n :=
  moves_exit s n _ _

theorem turnedAway_refuse (s : AuthGateway) (n : Nat) (r : WebRequest)
    (requestID eventName tokenID subjectID : String) (status : Nat) (code message : String)
    (hquiet : s.eventsOf n = []) :
    (s.refuse n r requestID eventName tokenID subjectID status code message).TurnedAway n r
      ⟨status, requestID, code, message⟩ := by
  refine ⟨s.event r eventName requestID tokenID subjectID code, ?_, rfl, rfl, rfl⟩
  rw [AuthGateway.refuse, eventsOf_exit, hquiet]

/-- A request is refused that has had no event before. -/
theorem Accounts.refuse (h : Accounts sha256 lower s₀ s) {r : WebRequest}
    {requestID eventName tokenID subjectID : String} {status : Nat} {code message : String}
    (hstep : s.step sha256 lower a =
      some (s.refuse n r requestID eventName tokenID subjectID status code message))
    (hok : FreshRemote sha256 s a) (hquiet : s.eventsOf n = []) :
    Accounts sha256 lower s₀ (s.refuse n r requestID eventName tokenID subjectID status code message) :=
  h.move hstep hok (moves_refuse s n r _ _ _ _ _ _ _) h.recorded (requests_setStage _ n _)
    (turnedAway_refuse s n r _ _ _ _ _ _ _ hquiet)

theorem authorization_ensureRequestID (r : WebRequest) (now : Time) :
    (r.ensureRequestID now).1.authorization = r.authorization := by
  unfold WebRequest.ensureRequestID
  split
  · split <;> rfl
  · rfl

theorem Accounts.accept (h : Accounts sha256 lower s₀ s) {r : WebRequest}
    (hidle : s.requests n = none) (hstep : s.step sha256 lower (.accept n r) = some (s.accept n r)) :
    Accounts sha256 lower s₀ (s.accept n r) := by
  have hquiet := h.idle n hidle
  unfold AuthGateway.accept at hstep ⊢
  split at hstep
  next hopen =>
    rw [if_pos hopen]
    exact h.move hstep trivial (moves_setStage s n _) h.recorded (requests_setStage s n _)
      ⟨h.paths ▸ hopen, hquiet⟩
  next hprotect =>
    rw [if_neg hprotect]
    dsimp only at hstep ⊢
    split at hstep
    next hmissing =>
      exact h.refuse hstep trivial hquiet
    next rawToken hbearer =>
      exact h.move hstep trivial (moves_setStage s n _) h.recorded (requests_setStage s n _) ⟨hquiet, hbearer⟩

theorem length_recordedStatus (lower : Char → Char) (data : Introspection) :
    (RemoteTokenRuntime.recordedStatus lower data).toList.length = (trimSpace data.status).toList.length := by
  rw [RemoteTokenRuntime.recordedStatus, toLower, String.toList_ofList, List.length_map]

/-- However letters are lowered, no other status is recorded as "active". -/
theorem active_of_recordedStatus {found : TokenRecord}
    (h : RemoteTokenRuntime.recordedStatus lower (introspection found) = "active") :
    found.status = .active := by
  have hlength := length_recordedStatus lower (introspection found)
  rw [h, introspection] at hlength
  cases hstatus : found.status with
  | active => rfl
  | revoked =>
    rw [hstatus] at hlength
    exact absurd hlength
      (show ¬"active".toList.length = (trimSpace (statusText .revoked)).toList.length by decide)
  | expired =>
    rw [hstatus] at hlength
    exact absurd hlength
      (show ¬"active".toList.length = (trimSpace (statusText .expired)).toList.length by decide)

/-- What the token runtime answers is what it has stored with the token, which is active where the answer
says so. -/
theorem introspect_ok {remote : Runtime} {rawToken : String} {found : TokenRecord} (hc : remote.Consistent)
    (h : (remote.store.introspect remote.now rawToken).2 = .ok found) :
    ClaimsOf remote.store rawToken ⟨found.tokenID, found.subjectID, found.role, found.scope,
      found.issuedAt, found.expiresAt⟩ ∧
    (found.status = .active → ∃ record, remote.store.records.lookup found.tokenID = some record ∧
      record.status = .active ∧ (record.expiresAt = zeroTime ∨ remote.now < record.expiresAt)) := by
  unfold TokenRuntime.InMemoryRuntimeStore.introspect TokenRuntime.InMemoryRuntimeStore.read at h
  split at h
  next => cases h
  next id stored hget =>
    cases h
    have hsame := TokenRuntime.sameToken_applyExpiry remote.now stored
    have hstored := (getByAccessToken_eq_some.mp hget).2
    have hname := (hc.store.owned id stored hstored).1
    refine ⟨⟨stored, ?_, ?_⟩, fun hactive => ?_⟩
    · rw [hsame.tokenID, hname]
      exact hget
    · rw [hsame]
      exact ⟨rfl, rfl, rfl, rfl⟩
    · obtain ⟨hstatus, hlive⟩ := TokenRuntime.active_of_applyExpiry hactive
      refine ⟨stored, ?_, hstatus, hlive⟩
      rw [hsame.tokenID, hname]
      exact hstored

theorem moves_answerStep (s : AuthGateway) (n : Nat) (r : WebRequest) (requestID rawToken : String) :
    Moves sha256 s (s.answerStep n r requestID rawToken) n := by
  have effect : Runtime.Effect sha256 s.remote (.introspect rawToken)
      (s.remote.answer (s.remote.store.introspect s.remote.now rawToken)) := Runtime.step_effect rfl
  unfold AuthGateway.answerStep
  dsimp only
  split
  next =>
    exact ⟨rfl, ⟨.introspect rawToken, trivial, effect⟩, fun _ hm => Function.update_of_ne hm _ _, fun _ _ => rfl⟩
  next =>
    exact ⟨rfl, ⟨.introspect rawToken, trivial, effect⟩, fun _ hm => Function.update_of_ne hm _ _, fun _ _ => rfl⟩

theorem Accounts.answerStep (h : Accounts sha256 lower s₀ s) {r : WebRequest} {requestID rawToken : String}
    (hn : s.requests n = some (.introspect r requestID rawToken))
    (hstep : s.step sha256 lower (.answer n) = some (s.answerStep n r requestID rawToken)) :
    Accounts sha256 lower s₀ (s.answerStep n r requestID rawToken) := by
  obtain ⟨hquiet, hbearer⟩ := h.stages n _ hn
  have effect : Runtime.Effect sha256 s.remote (.introspect rawToken)
      (s.remote.answer (s.remote.store.introspect s.remote.now rawToken)) := Runtime.step_effect rfl
  have moves : Moves sha256 s (s.answerStep n r requestID rawToken) n := moves_answerStep s n r requestID rawToken
  unfold AuthGateway.answerStep at hstep moves ⊢
  dsimp only at hstep moves ⊢
  split at hstep
  next err hfound =>
    rw [hfound] at moves
    exact h.move hstep trivial moves h.recorded (requests_setStage _ n _) ⟨hquiet, nofun⟩
  next found hfound =>
    rw [hfound] at moves
    refine h.move hstep trivial moves h.recorded (requests_setStage _ n _) ⟨hquiet, fun data hdata => ?_⟩
    cases hdata
    obtain ⟨hclaims, hactive⟩ := introspect_ok h.consistent hfound
    refine ⟨⟨rawToken, hbearer, effect.claimsOf h.consistent hclaims⟩, fun hstatus => ?_⟩
    obtain ⟨record, hrecord, hlive⟩ := hactive (active_of_recordedStatus hstatus)
    have hnow : WasActive sha256 lower s₀ s found.tokenID :=
      ⟨s, record, h.reached, Reach.refl _, hrecord, hlive⟩
    exact hnow.next (a := .answer n) trivial hstep

theorem Accounts.recordStep (h : Accounts sha256 lower s₀ s) {r : WebRequest} {requestID : String}
    {answer : Except Nat Introspection} {late : Bool}
    (hn : s.requests n = some (.record r requestID answer late))
    (hstep : s.step sha256 lower (.record n) = some (s.recordStep lower n r requestID answer late)) :
    Accounts sha256 lower s₀ (s.recordStep lower n r requestID answer late) := by
  obtain ⟨hquiet, hanswer⟩ := h.stages n _ hn
  unfold AuthGateway.recordStep at hstep ⊢
  split at hstep
  next => exact h.refuse hstep trivial hquiet
  next data =>
    obtain ⟨hbears, hactive⟩ := hanswer data rfl
    split at hstep
    next => exact h.refuse hstep trivial hquiet
    next runtime claims hverify =>
      unfold RemoteTokenRuntime.verify at hverify
      split at hverify
      next => cases hverify
      next =>
        cases hverify
        refine h.move hstep trivial ⟨rfl, ⟨.tick 0, trivial, .unchanged _⟩,
          fun _ hm => Function.update_of_ne hm _ _, fun _ _ => rfl⟩ ?_ (requests_setStage _ n _)
          ⟨hquiet, hbears⟩
        exact Maps.forall_lookup_insert (P := fun id (record : RemoteResolvedToken) => record.status = "active" →
          WasActive sha256 lower s₀ s id) h.recorded hactive

theorem active_of_resolve {rt : RemoteTokenRuntime} {now : Time} {tokenID : String}
    (h : rt.resolve now tokenID = .ok "active") :
    ∃ record, rt.records.lookup tokenID = some record ∧ record.status = "active" := by
  unfold RemoteTokenRuntime.resolve at h
  split at h
  next => cases h
  next record hfound =>
    split at h
    next => exact absurd (Except.ok.inj h) (by decide)
    next => exact ⟨record, hfound, Except.ok.inj h⟩

theorem Accounts.resolveStep (h : Accounts sha256 lower s₀ s) {r : WebRequest} {requestID : String}
    {claims : VerifiedToken} {late : Bool} (hn : s.requests n = some (.resolve r requestID claims late))
    (hstep : s.step sha256 lower (.resolve n) = some (s.resolveStep n r requestID claims late)) :
    Accounts sha256 lower s₀ (s.resolveStep n r requestID claims late) := by
  obtain ⟨hquiet, hbears⟩ := h.stages n _ hn
  unfold AuthGateway.resolveStep at hstep ⊢
  split at hstep
  next hresolve =>
    rw [if_pos hresolve]
    obtain ⟨record, hfound, hstatus⟩ := active_of_resolve hresolve
    have hactive := (h.recorded claims.tokenID record hfound hstatus).next (a := .resolve n) trivial hstep
    exact h.move hstep trivial (moves_setStage s n _) h.recorded (requests_setStage s n _)
      ⟨hquiet, hbears, hactive⟩
  next hresolve =>
    rw [if_neg hresolve]
    exact h.refuse hstep trivial hquiet

theorem Accounts.authorizeStep (h : Accounts sha256 lower s₀ s) {r : WebRequest} {requestID : String}
    {claims : VerifiedToken} {late : Bool} (hn : s.requests n = some (.authorize r requestID claims late))
    (hstep : s.step sha256 lower (.authorize n) = some (s.authorizeStep n r requestID claims late)) :
    Accounts sha256 lower s₀ (s.authorizeStep n r requestID claims late) := by
  obtain ⟨hquiet, hbears, hactive⟩ := h.stages n _ hn
  unfold AuthGateway.authorizeStep at hstep ⊢
  split at hstep
  next hauthorized =>
    rw [if_pos hauthorized]
    refine h.move hstep trivial (moves_exit s n _ _) h.recorded (requests_setStage s n _)
      ⟨⟨claims.issuedAt, claims.expiresAt, hbears⟩, hactive.next (a := .authorize n) trivial hstep,
        hauthorized, ?_⟩
    refine ⟨s.event r "token.authn.success" requestID claims.tokenID claims.subjectID "OK", ?_,
      rfl, rfl, rfl, rfl, rfl⟩
    rw [eventsOf_exit, hquiet]
  next hdenied =>
    rw [if_neg hdenied]
    exact h.refuse hstep trivial hquiet

theorem Accounts.verifyFailed (h : Accounts sha256 lower s₀ s) {r : WebRequest} {requestID : String}
    (hquiet : s.eventsOf n = [])
    (hstep : s.step sha256 lower (.fail n) = some (s.verifyFailed n r requestID)) :
    Accounts sha256 lower s₀ (s.verifyFailed n r requestID) :=
  h.refuse hstep trivial hquiet

theorem Accounts.step (h : Accounts sha256 lower s₀ s) (hok : FreshRemote sha256 s a)
    (hs : s.step sha256 lower a = some t) : Accounts sha256 lower s₀ t := by
  have hstep := hs
  cases a with
  | remote b =>
    obtain ⟨remote, hremote, rfl⟩ := Option.map_eq_some_iff.mp hs
    exact h.remoteStep hok hstep hok (Runtime.step_effect hremote)
  | tick elapsed =>
    cases hs
    exact ⟨h.reached.next hok hstep, h.paths, h.consistent,
      fun id record hr hactive => (h.recorded id record hr hactive).next hok hstep, h.idle,
      fun m stage hm => (h.stages m stage hm).mono rfl (fun _ _ hc => hc)
        (fun _ hactive => hactive.next hok hstep)⟩
  | accept n r =>
    simp only [AuthGateway.step] at hs
    split at hs
    next hidle => cases hs; exact h.accept hidle hstep
    next => cases hs
  | answer n =>
    simp only [AuthGateway.step] at hs
    split at hs
    next hn => cases hs; exact h.answerStep hn hstep
    next => cases hs
  | fail n =>
    simp only [AuthGateway.step] at hs
    split at hs
    next hn => cases hs; exact h.verifyFailed (h.stages n _ hn).1 hstep
    next hn => cases hs; exact h.verifyFailed (h.stages n _ hn).1 hstep
    next => cases hs
  | record n =>
    simp only [AuthGateway.step] at hs
    split at hs
    next hn => cases hs; exact h.recordStep hn hstep
    next => cases hs
  | resolve n =>
    simp only [AuthGateway.step] at hs
    split at hs
    next hn => cases hs; exact h.resolveStep hn hstep
    next => cases hs
  | authorize n =>
    simp only [AuthGateway.step] at hs
    split at hs
    next hn => cases hs; exact h.authorizeStep hn hstep
    next => cases hs

theorem accounts_of_reach {paths : PathConfig} {trustedProxies : List String} {remoteNow now : Time}
    (h : Reach (step sha256 lower) (FreshRemote sha256) (start paths trustedProxies remoteNow now) s) :
    Accounts sha256 lower (start paths trustedProxies remoteNow now) s :=
  h.invariant (accounts_start sha256 lower paths trustedProxies remoteNow now)
    fun _ _ _ h hok hs => h.step hok hs

end SupplyPlatform.Gateway.AuthGateway
