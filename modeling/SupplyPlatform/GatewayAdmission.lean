import SupplyPlatform.GatewayServer
import SupplyPlatform.SlidingWindowBound

namespace SupplyPlatform.Gateway

open Settlements (zeroTime)
open Strings Transition
open TokenRuntime (StoreConsistent ClaimsOf extractBearerToken)
open TokenRuntime.InMemoryRuntimeStore (getByAccessToken_eq_some)

section

/-- A request that bears a token is limited by that token, whoever it comes from. -/
theorem limitKey_of_bearer {r : WebRequest} {rawToken : String}
    (h : extractBearerToken r.authorization = some rawToken) : limitKey r = rawToken := by
  unfold extractBearerToken at h
  split at h
  next hbearer =>
    dsimp only at h
    split at h
    next => cases h
    next htoken =>
      have hsome : r.authorization ≠ "" := by
        intro hempty
        rw [hempty] at hbearer
        exact absurd hbearer (by decide)
      unfold limitKey extractRateLimitKey
      rw [if_neg hsome, if_pos hbearer]
      dsimp only
      rw [if_pos htoken, if_neg htoken]
      exact Option.some.inj h
  next => cases h

/-- Claims tell a token by its id. -/
theorem claimsOf_tokenID {st : TokenRuntime.InMemoryRuntimeStore} (hst : StoreConsistent st)
    {rawToken rawToken' : String} {c c' : TokenRuntime.VerifiedToken} (h : ClaimsOf st rawToken c)
    (h' : ClaimsOf st rawToken' c') : c.tokenID = c'.tokenID ↔ rawToken = rawToken' := by
  obtain ⟨r, hr, -⟩ := h
  obtain ⟨r', hr', -⟩ := h'
  obtain ⟨hid, hrecord⟩ := getByAccessToken_eq_some.mp hr
  obtain ⟨hid', hrecord'⟩ := getByAccessToken_eq_some.mp hr'
  constructor
  · intro hsame
    rw [hsame] at hrecord
    have hone := (hst.owned _ r hrecord).1
    obtain ⟨r₁, hr₁, rfl⟩ := hst.carried rawToken _ hid
    obtain ⟨r₂, hr₂, rfl⟩ := hst.carried rawToken' _ hid'
    rw [hsame, hr₂] at hr₁
    cases hr₁
    rfl
  · rintro rfl
    exact Option.some.inj (hid.symm.trans hid')

end

/-- The request that the stage is about. -/
def AuthStage.request : AuthStage → WebRequest
  | .introspect r _ _ => r
  | .record r _ _ _ => r
  | .resolve r _ _ _ => r
  | .authorize r _ _ _ => r
  | .passed r => r
  | .handled r _ _ => r
  | .refused r _ => r

namespace AuthGateway

variable {sha256 : String → String} {lower : Char → Char} {s t : AuthGateway} {a : Action} {n m : Nat}

/-- The header that the request has come with to the middleware of the tokens. -/
def bearing (s : AuthGateway) (n : Nat) : Option String :=
  (s.requests n).map (fun stage => stage.request.authorization)

theorem bearing_of_requests {stage : AuthStage} (h : s.requests n = some stage) :
    s.bearing n = some stage.request.authorization := by
  rw [bearing, h, Option.map_some]

theorem bearing_setStage (s : AuthGateway) (n : Nat) (stage : AuthStage) :
    (s.setStage n stage).bearing = Function.update s.bearing n (some stage.request.authorization) := by
  funext m
  by_cases hm : m = n
  · subst hm
    rw [bearing, requests_setStage, Function.update_self, Option.map_some]
  · rw [Function.update_of_ne hm]
    exact congrArg (Option.map _) (Function.update_of_ne hm _ _)

/-- A request keeps its header when it goes on. -/
theorem bearing_next {stage stage' : AuthStage} (h : s.requests n = some stage)
    (hsame : stage'.request.authorization = stage.request.authorization) :
    (s.setStage n stage').bearing = s.bearing := by
  rw [bearing_setStage, hsame, ← bearing_of_requests h, Function.update_eq_self]

theorem bearing_refuse {r : WebRequest} {stage : AuthStage} (h : s.requests n = some stage)
    (hsame : r.authorization = stage.request.authorization)
    (requestID eventName tokenID subjectID : String) (status : Nat) (code message : String) :
    (s.refuse n r requestID eventName tokenID subjectID status code message).bearing = s.bearing :=
  bearing_next h hsame

theorem bearing_accept (s : AuthGateway) (n : Nat) (r : WebRequest) :
    (s.accept n r).bearing = Function.update s.bearing n (some r.authorization) := by
  unfold AuthGateway.accept
  split
  next => exact bearing_setStage s n _
  next =>
    dsimp only
    rw [← authorization_ensureRequestID r s.now]
    split
    next => exact bearing_setStage s n _
    next => exact bearing_setStage s n _

theorem bearing_recordStep {r : WebRequest} {requestID : String} {answer : Except Nat Introspection}
    {late : Bool} (h : s.requests n = some (.record r requestID answer late)) :
    (s.recordStep lower n r requestID answer late).bearing = s.bearing := by
  unfold AuthGateway.recordStep
  split
  next => exact bearing_refuse h rfl _ _ _ _ _ _ _
  next =>
    split
    next => exact bearing_refuse h rfl _ _ _ _ _ _ _
    next runtime claims _ => exact bearing_next (s := { s with runtime := runtime }) h rfl

theorem bearing_answerStep {r : WebRequest} {requestID rawToken : String}
    (h : s.requests n = some (.introspect r requestID rawToken)) :
    (s.answerStep n r requestID rawToken).bearing = s.bearing := by
  unfold AuthGateway.answerStep
  dsimp only
  split
  next => exact bearing_next (s := { s with remote := _ }) h rfl
  next => exact bearing_next (s := { s with remote := _ }) h rfl

theorem bearing_resolveStep {r : WebRequest} {requestID : String} {claims : TokenRuntime.VerifiedToken}
    {late : Bool} (h : s.requests n = some (.resolve r requestID claims late)) :
    (s.resolveStep n r requestID claims late).bearing = s.bearing := by
  unfold AuthGateway.resolveStep
  split
  next => exact bearing_next h rfl
  next => exact bearing_refuse h rfl _ _ _ _ _ _ _

theorem bearing_authorizeStep {r : WebRequest} {requestID : String} {claims : TokenRuntime.VerifiedToken}
    {late : Bool} (h : s.requests n = some (.authorize r requestID claims late)) :
    (s.authorizeStep n r requestID claims late).bearing = s.bearing := by
  unfold AuthGateway.authorizeStep
  split
  next => exact bearing_next h rfl
  next => exact bearing_refuse h rfl _ _ _ _ _ _ _

/-- Once a request is in the middleware, no step takes it out or changes its header, and none but its
acceptance brings one in. -/
theorem bearing_step (ha : GatewayServer.within a = true) (hs : s.step sha256 lower a = some t) :
    t.bearing = s.bearing := by
  cases a with
  | remote b =>
    obtain ⟨remote, -, rfl⟩ := Option.map_eq_some_iff.mp hs
    rfl
  | tick elapsed => cases ha
  | accept n r => cases ha
  | answer n =>
    simp only [AuthGateway.step] at hs
    split at hs
    next hn => cases hs; exact bearing_answerStep hn
    next => cases hs
  | fail n =>
    simp only [AuthGateway.step] at hs
    split at hs
    next hn => cases hs; exact bearing_refuse hn rfl _ _ _ _ _ _ _
    next hn => cases hs; exact bearing_refuse hn rfl _ _ _ _ _ _ _
    next => cases hs
  | record n =>
    simp only [AuthGateway.step] at hs
    split at hs
    next hn => cases hs; exact bearing_recordStep hn
    next => cases hs
  | resolve n =>
    simp only [AuthGateway.step] at hs
    split at hs
    next hn => cases hs; exact bearing_resolveStep hn
    next => cases hs
  | authorize n =>
    simp only [AuthGateway.step] at hs
    split at hs
    next hn => cases hs; exact bearing_authorizeStep hn
    next => cases hs

end AuthGateway

namespace GatewayServer

variable {Λ A : Type} {L : Limiter Λ A} {ok : Λ → A → Prop} {sha256 : String → String}
  {lower : Char → Char} {l₀ : Λ} {g₀ : AuthGateway} {s t : GatewayServer Λ} {a : Action A} {n : Nat}
  {r : WebRequest}

def numbers (admissions : List Admission) : List Nat := admissions.map Admission.number

/-- The request has been admitted. -/
def AdmittedAs (admissions : List Admission) (n : Nat) (r : WebRequest) : Prop :=
  ∃ time, ⟨n, r, time⟩ ∈ admissions

/-- What the limiter and its log have of a request by its stage. -/
def GateOk (asked : Nat → Option String) (admissions : List Admission) (n : Nat) :
    Option GateStage → Prop
  | none => n ∉ numbers admissions
  | some (.answer r) => n ∉ numbers admissions ∧ asked n = some (limitKey r)
  | some (.headers _) => n ∉ numbers admissions
  | some (.limited _ _) => n ∉ numbers admissions
  | some (.filter r) => AdmittedAs admissions n r
  | some (.rejected r _) => AdmittedAs admissions n r
  | some (.passed r) => AdmittedAs admissions n r

/-- What holds in every run: the limiter and the middleware of the tokens run as they do alone, the
limiter has each admission in its log, and what is in the middleware has been admitted, once. -/
structure Admits (L : Limiter Λ A) (ok : Λ → A → Prop) (sha256 : String → String) (lower : Char → Char)
    (l₀ : Λ) (g₀ : AuthGateway) (s : GatewayServer Λ) : Prop where
  limiter : Reach L.step ok l₀ s.limiter
  auth : Reach (AuthGateway.step sha256 lower) (AuthGateway.FreshRemote sha256) g₀ s.auth
  log : L.log s.limiter = s.admissions.map (fun g => (limitKey g.request, g.time))
  once : (numbers s.admissions).Nodup
  gate : ∀ n, GateOk (L.asked s.limiter) s.admissions n (s.gate n)
  bears : ∀ n header, s.auth.bearing n = some header →
    ∃ r, s.gate n = some (.passed r) ∧ r.authorization = header

theorem GateOk.keep {asked asked' : Nat → Option String} {admissions : List Admission}
    {stage : Option GateStage} (h : GateOk asked admissions n stage) (hasked : asked' n = asked n) :
    GateOk asked' admissions n stage := by
  cases stage with
  | none => exact h
  | some stage =>
    cases stage with
    | answer r => exact ⟨h.1, hasked.trans h.2⟩
    | _ => exact h

theorem GateOk.admitted {asked : Nat → Option String} {admissions : List Admission}
    {stage : Option GateStage} (h : GateOk asked admissions n stage) {g : Admission} (hg : n ≠ g.number) :
    GateOk asked (admissions ++ [g]) n stage := by
  have hout : n ∉ numbers admissions → n ∉ numbers (admissions ++ [g]) := by
    intro hnot
    simp only [numbers, List.map_append, List.map_cons, List.map_nil, List.mem_append, List.mem_singleton]
    exact not_or.mpr ⟨hnot, hg⟩
  have hin : ∀ r, AdmittedAs admissions n r → AdmittedAs (admissions ++ [g]) n r :=
    fun r ⟨time, hmem⟩ => ⟨time, List.mem_append_left _ hmem⟩
  cases stage with
  | none => exact hout h
  | some stage =>
    cases stage with
    | answer r => exact ⟨hout h.1, h.2⟩
    | headers r => exact hout h
    | limited r limit => exact hout h
    | filter r => exact hin r h
    | rejected r rejection => exact hin r h
    | passed r => exact hin r h

/-- A step that moves the request `n` to another stage, where what is known of the others is kept. -/
theorem gateOk_update {asked : Nat → Option String} {admissions : List Admission}
    {gate : Nat → Option GateStage} {stage : GateStage}
    (others : ∀ m, m ≠ n → GateOk asked admissions m (gate m))
    (own : GateOk asked admissions n (some stage)) (m : Nat) :
    GateOk asked admissions m (Function.update gate n (some stage) m) := by
  by_cases hm : m = n
  · subst hm
    rw [Function.update_self]
    exact own
  · rw [Function.update_of_ne hm]
    exact others m hm

/-- A request that is not in the middleware may change its stage before it. -/
theorem bears_update {gate : Nat → Option GateStage} {bearing : Nat → Option String} {stage : GateStage}
    (h : ∀ m header, bearing m = some header → ∃ r, gate m = some (.passed r) ∧ r.authorization = header)
    (hn : ∀ r, gate n ≠ some (.passed r)) (m : Nat) (header : String) (hm : bearing m = some header) :
    ∃ r, Function.update gate n (some stage) m = some (.passed r) ∧ r.authorization = header := by
  obtain ⟨r, hr, hsame⟩ := h m header hm
  have hne : m ≠ n := by
    rintro rfl
    exact hn r hr
  exact ⟨r, (Function.update_of_ne hne _ _).trans hr, hsame⟩

theorem Admits.arrive {limiter : Λ} (h : Admits L ok sha256 lower l₀ g₀ s) (hfree : s.gate n = none)
    (hok : ok s.limiter (L.ask n (limitKey r)))
    (hs : L.step s.limiter (L.ask n (limitKey r)) = some limiter) :
    Admits L ok sha256 lower l₀ g₀ { s.setGate n (.answer r) with limiter := limiter } := by
  obtain ⟨hlog, hasked, hothers⟩ := L.of_ask hs
  have hnew := h.gate n
  rw [hfree] at hnew
  refine ⟨h.limiter.next hok hs, h.auth, hlog.trans h.log, h.once, ?_, ?_⟩
  · exact gateOk_update (fun m hm => (h.gate m).keep (hothers m hm)) ⟨hnew, hasked⟩
  · exact bears_update h.bears (fun r' hr => by rw [hfree] at hr; cases hr)

theorem Admits.answerStep {limiter : Λ} (h : Admits L ok sha256 lower l₀ g₀ s)
    (hn : s.gate n = some (.answer r)) (hok : ok s.limiter (L.answer n))
    (hs : L.step s.limiter (L.answer n) = some limiter) :
    Admits L ok sha256 lower l₀ g₀ (s.answerStep L n r limiter) := by
  have hnew := h.gate n
  rw [hn] at hnew
  obtain ⟨hnot, hasked⟩ := hnew
  obtain ⟨hlog, hothers⟩ := L.of_answer hs hasked
  have hoff : ∀ r', s.gate n ≠ some (.passed r') := fun r' hr => by rw [hn] at hr; cases hr
  unfold GatewayServer.answerStep
  split
  next hadmits =>
    rw [if_pos hadmits] at hlog
    refine ⟨h.limiter.next hok hs, h.auth, ?_, ?_, ?_, bears_update h.bears hoff⟩
    · rw [hlog, h.log, List.map_append, List.map_singleton]
    · simp only [numbers, List.map_append, List.map_singleton]
      exact h.once.append (List.nodup_singleton _) (List.disjoint_singleton.mpr hnot)
    · refine gateOk_update (fun m hm => ?_) ⟨L.now s.limiter, ?_⟩
      · exact ((h.gate m).keep (hothers m hm)).admitted hm
      · exact List.mem_append_right _ (List.mem_singleton.mpr rfl)
  next hover =>
    rw [if_neg hover] at hlog
    refine ⟨h.limiter.next hok hs, h.auth, hlog.trans h.log, h.once, ?_, bears_update h.bears hoff⟩
    exact gateOk_update (fun m hm => (h.gate m).keep (hothers m hm)) hnot

theorem Admits.headers {limit : Limit} (h : Admits L ok sha256 lower l₀ g₀ s)
    (hn : s.gate n = some (.headers r)) :
    Admits L ok sha256 lower l₀ g₀ (s.setGate n (.limited r limit)) := by
  have hnew := h.gate n
  rw [hn] at hnew
  refine ⟨h.limiter, h.auth, h.log, h.once, gateOk_update (fun m _ => h.gate m) hnew, ?_⟩
  exact bears_update h.bears (fun r' hr => by rw [hn] at hr; cases hr)

theorem Admits.filterStep (h : Admits L ok sha256 lower l₀ g₀ s) (hn : s.gate n = some (.filter r)) :
    Admits L ok sha256 lower l₀ g₀ (s.filterStep lower n r) := by
  have hnew := h.gate n
  rw [hn] at hnew
  have hoff : ∀ r', s.gate n ≠ some (.passed r') := fun r' hr => by rw [hn] at hr; cases hr
  unfold GatewayServer.filterStep
  dsimp only
  split
  next rejection hrejected =>
    exact ⟨h.limiter, h.auth, h.log, h.once, gateOk_update (fun m _ => h.gate m) hnew,
      bears_update h.bears hoff⟩
  next hpasses =>
    have hidle : s.auth.requests n = none := by
      cases hstage : s.auth.requests n with
      | none => rfl
      | some stage =>
        obtain ⟨r', hr, -⟩ := h.bears n _ (AuthGateway.bearing_of_requests hstage)
        exact absurd hr (hoff r')
    have haccept : s.auth.step sha256 lower (.accept n (r.ensureRequestID s.auth.now).1) =
        some (s.auth.accept n (r.ensureRequestID s.auth.now).1) := by
      simp only [AuthGateway.step, hidle]
    refine ⟨h.limiter, h.auth.next (a := .accept n _) trivial haccept, h.log, h.once,
      gateOk_update (fun m _ => h.gate m) hnew, fun m header hm => ?_⟩
    rw [show ({ s.setGate n (.passed r) with auth := s.auth.accept n (r.ensureRequestID s.auth.now).1 } :
        GatewayServer Λ).auth.bearing = _ from AuthGateway.bearing_accept _ _ _] at hm
    rcases Maps.update_some_cases hm with ⟨rfl, rfl⟩ | ⟨hne, hm⟩
    · exact ⟨r, Function.update_self _ _ _, (AuthGateway.authorization_ensureRequestID r s.auth.now).symm⟩
    · obtain ⟨r', hr, hsame⟩ := h.bears m header hm
      exact ⟨r', (Function.update_of_ne hne _ _).trans hr, hsame⟩

theorem Admits.step (h : Admits L ok sha256 lower l₀ g₀ s) (hfair : Fair L ok sha256 s a)
    (hs : s.step L sha256 lower a = some t) : Admits L ok sha256 lower l₀ g₀ t := by
  cases a with
  | arrive n r =>
    simp only [GatewayServer.step] at hs
    split at hs
    next hnew =>
      obtain ⟨limiter, hlimiter, rfl⟩ := Option.map_eq_some_iff.mp hs
      exact h.arrive hnew.1 (hfair.1 _ rfl) hlimiter
    next => cases hs
  | answer n =>
    simp only [GatewayServer.step] at hs
    split at hs
    next r hn =>
      obtain ⟨limiter, hlimiter, rfl⟩ := Option.map_eq_some_iff.mp hs
      exact h.answerStep hn (hfair.1 _ rfl) hlimiter
    next => cases hs
  | headers n =>
    simp only [GatewayServer.step] at hs
    split at hs
    next r hn => cases hs; exact h.headers hn
    next => cases hs
  | filter n =>
    simp only [GatewayServer.step] at hs
    split at hs
    next r hn => cases hs; exact h.filterStep hn
    next => cases hs
  | limiter b =>
    simp only [GatewayServer.step] at hs
    split at hs
    next hb =>
      obtain ⟨limiter, hlimiter, rfl⟩ := Option.map_eq_some_iff.mp hs
      obtain ⟨hlog, hasked⟩ := L.of_background hb hlimiter
      exact ⟨h.limiter.next (hfair.1 _ rfl) hlimiter, h.auth, hlog.trans h.log, h.once,
        fun m => (h.gate m).keep (congrFun hasked m), h.bears⟩
    next => cases hs
  | auth b =>
    simp only [GatewayServer.step] at hs
    split at hs
    next hb =>
      obtain ⟨auth, hauth, rfl⟩ := Option.map_eq_some_iff.mp hs
      refine ⟨h.limiter, h.auth.next (hfair.2 b rfl) hauth, h.log, h.once, h.gate, fun m header hm => ?_⟩
      exact h.bears m header ((congrFun (AuthGateway.bearing_step hb hauth) m).symm.trans hm)
    next => cases hs
  | tick d =>
    obtain ⟨limiter, hlimiter, rfl⟩ := Option.map_eq_some_iff.mp hs
    obtain ⟨hlog, hasked⟩ := L.of_tick hlimiter
    exact ⟨h.limiter.next (hfair.1 _ rfl) hlimiter, h.auth.next (a := .tick d) trivial rfl, hlog.trans h.log,
      h.once, fun m => (h.gate m).keep (congrFun hasked m), h.bears⟩

theorem admits_start (hlog : L.log l₀ = []) (trustedProxies : List String) (remoteNow now : Time) :
    Admits L ok sha256 lower l₀ (AuthGateway.start AuthGateway.bootstrapPaths trustedProxies remoteNow now)
      (start l₀ trustedProxies remoteNow now) where
  limiter := Reach.refl _
  auth := Reach.refl _
  log := hlog
  once := List.nodup_nil
  gate _ := List.not_mem_nil
  bears _ _ h := by cases h

theorem admits_of_reach {trustedProxies : List String} {remoteNow now : Time} (hlog : L.log l₀ = [])
    (h : Reach (step L sha256 lower) (Fair L ok sha256) (start l₀ trustedProxies remoteNow now) s) :
    Admits L ok sha256 lower l₀
      (AuthGateway.start AuthGateway.bootstrapPaths trustedProxies remoteNow now) s :=
  h.invariant (admits_start hlog trustedProxies remoteNow now) fun _ _ _ h hfair hs => h.step hfair hs

theorem eq_of_number {admissions : List Admission} (hnodup : (numbers admissions).Nodup) {g g' : Admission}
    (hg : g ∈ admissions) (hg' : g' ∈ admissions) (h : g.number = g'.number) : g = g' :=
  List.inj_on_of_nodup_map hnodup hg hg' h

variable {trustedProxies : List String} {remoteNow now : Time} {tokenID : String}

theorem handledToken_eq_some (h : s.handledToken n = some tokenID) :
    ∃ r p late, s.auth.requests n = some (.handled r p late) ∧ p.tokenID = tokenID := by
  unfold handledToken at h
  split at h
  next r p late hn => exact ⟨r, p, late, hn, Option.some.inj h⟩
  next => cases h

/-- The handler has the request under the token that the limiter has counted it for. -/
theorem Admits.handled
    (h : Admits L ok sha256 lower l₀
      (AuthGateway.start AuthGateway.bootstrapPaths trustedProxies remoteNow now) s)
    (hn : s.handledToken n = some tokenID) :
    ∃ g ∈ s.admissions, g.number = n ∧
      ∃ c, ClaimsOf s.auth.remote.store (limitKey g.request) c ∧ c.tokenID = tokenID := by
  obtain ⟨r, p, late, hstage, htoken⟩ := handledToken_eq_some hn
  obtain ⟨issuedAt, expiresAt, rawToken, hbearer, hclaims⟩ :=
    ((AuthGateway.accounts_of_reach h.auth).stages n _ hstage).issued
  obtain ⟨r', hr', hsame⟩ := h.bears n _ (AuthGateway.bearing_of_requests hstage)
  have hgate := h.gate n
  rw [hr'] at hgate
  obtain ⟨time, hmem⟩ := hgate
  have hkey : limitKey r' = rawToken := limitKey_of_bearer (by rw [hsame]; exact hbearer)
  exact ⟨_, hmem, rfl, _, hkey ▸ hclaims, htoken⟩

theorem Admits.claims
    (h : Admits L ok sha256 lower l₀
      (AuthGateway.start AuthGateway.bootstrapPaths trustedProxies remoteNow now) s)
    {g : Admission} (hg : g ∈ s.admissions) (hn : s.handledToken g.number = some tokenID) :
    ∃ c, ClaimsOf s.auth.remote.store (limitKey g.request) c ∧ c.tokenID = tokenID := by
  obtain ⟨g', hg', hnumber, hclaims⟩ := h.handled hn
  rw [eq_of_number h.once hg hg' hnumber.symm]
  exact hclaims

/-- Requests that the handlers have got share the key of the limiter if they share the token. -/
theorem Admits.token_iff_key
    (h : Admits L ok sha256 lower l₀
      (AuthGateway.start AuthGateway.bootstrapPaths trustedProxies remoteNow now) s)
    {g g' : Admission} {tokenID' : String} (hg : g ∈ s.admissions) (hg' : g' ∈ s.admissions)
    (hn : s.handledToken g.number = some tokenID) (hn' : s.handledToken g'.number = some tokenID') :
    tokenID = tokenID' ↔ limitKey g.request = limitKey g'.request := by
  obtain ⟨c, hc, rfl⟩ := h.claims hg hn
  obtain ⟨c', hc', rfl⟩ := h.claims hg' hn'
  exact claimsOf_tokenID (AuthGateway.accounts_of_reach h.auth).consistent.store hc hc'

/-- What the handlers get under a token, the limiter has admitted under one key. -/
theorem Admits.handledCount_le
    (h : Admits L ok sha256 lower l₀
      (AuthGateway.start AuthGateway.bootstrapPaths trustedProxies remoteNow now) s) (tokenID : String) :
    ∃ key, (∀ g ∈ s.admissions, s.handledToken g.number = some tokenID → limitKey g.request = key) ∧
      ∀ during, s.handledCount tokenID during ≤
        (L.log s.limiter).countP (fun g => decide (g.1 = key) && during g.2) := by
  by_cases hany : ∃ g ∈ s.admissions, s.handledToken g.number = some tokenID
  · obtain ⟨g, hg, hn⟩ := hany
    have hone : ∀ g' ∈ s.admissions, s.handledToken g'.number = some tokenID →
        limitKey g'.request = limitKey g.request :=
      fun g' hg' hn' => (h.token_iff_key hg' hg hn' hn).mp rfl
    refine ⟨limitKey g.request, hone, fun during => ?_⟩
    rw [h.log, List.countP_map]
    refine List.countP_mono_left (fun g' hg' hcounted => ?_)
    obtain ⟨htoken, htime⟩ := Bool.and_eq_true_iff.mp hcounted
    exact Bool.and_eq_true_iff.mpr ⟨decide_eq_true (hone g' hg' (of_decide_eq_true htoken)), htime⟩
  · refine ⟨"", fun g hg hn => absurd ⟨g, hg, hn⟩ hany, fun during => ?_⟩
    have hnone : s.handledCount tokenID during = 0 := by
      refine List.countP_eq_zero.mpr (fun g hg hcounted => hany ⟨g, hg, ?_⟩)
      exact of_decide_eq_true (Bool.and_eq_true_iff.mp hcounted).1
    rw [hnone]
    exact Nat.zero_le _

end GatewayServer

end SupplyPlatform.Gateway
