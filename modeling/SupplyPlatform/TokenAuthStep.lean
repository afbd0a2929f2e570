import SupplyPlatform.TokenAuth

namespace SupplyPlatform.TokenRuntime

open Settlements (zeroTime)
open InMemoryRuntimeStore Transition

/-- The claims are those of the record. -/
structure Bears (claims : VerifiedToken) (r : TokenRecord) : Prop where
  tokenID : claims.tokenID = r.tokenID
  subjectID : claims.subjectID = r.subjectID
  role : claims.role = r.role
  scope : claims.scope = r.scope

theorem Bears.sameToken {claims : VerifiedToken} {r r' : TokenRecord} (h : Bears claims r)
    (same : SameToken r r') : Bears claims r' := by
  rw [same]
  exact ⟨h.tokenID, h.subjectID, h.role, h.scope⟩

/-- The claims are those of the record that the token is stored with. -/
def ClaimsOf (st : InMemoryRuntimeStore) (rawToken : String) (claims : VerifiedToken) : Prop :=
  ∃ r, st.getByAccessToken rawToken = some (claims.tokenID, r) ∧ Bears claims r

theorem claimsOf_verify {st : InMemoryRuntimeStore} {rawToken : String} {claims : VerifiedToken}
    (hst : StoreConsistent st) (h : st.verify rawToken = .ok claims) : ClaimsOf st rawToken claims := by
  unfold InMemoryRuntimeStore.verify at h
  cases hfound : st.getByAccessToken rawToken with
  | none => rw [hfound] at h; cases h
  | some pair =>
    obtain ⟨id, r⟩ := pair
    rw [hfound] at h
    cases h
    have hname := (hst.owned id r (getByAccessToken_eq_some.mp hfound).2).1
    exact ⟨r, by rw [hfound, hname], ⟨rfl, rfl, rfl, rfl⟩⟩

namespace Runtime

variable {sha256 : String → String} {s s' : Runtime} {a : Action}

theorem Effect.claimsOf (e : Effect sha256 s a s') (h : s.Consistent) {rawToken : String}
    {claims : VerifiedToken} (hclaims : ClaimsOf s.store rawToken claims) :
    ClaimsOf s'.store rawToken claims := by
  obtain ⟨r, hfound, bears⟩ := hclaims
  obtain ⟨htoken, hr⟩ := getByAccessToken_eq_some.mp hfound
  have write : ∀ {id : String} {stored r' : TokenRecord}, s.store.records.lookup id = some stored →
      SameToken stored r' → ClaimsOf (s.store.write id r') rawToken claims := by
    intro id stored r' found same
    obtain ⟨r'', hr'', same'⟩ := lookup_write_exists found same hr
    exact ⟨r'', getByAccessToken_eq_some.mpr ⟨htoken, hr''⟩, bears.sameToken same'⟩
  cases e with
  | tick elapsed => exact ⟨r, hfound, bears⟩
  | unchanged => exact ⟨r, hfound, bears⟩
  | prepared c idle made => exact ⟨r, hfound, bears⟩
  | mismatch c pending => exact ⟨r, hfound, bears⟩
  | replayed c id existing pending key entry stored found => exact ⟨r, hfound, bears⟩
  | @saved n c pending found =>
    obtain ⟨hid, hnone⟩ := h.pending.fresh n c pending
    exact ⟨r, getByAccessToken_eq_some.mpr ⟨Maps.lookup_insert_of_fresh hnone htoken,
      lookup_save_old hid hr⟩, bears⟩
  | read _ id stored found => exact write found (sameToken_applyExpiry s.now stored)
  | inactive stored found status => exact write found (sameToken_applyExpiry s.now stored)
  | refreshed stored positive found status => exact write found (sameToken_refreshed stored _)
  | revoked stored found => exact write found (sameToken_revoked s.now stored _)

/-- With a clock that is not before the zero time, no token expires then. -/
structure Dated (s : Runtime) : Prop where
  clock : zeroTime ≤ s.now
  pending : ∀ n c, s.calls n = some c → zeroTime < c.record.expiresAt
  stored : ∀ id r, s.store.records.lookup id = some r → zeroTime < r.expiresAt

theorem prepareIssue_expiresAt {now : Time} {input : IssueTokenInput}
    {e e' : Except String (List UInt8)} {c : Candidate}
    (h : prepareIssue sha256 now input e e' = .ok c) : now < c.record.expiresAt := by
  obtain ⟨⟨-, -, httl, -⟩, tokenID, accessToken, -, -, rfl⟩ := prepareIssue_made h
  exact Int.lt_add_of_pos_right _ httl

theorem Effect.dated (e : Effect sha256 s a s') (h : s.Dated) : s'.Dated := by
  have later : ∀ elapsed : Nat, zeroTime ≤ s.now + elapsed := fun elapsed =>
    Int.le_trans h.clock (Int.le_add_of_nonneg_right (Int.natCast_nonneg _))
  have forget : ∀ n m c, Function.update s.calls n none m = some c → zeroTime < c.record.expiresAt :=
    fun n m c hc => h.pending m c (Maps.of_update_none hc).2
  have insert : ∀ {id : String} {r' : TokenRecord}, zeroTime < r'.expiresAt →
      ∀ id' r, (s.store.records.insert id r').lookup id' = some r → zeroTime < r.expiresAt :=
    fun new => Maps.forall_lookup_insert (P := fun _ (r : TokenRecord) => zeroTime < r.expiresAt) h.stored new
  have expiry : ∀ {id : String} {r : TokenRecord}, s.store.records.lookup id = some r →
      zeroTime < (applyExpiry s.now r).expiresAt := fun found => by
    rw [applyExpiry_expiresAt]
    exact h.stored _ _ found
  cases e with
  | tick elapsed => exact ⟨later elapsed, h.pending, h.stored⟩
  | unchanged => exact h
  | @prepared n input e e' c idle made =>
    refine ⟨h.clock, fun m d hd => ?_, h.stored⟩
    rcases Maps.update_some_cases hd with ⟨-, rfl⟩ | ⟨-, hd⟩
    · exact Int.lt_of_le_of_lt h.clock (prepareIssue_expiresAt made)
    · exact h.pending m d hd
  | mismatch c pending => exact ⟨h.clock, forget _, h.stored⟩
  | replayed c id existing pending key entry stored found => exact ⟨h.clock, forget _, h.stored⟩
  | saved c pending found =>
    exact ⟨h.clock, forget _, insert (h.pending _ c pending)⟩
  | read _ id stored found => exact ⟨h.clock, h.pending, insert (expiry found)⟩
  | inactive stored found status => exact ⟨h.clock, h.pending, insert (expiry found)⟩
  | @refreshed id ttl lag stored positive found status =>
    exact ⟨later lag, h.pending, insert
      (Int.lt_of_le_of_lt (later lag) (Int.lt_add_of_pos_right _ positive))⟩
  | revoked stored found => exact ⟨h.clock, h.pending, insert (expiry found)⟩

end Runtime

namespace Server

variable {sha256 : String → String} {s s₀ t : Server} {a : Action} {n m : Nat}

def eventsOf (s : Server) (n : Nat) : List AuditEvent :=
  (s.audit.filter (fun x => decide (x.1 = n))).map Prod.snd

theorem eventsOf_exit (s : Server) (n : Nat) (e : AuditEvent) (stage : Stage) :
    (s.exit n e stage).eventsOf n = e :: s.eventsOf n := by
  simp [eventsOf, exit, setStage]

theorem eventsOf_exit_of_ne {e : AuditEvent} {stage : Stage} (h : m ≠ n) :
    (s.exit n e stage).eventsOf m = s.eventsOf m := by
  simp [eventsOf, exit, setStage, Ne.symm h]

/-- The parts of a server that a step for the request `n` may change. -/
structure Moves (s t : Server) (n : Nat) : Prop where
  cfg : t.cfg = s.cfg
  requests : ∀ m, m ≠ n → t.requests m = s.requests m
  events : ∀ m, m ≠ n → t.eventsOf m = s.eventsOf m
  runtime : t.runtime = s.runtime ∨
    ∃ id, t.runtime = s.runtime.answer (s.runtime.store.lookup s.runtime.now id)

theorem moves_setStage (s : Server) (n : Nat) (stage : Stage) : Moves s (s.setStage n stage) n :=
  ⟨rfl, fun _ hm => Function.update_of_ne hm _ _, fun _ _ => rfl, .inl rfl⟩

theorem moves_exit (s : Server) (n : Nat) (e : AuditEvent) (stage : Stage) :
    Moves s (s.exit n e stage) n :=
  ⟨rfl, fun _ hm => Function.update_of_ne hm _ _, fun _ hm => eventsOf_exit_of_ne hm, .inl rfl⟩

theorem Moves.after_answer {id : String} (h : Moves { s with
    runtime := s.runtime.answer (s.runtime.store.lookup s.runtime.now id) } t n)
    (hsame : t.runtime = s.runtime.answer (s.runtime.store.lookup s.runtime.now id)) : Moves s t n :=
  ⟨h.cfg, h.requests, h.events, .inr ⟨id, hsame⟩⟩

theorem moves_accept (s : Server) (n : Nat) (r : WebRequest) : Moves s (s.accept n r) n := by
  unfold accept
  split
  · exact moves_setStage s n _
  · dsimp only
    split
    · exact moves_setStage s n _
    · split
      · exact moves_exit s n _ _
      · exact moves_setStage s n _

theorem moves_verifyStep (s : Server) (n : Nat) (r : WebRequest) (requestID rawToken : String) :
    Moves s (s.verifyStep n r requestID rawToken) n := by
  unfold verifyStep
  split
  · exact moves_exit s n _ _
  · exact moves_setStage s n _

theorem moves_resolveStep (s : Server) (n : Nat) (r : WebRequest) (requestID rawToken : String)
    (claims : VerifiedToken) : Moves s (s.resolveStep n r requestID rawToken claims) n := by
  unfold resolveStep
  dsimp only
  split
  · exact (moves_setStage _ n _).after_answer rfl
  · exact (moves_exit _ n _ _).after_answer rfl

theorem moves_authorizeStep (s : Server) (n : Nat) (r : WebRequest) (requestID : String)
    (claims : VerifiedToken) : Moves s (s.authorizeStep n r requestID claims) n := by
  unfold authorizeStep
  split
  · exact moves_exit s n _ _
  · exact moves_exit s n _ _

theorem Moves.effect (sha256 : String → String) (h : Moves s t n) :
    ∃ b, s.runtime.FreshDraws sha256 b ∧ Runtime.Effect sha256 s.runtime b t.runtime := by
  rcases h.runtime with hsame | ⟨id, hread⟩
  · rw [hsame]
    exact ⟨.tick 0, trivial, .unchanged _⟩
  · rw [hread]
    exact ⟨.lookup id, trivial, Runtime.step_effect rfl⟩

end Server

end SupplyPlatform.TokenRuntime
