import SupplyPlatform.TokenRuntimeStep

namespace SupplyPlatform.TokenRuntime

open Settlements (zeroTime)
open InMemoryRuntimeStore Maps Transition

variable {records : GoMap TokenRecord} {reports : List Report} {tokenID : String} {r : TokenRecord}
  {now : Time}

theorem applyExpiry_of_not_active (h : r.status ≠ .active) : applyExpiry now r = r :=
  if_neg (fun hcond => h hcond.1)

/-- Of two reports on a token the later one does not take back the end of its life. -/
def KeepsEnd (later earlier : Report) : Prop :=
  later.tokenID = earlier.tokenID → earlier.status ≠ .active →
    later.status ≠ .active ∧ later.refreshed = false

/-- The stored records and what has been told of them. -/
structure Lifecycle (records : GoMap TokenRecord) (reports : List Report) : Prop where
  named : ∀ id r, records.lookup id = some r → r.tokenID = id
  dated : ∀ id r, records.lookup id = some r → r.expiresAt ≠ zeroTime
  ended : ∀ x ∈ reports, x.status ≠ .active →
    ∃ r, records.lookup x.tokenID = some r ∧ r.status ≠ .active
  ordered : reports.Pairwise KeepsEnd
  unexpired : ∀ x ∈ reports, x.status = .active → x.time < x.expiresAt

namespace Lifecycle

theorem empty : Lifecycle ∅ [] where
  named _ _ h := by rw [Finmap.lookup_empty] at h; cases h
  dated _ _ h := by rw [Finmap.lookup_empty] at h; cases h
  ended _ h := by cases h
  ordered := List.Pairwise.nil
  unexpired _ h := by cases h

/-- A record is replaced by one that is no more active, or is stored where there was none. -/
theorem insert (h : Lifecycle records reports) (r' : TokenRecord) (hname : r'.tokenID = tokenID)
    (hdate : r'.expiresAt ≠ zeroTime)
    (hstatus : ∀ r, records.lookup tokenID = some r → r.status ≠ .active → r'.status ≠ .active) :
    Lifecycle (records.insert tokenID r') reports where
  named := forall_lookup_insert (P := fun id (r : TokenRecord) => r.tokenID = id) h.named hname
  dated := forall_lookup_insert (P := fun _ (r : TokenRecord) => r.expiresAt ≠ zeroTime) h.dated hdate
  ended x hx hend := by
    obtain ⟨r, hr, hrend⟩ := h.ended x hx hend
    refine exists_lookup_insert ⟨r, hr, hrend⟩ (fun hid => ?_)
    rw [hid] at hr
    exact hstatus r hr hrend
  ordered := h.ordered
  unexpired := h.unexpired

theorem expire (h : Lifecycle records reports) (found : records.lookup tokenID = some r) (now : Time) :
    Lifecycle (records.insert tokenID (applyExpiry now r)) reports := by
  apply h.insert
  · exact (sameToken_applyExpiry now r).tokenID.trans (h.named tokenID r found)
  · rw [applyExpiry_expiresAt]
    exact h.dated tokenID r found
  · intro r₁ hr₁ hend
    cases Option.some.inj (found.symm.trans hr₁)
    rw [applyExpiry_of_not_active hend]
    exact hend

theorem addReport (h : Lifecycle records reports) (found : records.lookup tokenID = some r)
    (time : Time) (refreshed : Bool) (hactive : r.status = .active → time < r.expiresAt)
    (hrefreshed : refreshed = true → r.status = .active) :
    Lifecycle records (Runtime.report r time refreshed :: reports) where
  named := h.named
  dated := h.dated
  ended x hx hend := by
    rcases List.mem_cons.mp hx with rfl | hx
    · refine ⟨r, ?_, hend⟩
      show records.lookup r.tokenID = some r
      rw [h.named tokenID r found]
      exact found
    · exact h.ended x hx hend
  ordered := by
    refine List.pairwise_cons.mpr ⟨fun earlier hmem hid hend => ?_, h.ordered⟩
    obtain ⟨r₁, hr₁, hend₁⟩ := h.ended earlier hmem hend
    have hsame : r₁ = r := by
      have : earlier.tokenID = tokenID := hid.symm.trans (h.named tokenID r found)
      rw [this, found] at hr₁
      exact (Option.some.inj hr₁).symm
    subst hsame
    refine ⟨hend₁, ?_⟩
    cases refreshed with
    | false => rfl
    | true => exact absurd (hrefreshed rfl) hend₁
  unexpired x hx hact := by
    rcases List.mem_cons.mp hx with rfl | hx
    · exact hactive hact
    · exact h.unexpired x hx hact

end Lifecycle

namespace Runtime

variable {sha256 : String → String} {s s' : Runtime} {a : Action}

/-- `Issue` does not replay a record past its expiry that is still marked active, it stores a new one
before that expires and under an id of its own, and no token expires at the zero time. -/
def Timely (s : Runtime) : Action → Prop
  | .commitIssue n => ∀ c, s.calls n = some c →
    (∀ existing, s.store.lookupIssued c = .ok (some existing) → existing.status = .active →
      s.now < existing.expiresAt) ∧
    (s.store.lookupIssued c = .ok none → s.now < c.record.expiresAt ∧
      c.record.expiresAt ≠ zeroTime ∧ s.store.records.lookup c.record.tokenID = none)
  | .refresh _ ttl lag => s.now + lag + ttl ≠ zeroTime
  | _ => True

theorem Effect.lifecycle (e : Effect sha256 s a s') (hok : s.Timely a)
    (h : Lifecycle s.store.records s.reports) : Lifecycle s'.store.records s'.reports := by
  cases e with
  | tick elapsed => exact h
  | unchanged => exact h
  | prepared c idle made => exact h
  | mismatch c pending => exact h
  | replayed c id existing pending key entry stored found =>
    exact h.addReport stored s.now false ((hok c pending).1 existing found) (fun hf => by cases hf)
  | saved c pending found =>
    obtain ⟨hlt, hzero, hfresh⟩ := (hok c pending).2 found
    have stored := h.insert c.record rfl hzero (fun r hr => by rw [hfresh] at hr; cases hr)
    exact stored.addReport (Finmap.lookup_insert _) s.now false (fun _ => hlt) (fun hf => by cases hf)
  | read _ id stored found =>
    have hzero := h.dated id stored found
    refine (h.expire found s.now).addReport (Finmap.lookup_insert _) s.now false (fun hactive => ?_)
      (fun hf => by cases hf)
    rw [applyExpiry_expiresAt]
    exact (active_of_applyExpiry hactive).2.resolve_left hzero
  | inactive stored found status => exact h.expire found s.now
  | @refreshed id ttl lag stored positive found status =>
    have hactive := (active_of_applyExpiry status).1
    have later : s.now + lag < s.now + lag + ttl := Int.lt_add_of_pos_right _ positive
    have stored' := h.insert { stored with expiresAt := s.now + lag + ttl }
      (h.named id stored found) hok
      (fun r hr hend => by cases Option.some.inj (found.symm.trans hr); exact absurd hactive hend)
    exact stored'.addReport (Finmap.lookup_insert _) _ true (fun _ => later) (fun _ => hactive)
  | @revoked id reason stored found =>
    have stored' := h.insert { applyExpiry s.now stored with
        status := .revoked, revokedReason := Strings.trimSpace reason }
      ((sameToken_revoked s.now stored _).tokenID.trans (h.named id stored found))
      (by simp only [applyExpiry_expiresAt]; exact h.dated id stored found) (fun _ _ _ => by simp)
    exact stored'.addReport (Finmap.lookup_insert _) _ false (fun hactive => by cases hactive)
      (fun hf => by cases hf)

theorem Timely.lifecycle (h : Reach (step sha256) Timely (start now) s) :
    Lifecycle s.store.records s.reports :=
  h.invariant (I := fun s => Lifecycle s.store.records s.reports) Lifecycle.empty
    (fun _ _ _ hi hok hs => (step_effect hs).lifecycle hok hi)

def Revoked (s : Runtime) (tokenID : String) : Prop :=
  ∃ r, s.store.records.lookup tokenID = some r ∧ r.status = .revoked

/-- A revoked token stays so when what `Issue` stores has an id of its own. -/
theorem Effect.revoked_stays (e : Effect sha256 s a s') {tokenID : String}
    (hnew : ∀ n c, a = .commitIssue n → s.calls n = some c → s.store.lookupIssued c = .ok none →
      s.store.records.lookup c.record.tokenID = none)
    (h : s.Revoked tokenID) : s'.Revoked tokenID := by
  obtain ⟨r, hr, hrevoked⟩ := h
  have same : ∀ {id : String} {stored : TokenRecord}, s.store.records.lookup id = some stored →
      tokenID = id → stored.status = .revoked := by
    rintro id stored found rfl
    cases Option.some.inj (found.symm.trans hr)
    exact hrevoked
  have expiry : ∀ {id : String} {stored : TokenRecord}, s.store.records.lookup id = some stored →
      tokenID = id → (applyExpiry s.now stored).status = .revoked := by
    intro id stored found hid
    have := same found hid
    rw [applyExpiry_of_not_active (by rw [this]; simp)]
    exact this
  cases e with
  | tick elapsed => exact ⟨r, hr, hrevoked⟩
  | unchanged => exact ⟨r, hr, hrevoked⟩
  | prepared c idle made => exact ⟨r, hr, hrevoked⟩
  | mismatch c pending => exact ⟨r, hr, hrevoked⟩
  | replayed c id existing pending key entry stored found => exact ⟨r, hr, hrevoked⟩
  | @saved n c pending found =>
    have hfresh := hnew n c rfl pending found
    refine exists_lookup_insert ⟨r, hr, hrevoked⟩ (fun hid => ?_)
    rw [← hid, hr] at hfresh
    cases hfresh
  | read _ id stored found => exact exists_lookup_insert ⟨r, hr, hrevoked⟩ (expiry found)
  | inactive stored found status => exact exists_lookup_insert ⟨r, hr, hrevoked⟩ (expiry found)
  | refreshed stored positive found status =>
    refine exists_lookup_insert ⟨r, hr, hrevoked⟩ (fun hid => ?_)
    rw [expiry found hid] at status
    cases status
  | revoked stored found => exact exists_lookup_insert ⟨r, hr, hrevoked⟩ (fun _ => rfl)

theorem Timely.fresh (hok : s.Timely a) : ∀ n c, a = .commitIssue n → s.calls n = some c →
    s.store.lookupIssued c = .ok none → s.store.records.lookup c.record.tokenID = none := by
  rintro n c rfl hc hnone
  exact ((hok c hc).2 hnone).2.2

theorem revoked_stays_run {t : Runtime} (h : Reach (step sha256) Timely s t) {tokenID : String}
    (hrevoked : s.Revoked tokenID) : t.Revoked tokenID :=
  h.invariant (I := fun s => s.Revoked tokenID) hrevoked
    (fun _ _ _ hi hok hs => (step_effect hs).revoked_stays hok.fresh hi)

/-- Nothing is different in `t` but the expiry of one active token. -/
def OnlyRefreshes (s t : InMemoryRuntimeStore) (tokenID : String) : Prop :=
  ∃ r expiresAt, s.records.lookup tokenID = some r ∧ r.status = .active ∧
    t = s.write tokenID { r with expiresAt := expiresAt }

/-- Nothing is different in `t` but that tokens past their expiry may be marked so. -/
structure OnlyExpires (now : Time) (s t : InMemoryRuntimeStore) : Prop where
  tokenToID : t.tokenToID = s.tokenToID
  idempotencyByKey : t.idempotencyByKey = s.idempotencyByKey
  records : ∀ id, t.records.lookup id = s.records.lookup id ∨
    ∃ r, s.records.lookup id = some r ∧ r.status = .active ∧ r.expiresAt ≤ now ∧
      t.records.lookup id = some { r with status := .expired }

theorem OnlyExpires.refl (now : Time) (s : InMemoryRuntimeStore) : OnlyExpires now s s :=
  ⟨rfl, rfl, fun _ => .inl rfl⟩

theorem onlyExpires_write {s : InMemoryRuntimeStore} {id : String} {r : TokenRecord}
    (found : s.records.lookup id = some r) (now : Time) :
    OnlyExpires now s (s.write id (applyExpiry now r)) := by
  refine ⟨rfl, rfl, fun id' => ?_⟩
  by_cases hid : id' = id
  · subst hid
    have hlookup : (s.write id' (applyExpiry now r)).records.lookup id' = some (applyExpiry now r) :=
      Finmap.lookup_insert _
    rw [hlookup]
    unfold applyExpiry
    split
    next hcond => exact .inr ⟨r, found, hcond.1, Int.not_lt.mp hcond.2.2, rfl⟩
    next => exact .inl found.symm
  · exact .inl (Finmap.lookup_insert_of_ne _ hid)

theorem answer_store (s : Runtime) (result : InMemoryRuntimeStore × Except String TokenRecord) :
    (s.answer result).store = result.1 := by
  unfold answer
  split <;> rfl

theorem read_of_error {s : InMemoryRuntimeStore} {found : Option (String × TokenRecord)}
    (h : (s.read now found).2.isOk = false) : (s.read now found).1 = s := by
  cases found with
  | none => rfl
  | some pair => cases h

theorem revoke_of_error {s : InMemoryRuntimeStore} {tokenID reason : String}
    (h : (s.revoke now tokenID reason).2.isOk = false) : (s.revoke now tokenID reason).1 = s := by
  unfold InMemoryRuntimeStore.revoke at h ⊢
  cases hfound : s.getByTokenID tokenID with
  | none => rfl
  | some stored => rw [hfound] at h; cases h

theorem resolve_isOk (s : InMemoryRuntimeStore) (now : Time) (tokenID : String) :
    (s.resolve now tokenID).2.isOk = (s.lookup now tokenID).2.isOk := by
  unfold resolve
  split
  next s' record heq => rw [heq]; rfl
  next s' cause heq => rw [heq]; rfl

theorem onlyExpires_of_fails (h : s.step sha256 a = some s') (hf : s.fails sha256 a = true) :
    OnlyExpires s.now s.store s'.store := by
  cases a with
  | tick elapsed => cases hf
  | prepareIssue n input e e' =>
    simp only [step] at h
    split at h
    next =>
      split at h
      next => cases h; exact .refl _ _
      next c hc =>
        simp only [fails, hc] at hf
        cases hf
    next => cases h
  | commitIssue n =>
    simp only [step] at h
    split at h
    next => cases h
    next c hc =>
      simp only [fails, hc] at hf
      unfold InMemoryRuntimeStore.commitIssue at h hf
      cases hfound : s.store.lookupIssued c with
      | error err => rw [hfound] at h; cases h; exact .refl _ _
      | ok found =>
        rw [hfound] at hf
        cases found with
        | none => cases hf
        | some existing => cases hf
  | refresh tokenID ttl lag =>
    simp only [step] at h
    simp only [fails] at hf
    rcases s.store.refresh_cases s.now (s.now + lag) tokenID ttl with
      ⟨err, heq⟩ | ⟨stored, hfound, hstatus, heq⟩ | ⟨stored, hpos, hfound, hstatus, heq⟩
    · rw [heq] at h; cases h; exact .refl _ _
    · rw [heq] at h; cases h; exact onlyExpires_write hfound s.now
    · rw [heq] at hf; cases hf
  | revoke tokenID reason =>
    cases h
    have herr : (s.store.revoke s.now tokenID reason).2.isOk = false := Bool.not_eq_true' _ ▸ hf
    rw [answer_store, revoke_of_error herr]
    exact .refl _ _
  | introspect accessToken =>
    cases h
    have herr : (s.store.introspect s.now accessToken).2.isOk = false := Bool.not_eq_true' _ ▸ hf
    rw [answer_store, introspect, read_of_error herr]
    exact .refl _ _
  | lookup tokenID =>
    cases h
    have herr : (s.store.lookup s.now tokenID).2.isOk = false := Bool.not_eq_true' _ ▸ hf
    rw [answer_store, InMemoryRuntimeStore.lookup, read_of_error herr]
    exact .refl _ _
  | verify rawToken => cases h; exact .refl _ _
  | resolve tokenID =>
    cases h
    have herr : (s.store.lookup s.now tokenID).2.isOk = false :=
      resolve_isOk s.store s.now tokenID ▸ (Bool.not_eq_true' _ ▸ hf)
    rw [answer_store, InMemoryRuntimeStore.lookup, read_of_error herr]
    exact .refl _ _

theorem onlyRefreshes_of_refresh {tokenID : String} {ttl : Int} {lag : Nat}
    (h : s.step sha256 (.refresh tokenID ttl lag) = some s')
    (hf : s.fails sha256 (.refresh tokenID ttl lag) = false) :
    OnlyRefreshes s.store s'.store tokenID := by
  simp only [step] at h
  simp only [fails] at hf
  rcases s.store.refresh_cases s.now (s.now + lag) tokenID ttl with
    ⟨err, heq⟩ | ⟨stored, hfound, hstatus, heq⟩ | ⟨stored, hpos, hfound, hstatus, heq⟩
  · rw [heq] at hf; cases hf
  · rw [heq] at hf; cases hf
  · rw [heq] at h
    cases h
    exact ⟨stored, _, hfound, (active_of_applyExpiry hstatus).1, rfl⟩

/-- The lifecycle of the tokens, seen from one state: revoked tokens stay so on every way on, reports
are in order and true when they are made, and the next step keeps to what it returns. -/
structure LifecycleKept (sha256 : String → String) (ok : Runtime → Action → Prop) (s : Runtime) :
    Prop where
  revoked : ∀ t tokenID, Reach (step sha256) ok s t → s.Revoked tokenID → t.Revoked tokenID
  ended : s.reports.Pairwise KeepsEnd
  unexpired : ∀ x ∈ s.reports, x.status = .active → x.time < x.expiresAt
  refresh : ∀ tokenID ttl lag t, s.fails sha256 (.refresh tokenID ttl lag) = false →
    s.step sha256 (.refresh tokenID ttl lag) = some t → OnlyRefreshes s.store t.store tokenID
  failed : ∀ a t, s.fails sha256 a = true → s.step sha256 a = some t →
    OnlyExpires s.now s.store t.store

theorem lifecycleKept (sha256 : String → String) (now : Time) (s : Runtime)
    (h : Reach (step sha256) Timely (start now) s) : LifecycleKept sha256 Timely s where
  revoked _ _ hrun hrevoked := revoked_stays_run hrun hrevoked
  ended := (Timely.lifecycle h).ordered
  unexpired := (Timely.lifecycle h).unexpired
  refresh _ _ _ _ hf hstep := onlyRefreshes_of_refresh hstep hf
  failed _ _ hf hstep := onlyExpires_of_fails hstep hf

/-- A token for a second is on its way, is stored, and is revoked. -/
def preparedSample : Runtime := (start 0).after (prepareSample 0 1)

def issuedSample : Runtime := preparedSample.after (.commitIssue 0)

def revokedSample : Runtime := issuedSample.after (.revoke "tok_0101010101010101" "leaked")

theorem timely_issue : preparedSample.Timely (.commitIssue 0) := by
  intro c hc
  have same : preparedSample.calls 0 = some (sampleCandidate "tok_0101010101010101"
      "ptk_01010101010101010101010101010101") := by
    decide
  cases Option.some.inj (same.symm.trans hc)
  refine ⟨fun existing hfound => ?_, fun _ => by decide⟩
  obtain ⟨_, _, _, hstored⟩ := lookupIssued_some hfound
  rw [show preparedSample.store.records = ∅ from rfl, Finmap.lookup_empty] at hstored
  cases hstored

theorem lifecycleKept_revokedSample :
    revokedSample.Revoked "tok_0101010101010101" ∧ LifecycleKept id Timely revokedSample := by
  have prepared : Reach (step id) Timely (start 0) preparedSample :=
    reach_after (Reach.refl _) trivial (by decide)
  have issued : Reach (step id) Timely (start 0) issuedSample :=
    reach_after prepared timely_issue (by decide)
  have revoked : Reach (step id) Timely (start 0) revokedSample :=
    reach_after issued trivial (by decide)
  have status : (revokedSample.store.records.lookup "tok_0101010101010101").map TokenRecord.status =
      some .revoked := by decide
  exact ⟨Option.map_eq_some_iff.mp status, lifecycleKept id 0 revokedSample revoked⟩

/-- The token is asked for again under its key when it has expired. -/
def replayedSample : Runtime :=
  ((issuedSample.after (.tick 2000000000)).after (prepareSample 1 2)).after (.commitIssue 1)

theorem replay_reports_expired_token_active :
    Reach (step id) anyStep (start 0) replayedSample ∧ ¬ LifecycleKept id anyStep replayedSample := by
  have issued : Reach (step id) anyStep (start 0) issuedSample :=
    reach_after (reach_after (Reach.refl _) trivial (by decide)) trivial (by decide)
  have later : Reach (step id) anyStep (start 0) (issuedSample.after (.tick 2000000000)) :=
    reach_after issued trivial rfl
  refine ⟨reach_after (reach_after later trivial (by decide)) trivial (by decide),
    fun h => ?_⟩
  have reported : (⟨"tok_0101010101010101", .active, second, 2 * second, false⟩ : Report) ∈
      replayedSample.reports := by
    decide
  have late : 2 * second < second := h.unexpired _ reported rfl
  revert late
  decide

end Runtime

end SupplyPlatform.TokenRuntime
