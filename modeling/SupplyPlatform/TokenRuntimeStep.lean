import SupplyPlatform.TokenRuntime

namespace SupplyPlatform.TokenRuntime

open Settlements (zeroTime)
open InMemoryRuntimeStore Transition

/-- What an `Issue` that passes its checks has made. -/
theorem prepareIssue_made {sha256 : String → String} {now : Time} {input : IssueTokenInput}
    {e e' : Except String (List UInt8)} {c : Candidate}
    (h : prepareIssue sha256 now input e e' = .ok c) :
    (Strings.trimSpace input.subjectID ≠ "" ∧ Strings.trimSpace input.role ≠ "" ∧ 0 < input.ttl ∧
      input.scope ≠ []) ∧
    ∃ tokenID accessToken, generateTokenID e = .ok tokenID ∧ generateAccessToken e' = .ok accessToken ∧
      c = { record := {
              tokenID := tokenID, accessToken := accessToken, subjectID := input.subjectID,
              role := input.role, scope := input.scope, issuedAt := now, expiresAt := now + input.ttl,
              status := .active, requestID := input.requestID, revokedReason := "" },
            idempotencyKey := Strings.trimSpace input.idempotencyKey,
            requestHash := hashIssueInput sha256 input } := by
  unfold prepareIssue at h
  split at h
  · cases h
  next hsubject =>
    split at h
    · cases h
    next hrole =>
      split at h
      · cases h
      next httl =>
        split at h
        · cases h
        next hscope =>
          refine ⟨⟨hsubject, hrole, Int.not_le.mp httl, hscope⟩, ?_⟩
          cases hid : generateTokenID e with
          | error err =>
            rw [hid] at h
            cases h
          | ok tokenID =>
            cases htoken : generateAccessToken e' with
            | error err =>
              rw [hid, htoken] at h
              cases h
            | ok accessToken =>
              rw [hid, htoken] at h
              cases h
              exact ⟨tokenID, accessToken, rfl, rfl, rfl⟩

namespace Runtime

/-- What a step can do. -/
inductive Effect (sha256 : String → String) (s : Runtime) : Action → Runtime → Prop
  | tick (elapsed : Nat) : Effect sha256 s (.tick elapsed) { s with now := s.now + elapsed }
  | unchanged (a : Action) : Effect sha256 s a s
  | prepared {n : Nat} {input : IssueTokenInput} {e e' : Except String (List UInt8)} (c : Candidate)
      (idle : s.calls n = none) (made : prepareIssue sha256 s.now input e e' = .ok c) :
      Effect sha256 s (.prepareIssue n input e e')
        { s with calls := Function.update s.calls n (some c),
                 drawn := (c.record.tokenID, c.record.accessToken) :: s.drawn }
  | mismatch {n : Nat} (c : Candidate) (pending : s.calls n = some c) :
      Effect sha256 s (.commitIssue n) { s with calls := Function.update s.calls n none }
  | replayed {n : Nat} (c : Candidate) (tokenID : String) (existing : TokenRecord)
      (pending : s.calls n = some c) (key : c.idempotencyKey ≠ "")
      (entry : s.store.idempotencyByKey.lookup c.idempotencyKey = some ⟨c.requestHash, tokenID⟩)
      (stored : s.store.records.lookup tokenID = some existing)
      (found : s.store.lookupIssued c = .ok (some existing)) :
      Effect sha256 s (.commitIssue n)
        { s with calls := Function.update s.calls n none,
                 reports := report existing s.now false :: s.reports,
                 issued := ⟨c.idempotencyKey, existing.tokenID, existing.accessToken, true⟩ :: s.issued }
  | saved {n : Nat} (c : Candidate) (pending : s.calls n = some c)
      (found : s.store.lookupIssued c = .ok none) :
      Effect sha256 s (.commitIssue n)
        { s with store := s.store.save c.record c.idempotencyKey c.requestHash,
                 calls := Function.update s.calls n none,
                 reports := report c.record s.now false :: s.reports,
                 issued := ⟨c.idempotencyKey, c.record.tokenID, c.record.accessToken, false⟩ ::
                   s.issued }
  | read (a : Action) (tokenID : String) (stored : TokenRecord)
      (found : s.store.records.lookup tokenID = some stored) :
      Effect sha256 s a
        { s with store := s.store.write tokenID (applyExpiry s.now stored),
                 reports := report (applyExpiry s.now stored) s.now false :: s.reports }
  | inactive {tokenID : String} {ttl : Int} {lag : Nat} (stored : TokenRecord)
      (found : s.store.records.lookup tokenID = some stored)
      (status : (applyExpiry s.now stored).status ≠ .active) :
      Effect sha256 s (.refresh tokenID ttl lag)
        { s with store := s.store.write tokenID (applyExpiry s.now stored) }
  | refreshed {tokenID : String} {ttl : Int} {lag : Nat} (stored : TokenRecord) (positive : 0 < ttl)
      (found : s.store.records.lookup tokenID = some stored)
      (status : (applyExpiry s.now stored).status = .active) :
      Effect sha256 s (.refresh tokenID ttl lag)
        { s with store := s.store.write tokenID { stored with expiresAt := s.now + lag + ttl },
                 now := s.now + lag,
                 reports := report { stored with expiresAt := s.now + lag + ttl } (s.now + lag) true ::
                   s.reports }
  | revoked {tokenID reason : String} (stored : TokenRecord)
      (found : s.store.records.lookup tokenID = some stored) :
      Effect sha256 s (.revoke tokenID reason)
        { s with store := s.store.write tokenID { applyExpiry s.now stored with
                   status := .revoked, revokedReason := Strings.trimSpace reason },
                 reports := report { applyExpiry s.now stored with
                   status := .revoked, revokedReason := Strings.trimSpace reason } s.now false ::
                     s.reports }

end Runtime

theorem applyExpiry_of_active {now : Time} {r : TokenRecord}
    (h : (applyExpiry now r).status = .active) : applyExpiry now r = r := by
  unfold applyExpiry at h ⊢
  split at h
  · cases h
  next hn => exact if_neg hn

/-- A record that is still active after its expiry was applied has not reached it. -/
theorem active_of_applyExpiry {now : Time} {r : TokenRecord}
    (h : (applyExpiry now r).status = .active) :
    r.status = .active ∧ (r.expiresAt = zeroTime ∨ now < r.expiresAt) := by
  have hactive : r.status = .active := by rwa [applyExpiry_of_active h] at h
  refine ⟨hactive, ?_⟩
  by_contra late
  have hcond := And.intro hactive (not_or.mp late)
  rw [applyExpiry, if_pos hcond] at h
  cases h

theorem applyExpiry_expiresAt (now : Time) (r : TokenRecord) :
    (applyExpiry now r).expiresAt = r.expiresAt := by
  unfold applyExpiry
  split <;> rfl

/-- `r'` is `r` but for what `Refresh`, `Revoke` and the expiry write. -/
def SameToken (r r' : TokenRecord) : Prop :=
  r' = { r with expiresAt := r'.expiresAt, status := r'.status, revokedReason := r'.revokedReason }

theorem sameToken_applyExpiry (now : Time) (r : TokenRecord) : SameToken r (applyExpiry now r) := by
  unfold applyExpiry
  split <;> rfl

theorem sameToken_refreshed (r : TokenRecord) (expiresAt : Time) :
    SameToken r { r with expiresAt := expiresAt } := rfl

theorem sameToken_revoked (now : Time) (r : TokenRecord) (reason : String) :
    SameToken r { applyExpiry now r with status := .revoked, revokedReason := reason } := by
  unfold applyExpiry
  split <;> rfl

theorem SameToken.tokenID {r r' : TokenRecord} (h : SameToken r r') : r'.tokenID = r.tokenID := by
  have field := congrArg TokenRecord.tokenID h
  exact field

theorem SameToken.accessToken {r r' : TokenRecord} (h : SameToken r r') :
    r'.accessToken = r.accessToken := by
  have field := congrArg TokenRecord.accessToken h
  exact field

namespace InMemoryRuntimeStore

variable {s : InMemoryRuntimeStore}

theorem getByAccessToken_eq_some {accessToken tokenID : String} {r : TokenRecord} :
    s.getByAccessToken accessToken = some (tokenID, r) ↔
      s.tokenToID.lookup accessToken = some tokenID ∧ s.records.lookup tokenID = some r := by
  unfold getByAccessToken
  cases s.tokenToID.lookup accessToken with
  | none => simp
  | some id =>
    simp only [Option.map_eq_some_iff, Prod.mk.injEq, Option.some.injEq]
    constructor
    · rintro ⟨r', hr, rfl, rfl⟩
      exact ⟨rfl, hr⟩
    · rintro ⟨rfl, hr⟩
      exact ⟨r, hr, rfl, rfl⟩

theorem refresh_cases (s : InMemoryRuntimeStore) (now later : Time) (tokenID : String) (ttl : Int) :
    (∃ err, s.refresh now later tokenID ttl = (s, .error err)) ∨
    (∃ stored, s.records.lookup tokenID = some stored ∧ (applyExpiry now stored).status ≠ .active ∧
      s.refresh now later tokenID ttl =
        (s.write tokenID (applyExpiry now stored), .error "token is not active")) ∨
    ∃ stored, 0 < ttl ∧ s.records.lookup tokenID = some stored ∧
      (applyExpiry now stored).status = .active ∧
      s.refresh now later tokenID ttl =
        (s.write tokenID { stored with expiresAt := later + ttl },
          .ok { stored with expiresAt := later + ttl }) := by
  unfold InMemoryRuntimeStore.refresh getByTokenID
  by_cases httl : ttl ≤ 0
  · exact .inl ⟨_, if_pos httl⟩
  rw [if_neg httl]
  cases hfound : s.records.lookup tokenID with
  | none => exact .inl ⟨_, rfl⟩
  | some stored =>
    refine .inr ?_
    by_cases hstatus : (applyExpiry now stored).status = .active
    · refine .inr ⟨stored, by omega, rfl, hstatus, ?_⟩
      dsimp only
      rw [if_neg (not_not.mpr hstatus), applyExpiry_of_active hstatus]
    · exact .inl ⟨stored, rfl, hstatus, if_pos hstatus⟩

/-- What `Issue` finds under its key is stored there with its hash. -/
theorem lookupIssued_some {c : Candidate} {existing : TokenRecord}
    (h : s.lookupIssued c = .ok (some existing)) :
    c.idempotencyKey ≠ "" ∧ ∃ tokenID,
      s.idempotencyByKey.lookup c.idempotencyKey = some ⟨c.requestHash, tokenID⟩ ∧
        s.records.lookup tokenID = some existing := by
  unfold lookupIssued at h
  split at h
  · cases h
  next hkey =>
    split at h
    · cases h
    next entry hentry =>
      split at h
      · cases h
      next hhash =>
        refine ⟨hkey, entry.tokenID, ?_, Except.ok.inj h⟩
        rw [← not_not.mp hhash]
        exact hentry

end InMemoryRuntimeStore

namespace Runtime

variable {sha256 : String → String} {s s' : Runtime} {a : Action}

theorem effect_answer_read {found : Option (String × TokenRecord)}
    (h : ∀ tokenID r, found = some (tokenID, r) → s.store.records.lookup tokenID = some r) (a : Action) :
    Effect sha256 s a (s.answer (s.store.read s.now found)) := by
  cases found with
  | none => exact .unchanged a
  | some pair => exact .read a pair.1 pair.2 (h pair.1 pair.2 rfl)

theorem step_effect (h : s.step sha256 a = some s') : Effect sha256 s a s' := by
  have byID : ∀ id tokenID r, (s.store.getByTokenID id).map (fun record => (id, record)) =
      some (tokenID, r) → s.store.records.lookup tokenID = some r := by
    intro id tokenID r hfound
    obtain ⟨r', hr, heq⟩ := Option.map_eq_some_iff.mp hfound
    cases heq
    exact hr
  cases a with
  | tick elapsed => cases h; exact .tick elapsed
  | prepareIssue n input e e' =>
    simp only [step] at h
    split at h
    next hidle =>
      split at h
      next => cases h; exact .unchanged _
      next c hc => cases h; exact .prepared c hidle hc
    next => cases h
  | commitIssue n =>
    simp only [step] at h
    split at h
    next => cases h
    next c hc =>
      unfold commitIssue at h
      cases hfound : s.store.lookupIssued c with
      | error err => rw [hfound] at h; cases h; exact .mismatch c hc
      | ok found =>
        rw [hfound] at h
        cases found with
        | none => cases h; exact .saved c hc hfound
        | some existing =>
          cases h
          obtain ⟨hkey, tokenID, hentry, hstored⟩ := lookupIssued_some hfound
          exact .replayed c tokenID existing hc hkey hentry hstored hfound
  | refresh tokenID ttl lag =>
    simp only [step] at h
    rcases s.store.refresh_cases s.now (s.now + lag) tokenID ttl with
      ⟨err, heq⟩ | ⟨stored, hfound, hstatus, heq⟩ | ⟨stored, hpos, hfound, hstatus, heq⟩
    · rw [heq] at h; cases h; exact .unchanged _
    · rw [heq] at h; cases h; exact .inactive stored hfound hstatus
    · rw [heq] at h; cases h; exact .refreshed stored hpos hfound hstatus
  | revoke tokenID reason =>
    cases h
    unfold InMemoryRuntimeStore.revoke getByTokenID
    cases hfound : s.store.records.lookup tokenID with
    | none => exact .unchanged _
    | some stored => exact .revoked stored hfound
  | introspect accessToken =>
    cases h
    exact effect_answer_read (fun _ _ hfound => (getByAccessToken_eq_some.mp hfound).2) _
  | lookup tokenID => cases h; exact effect_answer_read (byID tokenID) _
  | verify rawToken => cases h; exact .unchanged _
  | resolve tokenID => cases h; exact effect_answer_read (byID tokenID) _

def sampleInput : IssueTokenInput :=
  ⟨"sub-1", "viewer", ["supply:read"], second, "req-1", "k"⟩

def prepareSample (n : Nat) (b : UInt8) : Action :=
  .prepareIssue n sampleInput (.ok (List.replicate 8 b)) (.ok (List.replicate 16 b))

/-- What `sampleInput` makes at the time 0. -/
def sampleCandidate (tokenID accessToken : String) : Candidate :=
  ⟨⟨tokenID, accessToken, "sub-1", "viewer", ["supply:read"], 0, second, .active, "req-1", ""⟩, "k",
    "sub-1|viewer|supply:read|1s"⟩

/-- The state after a step that is enabled. -/
def after (s : Runtime) (a : Action) : Runtime := (step id s a).getD s

theorem reach_after {ok : Runtime → Action → Prop} {now : Time}
    (h : Reach (step id) ok (start now) s) (hok : ok s a)
    (enabled : (step id s a).isSome = true) : Reach (step id) ok (start now) (s.after a) := by
  obtain ⟨t, ht⟩ := Option.isSome_iff_exists.mp enabled
  rw [after, ht]
  exact h.next hok ht

end Runtime

end SupplyPlatform.TokenRuntime
