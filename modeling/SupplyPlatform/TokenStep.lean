import SupplyPlatform.TokenBackend

namespace SupplyPlatform.Tokens.Backend

open Relational

attribute [local simp] step

variable {s s' : Backend} {n : Nat}

theorem step_check {tokenID : String} (hs : s.step (.check n tokenID) = some s') :
    (s.hasCache = true ∧ s' = s.setCall n (.cacheGet tokenID (decide (tokenID ∈ s.returned)))) ∨
      s' = s.setCall n (.dbGet tokenID (decide (tokenID ∈ s.returned))) := by
  simp only [step] at hs
  split at hs
  next =>
    have hout := (Option.some.inj hs).symm
    by_cases hc : s.hasCache = true
    · exact .inl ⟨hc, by simpa [hc] using hout⟩
    · exact .inr (by simpa [hc] using hout)
  next => cases hs

theorem step_cacheGet {fails : Bool} (hs : s.step (.cacheGet n fails) = some s') :
    ∃ tokenID after, s.call n = .cacheGet tokenID after ∧
      ((∃ cached, s.lookup tokenID = some cached ∧
          s' = s.setCall n (.checked tokenID after (.ok cached.status))) ∨
        s' = s.setCall n (.dbGet tokenID after)) := by
  simp only [step] at hs
  split at hs
  next tokenID after hn =>
    refine ⟨tokenID, after, hn, ?_⟩
    split at hs
    next cached hlook => exact .inl ⟨cached, hlook, (Option.some.inj hs).symm⟩
    next => exact .inr (Option.some.inj hs).symm
  next => cases hs

/-- What a check has read from the registry it reports, with a cache after storing it there. -/
theorem step_dbGet {failure : Option DbError} (hs : s.step (.dbGet n failure) = some s') :
    ∃ tokenID after, s.call n = .dbGet tokenID after ∧
      ((∃ e, s' = s.setCall n (.checked tokenID after (.error e))) ∨
        s' = s.setCall n (.cacheSet tokenID (getStatus s.table s.now tokenID) after) ∨
        s' = s.setCall n (.checked tokenID after (.ok (getStatus s.table s.now tokenID)))) := by
  simp only [step] at hs
  split at hs
  next tokenID after hn =>
    refine ⟨tokenID, after, hn, ?_⟩
    split at hs
    next => exact .inl ⟨_, (Option.some.inj hs).symm⟩
    next =>
      split at hs
      next => exact .inr (.inl (Option.some.inj hs).symm)
      next => exact .inr (.inr (Option.some.inj hs).symm)
  next => cases hs

theorem step_cacheSet {fault : Fault} (hs : s.step (.cacheSet n fault) = some s') :
    ∃ tokenID status after, s.call n = .cacheSet tokenID status after ∧
      s' = (reaching fault s (s.setTokenStatus tokenID status)).setCall n
        (.checked tokenID after (.ok status)) := by
  simp only [step] at hs
  split at hs
  next tokenID status after hn => exact ⟨tokenID, status, after, hn, (Option.some.inj hs).symm⟩
  next => cases hs

theorem step_revokeToken {tokenID reason : String} (hs : s.step (.revokeToken n tokenID reason) = some s') :
    s' = s.setCall n (.dbRevoke tokenID reason) := by
  simp only [step] at hs
  split at hs
  next => exact (Option.some.inj hs).symm
  next => cases hs

/-- `RevokeToken` goes on when its UPDATE has found the row; after an error the row may be revoked all
the same. -/
theorem step_dbRevoke {fault : Fault} (hs : s.step (.dbRevoke n fault) = some s') :
    ∃ tokenID reason, s.call n = .dbRevoke tokenID reason ∧
      (((Tokens.revoke s.table tokenID reason s.now).2 = .ok () ∧
          s' = { s with table := (Tokens.revoke s.table tokenID reason s.now).1 }.revokedInDb n tokenID) ∨
        (∃ e, s' = { s with table := (Tokens.revoke s.table tokenID reason s.now).1 }.setCall n
          (.revoked (.error e))) ∨
        ∃ e, s' = s.setCall n (.revoked (.error e))) := by
  simp only [step] at hs
  split at hs
  next tokenID reason hn =>
    refine ⟨tokenID, reason, hn, ?_⟩
    split at hs
    next t hr =>
      rw [hr]
      exact .inl ⟨rfl, (Option.some.inj hs).symm⟩
    next t e hr =>
      rw [hr]
      exact .inr (.inl ⟨_, (Option.some.inj hs).symm⟩)
    next t result hr =>
      rw [hr]
      exact .inr (.inl ⟨_, (Option.some.inj hs).symm⟩)
    next => exact .inr (.inr ⟨_, (Option.some.inj hs).symm⟩)
  next => cases hs

theorem step_invalidate {fault : Fault} (hs : s.step (.invalidate n fault) = some s') :
    ∃ tokenID, s.call n = .invalidate tokenID ∧
      s' = { reaching fault s (s.invalidateToken tokenID) with
        returned := tokenID :: s.returned }.setCall n (.revoked (.ok ())) := by
  simp only [step] at hs
  split at hs
  next tokenID hn => exact ⟨tokenID, hn, (Option.some.inj hs).symm⟩
  next => cases hs

theorem step_revokeBySubjectID {subjectID : Int} {reason : String}
    (hs : s.step (.revokeBySubjectID n subjectID reason) = some s') :
    s' = s.setCall n (.list subjectID reason) ∨ s' = s.setCall n (.dbRevokeAll subjectID reason []) := by
  simp only [step] at hs
  split at hs
  next =>
    have hout := (Option.some.inj hs).symm
    by_cases hc : s.hasCache = true
    · exact .inl (by simpa [hc] using hout)
    · exact .inr (by simpa [hc] using hout)
  next => cases hs

theorem step_list {records : Option (List TokenStatusRecord)} (hs : s.step (.list n records) = some s') :
    ∃ subjectID reason tokenIDs, s.call n = .list subjectID reason ∧
      s' = s.setCall n (.dbRevokeAll subjectID reason tokenIDs) := by
  simp only [step] at hs
  split at hs
  next subjectID reason hn =>
    split at hs
    next => exact ⟨subjectID, reason, [], hn, (Option.some.inj hs).symm⟩
    next =>
      split at hs
      next => exact ⟨subjectID, reason, _, hn, (Option.some.inj hs).symm⟩
      next => cases hs
  next => cases hs

/-- The UPDATE of `RevokeBySubjectID`; when it reports an error it may have taken effect. -/
theorem step_dbRevokeAll {fault : Fault} (hs : s.step (.dbRevokeAll n fault) = some s') :
    ∃ subjectID reason tokenIDs, s.call n = .dbRevokeAll subjectID reason tokenIDs ∧
      ((fault = .none ∧
          s' = { s with table := (Tokens.revokeBySubjectID s.table subjectID reason s.now).1 }.revokedAllInDb
            n tokenIDs (movedBy s.table subjectID)
            (Tokens.revokeBySubjectID s.table subjectID reason s.now).2) ∨
        (∃ e moved, s' = { s with
            table := (Tokens.revokeBySubjectID s.table subjectID reason s.now).1 }.setCall n
              (.revokedAll (.error e) moved [])) ∨
        ∃ e, s' = s.setCall n (.revokedAll (.error e) [] [])) := by
  simp only [step] at hs
  split at hs
  next subjectID reason tokenIDs hn =>
    refine ⟨subjectID, reason, tokenIDs, hn, ?_⟩
    split at hs
    next t count hr =>
      rw [hr]
      exact .inl ⟨rfl, (Option.some.inj hs).symm⟩
    next t count hr =>
      rw [hr]
      exact .inr (.inl ⟨_, _, (Option.some.inj hs).symm⟩)
    next => exact .inr (.inr ⟨_, (Option.some.inj hs).symm⟩)
  next => cases hs

/-- `RevokeBySubjectID` returns when its list is done; otherwise it deletes the next entry. -/
theorem step_invalidateNext {fault : Fault} (hs : s.step (.invalidateNext n fault) = some s') :
    (∃ moved cleared, s.call n = .invalidateAll [] moved cleared ∧
        s' = s.setCall n (.revokedAll (.ok ()) moved cleared)) ∨
      ∃ tokenID rest moved cleared, s.call n = .invalidateAll (tokenID :: rest) moved cleared ∧
        s' = (reaching fault s (s.invalidateToken tokenID)).setCall n
          (.invalidateAll rest moved (if fault = .unapplied then cleared else tokenID :: cleared)) := by
  simp only [step] at hs
  split at hs
  next moved cleared hn => exact .inl ⟨moved, cleared, hn, (Option.some.inj hs).symm⟩
  next tokenID rest moved cleared hn =>
    exact .inr ⟨tokenID, rest, moved, cleared, hn, (Option.some.inj hs).symm⟩
  next => cases hs

end SupplyPlatform.Tokens.Backend
