import SupplyPlatform.TokenStatus

namespace SupplyPlatform.Tokens

open Relational

/-- The registry on a clock, with the tokens `GetStatus` has reported revoked or expired. -/
structure Registry where
  table : TokenTable
  now : Time
  reported : List String

inductive Registry.Action
  | tick (elapsed : Nat)
  | create (record : TokenStatusRecord) (id : Int)
  | getStatus (tokenID : String)
  | revoke (tokenID reason : String)
  | revokeBySubjectID (subjectID : Int) (reason : String)
  | updateVerificationCount (tokenID : String)
  | deleteExpired (before : Time)
  | deleteBySubjectID (subjectID : Int)

def Registry.step (s : Registry) : Registry.Action → Option Registry
  | .tick elapsed => some { s with now := s.now + elapsed }
  | .create record id => some { s with table := (Tokens.create s.table record id s.now).1 }
  | .getStatus tokenID =>
    if Tokens.getStatus s.table s.now tokenID = .active then some s
    else some { s with reported := tokenID :: s.reported }
  | .revoke tokenID reason => some { s with table := (Tokens.revoke s.table tokenID reason s.now).1 }
  | .revokeBySubjectID subjectID reason =>
    some { s with table := (Tokens.revokeBySubjectID s.table subjectID reason s.now).1 }
  | .updateVerificationCount tokenID =>
    some { s with table := Tokens.updateVerificationCount s.table tokenID s.now }
  | .deleteExpired before => some { s with table := (Tokens.deleteExpired s.table before).1 }
  | .deleteBySubjectID subjectID =>
    some { s with table := (Tokens.deleteBySubjectID s.table subjectID).1 }

def Registry.start (t : TokenTable) (now : Time) : Registry :=
  { table := t, now := now, reported := [] }

/-- What has once been reported revoked or expired is not reported active. -/
def NeverBack (s : Registry) : Prop :=
  ∀ tokenID ∈ s.reported, Tokens.getStatus s.table s.now tokenID ≠ .active

/-- A cleanup takes no row of a token that has been reported. -/
def Spares (s : Registry) : Registry.Action → Prop
  | .deleteExpired before => ∀ r ∈ s.table.rows, purgeable before r → r.tokenID ∉ s.reported
  | .deleteBySubjectID subjectID =>
    ∀ r ∈ s.table.rows, r.subjectID = subjectID → r.tokenID ∉ s.reported
  | _ => True

/-- Operations that keep every dead token dead keep what has been reported. -/
theorem NeverBack.keep {s : Registry} (h : NeverBack s) {t : TokenTable} {now : Time}
    (hdead : ∀ tokenID, Dead s.table s.now tokenID → Dead t now tokenID) :
    NeverBack { s with table := t, now := now } := by
  intro tokenID hmem
  exact getStatus_ne_active_iff.mpr (hdead tokenID (getStatus_ne_active_iff.mp (h tokenID hmem)))

/-- A cleanup keeps what has been reported exactly when it takes no row of it. -/
theorem NeverBack.delete_iff {s : Registry} (h : NeverBack s) (p : TokenStatusRecord → Bool) :
    NeverBack { s with table := s.table.delete p } ↔
      ∀ r ∈ s.table.rows, p r → r.tokenID ∉ s.reported := by
  constructor
  · intro hafter r hr hp hmem
    have hdead := getStatus_ne_active_iff.mp (h r.tokenID hmem)
    exact (hdead.delete_iff p).mp (getStatus_ne_active_iff.mp (hafter r.tokenID hmem)) r hr hp rfl
  · intro hspares tokenID hmem
    have hdead := getStatus_ne_active_iff.mp (h tokenID hmem)
    refine getStatus_ne_active_iff.mpr ((hdead.delete_iff p).mpr (fun r hr hp htok => ?_))
    exact hspares r hr hp (htok ▸ hmem)

/-- A step keeps what has been reported exactly when it is no cleanup of it. -/
theorem NeverBack.step_iff {s s' : Registry} {a : Registry.Action} (h : NeverBack s)
    (hs : s.step a = some s') : NeverBack s' ↔ Spares s a := by
  cases a with
  | tick elapsed =>
    cases Option.some.inj hs
    refine iff_of_true (h.keep (fun _ hd => hd.later ?_)) trivial
    exact Int.le_add_of_nonneg_right (Int.natCast_nonneg elapsed)
  | create record id =>
    cases Option.some.inj hs
    exact iff_of_true (h.keep (fun _ hd => hd.create record id)) trivial
  | getStatus tokenID =>
    simp only [Registry.step] at hs
    split at hs
    next => cases Option.some.inj hs; exact iff_of_true h trivial
    next hdead =>
      cases Option.some.inj hs
      refine iff_of_true (fun tok hmem => ?_) trivial
      rcases List.mem_cons.mp hmem with rfl | hmem
      · exact hdead
      · exact h tok hmem
  | revoke tokenID reason =>
    cases Option.some.inj hs
    exact iff_of_true (h.keep (fun _ hd => hd.revoke tokenID reason)) trivial
  | revokeBySubjectID subjectID reason =>
    cases Option.some.inj hs
    exact iff_of_true (h.keep (fun _ hd => hd.revokeBySubjectID subjectID reason)) trivial
  | updateVerificationCount tokenID =>
    cases Option.some.inj hs
    exact iff_of_true (h.keep (fun _ hd => hd.updateVerificationCount tokenID)) trivial
  | deleteExpired before =>
    cases Option.some.inj hs
    exact h.delete_iff (purgeable before)
  | deleteBySubjectID subjectID =>
    cases Option.some.inj hs
    refine (h.delete_iff (fun r => r.subjectID = subjectID)).trans ?_
    simp [Spares]

/-- In any run of the registry's operations, no token comes back once it has been reported revoked or
expired exactly when no cleanup takes the row of such a token. -/
theorem reported_never_active_iff (t : TokenTable) (now : Time) (actions : List Registry.Action) :
    Transition.Throughout Registry.step NeverBack (Registry.start t now) actions ↔
      Transition.EachStep Registry.step Spares (Registry.start t now) actions := by
  have hstart : NeverBack (Registry.start t now) := by
    intro tokenID hmem
    cases hmem
  exact Transition.throughout_iff_eachStep (fun _ _ _ h ha hs => (NeverBack.step_iff h hs).mpr ha)
    (fun _ h => h) (fun _ _ _ h ha hs hback => ha ((h.step_iff hs).mp hback)) hstart actions

/-- A token of user 9, valid for an hour. -/
def sampleRecord : TokenStatusRecord :=
  { id := 0, tokenID := "jti-1", subjectID := 9, tenantID := 7, role := "user", status := .active,
    issuedAt := 0, expiresAt := 3600 * second, revokedAt := none, revokedReason := none,
    revokedBy := none, lastVerifiedAt := none, verificationCount := 0, createdAt := 0, updatedAt := 0 }

/-- A revoked token whose user logs out is active again. -/
theorem logout_counterexample :
    ∃ s, Transition.Reach Registry.step Transition.anyStep (Registry.start Table.empty 0) s ∧
      "jti-1" ∈ s.reported ∧ getStatus s.table s.now "jti-1" = .active ∧ ¬NeverBack s := by
  have hrun : (Transition.exec Registry.step (Registry.start Table.empty 0)
      [.create sampleRecord 1, .revoke "jti-1" "compromised", .getStatus "jti-1",
        .deleteBySubjectID 9]).map (fun s => (s.reported, getStatus s.table s.now "jti-1")) =
      some (["jti-1"], .active) := by
    decide
  obtain ⟨s, hs, hend⟩ := Option.map_eq_some_iff.mp hrun
  obtain ⟨hreported, hactive⟩ := Prod.mk.inj hend
  have hmem : "jti-1" ∈ s.reported := by simp [hreported]
  exact ⟨s, Transition.reach_of_exec hs, hmem, hactive, fun h => h "jti-1" hmem hactive⟩

end SupplyPlatform.Tokens
