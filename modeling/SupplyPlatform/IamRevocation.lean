import SupplyPlatform.Iam

namespace SupplyPlatform.Iam

namespace DefaultIAMService

/-- The entries of a role in a tenant that a user's list holds, oldest first. -/
def entries (s : DefaultIAMService) (userID : Int) (roleCode : String) (tenantID : Int) :
    List UserRole :=
  (s.userRoleStore userID).filter (UserRole.isOf roleCode tenantID)

/-- The user has no active assignment of the role in the tenant, `GetUserRoles` lists none, and a
scope that passes `CheckScope` is conferred by another assignment. -/
def Revoked (s : DefaultIAMService) (userID : Int) (roleCode : String) (tenantID : Int) : Prop :=
  (∀ ur ∈ s.userRoleStore userID, ur.isOf roleCode tenantID = true → ur.isActive = false) ∧
  (∀ ur ∈ s.getUserRoles userID, ur.isOf roleCode tenantID = false) ∧
  ∀ now scope, s.checkScope userID scope now = true →
    ∃ ur ∈ s.userRoleStore userID, ur.isOf roleCode tenantID = false ∧ ur.live now = true ∧
      (scope ∈ s.scopesOf ur.roleCode ∨ "*" ∈ s.scopesOf ur.roleCode)

theorem revoked_iff {s : DefaultIAMService} {userID : Int} {roleCode : String} {tenantID : Int} :
    s.Revoked userID roleCode tenantID ↔
      ∀ ur ∈ s.entries userID roleCode tenantID, ur.isActive = false := by
  constructor
  · intro h ur hur
    obtain ⟨hmem, hof⟩ := List.mem_filter.mp hur
    exact h.1 ur hmem hof
  · intro h
    have hinactive : ∀ ur ∈ s.userRoleStore userID, ur.isOf roleCode tenantID = true →
        ur.isActive = false := fun ur hmem hof => h ur (List.mem_filter.mpr ⟨hmem, hof⟩)
    refine ⟨hinactive, fun ur hur => ?_, fun now scope hscope => ?_⟩
    · obtain ⟨hmem, hactive⟩ := List.mem_filter.mp hur
      by_contra hof
      rw [hinactive ur hmem (by simpa using hof)] at hactive
      simp at hactive
    · obtain ⟨x, hx, hpass⟩ := List.any_eq_true.mp hscope
      obtain ⟨ur, hmem, hlive, hin⟩ := mem_getUserScopes.mp hx
      have hactive : ur.isActive = true := (Bool.and_eq_true_iff.mp hlive).1
      refine ⟨ur, hmem, ?_, hlive, ?_⟩
      · by_contra hof
        rw [hinactive ur hmem (by simpa using hof)] at hactive
        simp at hactive
      · simp only [Bool.or_eq_true, decide_eq_true_eq] at hpass
        rcases hpass with rfl | rfl
        · exact .inl hin
        · exact .inr hin

def deactivate (ur : UserRole) : UserRole := { ur with isActive := false }

theorem revokeFirst_filter {roleCode : String} {tenantID : Int} {urs urs' : List UserRole}
    (h : revokeFirst roleCode tenantID urs = some urs') :
    urs'.filter (UserRole.isOf roleCode tenantID) =
        (urs.filter (UserRole.isOf roleCode tenantID)).modifyHead deactivate ∧
      ∀ roleCode' tenantID', ¬(roleCode' = roleCode ∧ tenantID' = tenantID) →
        urs'.filter (UserRole.isOf roleCode' tenantID') =
          urs.filter (UserRole.isOf roleCode' tenantID') := by
  induction urs generalizing urs' with
  | nil => simp [revokeFirst] at h
  | cons ur urs ih =>
    unfold revokeFirst at h
    split at h
    next hof =>
      cases Option.some.inj h
      have hof' : (deactivate ur).isOf roleCode tenantID = true := hof
      refine ⟨?_, fun roleCode' tenantID' hne => ?_⟩
      · rw [List.filter_cons_of_pos hof]
        exact List.filter_cons_of_pos hof'
      · have hother : ur.isOf roleCode' tenantID' = false := by
          rw [Bool.eq_false_iff]
          intro hcon
          obtain ⟨hrole, htenant⟩ := UserRole.isOf_iff.mp hcon
          obtain ⟨hrole', htenant'⟩ := UserRole.isOf_iff.mp hof
          exact hne ⟨hrole.symm.trans hrole', htenant.symm.trans htenant'⟩
        have hold : (ur :: urs).filter (UserRole.isOf roleCode' tenantID') =
            urs.filter (UserRole.isOf roleCode' tenantID') :=
          List.filter_cons_of_neg (by rw [hother]; decide)
        rw [hold]
        exact List.filter_cons_of_neg (fun hcon => absurd (hother.symm.trans hcon) (by decide))
    next hof =>
      obtain ⟨rest, hrest, rfl⟩ := Option.map_eq_some_iff.mp h
      obtain ⟨hsame, hothers⟩ := ih hrest
      refine ⟨?_, fun roleCode' tenantID' hne => ?_⟩
      · rw [List.filter_cons_of_neg hof, List.filter_cons_of_neg hof, hsame]
      · rw [List.filter_cons, List.filter_cons, hothers roleCode' tenantID' hne]

theorem revokeFirst_eq_none {roleCode : String} {tenantID : Int} {urs : List UserRole}
    (h : revokeFirst roleCode tenantID urs = none) :
    urs.filter (UserRole.isOf roleCode tenantID) = [] := by
  induction urs with
  | nil => rfl
  | cons ur urs ih =>
    unfold revokeFirst at h
    split at h
    next => simp at h
    next hof =>
      rw [List.filter_cons_of_neg hof]
      exact ih (Option.map_eq_none_iff.mp h)

theorem revokeRole_ok_of_mem {s : DefaultIAMService} {userID : Int} {roleCode : String} {tenantID : Int}
    {ur : UserRole} (h : ur ∈ s.entries userID roleCode tenantID) :
    (s.revokeRole userID roleCode tenantID).2 = .ok () := by
  obtain ⟨hnone, _⟩ | ⟨urs, _, heq⟩ := s.revokeRole_cases userID roleCode tenantID
  · unfold entries at h
    rw [revokeFirst_eq_none hnone] at h
    simp at h
  · rw [heq]

theorem entries_of_revoke {s : DefaultIAMService} {userID : Int} {roleCode : String} {tenantID : Int}
    (h : (s.revokeRole userID roleCode tenantID).2 = .ok ()) :
    (s.revokeRole userID roleCode tenantID).1.entries userID roleCode tenantID =
      (s.entries userID roleCode tenantID).modifyHead deactivate := by
  obtain ⟨_, heq⟩ | ⟨urs, hurs, heq⟩ := s.revokeRole_cases userID roleCode tenantID
  · rw [heq] at h
    simp at h
  · rw [heq]
    simpa [entries] using (revokeFirst_filter hurs).1

/-- What holds of an empty list of entries and survives a grant, which is appended when no entry is
active, and a revocation, which sets the first entry inactive. -/
structure Lasting (Q : List UserRole → Prop) : Prop where
  nil : Q []
  grant : ∀ urs ur, Q urs → (∀ x ∈ urs, x.isActive = false) → ur.isActive = true → Q (urs ++ [ur])
  revoke : ∀ urs, Q urs → Q (urs.modifyHead deactivate)

def EveryTriple (Q : List UserRole → Prop) (s : DefaultIAMService) : Prop :=
  ∀ userID roleCode tenantID, Q (s.entries userID roleCode tenantID)

theorem EveryTriple.of_store {Q : List UserRole → Prop} {s t : DefaultIAMService} (h : EveryTriple Q s)
    (hstore : t.userRoleStore = s.userRoleStore) : EveryTriple Q t := by
  intro userID roleCode tenantID
  have hsame : t.entries userID roleCode tenantID = s.entries userID roleCode tenantID := by
    unfold entries
    rw [hstore]
  rw [hsame]
  exact h userID roleCode tenantID

theorem EveryTriple.assign {Q : List UserRole → Prop} {s : DefaultIAMService} (h : EveryTriple Q s)
    (hQ : Lasting Q) (req : AssignRoleRequest) : EveryTriple Q (s.assignRole req).1 := by
  obtain ⟨_, heq⟩ | ⟨_, _, heq⟩ | ⟨_, hnone, heq⟩ := s.assignRole_cases req
  · rw [heq]; exact h
  · rw [heq]; exact h
  · rw [heq]
    intro userID roleCode tenantID
    unfold entries
    by_cases huser : userID = req.userID
    · subst huser
      rw [userRoleStore_setUserRoles, List.filter_append]
      by_cases hof : (newUserRole req).isOf roleCode tenantID = true
      · obtain ⟨rfl, rfl⟩ : req.roleCode = roleCode ∧ req.tenantID = tenantID :=
          UserRole.isOf_iff.mp hof
        rw [List.filter_cons_of_pos hof, List.filter_nil]
        refine hQ.grant _ _ (h req.userID req.roleCode req.tenantID) (fun x hx => ?_) rfl
        obtain ⟨hmem, hxof⟩ := List.mem_filter.mp hx
        have hblocks := hnone x hmem
        simpa [blocks, hxof] using hblocks
      · rw [List.filter_cons_of_neg hof, List.filter_nil, List.append_nil]
        exact h req.userID roleCode tenantID
    · rw [userRoleStore_setUserRoles_of_ne huser]
      exact h userID roleCode tenantID

theorem EveryTriple.revoke {Q : List UserRole → Prop} {s : DefaultIAMService} (h : EveryTriple Q s)
    (hQ : Lasting Q) (userID : Int) (roleCode : String) (tenantID : Int) :
    EveryTriple Q (s.revokeRole userID roleCode tenantID).1 := by
  obtain ⟨_, heq⟩ | ⟨urs, hurs, heq⟩ := s.revokeRole_cases userID roleCode tenantID
  · rw [heq]; exact h
  · rw [heq]
    obtain ⟨hsame, hothers⟩ := revokeFirst_filter hurs
    intro user code tenant
    unfold entries
    by_cases huser : user = userID
    · subst huser
      rw [userRoleStore_setUserRoles]
      by_cases htriple : code = roleCode ∧ tenant = tenantID
      · obtain ⟨rfl, rfl⟩ := htriple
        rw [hsame]
        exact hQ.revoke _ (h user code tenant)
      · rw [hothers code tenant htriple]
        exact h user code tenant
    · rw [userRoleStore_setUserRoles_of_ne huser]
      exact h user code tenant

theorem createRole_userRoleStore (s : DefaultIAMService) (now : Time) (req : CreateRoleRequest) :
    (s.createRole now req).1.userRoleStore = s.userRoleStore := by
  unfold createRole
  split
  next => rfl
  next => split <;> rfl

theorem updateRole_userRoleStore (s : DefaultIAMService) (now : Time) (req : UpdateRoleRequest) :
    (s.updateRole now req).1.userRoleStore = s.userRoleStore := by
  unfold updateRole
  split <;> rfl

theorem deleteRole_userRoleStore (s : DefaultIAMService) (now : Time) (roleCode : String) :
    (s.deleteRole now roleCode).1.userRoleStore = s.userRoleStore := by
  unfold deleteRole
  split <;> rfl

end DefaultIAMService

open DefaultIAMService

theorem everyTriple_step {Q : List UserRole → Prop} (hQ : Lasting Q) {m m' : Memory} {op : Operation}
    (h : EveryTriple Q m.service) (hstep : m.step op = some m') : EveryTriple Q m'.service := by
  cases op with
  | tick elapsed => cases Option.some.inj hstep; exact h
  | createRole req => cases Option.some.inj hstep; exact h.of_store (createRole_userRoleStore ..)
  | updateRole req => cases Option.some.inj hstep; exact h.of_store (updateRole_userRoleStore ..)
  | deleteRole roleCode => cases Option.some.inj hstep; exact h.of_store (deleteRole_userRoleStore ..)
  | assignRole req => cases Option.some.inj hstep; exact h.assign hQ req
  | revokeRole userID roleCode tenantID =>
    cases Option.some.inj hstep
    exact h.revoke hQ userID roleCode tenantID

theorem everyTriple_start {Q : List UserRole → Prop} (hQ : Lasting Q) (now : Time) :
    EveryTriple Q (Memory.start now).service := fun _ _ _ => hQ.nil

/-- A second grant has come after the first entry was revoked, and no later revocation reaches past
the first entry. -/
def Shadowed (urs : List UserRole) : Prop := 2 ≤ urs.length → ∃ ur ∈ urs.tail, ur.isActive = true

theorem shadowed_lasting : Lasting Shadowed where
  nil := fun h => by simp at h
  grant := by
    intro urs ur _ _ hur hlen
    cases urs with
    | nil => simp at hlen
    | cons x urs => exact ⟨ur, by simp, hur⟩
  revoke := by
    intro urs h
    cases urs with
    | nil => exact h
    | cons ur urs => exact h

def RevokesWhenNil (m : Memory) : Operation → Prop
  | .revokeRole userID roleCode tenantID =>
    (m.service.revokeRole userID roleCode tenantID).2 = .ok () →
      (m.service.revokeRole userID roleCode tenantID).1.Revoked userID roleCode tenantID
  | _ => True

def GrantedAtMostOnce (m : Memory) : Operation → Prop
  | .revokeRole userID roleCode tenantID => (m.service.entries userID roleCode tenantID).length ≤ 1
  | _ => True

theorem revokesWhenNil_iff {m : Memory} {op : Operation} (h : EveryTriple Shadowed m.service) :
    RevokesWhenNil m op ↔ GrantedAtMostOnce m op := by
  cases op with
  | revokeRole userID roleCode tenantID =>
    show (_ → Revoked _ _ _ _) ↔ (m.service.entries userID roleCode tenantID).length ≤ 1
    constructor
    · intro hrev
      by_contra hlen
      -- the active entry lies behind the one that the revocation sets inactive
      obtain ⟨ur, hur, hactive⟩ := h userID roleCode tenantID (by omega)
      have hok := revokeRole_ok_of_mem (List.mem_of_mem_tail hur)
      have hgone := revoked_iff.mp (hrev hok) ur
      rw [entries_of_revoke hok] at hgone
      cases hents : m.service.entries userID roleCode tenantID with
      | nil => rw [hents] at hur; simp at hur
      | cons x urs =>
        rw [hents] at hgone hur
        have hfalse := hgone (List.mem_cons_of_mem _ hur)
        rw [hactive] at hfalse
        simp at hfalse
    · intro hlen hok
      rw [revoked_iff, entries_of_revoke hok]
      intro ur hur
      cases hents : m.service.entries userID roleCode tenantID with
      | nil => rw [hents] at hur; simp at hur
      | cons x urs =>
        rw [hents] at hlen hur
        have hnil : urs = [] := List.length_eq_zero_iff.mp (by simpa using hlen)
        subst hnil
        rw [List.mem_singleton.mp hur]
        rfl
  | _ => exact Iff.rfl

/-- In a run from an empty service every revocation that returns nil has revoked the role exactly when
none comes after a second grant of the same role to the same user in the same tenant. -/
theorem revocations_hold_iff (now : Time) (ops : List Operation) :
    Transition.EachStep Memory.step RevokesWhenNil (Memory.start now) ops ↔
      Transition.EachStep Memory.step GrantedAtMostOnce (Memory.start now) ops :=
  Transition.eachStep_congr (I := fun m => EveryTriple Shadowed m.service)
    (fun _ _ _ h hstep => everyTriple_step shadowed_lasting h hstep)
    (fun _ _ _ h _ => revokesWhenNil_iff h) (everyTriple_start shadowed_lasting now) ops

def viewerRole : CreateRoleRequest :=
  { code := "viewer", name := "Viewer", type := .platform, level := 10, description := "",
    scopes := ["billing.read"], parentCode := "" }

def viewerGrant : AssignRoleRequest :=
  { userID := 100, roleCode := "viewer", tenantID := 1, grantedBy := 1, expiresAt := none }

/-- Granted, revoked, granted and revoked again: the second revocation returns nil and the role and its
scope remain. -/
theorem second_revocation_leaves_role :
    ¬Transition.EachStep Memory.step RevokesWhenNil (Memory.start 0)
      [.createRole viewerRole, .assignRole viewerGrant, .revokeRole 100 "viewer" 1,
       .assignRole viewerGrant, .revokeRole 100 "viewer" 1] := by
  intro h
  have hrev := ((((h _ rfl).2 _ rfl).2 _ rfl).2 _ rfl).2 _ rfl |>.1 rfl
  have hinactive := hrev.1 (newUserRole viewerGrant) (by decide) (by decide)
  exact absurd hinactive (by decide)

end SupplyPlatform.Iam
