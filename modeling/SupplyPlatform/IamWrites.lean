import SupplyPlatform.IamRoleUpdate

namespace SupplyPlatform.Iam

open Relational

namespace Db

theorem createRole_ok {driver : InetDriver} {db : Db} {role : ModelRole}
    (h : (db.createRole driver role).2.isOk = true) :
    ∃ r roles, db.roles.insert r = some roles ∧ r.code = varcharText 32 role.code ∧
      r.isActive = role.isActive ∧
      (role.updatedIP = "" → r.updatedIP = none) ∧
      (db.createRole driver role) =
        ({ db with roles := roles, nextRoleID := db.nextRoleID + 1 }, .ok ()) := by
  unfold createRole at h ⊢
  split at h
  next => simp [Except.isOk, Except.toBool] at h
  next => simp [Except.isOk, Except.toBool] at h
  next createdIP updatedIP hc hu =>
    split at h
    next haccepts =>
      split at h
      next => simp [Except.isOk, Except.toBool] at h
      next roles hinsert =>
        split at h
        next hparent =>
          refine ⟨_, roles, hinsert, rfl, rfl, fun hempty => ?_, ?_⟩
          · rw [hempty] at hu
            exact (Except.ok.inj hu).symm
          · rw [dif_pos haccepts, hinsert]
            exact if_pos hparent
        next => simp [Except.isOk, Except.toBool] at h
    next => simp [Except.isOk, Except.toBool] at h

/-- The loop over the scopes of a role that has just been created: it cannot fail, and links the role
to every scope that exists. -/
theorem addScopes_spec {code : String} {r : RoleRow} (scopes : List String) :
    ∀ db : Db, db.activeRole code = some r →
      (db.addScopes code scopes).2 = .ok () ∧ OnlyLinks db (db.addScopes code scopes).1 ∧
      ∀ n x, x ∈ (db.addScopes code scopes).1.scopesOf n ↔
        x ∈ db.scopesOf n ∨ (n = r.id ∧ x ∈ scopes ∧ db.Knows x) := by
  induction scopes with
  | nil => exact fun db _ => ⟨rfl, OnlyLinks.refl db, fun n x => by simp [addScopes]⟩
  | cons scope scopes ih =>
    intro db hr
    obtain ⟨hfirst, hone⟩ := addScopeToRole_spec hr scope
    obtain ⟨hok, honly, hmem⟩ := ih _ ((hfirst.activeRole code).trans hr)
    have hnext : db.addScopes code (scope :: scopes) =
        (db.addScopeToRole code scope).1.addScopes code scopes := by
      conv_lhs => unfold addScopes
      unfold addScopeToRole onScope
      rw [hr]
      cases db.activeScope scope <;> rfl
    rw [hnext]
    refine ⟨hok, hfirst.trans honly, fun n x => ?_⟩
    rw [hmem n x, hone n x, hfirst.knows, List.mem_cons]
    constructor
    · rintro ((hx | ⟨hn, rfl, hknows⟩) | ⟨hn, hx, hknows⟩)
      · exact .inl hx
      · exact .inr ⟨hn, .inl rfl, hknows⟩
      · exact .inr ⟨hn, .inr hx, hknows⟩
    · rintro (hx | ⟨hn, rfl | hx, hknows⟩)
      · exact .inl (.inl hx)
      · exact .inl (.inr ⟨hn, rfl, hknows⟩)
      · exact .inr ⟨hn, hx, hknows⟩

theorem onScope_onlyLinks {db : Db} {change : Int → Int → Db}
    (h : ∀ roleID scopeID, OnlyLinks db (change roleID scopeID)) (roleCode scopeCode : String) :
    OnlyLinks db (db.onScope roleCode scopeCode change).1 := by
  unfold onScope
  split
  next => exact .refl db
  next =>
    split
    next => exact .refl db
    next => exact h _ _

theorem addScopes_onlyLinks (roleCode : String) (scopes : List String) (db : Db) :
    OnlyLinks db (db.addScopes roleCode scopes).1 := by
  induction scopes generalizing db with
  | nil => exact .refl db
  | cons scope scopes ih =>
    have hfirst : OnlyLinks db (db.addScopeToRole roleCode scope).1 :=
      onScope_onlyLinks (link_onlyLinks db) roleCode scope
    unfold addScopes
    split
    next db' hadd =>
      rw [hadd] at hfirst
      exact hfirst.trans (ih db')
    next db' hadd =>
      rw [hadd] at hfirst
      exact hfirst.trans (ih db')
    next db' err _ hadd =>
      rw [hadd] at hfirst
      exact hfirst

theorem getRoleByCode_ok {driver : InetDriver} {db : Db} {code : String} {role : ModelRole}
    (h : db.getRoleByCode driver code = .ok role) :
    ∃ r ∈ db.roles.rows,
      db.activeRole code = some r ∧ r.code = code ∧ r.requestID ≠ none ∧ role.id = r.id := by
  unfold getRoleByCode at h
  split at h
  next => cases h
  next r hfind =>
    split at h
    next => cases h
    next role' hdecode =>
      obtain ⟨hr, hcode, -⟩ := activeRole_some hfind
      obtain ⟨_, requestID, _, _, _, hrequest, _, _, rfl⟩ := decodeRole_ok hdecode
      refine ⟨r, hr, hfind, hcode, fun hnull => ?_, by rw [← Except.ok.inj h]⟩
      rw [hnull] at hrequest
      cases hrequest

/-- The role that has been created is read back under the code of the request. -/
theorem serviceCreateRole_eq {driver : InetDriver} {db : Db} {now : Time} {req : CreateRoleRequest}
    (h : (db.serviceCreateRole driver now req).2.isOk = true) :
    ∃ parent, (db.createRole driver (newModelRole req parent now)).2.isOk = true ∧
      (db.serviceCreateRole driver now req).1 =
        ((db.createRole driver (newModelRole req parent now)).1.addScopes req.code req.scopes).1 ∧
      ∃ role, (db.serviceCreateRole driver now req).1.getRoleByCode driver req.code = .ok role := by
  unfold serviceCreateRole at h ⊢
  split at h
  next => simp [Except.isOk, Except.toBool] at h
  next htype =>
    rw [if_neg htype]
    split at h
    next => simp [Except.isOk, Except.toBool] at h
    next parent _ =>
      refine ⟨parent, ?_⟩
      split at h
      next => simp [Except.isOk, Except.toBool] at h
      next db' hcreate =>
        refine ⟨by rw [hcreate]; rfl, ?_⟩
        split at h
        next => simp [Except.isOk, Except.toBool] at h
        next db'' hadd =>
          rw [hcreate, hadd]
          split at h
          next role hget =>
            dsimp only
            rw [hget]
            exact ⟨rfl, role, rfl⟩
          next => simp [Except.isOk, Except.toBool] at h

theorem serviceCreateRole_ok {driver : InetDriver} {db : Db} {now : Time} {req : CreateRoleRequest}
    (h : (db.serviceCreateRole driver now req).2.isOk = true) :
    ∃ r roles, db.roles.insert r = some roles ∧ r.code = req.code ∧ r.isActive = true ∧
      r.updatedIP = none ∧ (db.serviceCreateRole driver now req).1.roles = roles ∧
      (db.serviceCreateRole driver now req).1.userRoles = db.userRoles ∧
      (db.serviceCreateRole driver now req).1.scopes = db.scopes ∧
      ∀ n x, x ∈ (db.serviceCreateRole driver now req).1.scopesOf n ↔
        x ∈ db.scopesOf n ∨ (n = r.id ∧ x ∈ req.scopes ∧ db.Knows x) := by
  obtain ⟨parent, hcreate, heq, role, hget⟩ := serviceCreateRole_eq h
  obtain ⟨r, roles, hinsert, hstored, hactive, hip, hpair⟩ := createRole_ok hcreate
  have hmem : r ∈ roles.rows := (Table.mem_of_insert hinsert).mpr (.inr rfl)
  -- no row is found under a code that is too long for the column
  have hcode : r.code = req.code := by
    obtain ⟨q, _, _, hq, _⟩ := getRoleByCode_ok hget
    have hlength : req.code.length ≤ 32 := hq ▸ length_of_roleCodeFormat q.code_format
    rw [hstored]
    exact varcharText_eq_iff.mpr hlength
  have hfind : (db.createRole driver (newModelRole req parent now)).1.activeRole req.code = some r := by
    rw [hpair, ← hcode]
    exact @activeRole_eq { db with roles := roles, nextRoleID := db.nextRoleID + 1 } r hmem hactive
  obtain ⟨_, ⟨t, ht⟩, hscopes⟩ := addScopes_spec req.scopes _ hfind
  rw [heq]
  refine ⟨r, roles, hinsert, hcode, hactive, hip rfl, ?_, ?_, ?_, fun n x => ?_⟩
  · rw [ht, hpair]
  · rw [ht, hpair]
  · rw [ht, hpair]
  · rw [hscopes n x, hpair]
    exact Iff.rfl

/-- `UpdateRole` cannot succeed on a role whose updated_ip is NULL. -/
theorem serviceUpdateRole_fails {driver : InetDriver} {db : Db} {r : RoleRow} {now : Time}
    {req : UpdateRoleRequest} (hr : r ∈ db.roles.rows) (hcode : r.code = req.code)
    (hip : r.updatedIP = none) : (db.serviceUpdateRole driver .none now req).2.isOk = false := by
  unfold serviceUpdateRole
  obtain ⟨_, e, hread⟩ | ⟨_, hfind, existing, hdecode, hread⟩ :=
    readRole_cases driver UpdateFaults.none hr hcode
  · rw [hread]
    rfl
  · rw [hread]
    obtain ⟨_, e, hupdate⟩ | ⟨hacc, _⟩ := updateRole_cases req now hr (activeRole_some hfind).2.2 hdecode
      (replaceScopes_onlyLinks .none hfind)
    · dsimp only
      rw [hupdate]
      rfl
    · exact absurd hip hacc.1

theorem serviceDeleteRole_ok {db : Db} {now : Time} {code : String}
    (h : (db.serviceDeleteRole now code).2.isOk = true) :
    ∃ roles : Table RoleRow RolesApart, (db.serviceDeleteRole now code).1 = { db with roles := roles } ∧
      roles.rows = db.roles.rows.map
        (fun r => if r.code = code then { r with isActive := false, updatedAt := now } else r) := by
  unfold serviceDeleteRole deleteRole at h ⊢
  rw [answer_isOk] at h
  split at h
  next hany =>
    rw [if_pos hany]
    exact ⟨_, rfl, by simp⟩
  next => simp [Except.isOk, Except.toBool] at h

theorem serviceAssignRole_ok {driver : InetDriver} {db : Db} {req : AssignRoleRequest}
    (h : (db.serviceAssignRole driver req).2.isOk = true) :
    ∃ r ∈ db.roles.rows, r.code = req.roleCode ∧ ∃ userRoles,
      userRoles.rows = db.userRoles.rows ++
        [⟨req.userID, r.id, some req.tenantID, true, some req.grantedBy, req.expiresAt⟩] ∧
      (db.serviceAssignRole driver req).1 = { db with userRoles := userRoles } := by
  unfold serviceAssignRole at h ⊢
  split at h
  next => simp [Except.isOk, Except.toBool] at h
  next role hget =>
    rw [answer_isOk] at h
    unfold getRoleByCode at hget
    split at hget
    next => simp at hget
    next r hfind =>
      obtain ⟨hr, hcode, _⟩ := activeRole_some hfind
      split at hget
      next => simp at hget
      next role' hdecode =>
        cases Except.ok.inj hget
        obtain ⟨_, _, _, _, _, _, _, _, rfl⟩ := decodeRole_ok hdecode
        refine ⟨r, hr, hcode, ?_⟩
        unfold assignRole at h ⊢
        split at h
        next => simp [Except.isOk, Except.toBool] at h
        next hfree =>
          split at h
          next => simp [Except.isOk, Except.toBool] at h
          next userRoles hinsert =>
            split at h
            next href =>
              refine ⟨userRoles, (Table.rows_of_insert hinsert).1, ?_⟩
              simp [hfree, href]
            next => simp [Except.isOk, Except.toBool] at h

theorem serviceRevokeRole_ok {db : Db} {userID tenantID : Int} {roleCode : String}
    (h : (db.serviceRevokeRole userID roleCode tenantID).2.isOk = true) :
    ∃ r ∈ db.roles.rows, r.code = roleCode ∧ ∃ userRoles : Table UserRoleRow GrantsApart,
      userRoles.rows = db.userRoles.rows.map (fun row =>
        if revokes userID r.id tenantID row then { row with isActive := false } else row) ∧
      (db.serviceRevokeRole userID roleCode tenantID).1 = { db with userRoles := userRoles } := by
  unfold serviceRevokeRole at h ⊢
  rw [answer_isOk] at h
  unfold revokeRole at h ⊢
  split at h
  next => simp [Except.isOk, Except.toBool] at h
  next r hfind =>
    obtain ⟨hr, hcode, _⟩ := activeRole_some hfind
    split at h
    next hany =>
      rw [if_pos hany]
      exact ⟨r, hr, hcode, _, Table.rows_updateWhere .., rfl⟩
    next => simp [Except.isOk, Except.toBool] at h

end Db

end SupplyPlatform.Iam
