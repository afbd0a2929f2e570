import Mathlib.Data.List.Forall2
import SupplyPlatform.IamHeldRoles
import SupplyPlatform.IamWrites

namespace SupplyPlatform.Iam

open Relational DefaultIAMService

/-- The same calls made to both services. -/
structure Pair where
  memory : Memory
  stored : Stored

def Memory.succeeds (m : Memory) : Operation → Bool
  | .tick _ => true
  | .createRole req => (m.service.createRole m.now req).2.isOk
  | .updateRole req => (m.service.updateRole m.now req).2.isOk
  | .deleteRole roleCode => (m.service.deleteRole m.now roleCode).2.isOk
  | .assignRole req => (m.service.assignRole req).2.isOk
  | .revokeRole userID roleCode tenantID => (m.service.revokeRole userID roleCode tenantID).2.isOk

def Stored.succeeds (driver : InetDriver) (s : Stored) : Operation → Bool
  | .tick _ => true
  | .createRole req => (s.db.serviceCreateRole driver s.now req).2.isOk
  | .updateRole req => (s.db.serviceUpdateRole driver .none s.now req).2.isOk
  | .deleteRole roleCode => (s.db.serviceDeleteRole s.now roleCode).2.isOk
  | .assignRole req => (s.db.serviceAssignRole driver req).2.isOk
  | .revokeRole userID roleCode tenantID => (s.db.serviceRevokeRole userID roleCode tenantID).2.isOk

def Pair.step (driver : InetDriver) (p : Pair) (op : Operation) : Option Pair :=
  if p.memory.succeeds op && p.stored.succeeds driver op then
    (p.memory.step op).bind (fun m => (p.stored.step driver op).map (fun s => ⟨m, s⟩))
  else none

def Pair.start (db : Db) (now : Time) : Pair := ⟨.start now, ⟨db, now⟩⟩

theorem Pair.step_eq_some {driver : InetDriver} {p q : Pair} {op : Operation} :
    p.step driver op = some q ↔ p.memory.succeeds op = true ∧ p.stored.succeeds driver op = true ∧
      p.memory.step op = some q.memory ∧ p.stored.step driver op = some q.stored := by
  unfold Pair.step
  constructor
  · intro h
    split at h
    next hboth =>
      obtain ⟨m, hm, h⟩ := Option.bind_eq_some_iff.mp h
      obtain ⟨s, hs, rfl⟩ := Option.map_eq_some_iff.mp h
      obtain ⟨hmem, hstored⟩ := Bool.and_eq_true_iff.mp hboth
      exact ⟨hmem, hstored, hm, hs⟩
    next => simp at h
  · rintro ⟨hmem, hstored, hm, hs⟩
    simp [hmem, hstored, hm, hs]

/-- The scopes a call names are rows of iam_scopes, active ones. -/
def NamesKnownScopes (db : Db) : Operation → Prop
  | .createRole req => ∀ x ∈ req.scopes, db.Knows x
  | .updateRole req => ∀ scopes, req.scopes = some scopes → ∀ x ∈ scopes, db.Knows x
  | _ => True

/-- The row of iam_roles that stands for a stored role. -/
structure RoleMatches (s : DefaultIAMService) (db : Db) (code : String) (role : Role) (r : RoleRow) :
    Prop where
  mem : r ∈ db.roles.rows
  named : r.code = code
  active : r.isActive = role.isActive
  -- what keeps `UpdateRole` from ever succeeding in the database
  address : r.updatedIP = none
  scopes : ∀ x, x ∈ db.scopesOf r.id ↔ x ∈ s.scopesOf code

/-- The row of iam_user_roles that stands for an assignment. -/
structure GrantMatches (s : DefaultIAMService) (db : Db) (ur : UserRole) (row : UserRoleRow) : Prop where
  stored : (s.roleStore ur.roleCode).isSome = true
  role : ∃ r ∈ db.roles.rows, r.code = ur.roleCode ∧ r.id = row.roleID
  tenant : row.tenantID = some ur.tenantID
  active : row.isActive = ur.isActive
  expiry : row.expiresAt = ur.expiresAt

def Db.grantsOf (db : Db) (userID : Int) : List UserRoleRow :=
  db.userRoles.rows.filter (fun row => row.userID = userID)

/-- Both services have the same roles, scopes and assignments. -/
structure Agree (s : DefaultIAMService) (db : Db) : Prop where
  roles : ∀ code role, s.roleStore code = some role → ∃ r, RoleMatches s db code role r
  unscoped : ∀ code, s.roleStore code = none → s.roleScopeStore code = none
  grants : ∀ userID, List.Forall₂ (GrantMatches s db) (s.userRoleStore userID) (db.grantsOf userID)
  linked : ∀ n x, x ∈ db.scopesOf n → ∃ r ∈ db.roles.rows, r.id = n

theorem exists_of_forall₂ {α β : Type*} {R : α → β → Prop} {l : List α} {l' : List β}
    (h : List.Forall₂ R l l') {a : α} (ha : a ∈ l) : ∃ b ∈ l', R a b := by
  induction h with
  | nil => simp at ha
  | @cons x y l l' hxy _ ih =>
    rcases List.mem_cons.mp ha with rfl | ha
    · exact ⟨y, List.mem_cons_self, hxy⟩
    · obtain ⟨b, hb, hab⟩ := ih ha
      exact ⟨b, List.mem_cons_of_mem _ hb, hab⟩

theorem GrantMatches.live {s : DefaultIAMService} {db : Db} {ur : UserRole} {row : UserRoleRow}
    (h : GrantMatches s db ur row) (now : Time) : Db.UserRoleRow.live row now = ur.live now := by
  unfold Db.UserRoleRow.live UserRole.live UserRole.unexpired
  rw [h.active, h.expiry]

theorem mem_grantsOf {db : Db} {userID : Int} {row : UserRoleRow} :
    row ∈ db.grantsOf userID ↔ row ∈ db.userRoles.rows ∧ row.userID = userID := by
  simp [Db.grantsOf]

/-- The database gives a user the scopes of the active roles held, whatever roles are held. -/
theorem Agree.getUserScopes {m : Memory} {db : Db} (h : Agree m.service db) {userID : Int} {x : String} :
    x ∈ db.getUserScopes userID m.now ↔ m.Entitled userID x := by
  rw [Db.mem_getUserScopes]
  constructor
  · rintro ⟨row, hrow, huser, hlive, r, hr, hid, hactive, hx⟩
    obtain ⟨ur, hur, hmatch⟩ :=
      exists_of_forall₂ (List.Forall₂.flip (h.grants userID)) (mem_grantsOf.mpr ⟨hrow, huser⟩)
    obtain ⟨q, hq, hqcode, hqid⟩ := hmatch.role
    obtain rfl := Db.role_eq_of_id hq hr (hqid.trans hid.symm)
    obtain ⟨role, hrole⟩ := Option.isSome_iff_exists.mp hmatch.stored
    obtain ⟨r', hr'⟩ := h.roles _ role hrole
    obtain rfl := Db.role_eq_of_code hr'.mem hr (hr'.named.trans hqcode.symm)
    exact ⟨ur, hur, hmatch.live _ ▸ hlive, role, hrole, hr'.active ▸ hactive, (hr'.scopes x).mp hx⟩
  · rintro ⟨ur, hur, hlive, role, hrole, hactive, hx⟩
    obtain ⟨row, hrow, hmatch⟩ := exists_of_forall₂ (h.grants userID) hur
    obtain ⟨hrow, huser⟩ := mem_grantsOf.mp hrow
    obtain ⟨q, hq, hqcode, hqid⟩ := hmatch.role
    obtain ⟨r, hr⟩ := h.roles _ role hrole
    obtain rfl := Db.role_eq_of_code hr.mem hq (hr.named.trans hqcode.symm)
    exact ⟨row, hrow, huser, (hmatch.live _).trans hlive, r, hr.mem, hqid, hr.active.trans hactive,
      (hr.scopes x).mpr hx⟩

theorem GrantMatches.mono {s s' : DefaultIAMService} {db db' : Db} {ur : UserRole} {row : UserRoleRow}
    (h : GrantMatches s db ur row)
    (hstored : ∀ code, (s.roleStore code).isSome = true → (s'.roleStore code).isSome = true)
    (hroles : ∀ r ∈ db.roles.rows, ∃ r' ∈ db'.roles.rows, r'.code = r.code ∧ r'.id = r.id) :
    GrantMatches s' db' ur row := by
  obtain ⟨r, hr, hcode, hid⟩ := h.role
  obtain ⟨r', hr', hcode', hid'⟩ := hroles r hr
  exact ⟨hstored _ h.stored, ⟨r', hr', hcode'.trans hcode, hid'.trans hid⟩, h.tenant, h.active, h.expiry⟩

theorem isSome_update {f : String → Option Role} {code : String} {role : Role} (c : String)
    (h : (f c).isSome = true) : (Function.update f code (some role) c).isSome = true := by
  by_cases hc : c = code
  · subst hc
    rw [Function.update_self]
    rfl
  · rw [Function.update_of_ne hc]
    exact h

theorem createRole_ok_cases {s : DefaultIAMService} {now : Time} {req : CreateRoleRequest}
    (h : (s.createRole now req).2.isOk = true) :
    s.roleStore req.code = none ∧ (s.createRole now req).1 =
      { s with roleStore := Function.update s.roleStore req.code (some (newRole req now)),
               roleScopeStore := if req.scopes = [] then s.roleScopeStore
                 else Function.update s.roleScopeStore req.code (some req.scopes) } := by
  unfold createRole at h ⊢
  split at h
  next => simp [Except.isOk, Except.toBool] at h
  next hdup =>
    split at h
    next => simp [Except.isOk, Except.toBool] at h
    next htype =>
      rw [if_neg hdup, if_neg htype]
      exact ⟨by simpa using hdup, rfl⟩

theorem scopesOf_createRole {s : DefaultIAMService} {now : Time} {req : CreateRoleRequest}
    (hunscoped : ∀ c, s.roleStore c = none → s.roleScopeStore c = none)
    (hmem : (s.createRole now req).2.isOk = true) (c : String) :
    (s.createRole now req).1.scopesOf c = if c = req.code then req.scopes else s.scopesOf c := by
  obtain ⟨hnone, hservice⟩ := createRole_ok_cases hmem
  unfold DefaultIAMService.scopesOf
  rw [hservice]
  by_cases hc : c = req.code
  · subst hc
    by_cases hempty : req.scopes = []
    · simp [hempty, hunscoped _ hnone]
    · simp [hempty]
  · by_cases hempty : req.scopes = []
    · simp [hempty, hc]
    · simp [hempty, hc]

theorem Agree.createRole {driver : InetDriver} {s : DefaultIAMService} {db : Db} {now : Time}
    {req : CreateRoleRequest} (h : Agree s db) (hknown : ∀ x ∈ req.scopes, db.Knows x)
    (hmem : (s.createRole now req).2.isOk = true)
    (hdb : (db.serviceCreateRole driver now req).2.isOk = true) :
    Agree (s.createRole now req).1 (db.serviceCreateRole driver now req).1 := by
  obtain ⟨-, hservice⟩ := createRole_ok_cases hmem
  obtain ⟨r, roles, hinsert, hcode, hactive, hip, hroles, husers, _, hscopes⟩ := Db.serviceCreateRole_ok hdb
  obtain ⟨_, hapart⟩ := Table.rows_of_insert hinsert
  have hrows : ∀ q, q ∈ (db.serviceCreateRole driver now req).1.roles.rows ↔
      q ∈ db.roles.rows ∨ q = r := fun q => by rw [hroles]; exact Table.mem_of_insert hinsert
  -- a fresh id has no links yet, so the new role has the requested scopes and no others
  have hfresh : ∀ x, x ∉ db.scopesOf r.id := by
    intro x hx
    obtain ⟨q, hq, hid⟩ := h.linked _ x hx
    exact (hapart q hq).1 hid
  have hgiven := scopesOf_createRole h.unscoped hmem
  refine ⟨fun c role hrole => ?_, fun c hc => ?_, fun userID => ?_, fun n x hx => ?_⟩
  · have hrole' : Function.update s.roleStore req.code
        (some (newRole req now)) c = some role := by
      rw [hservice] at hrole
      exact hrole
    by_cases hc : c = req.code
    · subst hc
      rw [Function.update_self] at hrole'
      cases Option.some.inj hrole'
      refine ⟨r, (hrows r).mpr (.inr rfl), hcode, hactive, hip, fun x => ?_⟩
      rw [hscopes r.id x, hgiven, if_pos rfl]
      constructor
      · rintro (hx | ⟨_, hx, _⟩)
        · exact absurd hx (hfresh x)
        · exact hx
      · exact fun hx => .inr ⟨rfl, hx, hknown x hx⟩
    · rw [Function.update_of_ne hc] at hrole'
      obtain ⟨q, hq⟩ := h.roles c role hrole'
      refine ⟨q, (hrows q).mpr (.inl hq.mem), hq.named, hq.active, hq.address, fun x => ?_⟩
      rw [hscopes q.id x, hgiven, if_neg hc, ← hq.scopes x]
      constructor
      · rintro (hx | ⟨hid, _⟩)
        · exact hx
        · exact absurd hid (hapart q hq.mem).1
      · exact .inl
  · have hc' : Function.update s.roleStore req.code
        (some (newRole req now)) c = none := by
      rw [hservice] at hc
      exact hc
    have hne : c ≠ req.code := by
      rintro rfl
      rw [Function.update_self] at hc'
      simp at hc'
    rw [Function.update_of_ne hne] at hc'
    have hold := h.unscoped c hc'
    show (s.createRole now req).1.roleScopeStore c = none
    rw [hservice]
    by_cases hempty : req.scopes = []
    · simp [hempty, hold]
    · simp [hempty, Function.update_of_ne hne, hold]
  · have hgrants : (db.serviceCreateRole driver now req).1.grantsOf userID =
        db.grantsOf userID := by
      unfold Db.grantsOf
      rw [husers]
    show List.Forall₂ _ ((s.createRole now req).1.userRoleStore userID)
      ((db.serviceCreateRole driver now req).1.grantsOf userID)
    rw [hgrants, createRole_userRoleStore]
    refine (h.grants userID).imp (fun ur row hmatch => hmatch.mono (fun c hc => ?_) (fun q hq => ?_))
    · show ((s.createRole now req).1.roleStore c).isSome = true
      rw [hservice]
      exact isSome_update c hc
    · exact ⟨q, (hrows q).mpr (.inl hq), rfl, rfl⟩
  · rcases (hscopes n x).mp hx with hx | ⟨rfl, _⟩
    · obtain ⟨q, hq, hid⟩ := h.linked n x hx
      exact ⟨q, (hrows q).mpr (.inl hq), hid⟩
    · exact ⟨r, (hrows r).mpr (.inr rfl), rfl⟩

theorem deleteRole_ok_cases {s : DefaultIAMService} {now : Time} {code : String}
    (h : (s.deleteRole now code).2.isOk = true) :
    ∃ role, s.roleStore code = some role ∧ (s.deleteRole now code).1 =
      { s with roleStore := Function.update s.roleStore code
                (some { role with isActive := false, updatedAt := now }) } := by
  unfold deleteRole at h ⊢
  split at h
  next => simp [Except.isOk, Except.toBool] at h
  next role hrole => exact ⟨role, hrole, rfl⟩

theorem Agree.deleteRole {s : DefaultIAMService} {db : Db} {now : Time} {code : String} (h : Agree s db)
    (hmem : (s.deleteRole now code).2.isOk = true) (hdb : (db.serviceDeleteRole now code).2.isOk = true) :
    Agree (s.deleteRole now code).1 (db.serviceDeleteRole now code).1 := by
  obtain ⟨role, hrole, hservice⟩ := deleteRole_ok_cases hmem
  obtain ⟨roles, hroles, hrows⟩ := Db.serviceDeleteRole_ok hdb
  rw [hservice, hroles]
  have hkeeps : ∀ q ∈ db.roles.rows, ∃ q' ∈ roles.rows, q'.code = q.code ∧ q'.id = q.id := by
    intro q hq
    rw [hrows]
    refine ⟨_, List.mem_map_of_mem hq, ?_⟩
    split <;> exact ⟨rfl, rfl⟩
  refine ⟨fun c role' hrole' => ?_, fun c hc => h.unscoped c ?_, fun userID => ?_, fun n x hx => ?_⟩
  · by_cases hc : c = code
    · subst hc
      obtain ⟨r, hr⟩ := h.roles c role hrole
      have hnew : some { role with isActive := false, updatedAt := now } = some role' :=
        (Function.update_self c _ s.roleStore).symm.trans hrole'
      cases Option.some.inj hnew
      refine ⟨{ r with isActive := false, updatedAt := now }, ?_, hr.named, rfl, hr.address, hr.scopes⟩
      show _ ∈ roles.rows
      rw [hrows]
      exact List.mem_map.mpr ⟨r, hr.mem, if_pos hr.named⟩
    · obtain ⟨r, hr⟩ := h.roles c role' ((Function.update_of_ne hc _ _).symm.trans hrole')
      refine ⟨r, ?_, hr.named, hr.active, hr.address, hr.scopes⟩
      show _ ∈ roles.rows
      rw [hrows]
      exact List.mem_map.mpr ⟨r, hr.mem, if_neg (fun heq => hc (hr.named.symm.trans heq))⟩
  · have hne : c ≠ code := by
      rintro rfl
      have hnew := (Function.update_self c _ s.roleStore).symm.trans hc
      simp at hnew
    exact (Function.update_of_ne hne _ _).symm.trans hc
  · exact (h.grants userID).imp (fun ur row hmatch => hmatch.mono (fun c hc => isSome_update c hc) hkeeps)
  · obtain ⟨q, hq, hid⟩ := h.linked n x hx
    obtain ⟨q', hq', _, hid'⟩ := hkeeps q hq
    exact ⟨q', hq', hid'.trans hid⟩

theorem Agree.of_grants {s : DefaultIAMService} {db : Db} (h : Agree s db) {users : Int → List UserRole}
    {userRoles : Table UserRoleRow GrantsApart}
    (hgrants : ∀ userID, List.Forall₂ (GrantMatches s db) (users userID)
      (userRoles.rows.filter (fun row => row.userID = userID))) :
    Agree { s with userRoleStore := users } { db with userRoles := userRoles } where
  roles := by
    intro c role hrole
    obtain ⟨r, hr⟩ := h.roles c role hrole
    exact ⟨r, hr.mem, hr.named, hr.active, hr.address, hr.scopes⟩
  unscoped := h.unscoped
  grants := fun userID => (hgrants userID).imp (fun _ _ hmatch =>
    hmatch.mono (fun _ hc => hc) (fun q hq => ⟨q, hq, rfl, rfl⟩))
  linked := h.linked

theorem Agree.assignRole {driver : InetDriver} {s : DefaultIAMService} {db : Db} {req : AssignRoleRequest}
    (h : Agree s db) (hmem : (s.assignRole req).2.isOk = true)
    (hdb : (db.serviceAssignRole driver req).2.isOk = true) :
    Agree (s.assignRole req).1 (db.serviceAssignRole driver req).1 := by
  obtain ⟨r, hr, hcode, userRoles, hrows, hdbeq⟩ := Db.serviceAssignRole_ok hdb
  rw [hdbeq]
  obtain ⟨_, heq⟩ | ⟨_, _, heq⟩ | ⟨hsome, _, heq⟩ := s.assignRole_cases req
  · rw [heq] at hmem; simp [Except.isOk, Except.toBool] at hmem
  · rw [heq] at hmem; simp [Except.isOk, Except.toBool] at hmem
  · rw [heq]
    refine h.of_grants (fun userID => ?_)
    rw [hrows, List.filter_append]
    by_cases huser : userID = req.userID
    · subst huser
      rw [Function.update_self, List.filter_cons_of_pos (by simp), List.filter_nil]
      refine List.rel_append (h.grants req.userID) (List.Forall₂.cons ?_ List.Forall₂.nil)
      exact ⟨hsome, ⟨r, hr, hcode, rfl⟩, rfl, rfl, rfl⟩
    · rw [Function.update_of_ne huser, List.filter_cons_of_neg (by simpa using Ne.symm huser),
        List.filter_nil, List.append_nil]
      exact h.grants userID

theorem GrantMatches.grantOf {s : DefaultIAMService} {db : Db} {ur : UserRole} {row : UserRoleRow}
    (h : GrantMatches s db ur row) {r : RoleRow} (hr : r ∈ db.roles.rows) (tenantID : Int) :
    Db.grantOf row.userID r.id tenantID row = ur.isOf r.code tenantID := by
  obtain ⟨q, hq, hcode, hid⟩ := h.role
  rw [Bool.eq_iff_iff, UserRole.isOf_iff]
  simp only [Db.grantOf, decide_true, Bool.true_and, Bool.and_eq_true, decide_eq_true_eq, h.tenant,
    Option.some.injEq]
  refine and_congr_left (fun _ => ?_)
  constructor
  · intro hrow
    rw [← hcode, Db.role_eq_of_id hq hr (hid.trans hrow)]
  · intro hsame
    rw [← hid, Db.role_eq_of_code hq hr (hcode.trans hsame)]

/-- The first entry of the triple is its only one, so both sides revoke the same assignment. -/
theorem forall₂_revokeFirst {s : DefaultIAMService} {db : Db} {r : RoleRow} (hr : r ∈ db.roles.rows)
    {userID tenantID : Int} {urs urs' : List UserRole} {rows : List UserRoleRow}
    (h : List.Forall₂ (GrantMatches s db) urs rows) (hapart : rows.Pairwise GrantsApart)
    (huser : ∀ row ∈ rows, row.userID = userID)
    (hrevoke : revokeFirst r.code tenantID urs = some urs') :
    List.Forall₂ (GrantMatches s db) urs' (rows.map (fun row =>
      if Db.revokes userID r.id tenantID row then { row with isActive := false } else row)) := by
  induction h generalizing urs' with
  | nil => simp [revokeFirst] at hrevoke
  | @cons ur row urs rows hmatch hrest ih =>
    obtain ⟨hfirst, hapart⟩ := List.pairwise_cons.mp hapart
    have hown : row.userID = userID := huser row List.mem_cons_self
    have hgrant := hmatch.grantOf hr tenantID
    rw [hown] at hgrant
    unfold revokeFirst at hrevoke
    rw [List.map_cons]
    split at hrevoke
    next hof =>
      cases Option.some.inj hrevoke
      rw [hof] at hgrant
      have hothers : rows.map (fun row =>
          if Db.revokes userID r.id tenantID row then { row with isActive := false } else row) = rows := by
        refine (List.map_congr_left (fun q hq => ?_)).trans (List.map_id rows)
        -- a second row of the triple would break the unique constraint
        refine if_neg (fun hrev => ?_)
        simp only [Db.revokes, Db.grantOf, Bool.and_eq_true, decide_eq_true_eq] at hrev hgrant
        obtain ⟨⟨⟨hu, hrole⟩, htenant⟩, _⟩ := hrev
        exact hfirst q hq ⟨hgrant.1.1.trans hu.symm, hgrant.1.2.trans hrole.symm,
          hgrant.2.trans htenant.symm, by simp [hgrant.2]⟩
      rw [hothers]
      refine List.Forall₂.cons ?_ hrest
      by_cases hrev : Db.revokes userID r.id tenantID row = true
      · rw [if_pos hrev]
        exact ⟨hmatch.stored, hmatch.role, hmatch.tenant, rfl, hmatch.expiry⟩
      · rw [if_neg hrev]
        have hoff : row.isActive = false := by simpa [Db.revokes, hgrant] using hrev
        exact ⟨hmatch.stored, hmatch.role, hmatch.tenant, hoff, hmatch.expiry⟩
    next hof =>
      obtain ⟨rest, hfound, rfl⟩ := Option.map_eq_some_iff.mp hrevoke
      have hkept : Db.revokes userID r.id tenantID row = false := by
        simp [Db.revokes, hgrant, hof]
      rw [if_neg (by simp [hkept])]
      exact List.Forall₂.cons hmatch
        (ih hapart (fun q hq => huser q (List.mem_cons_of_mem _ hq)) hfound)

theorem Agree.revokeRole {s : DefaultIAMService} {db : Db} {userID tenantID : Int} {roleCode : String}
    (h : Agree s db) (hmem : (s.revokeRole userID roleCode tenantID).2.isOk = true)
    (hdb : (db.serviceRevokeRole userID roleCode tenantID).2.isOk = true) :
    Agree (s.revokeRole userID roleCode tenantID).1 (db.serviceRevokeRole userID roleCode tenantID).1 := by
  obtain ⟨r, hr, rfl, userRoles, hrows, hdbeq⟩ := Db.serviceRevokeRole_ok hdb
  rw [hdbeq]
  obtain ⟨_, heq⟩ | ⟨urs, hurs, heq⟩ := s.revokeRole_cases userID r.code tenantID
  · rw [heq] at hmem; simp [Except.isOk, Except.toBool] at hmem
  · rw [heq]
    refine h.of_grants (fun user => ?_)
    -- the rows of a user after the UPDATE are the user's rows, each updated
    have hcomm : userRoles.rows.filter (fun row => row.userID = user) = (db.grantsOf user).map (fun row =>
        if Db.revokes userID r.id tenantID row then { row with isActive := false } else row) := by
      rw [hrows, List.filter_map]
      refine congrArg _ (List.filter_congr (fun row _ => ?_))
      simp only [Function.comp_apply]
      split <;> rfl
    rw [hcomm]
    by_cases huser : user = userID
    · subst huser
      rw [Function.update_self]
      exact forall₂_revokeFirst hr (h.grants user) (db.userRoles.unique.filter _)
        (fun row hrow => (mem_grantsOf.mp hrow).2) hurs
    · rw [Function.update_of_ne huser]
      have hothers : (db.grantsOf user).map (fun row =>
          if Db.revokes userID r.id tenantID row then { row with isActive := false } else row) =
            db.grantsOf user := by
        refine (List.map_congr_left (fun q hq => if_neg (fun hrev => ?_))).trans (List.map_id _)
        simp only [Db.revokes, Db.grantOf, Bool.and_eq_true, decide_eq_true_eq] at hrev
        exact huser ((mem_grantsOf.mp hq).2.symm.trans hrev.1.1.1)
      rw [hothers]
      exact h.grants user

def Pair.Agrees (p : Pair) : Prop := p.stored.now = p.memory.now ∧ Agree p.memory.service p.stored.db

theorem agrees_step {driver : InetDriver} {p q : Pair} {op : Operation} (h : p.Agrees)
    (hknown : NamesKnownScopes p.stored.db op) (hstep : p.step driver op = some q) : q.Agrees := by
  obtain ⟨hmem, hdb, hm, hs⟩ := Pair.step_eq_some.mp hstep
  obtain ⟨m, s⟩ := q
  obtain ⟨hclock, hagree⟩ := h
  cases op with
  | tick elapsed =>
    cases Option.some.inj hm
    cases Option.some.inj hs
    exact ⟨congrArg (· + (elapsed : Int)) hclock, hagree⟩
  | createRole req =>
    cases Option.some.inj hm
    cases Option.some.inj hs
    refine ⟨hclock, ?_⟩
    simp only [Stored.succeeds, hclock] at hdb ⊢
    exact hagree.createRole hknown hmem hdb
  | updateRole req =>
    -- the row of the role has no address, so the database refuses
    exfalso
    simp only [Memory.succeeds, DefaultIAMService.updateRole] at hmem
    split at hmem
    next => simp [Except.isOk, Except.toBool] at hmem
    next role hrole =>
      obtain ⟨r, hr⟩ := hagree.roles req.code role hrole
      have hfails : p.stored.succeeds driver (.updateRole req) = false :=
        Db.serviceUpdateRole_fails hr.mem hr.named hr.address
      rw [hfails] at hdb
      simp at hdb
  | deleteRole roleCode =>
    cases Option.some.inj hm
    cases Option.some.inj hs
    refine ⟨hclock, ?_⟩
    simp only [Stored.succeeds, hclock] at hdb ⊢
    exact hagree.deleteRole hmem hdb
  | assignRole req =>
    cases Option.some.inj hm
    cases Option.some.inj hs
    exact ⟨hclock, hagree.assignRole hmem hdb⟩
  | revokeRole userID roleCode tenantID =>
    cases Option.some.inj hm
    cases Option.some.inj hs
    exact ⟨hclock, hagree.revokeRole hmem hdb⟩

theorem agrees_start {db : Db} {now : Time} (hgrants : db.userRoles.rows = [])
    (hlinks : ∀ l ∈ db.roleScopes.rows, ∃ r ∈ db.roles.rows, r.id = l.roleID) :
    (Pair.start db now).Agrees := by
  refine ⟨rfl, ?_, fun _ _ => rfl, fun userID => ?_, fun n x hx => ?_⟩
  · intro code role hrole
    exact absurd hrole (by simp [Pair.start, Memory.start, DefaultIAMService.new])
  · have hnone : db.grantsOf userID = [] := by simp [Db.grantsOf, hgrants]
    show List.Forall₂ _ [] (db.grantsOf userID)
    rw [hnone]
    exact List.Forall₂.nil
  · obtain ⟨s, _, _, _, hl⟩ := Db.mem_scopesOf.mp hx
    exact hlinks _ hl

def KeepsPairEqual (p : Pair) (op : Operation) : Prop :=
  KeepsHeldRolesActive p.memory op ∧ NamesKnownScopes p.stored.db op

/-- In every run that takes a role away only when nobody holds it, and grants none that is taken away,
a user gets, once each, the scopes of the active roles held; and the database, given the same calls,
gives the same scopes. -/
theorem user_scopes_are_of_active_roles (driver : InetDriver) (db : Db) (now : Time)
    (hgrants : db.userRoles.rows = [])
    (hlinks : ∀ l ∈ db.roleScopes.rows, ∃ r ∈ db.roles.rows, r.id = l.roleID) :
    (∀ m, Transition.Reach Memory.step KeepsHeldRolesActive (Memory.start now) m → ∀ userID,
      (m.service.getUserScopes userID m.now).Nodup ∧
        ∀ x, x ∈ m.service.getUserScopes userID m.now ↔ m.Entitled userID x) ∧
    (∀ p, Transition.Reach (Pair.step driver) KeepsPairEqual (Pair.start db now) p → ∀ userID x,
      x ∈ p.memory.service.getUserScopes userID p.memory.now ↔
        x ∈ p.stored.db.getUserScopes userID p.stored.now) := by
  have hstart : HeldActive (Memory.start now) := by
    intro userID ur hur
    simp [Memory.start, DefaultIAMService.new] at hur
  constructor
  · intro m hreach userID
    have hheld := hreach.invariant hstart (fun _ _ _ h hok hstep => heldActive_step h hok hstep)
    exact ⟨(m.service.getUserScopes_spec userID m.now).1, fun x => mem_getUserScopes_iff_entitled hheld⟩
  · intro p hreach userID x
    obtain ⟨hheld, hclock, hagree⟩ := hreach.invariant (I := fun p => HeldActive p.memory ∧ p.Agrees)
      ⟨hstart, agrees_start hgrants hlinks⟩ (fun _ _ _ h hok hstep =>
        ⟨heldActive_step h.1 hok.1 (Pair.step_eq_some.mp hstep).2.2.1, agrees_step h.2 hok.2 hstep⟩)
    rw [mem_getUserScopes_iff_entitled hheld, hclock, hagree.getUserScopes]

def unassignedDb : Db :=
  { viewerDb with roles := Table.empty, roleScopes := Table.empty, nextRoleID := 1 }

def viewerPair : Pair :=
  ⟨⟨(DefaultIAMService.new.createRole 0 viewerRole).1, 0⟩,
   ⟨(unassignedDb.serviceCreateRole plainDriver 0 viewerRole).1, 0⟩⟩

theorem viewer_gets_scope_from_both : unassignedDb.userRoles.rows = [] ∧
    ∃ p, Transition.Reach (Pair.step plainDriver) KeepsPairEqual (Pair.start unassignedDb 0) p ∧
      "billing.read" ∈ p.memory.service.getUserScopes 100 p.memory.now ∧
      "billing.read" ∈ p.stored.db.getUserScopes 100 p.stored.now := by
  refine ⟨rfl, ?_⟩
  have hknown : unassignedDb.Knows "billing.read" := ⟨⟨1, "billing.read", true⟩, by decide, rfl, rfl⟩
  have hcreate : KeepsPairEqual (Pair.start unassignedDb 0) (.createRole viewerRole) :=
    ⟨trivial, fun x hx => by rw [List.mem_singleton.mp hx]; exact hknown⟩
  have hassign : KeepsPairEqual viewerPair (.assignRole viewerGrant) := by
    refine ⟨fun role hrole hoff => ?_, trivial⟩
    cases Option.some.inj hrole
    simp [newRole] at hoff
  have hfirst : Transition.Reach (Pair.step plainDriver) KeepsPairEqual (Pair.start unassignedDb 0)
      viewerPair := (Transition.Reach.refl _).next hcreate rfl
  have hreach := hfirst.next hassign rfl
  refine ⟨_, hreach, by decide, ?_⟩
  exact ((user_scopes_are_of_active_roles plainDriver unassignedDb 0 rfl (fun l hl => by
    simp [unassignedDb, Table.empty] at hl)).2 _ hreach 100 "billing.read").mp (by decide)

/-- A deleted role goes on giving its scope in memory, and no longer in the database. -/
theorem deleted_role_keeps_its_scope : unassignedDb.Knows "billing.read" ∧
    ∃ p, Transition.exec (Pair.step plainDriver) (Pair.start unassignedDb 0)
        [.createRole viewerRole, .assignRole viewerGrant, .deleteRole "viewer"] = some p ∧
      "billing.read" ∈ p.memory.service.getUserScopes 100 p.memory.now ∧
      ¬p.memory.Entitled 100 "billing.read" ∧
      "billing.read" ∉ p.stored.db.getUserScopes 100 p.stored.now := by
  refine ⟨⟨⟨1, "billing.read", true⟩, by decide, rfl, rfl⟩, _, rfl, by decide, ?_, by decide⟩
  rintro ⟨ur, hur, _, role, hrole, hactive, _⟩
  cases List.mem_singleton.mp hur
  cases Option.some.inj hrole
  simp at hactive

end SupplyPlatform.Iam
