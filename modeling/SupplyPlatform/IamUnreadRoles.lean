import SupplyPlatform.IamRoleListing
import SupplyPlatform.IamWrites

namespace SupplyPlatform.Iam

open Relational Transition

/-- A call of `DatabaseIAMService`, with the statements of an `UpdateRole` that fail. -/
def Stored.stepUnder (driver : InetDriver) (s : Stored) : Operation × UpdateFaults → Option Stored
  | (.updateRole req, faults) =>
    some { s with db := (s.db.serviceUpdateRole driver faults s.now req).1 }
  | (op, _) => s.step driver op

namespace Db

section

variable (driver : InetDriver)

/-- `PostgresIAMRepository.ListRoles` over the rows that the other statements read. -/
def listRoles (db : Db) (roleType : String) : Except RepositoryError (List ModelRole) :=
  match (db.roles.rows.filter (fun r => r.isActive && (roleType = "" || r.type.text = roleType))).mapM
      (decodeRole driver) with
  | .error err => .error (.wrap "failed to scan role" err)
  | .ok roles => .ok roles

/-- `DatabaseIAMService.ListRoles`: the scopes are read, but the service's role has no field for them. -/
def serviceListRoles (db : Db) (now : Time) (roleType : String) : Except ServiceError (List Role) :=
  match db.listRoles driver roleType with
  | .error err => .error (.wrap "failed to list roles" err)
  | .ok roles => .ok (roles.map (fun role => modelRoleToServiceRole role now))

/-- Nobody holds the role or has a scope by it, and no call that names it succeeds but `DeleteRole`; while
it is active, its type is not listed. -/
structure Withholds (db : Db) (seed : RoleRow) : Prop where
  ungranted : ∀ ur ∈ db.userRoles.rows, ur.roleID ≠ seed.id
  getUserScopes : ∀ userID now x, x ∈ db.getUserScopes userID now →
    ∃ r ∈ db.roles.rows, r.code ≠ seed.code ∧ r.isActive = true ∧ x ∈ db.scopesOf r.id
  createRole : ∀ now req, req.code = seed.code ∨ req.parentCode = seed.code ∧ req.parentCode ≠ "" →
    (db.serviceCreateRole driver now req).2.isOk = false
  getRole : ∀ roleFails scopesFail now,
    (db.serviceGetRole driver roleFails scopesFail now seed.code).isOk = false
  updateRole : ∀ faults now req, req.code = seed.code →
    (db.serviceUpdateRole driver faults now req).2.isOk = false
  assignRole : ∀ req, req.roleCode = seed.code → (db.serviceAssignRole driver req).2.isOk = false
  revokeRole : ∀ userID tenantID, (db.serviceRevokeRole userID seed.code tenantID).2.isOk = false
  listRoles : (∃ r ∈ db.roles.rows, r.code = seed.code ∧ r.isActive = true) →
    ∀ now roleType, roleType = "" ∨ roleType = seed.type.text →
      (db.serviceListRoles driver now roleType).isOk = false

end

/-- A row of the role is stored that has no request id, and it has not been granted. -/
structure Unread (db : Db) (seed : RoleRow) : Prop where
  stored : ∃ r ∈ db.roles.rows, r.id = seed.id ∧ r.code = seed.code ∧ r.type = seed.type ∧ r.requestID = none
  ungranted : ∀ ur ∈ db.userRoles.rows, ur.roleID ≠ seed.id

/-- A change of the roles that loses none of them and keeps what `Unread` reads of each. -/
structure KeepsRoles (db db' : Db) : Prop where
  rows : ∀ r ∈ db.roles.rows, ∃ r' ∈ db'.roles.rows,
    r'.id = r.id ∧ r'.code = r.code ∧ r'.type = r.type ∧ r'.requestID = r.requestID
  grants : db'.userRoles = db.userRoles

variable {driver : InetDriver} {db db' db'' : Db} {seed : RoleRow}

theorem KeepsRoles.refl (db : Db) : KeepsRoles db db :=
  ⟨fun r hr => ⟨r, hr, rfl, rfl, rfl, rfl⟩, rfl⟩

theorem KeepsRoles.trans (h : KeepsRoles db db') (h' : KeepsRoles db' db'') : KeepsRoles db db'' := by
  refine ⟨fun r hr => ?_, h'.grants.trans h.grants⟩
  obtain ⟨q, hq, hid, hcode, htype, hrequest⟩ := h.rows r hr
  obtain ⟨q', hq', hid', hcode', htype', hrequest'⟩ := h'.rows q hq
  exact ⟨q', hq', hid'.trans hid, hcode'.trans hcode, htype'.trans htype, hrequest'.trans hrequest⟩

theorem OnlyLinks.keepsRoles (h : OnlyLinks db db') : KeepsRoles db db' := by
  obtain ⟨t, rfl⟩ := h
  exact ⟨fun r hr => ⟨r, hr, rfl, rfl, rfl, rfl⟩, rfl⟩

theorem KeepsRoles.unread (hkeep : KeepsRoles db db') (h : db.Unread seed) : db'.Unread seed := by
  obtain ⟨r, hr, hid, hcode, htype, hrequest⟩ := h.stored
  obtain ⟨q, hq, hid', hcode', htype', hrequest'⟩ := hkeep.rows r hr
  exact ⟨⟨q, hq, hid'.trans hid, hcode'.trans hcode, htype'.trans htype, hrequest'.trans hrequest⟩,
    hkeep.grants ▸ h.ungranted⟩

theorem createRole_keeps (driver : InetDriver) (db : Db) (role : ModelRole) :
    KeepsRoles db (db.createRole driver role).1 := by
  cases hok : (db.createRole driver role).2.isOk with
  | true =>
    obtain ⟨r, roles, hinsert, _, _, _, heq⟩ := createRole_ok hok
    rw [heq]
    exact ⟨fun q hq => ⟨q, (Table.mem_of_insert hinsert).mpr (.inl hq), rfl, rfl, rfl, rfl⟩, rfl⟩
  | false =>
    have hsame : (db.createRole driver role).1 = db := by
      unfold createRole at hok ⊢
      split
      next => rfl
      next => rfl
      next =>
        split
        next =>
          split
          next => rfl
          next roles hinsert =>
            split
            next hparent => simp_all [Except.isOk, Except.toBool]
            next => rfl
        next => rfl
    rw [hsame]
    exact .refl db

/-- An UPDATE of roles that sets none of the columns that are kept. -/
theorem keepsRoles_updateWhere {p : RoleRow → Bool} {f : RoleRow → RoleRow}
    {hf : ∀ a b, RolesApart a b → RolesApart (f a) b ∧ RolesApart a (f b) ∧ RolesApart (f a) (f b)}
    (h : ∀ r, (f r).id = r.id ∧ (f r).code = r.code ∧ (f r).type = r.type ∧ (f r).requestID = r.requestID) :
    KeepsRoles db { db with roles := db.roles.updateWhere p f hf } := by
  refine ⟨fun r hr => ⟨if p r then f r else r, List.mem_map_of_mem hr, ?_⟩, rfl⟩
  split
  next => exact h r
  next => exact ⟨rfl, rfl, rfl, rfl⟩

theorem updateRole_keeps (driver : InetDriver) (db : Db) (role : ModelRole) (now : Time) :
    KeepsRoles db (db.updateRole driver role now).1 := by
  unfold updateRole
  split
  next => exact .refl db
  next =>
    split
    next => exact .refl db
    next =>
      split
      next => exact .refl db
      next =>
        split
        next => exact keepsRoles_updateWhere (fun _ => ⟨rfl, rfl, rfl, rfl⟩)
        next => exact .refl db

theorem deleteRole_keeps (db : Db) (code : String) (now : Time) : KeepsRoles db (db.deleteRole code now).1 := by
  unfold deleteRole
  split
  next => exact keepsRoles_updateWhere (fun _ => ⟨rfl, rfl, rfl, rfl⟩)
  next => exact .refl db

theorem faulty_keeps (fault : Fault) (lost : RepositoryError) {write : Db × Except RepositoryError Unit}
    (h : KeepsRoles db write.1) : KeepsRoles db (faulty fault lost db write).1 := by
  rw [faulty_db]
  split
  next => exact .refl db
  next => exact h

theorem serviceCreateRole_keeps (driver : InetDriver) (db : Db) (now : Time) (req : CreateRoleRequest) :
    KeepsRoles db (db.serviceCreateRole driver now req).1 := by
  unfold serviceCreateRole
  split
  next => exact .refl db
  next =>
    split
    next => exact .refl db
    next parent _ =>
      have hcreate := createRole_keeps driver db (newModelRole req parent now)
      split
      next db' _ hrole =>
        rw [hrole] at hcreate
        exact hcreate
      next db' hrole =>
        rw [hrole] at hcreate
        have hscopes := hcreate.trans (addScopes_onlyLinks req.code req.scopes db').keepsRoles
        split
        next db'' _ hadd =>
          rw [hadd] at hscopes
          exact hscopes
        next db'' hadd =>
          rw [hadd] at hscopes
          split <;> exact hscopes

theorem serviceUpdateRole_keeps (driver : InetDriver) (faults : UpdateFaults) (db : Db) (now : Time)
    (req : UpdateRoleRequest) : KeepsRoles db (db.serviceUpdateRole driver faults now req).1 := by
  unfold serviceUpdateRole
  split
  next => exact .refl db
  next existing hread =>
    have hscopes : KeepsRoles db (db.replaceScopes faults req) := by
      unfold readRole at hread
      split at hread
      next => cases hread
      next =>
        obtain ⟨r, -, hfind, -⟩ := getRoleByCode_ok hread
        exact (replaceScopes_onlyLinks faults hfind).keepsRoles
    have hupdate := hscopes.trans (faulty_keeps faults.update (connectionLost "failed to update role")
      (updateRole_keeps driver (db.replaceScopes faults req) (requestedRole existing req) now))
    dsimp only
    split
    next db'' _ hwrite =>
      rw [hwrite] at hupdate
      exact hupdate
    next db'' hwrite =>
      rw [hwrite] at hupdate
      exact hupdate

theorem serviceDeleteRole_keeps (db : Db) (now : Time) (code : String) :
    KeepsRoles db (db.serviceDeleteRole now code).1 := deleteRole_keeps db code now

/-- A role is granted by its id, which a row that cannot be read does not give. -/
theorem Unread.serviceAssignRole (h : db.Unread seed) (driver : InetDriver) (req : AssignRoleRequest) :
    (db.serviceAssignRole driver req).1.Unread seed := by
  unfold Db.serviceAssignRole
  split
  next => exact h
  next role hrole =>
    obtain ⟨q, hq, -, -, hread, hid⟩ := getRoleByCode_ok hrole
    obtain ⟨r, hr, hrid, -, -, hnull⟩ := h.stored
    have hne : role.id ≠ seed.id := by
      rw [hid, ← hrid]
      intro heq
      rw [role_eq_of_id hq hr heq] at hread
      exact hread hnull
    unfold assignRole
    split
    next => exact h
    next =>
      split
      next => exact h
      next userRoles hinsert =>
        split
        next =>
          refine ⟨h.stored, fun ur hur => ?_⟩
          rcases (Table.mem_of_insert hinsert).mp hur with hur | rfl
          · exact h.ungranted ur hur
          · exact hne
        next => exact h

theorem Unread.serviceRevokeRole (h : db.Unread seed) (userID : Int) (roleCode : String) (tenantID : Int) :
    (db.serviceRevokeRole userID roleCode tenantID).1.Unread seed := by
  unfold Db.serviceRevokeRole revokeRole
  split
  next => exact h
  next r _ =>
    split
    next =>
      refine ⟨h.stored, fun ur hur => ?_⟩
      obtain ⟨old, hold, rfl⟩ := List.mem_map.mp hur
      split
      next => exact h.ungranted old hold
      next => exact h.ungranted old hold
    next => exact h

theorem Unread.step {s s' : Stored} {call : Operation × UpdateFaults} (h : s.db.Unread seed)
    (hstep : s.stepUnder driver call = some s') : s'.db.Unread seed := by
  obtain ⟨op, faults⟩ := call
  cases op with
  | tick elapsed =>
    cases Option.some.inj hstep
    exact h
  | createRole req =>
    cases Option.some.inj hstep
    exact (serviceCreateRole_keeps driver s.db s.now req).unread h
  | updateRole req =>
    cases Option.some.inj hstep
    exact (serviceUpdateRole_keeps driver faults s.db s.now req).unread h
  | deleteRole roleCode =>
    cases Option.some.inj hstep
    exact (serviceDeleteRole_keeps s.db s.now roleCode).unread h
  | assignRole req =>
    cases Option.some.inj hstep
    exact h.serviceAssignRole driver req
  | revokeRole userID roleCode tenantID =>
    cases Option.some.inj hstep
    exact h.serviceRevokeRole userID roleCode tenantID

section

variable (driver) (h : db.Unread seed)
include h

theorem Unread.getRoleByCode : ∃ err, db.getRoleByCode driver seed.code = .error err := by
  cases hrole : db.getRoleByCode driver seed.code with
  | error err => exact ⟨err, rfl⟩
  | ok role =>
    obtain ⟨q, hq, -, hcode, hread, -⟩ := getRoleByCode_ok hrole
    obtain ⟨r, hr, -, hrcode, -, hnull⟩ := h.stored
    rw [role_eq_of_code hq hr (hcode.trans hrcode.symm)] at hread
    exact absurd hnull hread

theorem Unread.readRole (failed : Bool) : ∃ err, db.readRole driver failed seed.code = .error err := by
  unfold Db.readRole
  split
  next => exact ⟨_, rfl⟩
  next => exact h.getRoleByCode driver

theorem Unread.createRole (role : ModelRole) (hcode : role.code = seed.code) :
    (db.createRole driver role).2.isOk = false := by
  by_contra hok
  obtain ⟨q, roles, hinsert, hq, -⟩ := createRole_ok (Bool.not_eq_false _ ▸ hok)
  obtain ⟨r, hr, -, hrcode, -, -⟩ := h.stored
  have hwhole : varcharText 32 role.code = seed.code := by
    rw [hcode]
    exact varcharText_eq_iff.mpr (length_of_roleCodeFormat seed.code_format)
  exact ((Table.rows_of_insert hinsert).2 r hr).2 (hrcode.trans (hwhole.symm.trans hq.symm))

theorem Unread.serviceCreateRole {now : Time} {req : CreateRoleRequest}
    (hnames : req.code = seed.code ∨ req.parentCode = seed.code ∧ req.parentCode ≠ "") :
    (db.serviceCreateRole driver now req).2.isOk = false := by
  by_contra hok
  obtain ⟨parent, hcreated, -⟩ := serviceCreateRole_eq (Bool.not_eq_false _ ▸ hok)
  rcases hnames with hcode | ⟨hparent, hne⟩
  · rw [h.createRole driver (newModelRole req parent now) hcode] at hcreated
    cases hcreated
  · obtain ⟨err, herr⟩ := h.getRoleByCode driver
    have hunknown : db.parentID driver req.parentCode = .error (.wrap "parent role not found" err) := by
      rw [parentID, if_neg hne, hparent, herr]
    unfold Db.serviceCreateRole at hok
    rw [hunknown] at hok
    split at hok
    next => exact hok rfl
    next => exact hok rfl

theorem Unread.serviceGetRole (roleFails scopesFail : Bool) (now : Time) :
    (db.serviceGetRole driver roleFails scopesFail now seed.code).isOk = false := by
  obtain ⟨err, herr⟩ := h.readRole driver roleFails
  rw [Db.serviceGetRole, herr]
  rfl

theorem Unread.serviceUpdateRole (faults : UpdateFaults) (now : Time) {req : UpdateRoleRequest}
    (hcode : req.code = seed.code) : (db.serviceUpdateRole driver faults now req).2.isOk = false := by
  obtain ⟨err, herr⟩ := h.readRole driver faults.getRole
  rw [Db.serviceUpdateRole, hcode, herr]
  rfl

theorem Unread.assignRole_fails {req : AssignRoleRequest} (hcode : req.roleCode = seed.code) :
    (db.serviceAssignRole driver req).2.isOk = false := by
  obtain ⟨err, herr⟩ := h.getRoleByCode driver
  rw [Db.serviceAssignRole, hcode, herr]
  rfl

theorem Unread.listRoles_fails (hactive : ∃ r ∈ db.roles.rows, r.code = seed.code ∧ r.isActive = true)
    (now : Time) {roleType : String} (htype : roleType = "" ∨ roleType = seed.type.text) :
    (db.serviceListRoles driver now roleType).isOk = false := by
  obtain ⟨q, hq, hqcode, hqactive⟩ := hactive
  obtain ⟨r, hr, -, hcode, hrtype, hnull⟩ := h.stored
  rw [role_eq_of_code hq hr (hqcode.trans hcode.symm)] at hqactive
  have hasked : r ∈
      db.roles.rows.filter (fun r => r.isActive && (roleType = "" || r.type.text = roleType)) := by
    refine List.mem_filter.mpr ⟨hr, ?_⟩
    rcases htype with rfl | rfl
    · simp [hqactive]
    · simp [hqactive, hrtype]
  have hdecode : ∃ err, decodeRole driver r = .error err := by
    cases hrole : decodeRole driver r with
    | error err => exact ⟨err, rfl⟩
    | ok role =>
      obtain ⟨_, _, _, _, -, hrequest, -⟩ := decodeRole_ok hrole
      rw [hnull] at hrequest
      cases hrequest
  obtain ⟨err, herr⟩ := hdecode
  obtain ⟨err', hall⟩ := mapM_eq_error hasked herr
  rw [Db.serviceListRoles, Db.listRoles, hall]
  rfl

end

theorem Unread.revokeRole_fails (h : db.Unread seed) (userID tenantID : Int) :
    (db.serviceRevokeRole userID seed.code tenantID).2.isOk = false := by
  rw [Db.serviceRevokeRole, answer_isOk, revokeRole]
  split
  next => rfl
  next q hfind =>
    obtain ⟨hq, hcode, -⟩ := activeRole_some hfind
    obtain ⟨r, hr, hid, hrcode, -, -⟩ := h.stored
    rw [role_eq_of_code hq hr (hcode.trans hrcode.symm), hid]
    have hnone : db.userRoles.rows.any (revokes userID seed.id tenantID) = false := by
      refine List.any_eq_false.mpr (fun ur hur hrevokes => h.ungranted ur hur ?_)
      simp only [revokes, grantOf, Bool.and_eq_true, decide_eq_true_eq] at hrevokes
      exact hrevokes.1.1.2
    rw [if_neg (Bool.not_eq_true _ ▸ hnone)]
    rfl

theorem Unread.scopes_elsewhere (h : db.Unread seed) {userID : Int} {now : Time} {x : String}
    (hx : x ∈ db.getUserScopes userID now) :
    ∃ r ∈ db.roles.rows, r.code ≠ seed.code ∧ r.isActive = true ∧ x ∈ db.scopesOf r.id := by
  obtain ⟨ur, hur, hx⟩ := List.mem_flatMap.mp (List.mem_dedup.mp hx)
  obtain ⟨q, hq, hx⟩ := List.mem_flatMap.mp hx
  obtain ⟨hq, hheld⟩ := List.mem_filter.mp hq
  simp only [Bool.and_eq_true, decide_eq_true_eq] at hheld
  refine ⟨q, hq, fun hcode => ?_, hheld.2, hx⟩
  obtain ⟨r, hr, hid, hrcode, -, -⟩ := h.stored
  rw [role_eq_of_code hq hr (hcode.trans hrcode.symm), hid] at hheld
  exact h.ungranted ur (List.mem_filter.mp hur).1 hheld.1.symm

theorem Unread.withholds (h : db.Unread seed) (driver : InetDriver) : db.Withholds driver seed where
  ungranted := h.ungranted
  getUserScopes := fun _ _ _ hx => h.scopes_elsewhere hx
  createRole := fun _ _ hnames => h.serviceCreateRole driver hnames
  getRole := h.serviceGetRole driver
  updateRole := fun faults now _ hcode => h.serviceUpdateRole driver faults now hcode
  assignRole := fun _ hcode => h.assignRole_fails driver hcode
  revokeRole := h.revokeRole_fails
  listRoles := fun hactive now _ htype => h.listRoles_fails driver hactive now htype

end Db

theorem RoleTable.row_type {r : StoredRole} {q : RoleRow} (h : r.row = some q) : q.type = r.type := by
  unfold StoredRole.row at h
  split at h
  next =>
    obtain rfl := Option.some.inj h
    rfl
  next => cases h

/-- The rows that `ListRoles` of the table reads are those of the database. -/
theorem RoleTable.listRoles_refines {driver : InetDriver} {t : RoleTable} {db : Db} (h : t.RowsOf db)
    (roleType : String) : t.listRoles driver roleType = db.listRoles driver roleType := by
  have hasked : List.Forall₂ (fun r q => r.row = some q) (t.asked roleType)
      (db.roles.rows.filter (fun r => r.isActive && (roleType = "" || r.type.text = roleType))) := by
    refine List.rel_filter (fun r q hrow => ?_) h
    obtain ⟨-, hactive⟩ := row_keys hrow
    simp only [hactive, row_type hrow]
  rw [listRoles, Db.listRoles, selectRoles_eq]
  generalize t.asked roleType = rows at hasked
  generalize db.roles.rows.filter (fun r => r.isActive && (roleType = "" || r.type.text = roleType)) = rows'
    at hasked
  have hscan : rows.mapM (fun r => scanRole driver (listRolesColumns.map r.value)) =
      rows'.mapM (Db.decodeRole driver) := by
    induction hasked with
    | nil => rfl
    | cons hrow _ ih => rw [List.mapM_cons, List.mapM_cons, ih, scanRole_row hrow]
  cases hread : rows'.mapM (Db.decodeRole driver) with
  | error err => simp only [hscan, hread]
  | ok roles => simp only [hscan, hread]

/-- A role whose stored row has no request id, as the schema seeds them all, is withheld for ever: in
every run of the service no call that names it succeeds but `DeleteRole`, and nobody comes to hold it. -/
theorem unread_role_withheld (driver : InetDriver) {s s' : Stored} {seed : RoleRow}
    (hstored : seed ∈ s.db.roles.rows) (hnull : seed.requestID = none)
    (hungranted : ∀ ur ∈ s.db.userRoles.rows, ur.roleID ≠ seed.id)
    (hrun : Reach (Stored.stepUnder driver) anyStep s s') : s'.db.Withholds driver seed := by
  have hstart : s.db.Unread seed := ⟨⟨seed, hstored, rfl, rfl, rfl, hnull⟩, hungranted⟩
  have hkept : s'.db.Unread seed :=
    hrun.invariant (I := fun s : Stored => s.db.Unread seed) hstart fun _ _ _ h _ hstep => h.step hstep
  exact hkept.withholds driver

theorem seeded_links_apart : [(⟨1, 1⟩ : RoleScopeRow)].Pairwise LinksApart := List.pairwise_singleton _ _

/-- The database once the schema has been applied, with super_admin linked to the scope of all, and with a
user and a tenant. -/
def seededDb : Db where
  roles := ⟨(roleSeeds.zipIdx 1).map (fun p => (p.1.row p.2 0).rowAt 0 0),
    List.pairwise_map.mpr (roleSeeds_apart.imp fun h => ⟨fun hid => h.1 (Int.ofNat.inj hid), h.2⟩)⟩
  scopes := ⟨[⟨1, "*", true⟩], List.pairwise_singleton _ _⟩
  roleScopes := ⟨[⟨1, 1⟩], seeded_links_apart⟩
  userRoles := Table.empty
  users := [7]
  tenants := [10]
  nextRoleID := 8

theorem seeded_rowsOf : (seededRoles 0).RowsOf seededDb :=
  List.forall₂_map_left_iff.mpr (List.forall₂_map_right_iff.mpr (List.forall₂_same.mpr fun _ _ => rfl))

theorem unread_role_withheld_sample :
    ∃ s', Reach (Stored.stepUnder plainDriver) anyStep ⟨seededDb, 0⟩ s' ∧
      ∃ seed, seed.code = "super_admin" ∧ seed.requestID = none ∧ s'.db.Withholds plainDriver seed := by
  have hstart : Reach (Stored.stepUnder plainDriver) anyStep ⟨seededDb, 0⟩ ⟨seededDb, 0⟩ := Reach.refl _
  have hrun := (hstart.next (a := (.assignRole ⟨7, "super_admin", 10, 7, none⟩, .none)) trivial rfl).next
    (a := (.createRole ⟨"auditor", "Auditor", .platform, 5, "", ["*"], ""⟩, .none)) trivial rfl
  exact ⟨_, hrun, _, rfl, rfl, unread_role_withheld plainDriver List.mem_cons_self rfl
    (List.forall_mem_nil _) hrun⟩

end SupplyPlatform.Iam
