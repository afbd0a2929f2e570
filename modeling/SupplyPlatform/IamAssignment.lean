import SupplyPlatform.IamDatabase
import SupplyPlatform.IamRevocation

namespace SupplyPlatform.Iam

open Relational

namespace DefaultIAMService

def NotBothActive (a b : UserRole) : Prop := ¬(a.isActive = true ∧ b.isActive = true)

instance : Std.Symm NotBothActive := ⟨fun _ _ h h' => h ⟨h'.2, h'.1⟩⟩

def OneActive (urs : List UserRole) : Prop := urs.Pairwise NotBothActive

theorem oneActive_lasting : Lasting OneActive where
  nil := List.Pairwise.nil
  grant := by
    intro urs ur h hnone _
    refine List.pairwise_append.mpr ⟨h, List.pairwise_singleton _ _, fun a ha b _ hab => ?_⟩
    rw [hnone a ha] at hab
    simp at hab
  revoke := by
    intro urs h
    cases urs with
    | nil => exact h
    | cons ur urs =>
      refine List.pairwise_cons.mpr ⟨fun b _ hab => ?_, (List.pairwise_cons.mp h).2⟩
      simp [deactivate] at hab

theorem mem_entries {s : DefaultIAMService} {userID : Int} {roleCode : String} {tenantID : Int}
    {ur : UserRole} : ur ∈ s.entries userID roleCode tenantID ↔
      ur ∈ s.userRoleStore userID ∧ ur.isOf roleCode tenantID = true :=
  List.mem_filter

theorem assignRole_ok_iff {s : DefaultIAMService} {req : AssignRoleRequest}
    (hrole : (s.roleStore req.roleCode).isSome = true) :
    (s.assignRole req).2.isOk = true ↔
      ∀ ur ∈ s.entries req.userID req.roleCode req.tenantID, ur.isActive = false := by
  obtain ⟨hnone, _⟩ | ⟨_, ⟨ur, hur, hblocks⟩, heq⟩ | ⟨_, hfree, heq⟩ := s.assignRole_cases req
  · rw [Option.isNone_iff_eq_none] at hnone
    rw [hnone] at hrole
    simp at hrole
  · rw [heq]
    constructor
    · intro h
      simp [Except.isOk, Except.toBool] at h
    · intro h
      obtain ⟨hof, hactive⟩ := Bool.and_eq_true_iff.mp hblocks
      rw [h ur (mem_entries.mpr ⟨hur, hof⟩)] at hactive
      simp at hactive
  · rw [heq]
    refine ⟨fun _ ur hur => ?_, fun _ => rfl⟩
    obtain ⟨hmem, hof⟩ := mem_entries.mp hur
    have hblocks := hfree ur hmem
    unfold blocks at hblocks
    rw [hof, Bool.true_and] at hblocks
    exact hblocks

end DefaultIAMService

open DefaultIAMService

def Memory.Holds (m : Memory) (req : AssignRoleRequest) : Prop :=
  ∃ ur ∈ m.service.entries req.userID req.roleCode req.tenantID, ur.live m.now = true

/-- `AssignRole` of a stored active role succeeds exactly when the user does not hold it. -/
def AssignsUnlessHeld (m : Memory) : Operation → Prop
  | .assignRole req => ∀ role, m.service.roleStore req.roleCode = some role → role.isActive = true →
      ((m.service.assignRole req).2.isOk = true ↔ ¬m.Holds req)
  | _ => True

/-- `AssignRole` of a stored active role finds no entry of it that has expired without having been
revoked. -/
def FindsNoneExpired (m : Memory) : Operation → Prop
  | .assignRole req => ∀ role, m.service.roleStore req.roleCode = some role → role.isActive = true →
      ∀ ur ∈ m.service.entries req.userID req.roleCode req.tenantID, ur.isActive = true →
        ur.unexpired m.now = true
  | _ => True

theorem assignsUnlessHeld_iff {m : Memory} {op : Operation} (h : EveryTriple OneActive m.service) :
    AssignsUnlessHeld m op ↔ FindsNoneExpired m op := by
  cases op with
  | assignRole req =>
    refine forall_congr' (fun role => imp_congr_right (fun hrole => imp_congr_right (fun _ => ?_)))
    have hsome : (m.service.roleStore req.roleCode).isSome = true := by rw [hrole]; rfl
    rw [assignRole_ok_iff hsome]
    constructor
    · intro hiff ur hur hactive
      by_contra hexpired
      -- the expired entry blocks the grant, so another entry would have to be live
      have hheld : m.Holds req := by
        by_contra hnot
        rw [hiff.mpr hnot ur hur] at hactive
        simp at hactive
      obtain ⟨other, hother, hlive⟩ := hheld
      obtain ⟨hoactive, hofresh⟩ := Bool.and_eq_true_iff.mp hlive
      have hne : ur ≠ other := by
        intro heq
        subst heq
        exact hexpired hofresh
      exact (h _ _ _).forall hur hother hne ⟨hactive, hoactive⟩
    · intro hfresh
      constructor
      · rintro hnone ⟨ur, hur, hlive⟩
        have hactive := (Bool.and_eq_true_iff.mp hlive).1
        rw [hnone ur hur] at hactive
        simp at hactive
      · intro hnot ur hur
        by_contra hactive
        rw [Bool.not_eq_false] at hactive
        exact hnot ⟨ur, hur, Bool.and_eq_true_iff.mpr ⟨hactive, hfresh ur hur hactive⟩⟩
  | _ => exact Iff.rfl

/-- The tables and the clock the calls of `DatabaseIAMService` read. -/
structure Stored where
  db : Db
  now : Time

/-- The tables after a call; every call returns, with an error or without. -/
def Stored.step (driver : InetDriver) (s : Stored) : Operation → Option Stored
  | .tick elapsed => some { s with now := s.now + elapsed }
  | .createRole req => some { s with db := (s.db.serviceCreateRole driver s.now req).1 }
  | .updateRole req => some { s with db := (s.db.serviceUpdateRole driver .none s.now req).1 }
  | .deleteRole roleCode => some { s with db := (s.db.serviceDeleteRole s.now roleCode).1 }
  | .assignRole req => some { s with db := (s.db.serviceAssignRole driver req).1 }
  | .revokeRole userID roleCode tenantID =>
    some { s with db := (s.db.serviceRevokeRole userID roleCode tenantID).1 }

namespace Db

theorem grantsApart_iff {userID roleID tenantID : Int} {active : Bool} {grantedBy : Option Int}
    {expiresAt : Option Time} {ur : UserRoleRow} :
    GrantsApart ur ⟨userID, roleID, some tenantID, active, grantedBy, expiresAt⟩ ↔
      grantOf userID roleID tenantID ur = false := by
  unfold GrantsApart grantOf
  rw [Bool.eq_false_iff]
  refine not_congr ?_
  simp only [Bool.and_eq_true, decide_eq_true_eq]
  constructor
  · rintro ⟨hu, hr, ht, _⟩
    exact ⟨⟨hu, hr⟩, ht⟩
  · rintro ⟨⟨hu, hr⟩, ht⟩
    exact ⟨hu, hr, ht, by simp [ht]⟩

theorem assignRole_ok_iff {db : Db} {userRole : UserRoleMapping} :
    (db.assignRole userRole).2.isOk = true ↔ db.references userRole = true ∧
      ∀ ur ∈ db.userRoles.rows,
        grantOf userRole.userID userRole.roleID userRole.tenantID ur = false := by
  unfold assignRole
  split
  next hany =>
    obtain ⟨ur, hur, hof⟩ := List.any_eq_true.mp hany
    have hgrant := (Bool.and_eq_true_iff.mp hof).1
    constructor
    · intro h
      simp [Except.isOk, Except.toBool] at h
    · rintro ⟨_, hnone⟩
      rw [hnone ur hur] at hgrant
      simp at hgrant
  next =>
    split
    next hinsert =>
      constructor
      · intro h
        simp [Except.isOk, Except.toBool] at h
      · rintro ⟨_, hnone⟩
        unfold Table.insert at hinsert
        rw [dif_pos (fun q hq => grantsApart_iff.mpr (hnone q hq))] at hinsert
        simp at hinsert
    next userRoles hinsert =>
      have hnone := (Table.rows_of_insert hinsert).2
      split
      next href =>
        exact ⟨fun _ => ⟨href, fun ur hur => grantsApart_iff.mp (hnone ur hur)⟩, fun _ => rfl⟩
      next href =>
        constructor
        · intro h
          simp [Except.isOk, Except.toBool] at h
        · rintro ⟨h, _⟩
          exact absurd h href

/-- `AssignRole` of an active role: the row must decode, the references must hold and the triple must
have no row. -/
theorem serviceAssignRole_ok_iff {driver : InetDriver} {db : Db} {req : AssignRoleRequest} {r : RoleRow}
    (hr : r ∈ db.roles.rows) (hcode : r.code = req.roleCode) (hactive : r.isActive = true) :
    (db.serviceAssignRole driver req).2.isOk = true ↔
      (decodeRole driver r).isOk = true ∧ db.references (mapping req r.id) = true ∧
        ∀ ur ∈ db.userRoles.rows, grantOf req.userID r.id req.tenantID ur = false := by
  have hfind : db.activeRole req.roleCode = some r := hcode ▸ activeRole_eq hr hactive
  cases hdecode : decodeRole driver r with
  | error e =>
    have hget : db.getRoleByCode driver req.roleCode = .error (.wrap "failed to get role" e) := by
      simp [getRoleByCode, hfind, hdecode]
    simp [serviceAssignRole, hget, Except.isOk, Except.toBool]
  | ok role =>
    have hget : db.getRoleByCode driver req.roleCode = .ok role := by
      simp [getRoleByCode, hfind, hdecode]
    have hid : role.id = r.id := by
      obtain ⟨_, _, _, _, _, _, _, _, rfl⟩ := decodeRole_ok hdecode
      rfl
    unfold serviceAssignRole
    rw [hget]
    show (answer _ _ _).isOk = true ↔ _
    rw [answer_isOk, hid, assignRole_ok_iff]
    exact ⟨fun h => ⟨rfl, h⟩, fun h => h.2⟩

end Db

def Stored.Holds (s : Stored) (r : RoleRow) (req : AssignRoleRequest) : Prop :=
  ∃ ur ∈ s.db.userRoles.rows, Db.grantOf req.userID r.id req.tenantID ur = true ∧
    Db.UserRoleRow.live ur s.now = true

/-- `AssignRole` of a stored active role succeeds exactly when the user does not hold it. -/
def StoredAssignsUnlessHeld (driver : InetDriver) (s : Stored) : Operation → Prop
  | .assignRole req => ∀ r ∈ s.db.roles.rows, r.code = req.roleCode → r.isActive = true →
      ((s.db.serviceAssignRole driver req).2.isOk = true ↔ ¬s.Holds r req)
  | _ => True

/-- `AssignRole` of a stored active role finds it held, or finds no row of the user, the role and the
tenant; and then the role's row decodes and the user, the tenant and the granter exist. -/
def FindsNoSpentRow (driver : InetDriver) (s : Stored) : Operation → Prop
  | .assignRole req => ∀ r ∈ s.db.roles.rows, r.code = req.roleCode → r.isActive = true →
      s.Holds r req ∨
        ((∀ ur ∈ s.db.userRoles.rows, Db.grantOf req.userID r.id req.tenantID ur = false) ∧
          (Db.decodeRole driver r).isOk = true ∧ s.db.references (Db.mapping req r.id) = true)
  | _ => True

theorem storedAssignsUnlessHeld_iff {driver : InetDriver} {s : Stored} {op : Operation} :
    StoredAssignsUnlessHeld driver s op ↔ FindsNoSpentRow driver s op := by
  cases op with
  | assignRole req =>
    refine forall_congr' (fun r => imp_congr_right (fun hr => imp_congr_right (fun hcode =>
      imp_congr_right (fun hactive => ?_))))
    rw [Db.serviceAssignRole_ok_iff hr hcode hactive]
    constructor
    · intro hiff
      by_cases hheld : s.Holds r req
      · exact .inl hheld
      · obtain ⟨hdecode, href, hnone⟩ := hiff.mpr hheld
        exact .inr ⟨hnone, hdecode, href⟩
    · rintro (hheld | ⟨hnone, hdecode, href⟩)
      · refine ⟨?_, fun hnot => absurd hheld hnot⟩
        rintro ⟨_, _, hnone⟩
        obtain ⟨ur, hur, hgrant, _⟩ := hheld
        rw [hnone ur hur] at hgrant
        simp at hgrant
      · refine ⟨?_, fun _ => ⟨hdecode, href, hnone⟩⟩
        rintro _ ⟨ur, hur, hgrant, _⟩
        rw [hnone ur hur] at hgrant
        simp at hgrant
  | _ => exact Iff.rfl

/-- In every run of either service each `AssignRole` of a stored active role succeeds exactly when the
user does not hold it, if and only if none of them meets an assignment that is over: expired but not
revoked in memory, expired or revoked in the database, where the role must also be readable and the
references must hold. -/
theorem assignments_follow_holdings_iff (driver : InetDriver) (now : Time) (db : Db)
    (ops : List Operation) :
    (Transition.EachStep Memory.step AssignsUnlessHeld (Memory.start now) ops ↔
      Transition.EachStep Memory.step FindsNoneExpired (Memory.start now) ops) ∧
    (Transition.EachStep (Stored.step driver) (StoredAssignsUnlessHeld driver) ⟨db, now⟩ ops ↔
      Transition.EachStep (Stored.step driver) (FindsNoSpentRow driver) ⟨db, now⟩ ops) := by
  constructor
  · exact Transition.eachStep_congr (I := fun m => EveryTriple OneActive m.service)
      (fun _ _ _ h hstep => everyTriple_step oneActive_lasting h hstep)
      (fun _ _ _ h _ => assignsUnlessHeld_iff h) (everyTriple_start oneActive_lasting now) ops
  · exact Transition.eachStep_congr (I := fun _ => True) (fun _ _ _ _ _ => trivial)
      (fun _ _ _ _ _ => storedAssignsUnlessHeld_iff) trivial ops

def plainDriver : InetDriver where
  read a := if a = "" then none else some a
  parse t := if t = "" then none else some t
  parse_read := by
    intro a t h
    split at h
    next => simp at h
    next ha =>
      cases Option.some.inj h
      exact if_neg ha
  parse_empty := rfl

theorem viewer_format : roleCodeFormat "viewer" = true := by
  decide

def storedViewer : RoleRow :=
  { id := 1, code := "viewer", name := "Viewer", type := .platform, parentRoleID := none, level := 10,
    description := some "", isActive := true, requestID := some "", createdIP := none,
    updatedIP := none, version := 1, createdAt := 0, updatedAt := 0, code_format := viewer_format }

def viewerDb : Db where
  roles := ⟨[storedViewer], List.pairwise_singleton _ _⟩
  scopes := ⟨[⟨1, "billing.read", true⟩], List.pairwise_singleton _ _⟩
  roleScopes := ⟨[⟨1, 1⟩], List.pairwise_singleton _ _⟩
  userRoles := Table.empty
  users := [1, 100]
  tenants := [1]
  nextRoleID := 2

def expiringGrant : AssignRoleRequest :=
  { userID := 100, roleCode := "viewer", tenantID := 1, grantedBy := 1, expiresAt := some 10 }

/-- A grant that has expired stops the next one in memory; one that was revoked stops it in the
database. -/
theorem spent_grant_blocks_the_next :
    ¬Transition.EachStep Memory.step AssignsUnlessHeld (Memory.start 0)
      [.createRole viewerRole, .assignRole expiringGrant, .tick 20, .assignRole viewerGrant] ∧
    ¬Transition.EachStep (Stored.step plainDriver) (StoredAssignsUnlessHeld plainDriver) ⟨viewerDb, 0⟩
      [.assignRole viewerGrant, .revokeRole 100 "viewer" 1, .assignRole viewerGrant] := by
  constructor
  · intro h
    have hlast := ((((h _ rfl).2 _ rfl).2 _ rfl).2 _ rfl).1 _ rfl rfl
    refine absurd (hlast.mpr ?_) (by decide)
    rintro ⟨ur, hur, hlive⟩
    have hall : ∀ ur ∈ [newUserRole expiringGrant], ur.live 20 = false := by decide
    exact absurd hlive (Bool.eq_false_iff.mp (hall ur hur))
  · intro h
    have hlast := (((h _ rfl).2 _ rfl).2 _ rfl).1 storedViewer (by decide) rfl rfl
    refine absurd (hlast.mpr ?_) (by decide)
    rintro ⟨ur, hur, _, hlive⟩
    have hall : ∀ ur ∈ ([⟨100, 1, some 1, false, some 1, none⟩] : List UserRoleRow),
        Db.UserRoleRow.live ur 0 = false := by decide
    exact absurd hlive (Bool.eq_false_iff.mp (hall ur hur))

end SupplyPlatform.Iam
