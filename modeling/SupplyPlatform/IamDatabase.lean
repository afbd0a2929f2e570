import SupplyPlatform.IamRepository

namespace SupplyPlatform.Iam

/-- The statements of `UpdateRole` that fail, the i-th removal and the i-th addition of a scope among
them; a read has no effect to lose. -/
structure UpdateFaults where
  getRole : Bool
  listScopes : Bool
  remove : Nat → Fault
  add : Nat → Fault
  update : Fault
  rereadRole : Bool
  rereadScopes : Bool

def UpdateFaults.none : UpdateFaults :=
  ⟨false, false, fun _ => .none, fun _ => .none, .none, false, false⟩

/-- A write whose effect does not come, or comes though an error is reported. -/
def faulty (fault : Fault) (lost : RepositoryError) (db : Db)
    (write : Db × Except RepositoryError Unit) : Db × Except RepositoryError Unit :=
  match fault with
  | .none => write
  | .unapplied => (db, .error lost)
  | .applied => (write.1, .error lost)

def connectionLost (context : String) : RepositoryError := .wrap context "connection lost"

/-- The service's answer: a value, or the repository's error as the service reports it. -/
def answer {α : Type} (report : RepositoryError → ServiceError) (value : α) :
    Except RepositoryError Unit → Except ServiceError α
  | .ok () => .ok value
  | .error e => .error (report e)

@[simp] theorem answer_isOk {α : Type} (report : RepositoryError → ServiceError) (value : α)
    (result : Except RepositoryError Unit) : (answer report value result).isOk = result.isOk := by
  cases result <;> rfl

def createRoleError : RepositoryError → ServiceError
  | .duplicateRoleCode => .duplicateRoleCode
  | e => .wrap "failed to create role" e

def deleteRoleError : RepositoryError → ServiceError
  | .roleNotFound => .roleNotFound
  | e => .wrap "failed to delete role" e

def assignRoleError : RepositoryError → ServiceError
  | .duplicateAssignment => .duplicateAssignment
  | e => .wrap "failed to assign role" e

def revokeRoleError : RepositoryError → ServiceError
  | .roleNotFound => .roleNotFound
  | .userRoleNotFound => .roleNotFound
  | e => .wrap "failed to revoke role" e

namespace Db

/-- `modelRoleToServiceRole`: both times are the clock's. -/
def modelRoleToServiceRole (role : ModelRole) (now : Time) : Role :=
  { code := role.code, name := role.name, type := role.type, level := role.level,
    description := role.description, isActive := role.isActive, version := role.version,
    createdAt := now, updatedAt := now }

/-- The loop of `CreateRole` over the requested scopes; scopes it does not find are passed over. -/
def addScopes (db : Db) (roleCode : String) : List String → Db × Except ServiceError Unit
  | [] => (db, .ok ())
  | scope :: scopes =>
    match db.addScopeToRole roleCode scope with
    | (db', .ok ()) => db'.addScopes roleCode scopes
    | (db', .error .scopeNotFound) => db'.addScopes roleCode scopes
    | (db', .error e) => (db', .error (.wrap ("failed to add scope " ++ scope) e))

section

variable (driver : InetDriver)

def parentID (db : Db) (parentCode : String) : Except ServiceError (Option Int) :=
  if parentCode = "" then .ok none
  else match db.getRoleByCode driver parentCode with
    | .ok parent => .ok (some parent.id)
    | .error e => .error (.wrap "parent role not found" e)

def newModelRole (req : CreateRoleRequest) (parent : Option Int) (now : Time) : ModelRole :=
  { id := 0, code := req.code, name := req.name, type := req.type, parentRoleID := parent,
    level := req.level, description := req.description, isActive := true, requestID := "",
    createdIP := "", updatedIP := "", version := 1, createdAt := now, updatedAt := now }

def serviceCreateRole (db : Db) (now : Time) (req : CreateRoleRequest) : Db × Except ServiceError Role :=
  if !req.type.accepted then (db, .error .invalidRequest)
  else match db.parentID driver req.parentCode with
    | .error e => (db, .error e)
    | .ok parent => match db.createRole driver (newModelRole req parent now) with
      | (db', .error e) => (db', .error (createRoleError e))
      | (db', .ok ()) => match db'.addScopes req.code req.scopes with
        | (db'', .error e) => (db'', .error e)
        | (db'', .ok ()) => match db''.getRoleByCode driver req.code with
          | .ok role => (db'', .ok (modelRoleToServiceRole role now))
          | .error e => (db'', .error (.wrap "failed to get created role" e))

def getRoleError : RepositoryError → ServiceError
  | .roleNotFound => .roleNotFound
  | e => .wrap "failed to get role" e

def readRole (db : Db) (failed : Bool) (code : String) : Except RepositoryError ModelRole :=
  if failed then .error (connectionLost "failed to get role") else db.getRoleByCode driver code

/-- `DatabaseIAMService.GetRole`: the scopes are read, but the service's role has no field for them. -/
def serviceGetRole (db : Db) (roleFails scopesFail : Bool) (now : Time) (code : String) :
    Except ServiceError Role :=
  match db.readRole driver roleFails code with
  | .error e => .error (getRoleError e)
  | .ok role =>
    if scopesFail then
      .error (.wrap "failed to get role scopes" (connectionLost "failed to get scopes by role"))
    else .ok (modelRoleToServiceRole role now)

def requestedRole (existing : ModelRole) (req : UpdateRoleRequest) : ModelRole :=
  { existing with name := if req.name = "" then existing.name else req.name,
                  description := if req.description = "" then existing.description else req.description,
                  isActive := req.isActive.getD existing.isActive }

/-- The loops of `UpdateRole` over scopes: the i-th statement meets the i-th fault, and its error is
dropped. -/
def eachScope (write : Db → String → Db × Except RepositoryError Unit) (faults : Nat → Fault) :
    Nat → Db → List String → Db
  | _, db, [] => db
  | i, db, scope :: scopes =>
    eachScope write faults (i + 1)
      (faulty (faults i) (connectionLost "failed to change scopes") db (write db scope)).1 scopes

def replaceScopes (db : Db) (faults : UpdateFaults) (req : UpdateRoleRequest) : Db :=
  match req.scopes with
  | none => db
  | some scopes =>
    let currentScopes := if faults.listScopes then [] else db.getScopesByRoleCode req.code
    let removed := eachScope (fun d scope => d.removeScopeFromRole req.code scope) faults.remove 0 db
      currentScopes
    eachScope (fun d scope => d.addScopeToRole req.code scope) faults.add 0 removed scopes

/-- `DatabaseIAMService.UpdateRole`. -/
def serviceUpdateRole (faults : UpdateFaults) (db : Db) (now : Time) (req : UpdateRoleRequest) :
    Db × Except ServiceError Role :=
  match db.readRole driver faults.getRole req.code with
  | .error e => (db, .error (getRoleError e))
  | .ok existing =>
    let db' := db.replaceScopes faults req
    match faulty faults.update (connectionLost "failed to update role") db'
        (db'.updateRole driver (requestedRole existing req) now) with
    | (db'', .error e) => (db'', .error (.wrap "failed to update role" e))
    | (db'', .ok ()) =>
      (db'', db''.serviceGetRole driver faults.rereadRole faults.rereadScopes now req.code)

def serviceDeleteRole (db : Db) (now : Time) (roleCode : String) : Db × Except ServiceError Unit :=
  ((db.deleteRole roleCode now).1, answer deleteRoleError () (db.deleteRole roleCode now).2)

def mapping (req : AssignRoleRequest) (roleID : Int) : UserRoleMapping :=
  { userID := req.userID, roleID := roleID, tenantID := req.tenantID, grantedBy := req.grantedBy,
    expiresAt := req.expiresAt }

def serviceAssignRole (db : Db) (req : AssignRoleRequest) : Db × Except ServiceError UserRole :=
  match db.getRoleByCode driver req.roleCode with
  | .error e => (db, .error (getRoleError e))
  | .ok role =>
    ((db.assignRole (mapping req role.id)).1,
      answer assignRoleError (DefaultIAMService.newUserRole req) (db.assignRole (mapping req role.id)).2)

end

def serviceRevokeRole (db : Db) (userID : Int) (roleCode : String) (tenantID : Int) :
    Db × Except ServiceError Unit :=
  ((db.revokeRole userID roleCode tenantID).1,
    answer revokeRoleError () (db.revokeRole userID roleCode tenantID).2)

def Knows (db : Db) (scope : String) : Prop := ∃ s ∈ db.scopes.rows, s.code = scope ∧ s.isActive = true

/-- At most the links between roles and scopes have changed. -/
def OnlyLinks (db db' : Db) : Prop := ∃ roleScopes, db' = { db with roleScopes := roleScopes }

theorem OnlyLinks.refl (db : Db) : OnlyLinks db db := ⟨db.roleScopes, rfl⟩

theorem OnlyLinks.trans {db db' db'' : Db} (h : OnlyLinks db db') (h' : OnlyLinks db' db'') :
    OnlyLinks db db'' := by
  obtain ⟨t, rfl⟩ := h
  obtain ⟨t', rfl⟩ := h'
  exact ⟨t', rfl⟩

theorem OnlyLinks.activeRole {db db' : Db} (h : OnlyLinks db db') (code : String) :
    db'.activeRole code = db.activeRole code := by
  obtain ⟨t, rfl⟩ := h
  rfl

theorem OnlyLinks.knows {db db' : Db} (h : OnlyLinks db db') {scope : String} :
    db'.Knows scope ↔ db.Knows scope := by
  obtain ⟨t, rfl⟩ := h
  exact Iff.rfl

theorem link_onlyLinks (db : Db) (roleID scopeID : Int) : OnlyLinks db (db.link roleID scopeID) := by
  unfold link
  split
  next roleScopes _ => exact ⟨roleScopes, rfl⟩
  next => exact OnlyLinks.refl db

theorem knows_of_mem {db : Db} {roleID : Int} {x : String} (h : x ∈ db.scopesOf roleID) :
    db.Knows x := by
  obtain ⟨s, hs, hactive, hcode, _⟩ := mem_scopesOf.mp h
  exact ⟨s, hs, hcode, hactive⟩

theorem not_knows {db : Db} {scope : String} (h : db.activeScope scope = none) : ¬db.Knows scope := by
  rintro ⟨s, hs, rfl, hactive⟩
  rw [activeScope_eq hs hactive] at h
  simp at h

theorem addScopeToRole_spec {db : Db} {code : String} {r : RoleRow} (hr : db.activeRole code = some r)
    (scope : String) :
    OnlyLinks db (db.addScopeToRole code scope).1 ∧ ∀ n x,
      x ∈ (db.addScopeToRole code scope).1.scopesOf n ↔
        x ∈ db.scopesOf n ∨ (n = r.id ∧ x = scope ∧ db.Knows scope) := by
  unfold addScopeToRole onScope
  rw [hr]
  cases hscope : db.activeScope scope with
  | none =>
    have hnot := not_knows hscope
    exact ⟨OnlyLinks.refl db, fun n x => by simp [hnot]⟩
  | some s =>
    obtain ⟨hs, rfl, hactive⟩ := activeScope_some hscope
    have hknows : db.Knows s.code := ⟨s, hs, rfl, hactive⟩
    refine ⟨link_onlyLinks db r.id s.id, fun n x => ?_⟩
    rw [mem_scopesOf_link hs hactive]
    simp [hknows]

theorem removeScopeFromRole_spec {db : Db} {code : String} {r : RoleRow}
    (hr : db.activeRole code = some r) (scope : String) :
    OnlyLinks db (db.removeScopeFromRole code scope).1 ∧ ∀ n x,
      x ∈ (db.removeScopeFromRole code scope).1.scopesOf n ↔
        x ∈ db.scopesOf n ∧ ¬(n = r.id ∧ x = scope) := by
  unfold removeScopeFromRole onScope
  rw [hr]
  cases hscope : db.activeScope scope with
  | none =>
    have hnot := not_knows hscope
    refine ⟨OnlyLinks.refl db, fun n x => ⟨fun hx => ⟨hx, ?_⟩, fun hx => hx.1⟩⟩
    rintro ⟨_, rfl⟩
    exact hnot (knows_of_mem hx)
  | some s =>
    obtain ⟨hs, rfl, _⟩ := activeScope_some hscope
    exact ⟨⟨_, rfl⟩, fun n x => mem_scopesOf_unlink hs⟩

end Db

end SupplyPlatform.Iam
