import Mathlib.Logic.Function.Basic
import SupplyPlatform.Database
import SupplyPlatform.Lib.Runs

namespace SupplyPlatform.Iam

/-- The role types the services accept, and whatever other text a request holds. -/
inductive RoleType
  | platform
  | supply
  | consumer
  | other (name : String)
  deriving DecidableEq

def RoleType.accepted : RoleType → Bool
  | .other _ => false
  | _ => true

structure Role where
  code : String
  name : String
  type : RoleType
  level : Int
  description : String
  isActive : Bool
  version : Int
  createdAt : Time
  updatedAt : Time
  deriving DecidableEq

structure UserRole where
  userID : Int
  roleCode : String
  tenantID : Int
  isActive : Bool
  expiresAt : Option Time
  deriving DecidableEq

structure CreateRoleRequest where
  code : String
  name : String
  type : RoleType
  level : Int
  description : String
  scopes : List String
  parentCode : String

/-- An empty name or description, and scopes or an activity that are nil, ask for no change. -/
structure UpdateRoleRequest where
  code : String
  name : String
  description : String
  scopes : Option (List String)
  isActive : Option Bool

structure AssignRoleRequest where
  userID : Int
  roleCode : String
  tenantID : Int
  grantedBy : Int
  expiresAt : Option Time

inductive RepositoryError
  | roleNotFound
  | duplicateRoleCode
  | duplicateAssignment
  | scopeNotFound
  | userRoleNotFound
  | wrap (context : String) (cause : String)
  deriving DecidableEq

inductive ServiceError
  | roleNotFound
  | duplicateRoleCode
  | duplicateAssignment
  | invalidRequest
  | wrap (context : String) (cause : RepositoryError)
  deriving DecidableEq

def UserRole.unexpired (ur : UserRole) (now : Time) : Bool := ur.expiresAt.all (fun t => now < t)

/-- The assignments `GetUserScopes` takes scopes from. -/
def UserRole.live (ur : UserRole) (now : Time) : Bool := ur.isActive && ur.unexpired now

def UserRole.isOf (roleCode : String) (tenantID : Int) (ur : UserRole) : Bool :=
  ur.roleCode = roleCode && ur.tenantID = tenantID

theorem UserRole.isOf_iff {ur : UserRole} {roleCode : String} {tenantID : Int} :
    ur.isOf roleCode tenantID = true ↔ ur.roleCode = roleCode ∧ ur.tenantID = tenantID := by
  simp [UserRole.isOf]

/-- `DefaultIAMService`; a role without an entry in `roleScopeStore` is `none` there. -/
structure DefaultIAMService where
  roleStore : String → Option Role
  userRoleStore : Int → List UserRole
  roleScopeStore : String → Option (List String)

namespace DefaultIAMService

def new : DefaultIAMService := ⟨fun _ => none, fun _ => [], fun _ => none⟩

def newRole (req : CreateRoleRequest) (now : Time) : Role :=
  { code := req.code, name := req.name, type := req.type, level := req.level,
    description := req.description, isActive := true, version := 1, createdAt := now, updatedAt := now }

def createRole (s : DefaultIAMService) (now : Time) (req : CreateRoleRequest) :
    DefaultIAMService × Except ServiceError Role :=
  if (s.roleStore req.code).isSome then (s, .error .duplicateRoleCode)
  else if !req.type.accepted then (s, .error .invalidRequest)
  else
    ({ s with roleStore := Function.update s.roleStore req.code (some (newRole req now)),
              roleScopeStore := if req.scopes = [] then s.roleScopeStore
                else Function.update s.roleScopeStore req.code (some req.scopes) },
      .ok (newRole req now))

def updatedRole (role : Role) (now : Time) (req : UpdateRoleRequest) : Role :=
  { role with name := if req.name = "" then role.name else req.name,
              description := if req.description = "" then role.description else req.description,
              isActive := req.isActive.getD role.isActive,
              version := role.version + 1, updatedAt := now }

def updateRole (s : DefaultIAMService) (now : Time) (req : UpdateRoleRequest) :
    DefaultIAMService × Except ServiceError Role :=
  match s.roleStore req.code with
  | none => (s, .error .roleNotFound)
  | some role =>
    ({ s with roleStore := Function.update s.roleStore req.code (some (updatedRole role now req)),
              roleScopeStore := match req.scopes with
                | none => s.roleScopeStore
                | some scopes => Function.update s.roleScopeStore req.code (some scopes) },
      .ok (updatedRole role now req))

def deleteRole (s : DefaultIAMService) (now : Time) (roleCode : String) :
    DefaultIAMService × Except ServiceError Unit :=
  match s.roleStore roleCode with
  | none => (s, .error .roleNotFound)
  | some role =>
    ({ s with roleStore := Function.update s.roleStore roleCode
                (some { role with isActive := false, updatedAt := now }) }, .ok ())

/-- `s.userRoleStore[userID] = urs`. -/
def setUserRoles (s : DefaultIAMService) (userID : Int) (urs : List UserRole) : DefaultIAMService :=
  { s with userRoleStore := Function.update s.userRoleStore userID urs }

def newUserRole (req : AssignRoleRequest) : UserRole :=
  { userID := req.userID, roleCode := req.roleCode, tenantID := req.tenantID, isActive := true,
    expiresAt := req.expiresAt }

/-- The entry that makes `AssignRole` report a duplicate. -/
def blocks (req : AssignRoleRequest) (ur : UserRole) : Bool :=
  ur.isOf req.roleCode req.tenantID && ur.isActive

def assignRole (s : DefaultIAMService) (req : AssignRoleRequest) :
    DefaultIAMService × Except ServiceError UserRole :=
  if (s.roleStore req.roleCode).isNone then (s, .error .roleNotFound)
  else if (s.userRoleStore req.userID).any (blocks req) then (s, .error .duplicateAssignment)
  else
    (s.setUserRoles req.userID (s.userRoleStore req.userID ++ [newUserRole req]),
      .ok (newUserRole req))

/-- The loop of `RevokeRole`: the first entry of the role and the tenant, active or not, is set
inactive and the loop ends. -/
def revokeFirst (roleCode : String) (tenantID : Int) : List UserRole → Option (List UserRole)
  | [] => none
  | ur :: urs =>
    if ur.isOf roleCode tenantID then some ({ ur with isActive := false } :: urs)
    else (revokeFirst roleCode tenantID urs).map (ur :: ·)

def revokeRole (s : DefaultIAMService) (userID : Int) (roleCode : String) (tenantID : Int) :
    DefaultIAMService × Except ServiceError Unit :=
  match revokeFirst roleCode tenantID (s.userRoleStore userID) with
  | none => (s, .error .roleNotFound)
  | some urs => (s.setUserRoles userID urs, .ok ())

def getUserRoles (s : DefaultIAMService) (userID : Int) : List UserRole :=
  (s.userRoleStore userID).filter (fun ur => ur.isActive)

/-- The inner loop of `getUserScopesLocked`; what it has `seen` is what it has collected. -/
def collect (allScopes scopes : List String) : List String :=
  scopes.foldl (fun acc scope => if scope ∈ acc then acc else acc ++ [scope]) allScopes

def gather (s : DefaultIAMService) (now : Time) (allScopes : List String) (ur : UserRole) : List String :=
  if ur.live now then
    match s.roleScopeStore ur.roleCode with
    | some scopes => collect allScopes scopes
    | none => allScopes
  else allScopes

def getUserScopes (s : DefaultIAMService) (userID : Int) (now : Time) : List String :=
  (s.userRoleStore userID).foldl (s.gather now) []

def checkScope (s : DefaultIAMService) (userID : Int) (requiredScope : String) (now : Time) : Bool :=
  (s.getUserScopes userID now).any (fun scope => scope = requiredScope || scope = "*")

def scopesOf (s : DefaultIAMService) (roleCode : String) : List String :=
  (s.roleScopeStore roleCode).getD []

@[simp] theorem userRoleStore_setUserRoles (s : DefaultIAMService) (userID : Int)
    (urs : List UserRole) : (s.setUserRoles userID urs).userRoleStore userID = urs :=
  Function.update_self ..

theorem userRoleStore_setUserRoles_of_ne {s : DefaultIAMService} {userID n : Int} (h : n ≠ userID)
    (urs : List UserRole) : (s.setUserRoles userID urs).userRoleStore n = s.userRoleStore n :=
  Function.update_of_ne h _ _

/-- `AssignRole` refuses and changes nothing, or appends the new assignment. -/
theorem assignRole_cases (s : DefaultIAMService) (req : AssignRoleRequest) :
    ((s.roleStore req.roleCode).isNone = true ∧ s.assignRole req = (s, .error .roleNotFound)) ∨
    ((s.roleStore req.roleCode).isSome = true ∧ (∃ ur ∈ s.userRoleStore req.userID, blocks req ur = true) ∧
      s.assignRole req = (s, .error .duplicateAssignment)) ∨
    ((s.roleStore req.roleCode).isSome = true ∧ (∀ ur ∈ s.userRoleStore req.userID, blocks req ur = false) ∧
      s.assignRole req = (s.setUserRoles req.userID (s.userRoleStore req.userID ++ [newUserRole req]),
        .ok (newUserRole req))) := by
  unfold assignRole
  split
  next hnone => exact .inl ⟨hnone, rfl⟩
  next hsome =>
    have hrole : (s.roleStore req.roleCode).isSome = true := by
      rwa [Option.isNone_iff_eq_none, ← ne_eq, ← Option.isSome_iff_ne_none] at hsome
    split
    next hany => exact .inr (.inl ⟨hrole, List.any_eq_true.mp hany, rfl⟩)
    next hany =>
      rw [Bool.not_eq_true, List.any_eq_false] at hany
      exact .inr (.inr ⟨hrole, fun ur hur => by simpa using hany ur hur, rfl⟩)

theorem revokeRole_cases (s : DefaultIAMService) (userID : Int) (roleCode : String) (tenantID : Int) :
    (revokeFirst roleCode tenantID (s.userRoleStore userID) = none ∧
      s.revokeRole userID roleCode tenantID = (s, .error .roleNotFound)) ∨
    (∃ urs, revokeFirst roleCode tenantID (s.userRoleStore userID) = some urs ∧
      s.revokeRole userID roleCode tenantID = (s.setUserRoles userID urs, .ok ())) := by
  unfold revokeRole
  cases h : revokeFirst roleCode tenantID (s.userRoleStore userID) with
  | none => exact .inl ⟨rfl, rfl⟩
  | some urs => exact .inr ⟨urs, rfl, rfl⟩

theorem collect_spec (allScopes scopes : List String) (h : allScopes.Nodup) :
    (collect allScopes scopes).Nodup ∧
      ∀ x, x ∈ collect allScopes scopes ↔ x ∈ allScopes ∨ x ∈ scopes := by
  induction scopes generalizing allScopes with
  | nil => exact ⟨h, fun x => by simp [collect]⟩
  | cons scope scopes ih =>
    show (collect (if scope ∈ allScopes then allScopes else allScopes ++ [scope]) scopes).Nodup ∧ ∀ x,
      x ∈ collect (if scope ∈ allScopes then allScopes else allScopes ++ [scope]) scopes ↔ _
    split
    next hmem =>
      obtain ⟨hnd, hx⟩ := ih allScopes h
      refine ⟨hnd, fun x => ?_⟩
      rw [hx x, List.mem_cons]
      constructor
      · rintro (hin | hin)
        · exact .inl hin
        · exact .inr (.inr hin)
      · rintro (hin | rfl | hin)
        · exact .inl hin
        · exact .inl hmem
        · exact .inr hin
    next hmem =>
      have hnew : (allScopes ++ [scope]).Nodup := by
        rw [List.nodup_append]
        refine ⟨h, by simp, fun a ha b hb hab => ?_⟩
        rw [List.mem_singleton.mp hb] at hab
        exact hmem (hab ▸ ha)
      obtain ⟨hnd, hx⟩ := ih (allScopes ++ [scope]) hnew
      refine ⟨hnd, fun x => ?_⟩
      rw [hx x, List.mem_append, List.mem_singleton, List.mem_cons, or_assoc]

theorem gather_spec (s : DefaultIAMService) (now : Time) (allScopes : List String) (ur : UserRole)
    (h : allScopes.Nodup) : (s.gather now allScopes ur).Nodup ∧ ∀ x, x ∈ s.gather now allScopes ur ↔
      x ∈ allScopes ∨ (ur.live now = true ∧ x ∈ s.scopesOf ur.roleCode) := by
  unfold gather scopesOf
  split
  next hlive =>
    split
    next scopes hscopes =>
      obtain ⟨hnd, hmem⟩ := collect_spec allScopes scopes h
      exact ⟨hnd, fun x => by simp [hmem x, hscopes, hlive]⟩
    next hscopes => exact ⟨h, fun x => by simp [hscopes]⟩
  next hlive => exact ⟨h, fun x => by simp [hlive]⟩

/-- `GetUserScopes` returns no scope twice, and just those of the roles the live assignments name. -/
theorem getUserScopes_spec (s : DefaultIAMService) (userID : Int) (now : Time) :
    (s.getUserScopes userID now).Nodup ∧ ∀ x, x ∈ s.getUserScopes userID now ↔
      ∃ ur ∈ s.userRoleStore userID, ur.live now = true ∧ x ∈ s.scopesOf ur.roleCode := by
  -- over the fold: what has been collected so far is kept and the rest of the list adds its scopes
  have hfold : ∀ (urs : List UserRole) (acc : List String), acc.Nodup →
      (urs.foldl (s.gather now) acc).Nodup ∧ ∀ x, x ∈ urs.foldl (s.gather now) acc ↔
        x ∈ acc ∨ ∃ ur ∈ urs, ur.live now = true ∧ x ∈ s.scopesOf ur.roleCode := by
    intro urs
    induction urs with
    | nil => exact fun acc hacc => ⟨hacc, fun x => by simp⟩
    | cons ur urs ih =>
      intro acc hacc
      obtain ⟨hnd, hmem⟩ := s.gather_spec now acc ur hacc
      obtain ⟨hnd', hmem'⟩ := ih (s.gather now acc ur) hnd
      exact ⟨hnd', fun x => by rw [List.foldl_cons, hmem' x, hmem x]; simp [or_assoc]⟩
  simpa [getUserScopes] using hfold (s.userRoleStore userID) [] List.nodup_nil

theorem mem_getUserScopes {s : DefaultIAMService} {userID : Int} {now : Time} {x : String} :
    x ∈ s.getUserScopes userID now ↔
      ∃ ur ∈ s.userRoleStore userID, ur.live now = true ∧ x ∈ s.scopesOf ur.roleCode :=
  (s.getUserScopes_spec userID now).2 x

end DefaultIAMService

structure Memory where
  service : DefaultIAMService
  now : Time

def Memory.start (now : Time) : Memory := ⟨.new, now⟩

inductive Operation
  | tick (elapsed : Nat)
  | createRole (req : CreateRoleRequest)
  | updateRole (req : UpdateRoleRequest)
  | deleteRole (roleCode : String)
  | assignRole (req : AssignRoleRequest)
  | revokeRole (userID : Int) (roleCode : String) (tenantID : Int)

/-- Every call takes the lock for its whole length: one call, one step. -/
def Memory.step (m : Memory) : Operation → Option Memory
  | .tick elapsed => some { m with now := m.now + elapsed }
  | .createRole req => some { m with service := (m.service.createRole m.now req).1 }
  | .updateRole req => some { m with service := (m.service.updateRole m.now req).1 }
  | .deleteRole roleCode => some { m with service := (m.service.deleteRole m.now roleCode).1 }
  | .assignRole req => some { m with service := (m.service.assignRole req).1 }
  | .revokeRole userID roleCode tenantID =>
    some { m with service := (m.service.revokeRole userID roleCode tenantID).1 }

end SupplyPlatform.Iam
