import Mathlib.Data.List.Dedup
import SupplyPlatform.Iam

namespace SupplyPlatform.Iam

open Relational

/-- INET columns hold addresses. `read` is the text the driver gives for one when it scans into a
*string (`none`: it refuses), `parse` what PostgreSQL makes of a text it is given for such a column. -/
structure InetDriver where
  read : String → Option String
  parse : String → Option String
  parse_read : ∀ a t, read a = some t → parse t = some a
  parse_empty : parse "" = none

/-- A text PostgreSQL can store: it holds no NUL character. -/
def storableText (s : String) : Bool := !s.toList.contains (Char.ofNat 0)

/-- A value of a VARCHAR column. -/
def varchar (limit : Nat) (s : String) : Bool := storableText s && s.length ≤ limit

/-- The column takes the text: only blanks exceed the limit. -/
def takesVarchar (limit : Nat) (s : String) : Bool :=
  storableText s && (s.toList.drop limit).all (fun c => c = ' ')

/-- What the column stores of a text that it takes. -/
def varcharText (limit : Nat) (s : String) : String := String.ofList (s.toList.take limit)

theorem varcharText_eq_iff {limit : Nat} {s : String} : varcharText limit s = s ↔ s.length ≤ limit := by
  unfold varcharText
  constructor
  · intro h
    have hlength := congrArg String.length h
    rw [String.length_ofList, List.length_take, String.length_toList] at hlength
    omega
  · intro h
    rw [List.take_of_length_le (by rwa [String.length_toList]), String.ofList_toList]

example : takesVarchar 2 "ab  " = true ∧ varcharText 2 "ab  " = "ab" := by decide

/-- The largest INT of PostgreSQL. -/
def maxInt4 : Int := 2147483647

def codeChar (c : Char) : Bool := ('a' ≤ c && c ≤ 'z') || ('0' ≤ c && c ≤ '9') || c = '_'

/-- chk_role_code_format. -/
def roleCodeFormat (code : String) : Bool :=
  match code.toList with
  | [] => false
  | c :: cs => ('a' ≤ c && c ≤ 'z') && cs.length ≤ 31 && cs.all codeChar

theorem length_of_roleCodeFormat {code : String} (h : roleCodeFormat code = true) : code.length ≤ 32 := by
  unfold roleCodeFormat at h
  rw [← String.length_toList]
  split at h
  next => cases h
  next c cs hcode =>
    simp only [Bool.and_eq_true, decide_eq_true_eq] at h
    rw [hcode, List.length_cons]
    omega

structure RoleRow where
  id : Int
  code : String
  name : String
  type : RoleType
  parentRoleID : Option Int
  level : Int
  description : Option String
  isActive : Bool
  requestID : Option String
  createdIP : Option String
  updatedIP : Option String
  version : Int
  createdAt : Time
  updatedAt : Time
  code_format : roleCodeFormat code = true
  deriving DecidableEq

structure ScopeRow where
  id : Int
  code : String
  isActive : Bool
  deriving DecidableEq

structure RoleScopeRow where
  roleID : Int
  scopeID : Int
  deriving DecidableEq

structure UserRoleRow where
  userID : Int
  roleID : Int
  tenantID : Option Int
  isActive : Bool
  grantedBy : Option Int
  expiresAt : Option Time
  deriving DecidableEq

def RolesApart (a b : RoleRow) : Prop := a.id ≠ b.id ∧ a.code ≠ b.code

def ScopesApart (a b : ScopeRow) : Prop := a.id ≠ b.id ∧ a.code ≠ b.code

/-- UNIQUE (role_id, scope_id). -/
def LinksApart (a b : RoleScopeRow) : Prop := ¬(a.roleID = b.roleID ∧ a.scopeID = b.scopeID)

/-- UNIQUE (user_id, role_id, tenant_id); rows with a NULL tenant never collide. -/
def GrantsApart (a b : UserRoleRow) : Prop :=
  ¬(a.userID = b.userID ∧ a.roleID = b.roleID ∧ a.tenantID = b.tenantID ∧ a.tenantID ≠ none)

instance : DecidableRel RolesApart := fun _ _ => inferInstanceAs (Decidable (_ ∧ _))
instance : DecidableRel ScopesApart := fun _ _ => inferInstanceAs (Decidable (_ ∧ _))
instance : DecidableRel LinksApart := fun _ _ => inferInstanceAs (Decidable (¬_))
instance : DecidableRel GrantsApart := fun _ _ => inferInstanceAs (Decidable (¬_))

instance : Std.Symm RolesApart := ⟨fun _ _ h => ⟨h.1.symm, h.2.symm⟩⟩
instance : Std.Symm ScopesApart := ⟨fun _ _ h => ⟨h.1.symm, h.2.symm⟩⟩

/-- The IAM tables, with the ids of iam_users and core_tenants that foreign keys refer to. -/
structure Db where
  roles : Table RoleRow RolesApart
  scopes : Table ScopeRow ScopesApart
  roleScopes : Table RoleScopeRow LinksApart
  userRoles : Table UserRoleRow GrantsApart
  users : List Int
  tenants : List Int
  nextRoleID : Int

/-- `model.Role`, as the repository hands it to the service. -/
structure ModelRole where
  id : Int
  code : String
  name : String
  type : RoleType
  parentRoleID : Option Int
  level : Int
  description : String
  isActive : Bool
  requestID : String
  createdIP : String
  updatedIP : String
  version : Int
  createdAt : Time
  updatedAt : Time
  deriving DecidableEq

/-- `model.UserRoleMapping`, the fields `AssignRole` reads. -/
structure UserRoleMapping where
  userID : Int
  roleID : Int
  tenantID : Int
  grantedBy : Int
  expiresAt : Option Time

/-- What the checks of iam_roles ask of a row, apart from its keys. -/
def acceptsRole (role : ModelRole) : Bool :=
  roleCodeFormat (varcharText 32 role.code) && takesVarchar 32 role.code && takesVarchar 128 role.name &&
    role.type.accepted && (0 ≤ role.level) && (role.level ≤ maxInt4) && storableText role.description &&
    takesVarchar 64 role.requestID && (-maxInt4 ≤ role.version + 1) && (role.version ≤ maxInt4)

theorem roleCodeFormat_of_accepts {role : ModelRole} (h : acceptsRole role = true) :
    roleCodeFormat (varcharText 32 role.code) = true := by
  simp only [acceptsRole, Bool.and_eq_true] at h
  exact h.1.1.1.1.1.1.1.1.1

namespace Db

section

variable (driver : InetDriver)

/-- A nullable INET argument: the empty text is sent as NULL. -/
def inetArgument (text : String) : Except String (Option String) :=
  if text = "" then .ok none
  else match driver.parse text with
    | some a => .ok (some a)
    | none => .error "invalid input syntax for type inet"

def parentExists (db : Db) (parent : Option Int) : Bool :=
  parent.all (fun id => db.roles.rows.any (fun r => r.id = id))

def createRole (db : Db) (role : ModelRole) : Db × Except RepositoryError Unit :=
  match inetArgument driver role.createdIP, inetArgument driver role.updatedIP with
  | .error e, _ => (db, .error (.wrap "failed to create role" e))
  | _, .error e => (db, .error (.wrap "failed to create role" e))
  | .ok createdIP, .ok updatedIP =>
    if haccepts : acceptsRole role = true then
      match db.roles.insert { id := db.nextRoleID, code := varcharText 32 role.code,
                              name := varcharText 128 role.name, type := role.type,
                              parentRoleID := role.parentRoleID, level := role.level,
                              description := some role.description, isActive := role.isActive,
                              requestID := some (varcharText 64 role.requestID),
                              createdIP := createdIP, updatedIP := updatedIP,
                              version := role.version, createdAt := role.createdAt,
                              updatedAt := role.updatedAt,
                              code_format := roleCodeFormat_of_accepts haccepts } with
      | none => (db, .error .duplicateRoleCode)
      | some roles =>
        if db.parentExists role.parentRoleID then
          ({ db with roles := roles, nextRoleID := db.nextRoleID + 1 }, .ok ())
        else (db, .error (.wrap "failed to create role" "insert violates foreign key constraint"))
    else (db, .error (.wrap "failed to create role" "new row violates check constraint"))

def activeRole (db : Db) (code : String) : Option RoleRow :=
  db.roles.rows.find? (fun r => r.code = code && r.isActive)

def activeScope (db : Db) (code : String) : Option ScopeRow :=
  db.scopes.rows.find? (fun s => s.code = code && s.isActive)

/-- A nullable INET column scanned into a *string and then into a string. -/
def scanInet : Option String → Except String String
  | none => .ok ""
  | some a => match driver.read a with
    | some t => .ok t
    | none => .error "cannot scan inet into *string"

/-- description and request_id are nullable columns scanned into strings. -/
def scanText : Option String → Except String String
  | some t => .ok t
  | none => .error "cannot scan NULL into *string"

def decodeRole (r : RoleRow) : Except String ModelRole := do
  let description ← scanText r.description
  let requestID ← scanText r.requestID
  let createdIP ← scanInet driver r.createdIP
  let updatedIP ← scanInet driver r.updatedIP
  return { id := r.id, code := r.code, name := r.name, type := r.type, parentRoleID := r.parentRoleID,
           level := r.level, description, isActive := r.isActive, requestID, createdIP, updatedIP,
           version := r.version, createdAt := r.createdAt, updatedAt := r.updatedAt }

def getRoleByCode (db : Db) (code : String) : Except RepositoryError ModelRole :=
  match db.activeRole code with
  | none => .error .roleNotFound
  | some r => match decodeRole driver r with
    | .error e => .error (.wrap "failed to get role" e)
    | .ok role => .ok role

def updates (role : ModelRole) (r : RoleRow) : Bool := r.code = role.code && r.isActive

def updatedRow (role : ModelRole) (updatedIP : String) (now : Time) (r : RoleRow) : RoleRow :=
  { r with name := varcharText 128 role.name, description := some role.description,
           isActive := role.isActive, updatedIP := some updatedIP, version := r.version + 1,
           updatedAt := now }

/-- `UpdateRole`: updated_ip is given the text as it is, and the empty text is no address. -/
def updateRole (db : Db) (role : ModelRole) (now : Time) : Db × Except RepositoryError Unit :=
  match driver.parse role.updatedIP with
  | none => (db, .error (.wrap "failed to update role" "invalid input syntax for type inet"))
  | some updatedIP =>
    if !takesVarchar 128 role.name || !storableText role.description then
      (db, .error (.wrap "failed to update role" "value not valid for its column"))
    else if db.roles.rows.any (fun r => updates role r && maxInt4 ≤ r.version) then
      (db, .error (.wrap "failed to update role" "integer out of range"))
    else if db.roles.rows.any (updates role) then
      ({ db with roles := db.roles.updateWhere (updates role) (updatedRow role updatedIP now)
                  (fun _ _ h => ⟨h, h, h⟩) }, .ok ())
    else (db, .error .roleNotFound)

end

/-- `DeleteRole`: a soft delete, of inactive roles too. -/
def deleteRole (db : Db) (code : String) (now : Time) : Db × Except RepositoryError Unit :=
  if db.roles.rows.any (fun r => r.code = code) then
    ({ db with roles := db.roles.updateWhere (fun r => r.code = code)
                (fun r => { r with isActive := false, updatedAt := now }) (fun _ _ h => ⟨h, h, h⟩) },
      .ok ())
  else (db, .error .roleNotFound)

/-- INSERT .. ON CONFLICT DO NOTHING. -/
def link (db : Db) (roleID scopeID : Int) : Db :=
  match db.roleScopes.insert ⟨roleID, scopeID⟩ with
  | some roleScopes => { db with roleScopes := roleScopes }
  | none => db

def unlink (db : Db) (roleID scopeID : Int) : Db :=
  { db with roleScopes := db.roleScopes.delete (fun l => l.roleID = roleID && l.scopeID = scopeID) }

/-- `AddScopeToRole` and `RemoveScopeFromRole`: both find the role and the scope first. -/
def onScope (db : Db) (roleCode scopeCode : String) (change : Int → Int → Db) :
    Db × Except RepositoryError Unit :=
  match db.activeRole roleCode with
  | none => (db, .error .roleNotFound)
  | some r => match db.activeScope scopeCode with
    | none => (db, .error .scopeNotFound)
    | some s => (change r.id s.id, .ok ())

def addScopeToRole (db : Db) (roleCode scopeCode : String) : Db × Except RepositoryError Unit :=
  db.onScope roleCode scopeCode db.link

def removeScopeFromRole (db : Db) (roleCode scopeCode : String) : Db × Except RepositoryError Unit :=
  db.onScope roleCode scopeCode db.unlink

def scopesOf (db : Db) (roleID : Int) : List String :=
  (db.roleScopes.rows.filter (fun l => l.roleID = roleID)).flatMap (fun l =>
    (db.scopes.rows.filter (fun s => s.id = l.scopeID && s.isActive)).map (fun s => s.code))

def getScopesByRoleCode (db : Db) (roleCode : String) : List String :=
  (db.roles.rows.filter (fun r => r.code = roleCode && r.isActive)).flatMap (fun r => db.scopesOf r.id)

def grantOf (userID roleID tenantID : Int) (ur : UserRoleRow) : Bool :=
  ur.userID = userID && ur.roleID = roleID && ur.tenantID = some tenantID

def references (db : Db) (userRole : UserRoleMapping) : Bool :=
  db.users.contains userRole.userID && db.tenants.contains userRole.tenantID &&
    db.users.contains userRole.grantedBy

def assignRole (db : Db) (userRole : UserRoleMapping) : Db × Except RepositoryError Unit :=
  if db.userRoles.rows.any (fun ur =>
      grantOf userRole.userID userRole.roleID userRole.tenantID ur && ur.isActive) then
    (db, .error .duplicateAssignment)
  else
    -- unique indexes are checked as the row goes in, foreign keys at the end of the statement
    match db.userRoles.insert { userID := userRole.userID, roleID := userRole.roleID,
                                tenantID := some userRole.tenantID, isActive := true,
                                grantedBy := some userRole.grantedBy,
                                expiresAt := userRole.expiresAt } with
    | none => (db, .error .duplicateAssignment)
    | some userRoles =>
      if db.references userRole then ({ db with userRoles := userRoles }, .ok ())
      else (db, .error (.wrap "failed to assign role" "insert violates foreign key constraint"))

def revokes (userID roleID tenantID : Int) (ur : UserRoleRow) : Bool :=
  grantOf userID roleID tenantID ur && ur.isActive

def revokeRole (db : Db) (userID : Int) (roleCode : String) (tenantID : Int) :
    Db × Except RepositoryError Unit :=
  match db.activeRole roleCode with
  | none => (db, .error .roleNotFound)
  | some r =>
    if db.userRoles.rows.any (revokes userID r.id tenantID) then
      ({ db with userRoles := db.userRoles.updateWhere (revokes userID r.id tenantID)
                  (fun ur => { ur with isActive := false }) (fun _ _ h => ⟨h, h, h⟩) }, .ok ())
    else (db, .error .userRoleNotFound)

def UserRoleRow.live (ur : UserRoleRow) (now : Time) : Bool :=
  ur.isActive && ur.expiresAt.all (fun t => now < t)

/-- `GetUserScopes`: SELECT DISTINCT over the join of the four tables. -/
def getUserScopes (db : Db) (userID : Int) (now : Time) : List String :=
  ((db.userRoles.rows.filter (fun ur => ur.userID = userID && UserRoleRow.live ur now)).flatMap (fun ur =>
    (db.roles.rows.filter (fun r => r.id = ur.roleID && r.isActive)).flatMap (fun r =>
      db.scopesOf r.id))).dedup

theorem role_eq_of_code {db : Db} {a b : RoleRow} (ha : a ∈ db.roles.rows) (hb : b ∈ db.roles.rows)
    (h : a.code = b.code) : a = b :=
  Table.eq_of_not_apart ha hb (fun hap => hap.2 h)

theorem role_eq_of_id {db : Db} {a b : RoleRow} (ha : a ∈ db.roles.rows) (hb : b ∈ db.roles.rows)
    (h : a.id = b.id) : a = b :=
  Table.eq_of_not_apart ha hb (fun hap => hap.1 h)

theorem activeRole_eq {db : Db} {r : RoleRow} (hr : r ∈ db.roles.rows) (hactive : r.isActive = true) :
    db.activeRole r.code = some r := by
  refine find?_eq_of_unique hr (by simp [hactive]) (fun q hq hp => ?_)
  simp only [Bool.and_eq_true, decide_eq_true_eq] at hp
  exact role_eq_of_code hq hr hp.1

theorem activeRole_some {db : Db} {code : String} {r : RoleRow} (h : db.activeRole code = some r) :
    r ∈ db.roles.rows ∧ r.code = code ∧ r.isActive = true := by
  have hp := List.find?_some h
  simp only [Bool.and_eq_true, decide_eq_true_eq] at hp
  exact ⟨List.mem_of_find?_eq_some h, hp⟩

theorem decodeRole_ok {driver : InetDriver} {r : RoleRow} {role : ModelRole}
    (h : decodeRole driver r = .ok role) :
    ∃ description requestID createdIP updatedIP, scanText r.description = .ok description ∧
      scanText r.requestID = .ok requestID ∧ scanInet driver r.createdIP = .ok createdIP ∧
      scanInet driver r.updatedIP = .ok updatedIP ∧
      role = { id := r.id, code := r.code, name := r.name, type := r.type,
               parentRoleID := r.parentRoleID, level := r.level, description, isActive := r.isActive,
               requestID, createdIP, updatedIP, version := r.version, createdAt := r.createdAt,
               updatedAt := r.updatedAt } := by
  unfold decodeRole at h
  cases hd : scanText r.description with
  | error e => rw [hd] at h; simp [bind, Except.bind] at h
  | ok description =>
    cases hq : scanText r.requestID with
    | error e => rw [hd, hq] at h; simp [bind, Except.bind] at h
    | ok requestID =>
      cases hc : scanInet driver r.createdIP with
      | error e => rw [hd, hq, hc] at h; simp [bind, Except.bind] at h
      | ok createdIP =>
        cases hu : scanInet driver r.updatedIP with
        | error e => rw [hd, hq, hc, hu] at h; simp [bind, Except.bind] at h
        | ok updatedIP =>
          rw [hd, hq, hc, hu] at h
          exact ⟨description, requestID, createdIP, updatedIP, rfl, rfl, rfl, rfl, (Except.ok.inj h).symm⟩

theorem scope_eq_of_code {db : Db} {a b : ScopeRow} (ha : a ∈ db.scopes.rows) (hb : b ∈ db.scopes.rows)
    (h : a.code = b.code) : a = b :=
  Table.eq_of_not_apart ha hb (fun hap => hap.2 h)

theorem scope_eq_of_id {db : Db} {a b : ScopeRow} (ha : a ∈ db.scopes.rows) (hb : b ∈ db.scopes.rows)
    (h : a.id = b.id) : a = b :=
  Table.eq_of_not_apart ha hb (fun hap => hap.1 h)

theorem activeScope_some {db : Db} {code : String} {s : ScopeRow} (h : db.activeScope code = some s) :
    s ∈ db.scopes.rows ∧ s.code = code ∧ s.isActive = true := by
  have hp := List.find?_some h
  simp only [Bool.and_eq_true, decide_eq_true_eq] at hp
  exact ⟨List.mem_of_find?_eq_some h, hp⟩

theorem activeScope_eq {db : Db} {s : ScopeRow} (hs : s ∈ db.scopes.rows) (hactive : s.isActive = true) :
    db.activeScope s.code = some s := by
  refine find?_eq_of_unique hs (by simp [hactive]) (fun q hq hp => ?_)
  simp only [Bool.and_eq_true, decide_eq_true_eq] at hp
  exact scope_eq_of_code hq hs hp.1

@[simp] theorem link_scopes (db : Db) (roleID scopeID : Int) :
    (db.link roleID scopeID).scopes = db.scopes := by
  unfold link
  split <;> rfl

theorem mem_link {db : Db} {roleID scopeID : Int} {l : RoleScopeRow} :
    l ∈ (db.link roleID scopeID).roleScopes.rows ↔
      l ∈ db.roleScopes.rows ∨ l = ⟨roleID, scopeID⟩ := by
  unfold link
  split
  next roleScopes hinsert => exact Table.mem_of_insert hinsert
  next hinsert =>
    -- a conflict means that the link is there already
    refine ⟨.inl, ?_⟩
    rintro (hl | rfl)
    · exact hl
    · by_contra hnot
      unfold Table.insert at hinsert
      rw [dif_pos] at hinsert
      · simp at hinsert
      · rintro ⟨r, n⟩ hq ⟨hr, hn⟩
        cases hr
        cases hn
        exact hnot hq

theorem mem_unlink {db : Db} {roleID scopeID : Int} {l : RoleScopeRow} :
    l ∈ (db.unlink roleID scopeID).roleScopes.rows ↔
      l ∈ db.roleScopes.rows ∧ l ≠ ⟨roleID, scopeID⟩ := by
  unfold unlink
  rw [Table.mem_delete]
  refine and_congr_right (fun _ => ?_)
  obtain ⟨r, n⟩ := l
  rw [Bool.eq_false_iff]
  simp

theorem mem_scopesOf {db : Db} {roleID : Int} {x : String} :
    x ∈ db.scopesOf roleID ↔
      ∃ s ∈ db.scopes.rows, s.isActive = true ∧ s.code = x ∧ ⟨roleID, s.id⟩ ∈ db.roleScopes.rows := by
  unfold scopesOf
  rw [List.mem_flatMap]
  constructor
  · rintro ⟨⟨r, n⟩, hl, hx⟩
    obtain ⟨hmem, hrole⟩ := List.mem_filter.mp hl
    obtain ⟨s, hs, rfl⟩ := List.mem_map.mp hx
    obtain ⟨hsmem, hscope⟩ := List.mem_filter.mp hs
    simp only [Bool.and_eq_true, decide_eq_true_eq] at hrole hscope
    obtain ⟨rfl, hactive⟩ := hscope
    subst hrole
    exact ⟨s, hsmem, hactive, rfl, hmem⟩
  · rintro ⟨s, hs, hactive, rfl, hl⟩
    refine ⟨_, List.mem_filter.mpr ⟨hl, by simp⟩, ?_⟩
    exact List.mem_map.mpr ⟨s, List.mem_filter.mpr ⟨hs, by simp [hactive]⟩, rfl⟩

theorem mem_scopesOf_link {db : Db} {s : ScopeRow} (hs : s ∈ db.scopes.rows) (hactive : s.isActive = true)
    {roleID n : Int} {x : String} :
    x ∈ (db.link roleID s.id).scopesOf n ↔ x ∈ db.scopesOf n ∨ (n = roleID ∧ x = s.code) := by
  rw [mem_scopesOf, mem_scopesOf, link_scopes]
  constructor
  · rintro ⟨q, hq, hqa, rfl, hl⟩
    rcases mem_link.mp hl with hl | hl
    · exact .inl ⟨q, hq, hqa, rfl, hl⟩
    · obtain ⟨hrole, hid⟩ := RoleScopeRow.mk.inj hl
      rw [scope_eq_of_id hq hs hid]
      exact .inr ⟨hrole, rfl⟩
  · rintro (⟨q, hq, hqa, rfl, hl⟩ | ⟨rfl, rfl⟩)
    · exact ⟨q, hq, hqa, rfl, mem_link.mpr (.inl hl)⟩
    · exact ⟨s, hs, hactive, rfl, mem_link.mpr (.inr rfl)⟩

theorem mem_scopesOf_unlink {db : Db} {s : ScopeRow} (hs : s ∈ db.scopes.rows) {roleID n : Int}
    {x : String} :
    x ∈ (db.unlink roleID s.id).scopesOf n ↔ x ∈ db.scopesOf n ∧ ¬(n = roleID ∧ x = s.code) := by
  rw [mem_scopesOf, mem_scopesOf]
  constructor
  · rintro ⟨q, hq, hqa, rfl, hl⟩
    obtain ⟨hl, hne⟩ := mem_unlink.mp hl
    refine ⟨⟨q, hq, hqa, rfl, hl⟩, ?_⟩
    rintro ⟨rfl, hcode⟩
    rw [scope_eq_of_code hq hs hcode] at hne
    exact hne rfl
  · rintro ⟨⟨q, hq, hqa, rfl, hl⟩, hne⟩
    refine ⟨q, hq, hqa, rfl, mem_unlink.mpr ⟨hl, ?_⟩⟩
    intro heq
    obtain ⟨hrole, hid⟩ := RoleScopeRow.mk.inj heq
    exact hne ⟨hrole, by rw [scope_eq_of_id hq hs hid]⟩

theorem mem_getUserScopes {db : Db} {userID : Int} {now : Time} {x : String} :
    x ∈ db.getUserScopes userID now ↔
      ∃ ur ∈ db.userRoles.rows, ur.userID = userID ∧ UserRoleRow.live ur now = true ∧
        ∃ r ∈ db.roles.rows, r.id = ur.roleID ∧ r.isActive = true ∧ x ∈ db.scopesOf r.id := by
  unfold getUserScopes
  rw [List.mem_dedup, List.mem_flatMap]
  constructor
  · rintro ⟨ur, hur, hx⟩
    obtain ⟨hmem, hlive⟩ := List.mem_filter.mp hur
    obtain ⟨r, hr, hx⟩ := List.mem_flatMap.mp hx
    obtain ⟨hrmem, hrole⟩ := List.mem_filter.mp hr
    simp only [Bool.and_eq_true, decide_eq_true_eq] at hlive hrole
    exact ⟨ur, hmem, hlive.1, hlive.2, r, hrmem, hrole.1, hrole.2, hx⟩
  · rintro ⟨ur, hmem, huser, hlive, r, hrmem, hid, hactive, hx⟩
    refine ⟨ur, List.mem_filter.mpr ⟨hmem, by simp [huser, hlive]⟩, ?_⟩
    exact List.mem_flatMap.mpr ⟨r, List.mem_filter.mpr ⟨hrmem, by simp [hid, hactive]⟩, hx⟩

end Db

end SupplyPlatform.Iam
