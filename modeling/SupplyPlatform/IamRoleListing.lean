import SupplyPlatform.IamAssignment
import SupplyPlatform.Lib.Columns
import SupplyPlatform.Lib.Related

namespace SupplyPlatform.Iam

open Relational

/-- TIMESTAMPTZ; a time of Go is never infinite. -/
inductive Timestamptz
  | finite (t : Time)
  | infinity
  | negInfinity
  deriving DecidableEq

def RoleType.text : RoleType → String
  | .platform => "platform"
  | .supply => "supply"
  | .consumer => "consumer"
  | .other name => name

def RoleType.ofText (s : String) : RoleType :=
  if s = "platform" then .platform
  else if s = "supply" then .supply
  else if s = "consumer" then .consumer
  else .other s

/-- A row of `iam_roles` as the schema admits it. -/
structure StoredRole where
  id : Int
  code : String
  name : String
  type : RoleType
  parentRoleID : Option Int
  level : Int
  description : Option String
  isActive : Bool
  requestID : Option String
  createdIP : Option String
  updatedIP : Option String
  version : Int
  createdAt : Timestamptz
  updatedAt : Timestamptz
  code_format : roleCodeFormat code = true
  name_fits : varchar 128 name = true
  type_accepted : type.accepted = true
  level_range : 0 ≤ level ∧ level ≤ maxInt4
  description_fits : description.all storableText = true
  requestID_fits : requestID.all (varchar 64) = true
  version_range : -maxInt4 ≤ version + 1 ∧ version ≤ maxInt4

def StoredRole.Apart (a b : StoredRole) : Prop := a.id ≠ b.id ∧ a.code ≠ b.code

instance : Std.Symm StoredRole.Apart := ⟨fun _ _ h => ⟨h.1.symm, h.2.symm⟩⟩

abbrev RoleTable := Table StoredRole StoredRole.Apart

inductive RoleColumn
  | id | code | name | type | parentRoleID | level | description | isActive
  | requestID | createdIP | updatedIP | version | createdAt | updatedAt
  deriving DecidableEq

inductive RoleValue
  | null
  | integer (n : Int)
  | text (s : String)
  | boolean (b : Bool)
  | inet (address : String)
  | timestamptz (t : Timestamptz)
  deriving DecidableEq

def RoleValue.orNull {α : Type} (value : α → RoleValue) : Option α → RoleValue
  | none => .null
  | some x => value x

def StoredRole.value (r : StoredRole) : RoleColumn → RoleValue
  | .id => .integer r.id
  | .code => .text r.code
  | .name => .text r.name
  | .type => .text r.type.text
  | .parentRoleID => .orNull .integer r.parentRoleID
  | .level => .integer r.level
  | .description => .orNull .text r.description
  | .isActive => .boolean r.isActive
  | .requestID => .orNull .text r.requestID
  | .createdIP => .orNull .inet r.createdIP
  | .updatedIP => .orNull .inet r.updatedIP
  | .version => .integer r.version
  | .createdAt => .timestamptz r.createdAt
  | .updatedAt => .timestamptz r.updatedAt

/-- The variables that a row is scanned into. -/
structure ScannedRole where
  role : ModelRole
  parentID : Option Int
  createdIP : Option String
  updatedIP : Option String

def ScannedRole.zero : ScannedRole :=
  { role :=
      { id := 0, code := "", name := "", type := .other "", parentRoleID := none, level := 0
        description := "", isActive := false, requestID := "", createdIP := "", updatedIP := ""
        version := 0, createdAt := 0, updatedAt := 0 }
    parentID := none, createdIP := none, updatedIP := none }

namespace RoleValue

def toInt : RoleValue → Except String Int
  | .integer n => .ok n
  | .null => .error "cannot scan NULL into *int"
  | _ => .error "cannot scan"

/-- A string has no NULL. -/
def toText : RoleValue → Except String String
  | .text s => .ok s
  | .null => .error "cannot scan NULL into *string"
  | _ => .error "cannot scan"

def toBool : RoleValue → Except String Bool
  | .boolean b => .ok b
  | .null => .error "cannot scan NULL into *bool"
  | _ => .error "cannot scan"

def toTime : RoleValue → Except String Time
  | .timestamptz (.finite t) => .ok t
  | .timestamptz _ => .error "cannot scan infinity into *time.Time"
  | _ => .error "cannot scan"

/-- A pointer, which NULL leaves nil. -/
def toIntPointer : RoleValue → Except String (Option Int)
  | .null => .ok none
  | .integer n => .ok (some n)
  | _ => .error "cannot scan"

def toInetPointer (driver : InetDriver) : RoleValue → Except String (Option String)
  | .null => .ok none
  | .inet a =>
    match driver.read a with
    | some t => .ok (some t)
    | none => .error "cannot scan inet into *string"
  | _ => .error "cannot scan"

end RoleValue

open RoleColumn in
/-- The SELECT list of `GetRoleByCode`. -/
def getRoleByCodeColumns : List RoleColumn :=
  [id, code, name, type, parentRoleID, level, description, isActive,
    requestID, createdIP, updatedIP, version, createdAt, updatedAt]

open RoleColumn in
/-- The SELECT list of `ListRoles`, with a type and without. -/
def listRolesColumns : List RoleColumn :=
  [id, code, name, type, parentRoleID, level, description, isActive,
    requestID, createdIP, updatedIP, version, createdAt, updatedAt]

section

variable (driver : InetDriver)

open Columns RoleValue in
/-- The targets that `GetRoleByCode` and `ListRoles` both scan a row into. -/
def roleTargets : List (RoleValue → ScannedRole → Except String ScannedRole) :=
  [target toInt (fun s n => { s with role.id := n }), target toText (fun s x => { s with role.code := x }),
    target toText (fun s x => { s with role.name := x }),
    target toText (fun s x => { s with role.type := .ofText x }),
    target toIntPointer (fun s n => { s with parentID := n }),
    target toInt (fun s n => { s with role.level := n }),
    target toText (fun s x => { s with role.description := x }),
    target toBool (fun s b => { s with role.isActive := b }),
    target toText (fun s x => { s with role.requestID := x }),
    target (toInetPointer driver) (fun s x => { s with createdIP := x }),
    target (toInetPointer driver) (fun s x => { s with updatedIP := x }),
    target toInt (fun s n => { s with role.version := n }),
    target toTime (fun s t => { s with role.createdAt := t }),
    target toTime (fun s t => { s with role.updatedAt := t })]

def ScannedRole.filled (s : ScannedRole) : ModelRole :=
  { s.role with
    parentRoleID := s.parentID
    createdIP := s.createdIP.getD s.role.createdIP
    updatedIP := s.updatedIP.getD s.role.updatedIP }

def scanRole (values : List RoleValue) : Except String ModelRole :=
  (Columns.scan "number of field descriptions must equal number of destinations" (roleTargets driver) values
    ScannedRole.zero).map ScannedRole.filled

namespace RoleTable

/-- `PostgresIAMRepository.GetRoleByCode`. -/
def getRoleByCode (t : RoleTable) (code : String) : Except RepositoryError ModelRole :=
  if storableText code then
    match t.rows.find? (fun r => r.code = code && r.isActive) with
    | none => .error .roleNotFound
    | some r =>
      match scanRole driver (getRoleByCodeColumns.map r.value) with
      | .error err => .error (.wrap "failed to get role" err)
      | .ok role => .ok role
  else .error (.wrap "failed to get role" "invalid byte sequence for encoding \"UTF8\": 0x00")

/-- The rows of the two queries of `ListRoles`. A type with a NUL character is refused, but as `rows.Err`,
which is not asked for, so that it is a type no row has. -/
def selectRoles (t : RoleTable) (roleType : String) : List StoredRole :=
  if roleType ≠ "" then t.rows.filter (fun r => r.type.text = roleType && r.isActive)
  else t.rows.filter (fun r => r.isActive)

/-- `PostgresIAMRepository.ListRoles`: a row that is not scanned ends the loop. -/
def listRoles (t : RoleTable) (roleType : String) : Except RepositoryError (List ModelRole) :=
  match (selectRoles t roleType).mapM (fun r => scanRole driver (listRolesColumns.map r.value)) with
  | .error err => .error (.wrap "failed to scan role" err)
  | .ok roles => .ok roles

end RoleTable

/-- A role has the column values of the row; the text of a NULL is empty. -/
structure StoredRole.ShownAs (r : StoredRole) (role : ModelRole) : Prop where
  id : role.id = r.id
  code : role.code = r.code
  name : role.name = r.name
  type : role.type = r.type
  parentRoleID : role.parentRoleID = r.parentRoleID
  level : role.level = r.level
  description : role.description = r.description.getD ""
  isActive : role.isActive = r.isActive
  requestID : role.requestID = r.requestID.getD ""
  createdIP : Db.inetArgument driver role.createdIP = .ok r.createdIP
  updatedIP : Db.inetArgument driver role.updatedIP = .ok r.updatedIP
  version : role.version = r.version
  createdAt : r.createdAt = .finite role.createdAt
  updatedAt : r.updatedAt = .finite role.updatedAt

/-- The active rows of a type, of all types for the empty one. -/
def RoleTable.asked (t : RoleTable) (roleType : String) : List StoredRole :=
  t.rows.filter (fun r => r.isActive && (roleType = "" || r.type.text = roleType))

/-- `ListRoles` returns every active row of the type. -/
def RoleTable.ListsRoles (t : RoleTable) (roleType : String) : Prop :=
  ∃ roles, t.listRoles driver roleType = .ok roles ∧
    List.Forall₂ (StoredRole.ShownAs driver) (t.asked roleType) roles

/-- `GetRoleByCode` returns the active row of the code, or that there is none. -/
def RoleTable.FindsRole (t : RoleTable) (code : String) : Prop :=
  (∀ r ∈ t.rows, r.code = code → r.isActive = true →
    ∃ role, t.getRoleByCode driver code = .ok role ∧ r.ShownAs driver role) ∧
  ((∀ r ∈ t.rows, r.code = code → r.isActive = false) → t.getRoleByCode driver code = .error .roleNotFound)

/-- A row with no NULL where the code has a string, whose addresses the driver gives as texts and whose
times are not infinite. -/
structure StoredRole.Readable (r : StoredRole) : Prop where
  description : r.description ≠ none
  requestID : r.requestID ≠ none
  createdIP : ∀ a, r.createdIP = some a → driver.read a ≠ none
  updatedIP : ∀ a, r.updatedIP = some a → driver.read a ≠ none
  createdAt : ∃ t, r.createdAt = .finite t
  updatedAt : ∃ t, r.updatedAt = .finite t

end

variable {driver : InetDriver} {t : RoleTable} {r : StoredRole} {role : ModelRole}

theorem getRoleByCodeColumns_eq : getRoleByCodeColumns = listRolesColumns := rfl

theorem RoleType.ofText_text {type : RoleType} (h : type.accepted = true) : RoleType.ofText type.text = type := by
  cases type with
  | other name => cases h
  | _ => rfl

def StoredRole.rowAt (r : StoredRole) (createdAt updatedAt : Time) : RoleRow :=
  { id := r.id, code := r.code, name := r.name, type := r.type, parentRoleID := r.parentRoleID
    level := r.level, description := r.description, isActive := r.isActive, requestID := r.requestID
    createdIP := r.createdIP, updatedIP := r.updatedIP, version := r.version, createdAt := createdAt
    updatedAt := updatedAt, code_format := r.code_format }

/-- The row as the other statements of the repository see it, which have no infinite times. -/
def StoredRole.row (r : StoredRole) : Option RoleRow :=
  match r.createdAt, r.updatedAt with
  | .finite createdAt, .finite updatedAt => some (r.rowAt createdAt updatedAt)
  | _, _ => none

theorem scanText_eq (column : Option String) :
    Db.scanText column = RoleValue.toText (.orNull .text column) := by
  cases column <;> rfl

theorem scanInet_eq (column : Option String) :
    Db.scanInet driver column =
      (RoleValue.toInetPointer driver (.orNull .inet column)).map (fun x => x.getD "") := by
  cases column with
  | none => rfl
  | some a =>
    rw [Db.scanInet, RoleValue.orNull, RoleValue.toInetPointer]
    cases driver.read a <;> rfl

/-- What is scanned of a row, column by column, is what is decoded of it. -/
theorem scanRole_row {q : RoleRow} (h : r.row = some q) :
    scanRole driver (listRolesColumns.map r.value) = Db.decodeRole driver q := by
  unfold StoredRole.row at h
  split at h
  next createdAt updatedAt hcreatedAt hupdatedAt =>
    obtain rfl := Option.some.inj h
    have hparent : RoleValue.toIntPointer (.orNull .integer r.parentRoleID) = .ok r.parentRoleID := by
      cases r.parentRoleID <;> rfl
    have htext : ∀ s, RoleValue.toText (.text s) = .ok s := fun _ => rfl
    simp only [Db.decodeRole, StoredRole.rowAt, scanText_eq, scanInet_eq]
    simp only [scanRole, listRolesColumns, roleTargets, List.map_cons, List.map_nil, StoredRole.value,
      Columns.scan, Columns.target, RoleValue.toInt, RoleValue.toBool, RoleValue.toTime, htext, hparent,
      hcreatedAt, hupdatedAt, RoleType.ofText_text r.type_accepted, Except.map, bind, Except.bind]
    cases RoleValue.toText (.orNull .text r.description) with
    | error err => rfl
    | ok description =>
      cases RoleValue.toText (.orNull .text r.requestID) with
      | error err => rfl
      | ok requestID =>
        cases RoleValue.toInetPointer driver (.orNull .inet r.createdIP) with
        | error err => rfl
        | ok createdIP =>
          cases RoleValue.toInetPointer driver (.orNull .inet r.updatedIP) with
          | error err => rfl
          | ok updatedIP => rfl
  next => cases h

/-- The text of an address that the driver gives is sent back as the address. -/
theorem toInetPointer_readable {column : Option String} (h : ∀ a, column = some a → driver.read a ≠ none) :
    ∃ x, RoleValue.toInetPointer driver (.orNull .inet column) = .ok x ∧
      Db.inetArgument driver (x.getD "") = .ok column := by
  cases column with
  | none => exact ⟨none, rfl, rfl⟩
  | some a =>
    obtain ⟨text, htext⟩ := Option.ne_none_iff_exists'.mp (h a rfl)
    have hparse := driver.parse_read a text htext
    have hne : text ≠ "" := by
      rintro rfl
      rw [driver.parse_empty] at hparse
      cases hparse
    refine ⟨some text, ?_, ?_⟩
    · rw [RoleValue.orNull, RoleValue.toInetPointer, htext]
    · rw [Option.getD_some, Db.inetArgument, if_neg hne, hparse]

theorem exists_scanRole (h : r.Readable driver) :
    ∃ role, scanRole driver (listRolesColumns.map r.value) = .ok role ∧ r.ShownAs driver role := by
  obtain ⟨description, hdescription⟩ := Option.ne_none_iff_exists'.mp h.description
  obtain ⟨requestID, hrequestID⟩ := Option.ne_none_iff_exists'.mp h.requestID
  obtain ⟨createdIP, hcreatedIP, hcreatedArg⟩ := toInetPointer_readable h.createdIP
  obtain ⟨updatedIP, hupdatedIP, hupdatedArg⟩ := toInetPointer_readable h.updatedIP
  obtain ⟨createdAt, hcreatedAt⟩ := h.createdAt
  obtain ⟨updatedAt, hupdatedAt⟩ := h.updatedAt
  have hrow : r.row = some (r.rowAt createdAt updatedAt) := by rw [StoredRole.row, hcreatedAt, hupdatedAt]
  have hdecode : Db.decodeRole driver (r.rowAt createdAt updatedAt) =
      .ok { id := r.id, code := r.code, name := r.name, type := r.type, parentRoleID := r.parentRoleID
            level := r.level, description := description, isActive := r.isActive, requestID := requestID
            createdIP := createdIP.getD "", updatedIP := updatedIP.getD "", version := r.version
            createdAt := createdAt, updatedAt := updatedAt } := by
    simp only [Db.decodeRole, StoredRole.rowAt, scanText_eq, scanInet_eq, hdescription, hrequestID, hcreatedIP,
      hupdatedIP]
    rfl
  exact ⟨_, (scanRole_row hrow).trans hdecode,
    { id := rfl, code := rfl, name := rfl, type := rfl, parentRoleID := rfl, level := rfl
      description := by rw [hdescription, Option.getD_some]
      isActive := rfl
      requestID := by rw [hrequestID, Option.getD_some]
      createdIP := hcreatedArg, updatedIP := hupdatedArg, version := rfl
      createdAt := hcreatedAt, updatedAt := hupdatedAt }⟩

theorem finite_of_toTime {column : Timestamptz} {x : Time}
    (h : RoleValue.toTime (.timestamptz column) = .ok x) : column = .finite x := by
  cases column with
  | finite t => exact congrArg Timestamptz.finite (Except.ok.inj h)
  | _ => cases h

theorem readable_of_toInetPointer {column : Option String} {x : Option String}
    (h : RoleValue.toInetPointer driver (.orNull .inet column) = .ok x) {a : String}
    (ha : column = some a) : driver.read a ≠ none := by
  subst ha
  intro hread
  rw [RoleValue.orNull, RoleValue.toInetPointer, hread] at h
  cases h

theorem readable_of_scan (h : scanRole driver (listRolesColumns.map r.value) = .ok role) :
    r.Readable driver := by
  unfold scanRole at h
  cases hscan : Columns.scan "number of field descriptions must equal number of destinations"
      (roleTargets driver) (listRolesColumns.map r.value) ScannedRole.zero with
  | error err =>
    rw [hscan] at h
    cases h
  | ok s =>
    have hread {α : Type} {read : RoleValue → Except String α} {set : ScannedRole → α → ScannedRole}
        {value : RoleValue} (i : Nat) (hi : ((roleTargets driver).zip (listRolesColumns.map r.value))[i]? =
          some (Columns.target read set, value)) : ∃ x, read value = .ok x :=
      Columns.read_of_scan (List.mem_of_getElem? hi) hscan
    obtain ⟨_, hdescription⟩ := hread 6 rfl
    obtain ⟨_, hrequestID⟩ := hread 8 rfl
    obtain ⟨_, hcreatedIP⟩ := hread 9 rfl
    obtain ⟨_, hupdatedIP⟩ := hread 10 rfl
    obtain ⟨createdAt, hcreatedAt⟩ := hread 12 rfl
    obtain ⟨updatedAt, hupdatedAt⟩ := hread 13 rfl
    refine ⟨fun hnull => ?_, fun hnull => ?_, fun a => readable_of_toInetPointer hcreatedIP,
      fun a => readable_of_toInetPointer hupdatedIP, ⟨createdAt, finite_of_toTime hcreatedAt⟩,
      ⟨updatedAt, finite_of_toTime hupdatedAt⟩⟩
    · rw [StoredRole.value, hnull] at hdescription
      cases hdescription
    · rw [StoredRole.value, hnull] at hrequestID
      cases hrequestID

theorem shownAs_of_scan (h : scanRole driver (listRolesColumns.map r.value) = .ok role) :
    r.ShownAs driver role := by
  obtain ⟨role', hrole', hshown⟩ := exists_scanRole (readable_of_scan h)
  rw [h] at hrole'
  cases hrole'
  exact hshown

namespace RoleTable

theorem selectRoles_eq (t : RoleTable) (roleType : String) : t.selectRoles roleType = t.asked roleType := by
  unfold selectRoles asked
  split
  next htype =>
    refine List.filter_congr (fun r _ => ?_)
    rw [decide_eq_false htype, Bool.false_or, Bool.and_comm]
  next htype =>
    refine List.filter_congr (fun r _ => ?_)
    rw [decide_eq_true (not_not.mp htype), Bool.true_or, Bool.and_true]

theorem mem_asked {roleType : String} :
    r ∈ t.asked roleType ↔
      r ∈ t.rows ∧ r.isActive = true ∧ (roleType = "" ∨ r.type.text = roleType) := by
  simp [asked]

/-- One row that is not scanned fails the listing of every type that asks for it. -/
theorem listsRoles_iff {roleType : String} :
    t.ListsRoles driver roleType ↔ ∀ r ∈ t.asked roleType, r.Readable driver := by
  unfold ListsRoles listRoles
  rw [selectRoles_eq]
  constructor
  · rintro ⟨roles, hroles, -⟩ r hr
    cases hscan : scanRole driver (listRolesColumns.map r.value) with
    | ok role => exact readable_of_scan hscan
    | error err =>
      obtain ⟨err', herr⟩ :=
        mapM_eq_error (f := fun q => scanRole driver (listRolesColumns.map q.value)) hr hscan
      rw [herr] at hroles
      cases hroles
  · intro hread
    obtain ⟨roles, hroles⟩ := exists_mapM_ok fun r hr =>
      (exists_scanRole (hread r hr)).imp fun _ hrole => hrole.1
    refine ⟨roles, by rw [hroles], ?_⟩
    exact (forall₂_of_mapM hroles).imp fun _ _ hscan => shownAs_of_scan hscan

theorem find_active (hr : r ∈ t.rows) (hactive : r.isActive = true) :
    t.rows.find? (fun q => q.code = r.code && q.isActive) = some r := by
  refine find?_eq_of_unique hr (by simp [hactive]) (fun q hq hp => ?_)
  simp only [Bool.and_eq_true, decide_eq_true_eq] at hp
  exact Table.eq_of_not_apart hq hr (fun hapart => hapart.2 hp.1)

theorem find_none {code : String} (h : ∀ r ∈ t.rows, r.code = code → r.isActive = false) :
    t.rows.find? (fun q => q.code = code && q.isActive) = none := by
  refine List.find?_eq_none.mpr (fun r hr hp => ?_)
  simp only [Bool.and_eq_true, decide_eq_true_eq] at hp
  rw [h r hr hp.1] at hp
  cases hp.2

theorem getRoleByCode_ok_iff (hr : r ∈ t.rows) (hactive : r.isActive = true) :
    t.getRoleByCode driver r.code = .ok role ↔
      storableText r.code = true ∧ scanRole driver (listRolesColumns.map r.value) = .ok role := by
  unfold getRoleByCode
  split
  next hstorable =>
    simp only [find_active hr hactive, getRoleByCodeColumns_eq, hstorable,
      true_and]
    split
    next err hscan => simp [hscan]
    next role' hscan => simp [hscan]
  next hnot => simp [hnot]

theorem findsRole_iff {code : String} :
    t.FindsRole driver code ↔ storableText code = true ∧
      ∀ r ∈ t.rows, r.code = code → r.isActive = true → r.Readable driver := by
  constructor
  · rintro ⟨hfound, hmissing⟩
    have hstorable : storableText code = true := by
      by_contra hnot
      have hrefused : t.getRoleByCode driver code = .error
          (.wrap "failed to get role" "invalid byte sequence for encoding \"UTF8\": 0x00") := if_neg hnot
      by_cases hrows : ∀ r ∈ t.rows, r.code = code → r.isActive = false
      · have hnone := hmissing hrows
        rw [hrefused] at hnone
        cases hnone
      · simp only [not_forall, Bool.not_eq_false] at hrows
        obtain ⟨r, hr, hcode, hactive⟩ := hrows
        obtain ⟨role, hrole, -⟩ := hfound r hr hcode hactive
        rw [hrefused] at hrole
        cases hrole
    refine ⟨hstorable, fun r hr hcode hactive => ?_⟩
    obtain ⟨role, hrole, -⟩ := hfound r hr hcode hactive
    subst hcode
    exact readable_of_scan ((getRoleByCode_ok_iff hr hactive).mp hrole).2
  · rintro ⟨hstorable, hread⟩
    refine ⟨fun r hr hcode hactive => ?_, fun hrows => ?_⟩
    · obtain ⟨role, hscan, hshown⟩ := exists_scanRole (hread r hr hcode hactive)
      subst hcode
      exact ⟨role, (getRoleByCode_ok_iff hr hactive).mpr ⟨hstorable, hscan⟩, hshown⟩
    · rw [getRoleByCode, if_pos hstorable, find_none hrows]

/-- The table holds the rows of the database. -/
def RowsOf (t : RoleTable) (db : Db) : Prop := List.Forall₂ (fun r q => r.row = some q) t.rows db.roles.rows

theorem row_keys {q : RoleRow} (h : r.row = some q) : q.code = r.code ∧ q.isActive = r.isActive := by
  unfold StoredRole.row at h
  split at h
  next =>
    obtain rfl := Option.some.inj h
    exact ⟨rfl, rfl⟩
  next => cases h

/-- `getRoleByCode` of the database is that of its rows, for every code that it can be asked for. -/
theorem getRoleByCode_refines {db : Db} (h : t.RowsOf db) {code : String} (hcode : storableText code = true) :
    t.getRoleByCode driver code = db.getRoleByCode driver code := by
  have hfind := rel_find (p := fun r => r.code = code && r.isActive)
    (q := fun q => q.code = code && q.isActive)
    (fun r q hrow => by rw [(row_keys hrow).1, (row_keys hrow).2]) h
  unfold getRoleByCode Db.getRoleByCode Db.activeRole
  rw [if_pos hcode]
  generalize t.rows.find? (fun r => r.code = code && r.isActive) = found at hfind
  generalize db.roles.rows.find? (fun q => q.code = code && q.isActive) = found' at hfind
  cases hfind with
  | none => rfl
  | @some r q hrow =>
    cases hdecode : Db.decodeRole driver q with
    | error err => simp only [getRoleByCodeColumns_eq, scanRole_row hrow, hdecode]
    | ok role => simp only [getRoleByCodeColumns_eq, scanRole_row hrow, hdecode]

/-- The roles are listed and found just where every active row that is asked for is readable; a code that
no text of the database can be is not said to be missing. -/
theorem roles_read_iff (driver : InetDriver) (t : RoleTable) :
    (∀ roleType, t.ListsRoles driver roleType ↔
      ∀ r ∈ t.rows, r.isActive = true → roleType = "" ∨ r.type.text = roleType → r.Readable driver) ∧
    ∀ code, t.FindsRole driver code ↔ storableText code = true ∧
      ∀ r ∈ t.rows, r.code = code → r.isActive = true → r.Readable driver := by
  refine ⟨fun roleType => ?_, fun code => findsRole_iff⟩
  rw [listsRoles_iff]
  constructor
  · exact fun h r hr hactive htype => h r (mem_asked.mpr ⟨hr, hactive, htype⟩)
  · intro h r hr
    obtain ⟨hmem, hactive, htype⟩ := mem_asked.mp hr
    exact h r hmem hactive htype

end RoleTable

/-- A row of the INSERT of the schema, whose other columns take their defaults. -/
structure RoleSeed where
  code : String
  name : String
  type : RoleType
  level : Int
  description : String
  code_format : roleCodeFormat code = true := by decide
  name_fits : varchar 128 name = true := by decide
  type_accepted : type.accepted = true := by decide
  level_range : 0 ≤ level ∧ level ≤ maxInt4 := by decide
  description_fits : storableText description = true := by decide

def RoleSeed.row (seed : RoleSeed) (id : Nat) (now : Time) : StoredRole :=
  { id := id, code := seed.code, name := seed.name, type := seed.type, parentRoleID := none
    level := seed.level, description := some seed.description, isActive := true, requestID := none
    createdIP := none, updatedIP := none, version := 1, createdAt := .finite now, updatedAt := .finite now
    code_format := seed.code_format, name_fits := seed.name_fits, type_accepted := seed.type_accepted
    level_range := seed.level_range, description_fits := seed.description_fits, requestID_fits := rfl
    version_range := by decide }

def roleSeeds : List RoleSeed :=
  [{ code := "super_admin", name := "超级管理员", type := .platform, level := 100
     description := "平台超级管理员，拥有所有权限" },
    { code := "org_admin", name := "组织管理员", type := .platform, level := 50
      description := "组织管理员，管理整个组织" },
    { code := "supply_admin", name := "供应管理员", type := .supply, level := 40
      description := "供应管理员，管理供应链" },
    { code := "operator", name := "运营人员", type := .platform, level := 30
      description := "运营人员，执行日常操作" },
    { code := "developer", name := "开发人员", type := .platform, level := 20
      description := "开发人员，访问开发资源" },
    { code := "finops", name := "财务人员", type := .platform, level := 20
      description := "财务人员，访问账单和报表" },
    { code := "viewer", name := "只读用户", type := .platform, level := 10
      description := "只读用户，仅能查看资源" }]

theorem roleSeeds_apart : (roleSeeds.zipIdx 1).Pairwise (fun a b => a.2 ≠ b.2 ∧ a.1.code ≠ b.1.code) := by
  decide

/-- The content of the table once the schema has been applied. -/
def seededRoles (now : Time) : RoleTable :=
  ⟨(roleSeeds.zipIdx 1).map (fun p => p.1.row p.2 now),
    List.pairwise_map.mpr (roleSeeds_apart.imp fun h => ⟨fun hid => h.1 (Int.ofNat.inj hid), h.2⟩)⟩

theorem RoleSeed.not_readable (seed : RoleSeed) (id : Nat) (now : Time) :
    ¬(seed.row id now).Readable driver :=
  fun h => h.requestID rfl

/-- Once the schema has been applied its roles are not listed, and super_admin is not found. -/
theorem seeded_roles_unread :
    ¬(seededRoles 0).ListsRoles plainDriver "" ∧ ¬(seededRoles 0).ListsRoles plainDriver "platform" ∧
      ¬(seededRoles 0).FindsRole plainDriver "super_admin" := by
  have hmem : ∃ seed : RoleSeed, seed.row 1 0 ∈ (seededRoles 0).rows ∧ seed.code = "super_admin" ∧
      seed.type = .platform := ⟨_, List.mem_cons_self, rfl, rfl⟩
  obtain ⟨seed, hseed, hcode, htype⟩ := hmem
  refine ⟨fun h => ?_, fun h => ?_, fun h => ?_⟩
  · exact seed.not_readable 1 0 (RoleTable.listsRoles_iff.mp h _ (RoleTable.mem_asked.mpr ⟨hseed, rfl, .inl rfl⟩))
  · have hplatform : (seed.row 1 0).type.text = "platform" := congrArg RoleType.text htype
    exact seed.not_readable 1 0
      (RoleTable.listsRoles_iff.mp h _ (RoleTable.mem_asked.mpr ⟨hseed, rfl, .inr hplatform⟩))
  · exact seed.not_readable 1 0 ((RoleTable.findsRole_iff.mp h).2 _ hseed hcode rfl)

end SupplyPlatform.Iam
