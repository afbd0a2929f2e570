import SupplyPlatform.AlertStore
import SupplyPlatform.AuditReplay
import SupplyPlatform.Lib.Columns

namespace SupplyPlatform.Alerts

open Settlements (zeroTime)
open Iam (storableText)
open Audit (microseconds Json)
open Strings Relational

/-- The columns of `audit_alerts`. -/
inductive AlertColumn
  | alertID | alertName | alertType | alertLevel | tenantID | supplierID
  | title | message | description
  | eventID | eventIDs
  | triggerCondition | threshold | currentValue
  | status | resolvedAt | resolvedBy | resolveNote
  | notifyEnabled | notifyChannels
  | createdAt | updatedAt | firstSeenAt | lastSeenAt
  | metadata | tags
  deriving DecidableEq

inductive ColumnType
  | text
  | bigint
  | double
  | boolean
  | timestamptz
  | jsonb
  deriving DecidableEq

/-- What a column holds: a float as its bits, a time in microseconds; JSONB keeps a number as it was
written. -/
inductive SqlValue
  | null
  | text (s : String)
  | bigint (n : Int)
  | double (bits : UInt64)
  | boolean (b : Bool)
  | timestamptz (us : Int)
  | jsonb (j : Json)

/-- The arguments that the repository hands to the driver; `json` is a text that `json.Marshal` wrote. -/
inductive GoArg
  | nil
  | string (s : String)
  | int64 (n : Int)
  | float64 (bits : UInt64)
  | bool (b : Bool)
  | time (t : Time)
  | json (j : Json)

namespace AlertColumn

/-- The columns in the order of the schema. -/
def all : List AlertColumn :=
  [alertID, alertName, alertType, alertLevel, tenantID, supplierID, title, message, description, eventID,
    eventIDs, triggerCondition, threshold, currentValue, status, resolvedAt, resolvedBy, resolveNote,
    notifyEnabled, notifyChannels, createdAt, updatedAt, firstSeenAt, lastSeenAt, metadata, tags]

theorem mem_all (column : AlertColumn) : column ∈ all := by
  cases column <;> decide

def type : AlertColumn → ColumnType
  | .tenantID | .supplierID => .bigint
  | .eventIDs | .notifyChannels | .metadata | .tags => .jsonb
  | .threshold | .currentValue => .double
  | .notifyEnabled => .boolean
  | .resolvedAt | .createdAt | .updatedAt | .firstSeenAt | .lastSeenAt => .timestamptz
  | _ => .text

def nullable : AlertColumn → Bool
  | .supplierID | .eventID | .resolvedAt | .resolvedBy | .resolveNote => true
  | _ => false

/-- The DEFAULT of a column that an INSERT leaves out. -/
def default : AlertColumn → SqlValue
  | .alertName | .message | .description | .triggerCondition => .text ""
  | .eventIDs | .notifyChannels | .tags => .jsonb (.array [])
  | .threshold | .currentValue => .double 0
  | .notifyEnabled => .boolean true
  | .metadata => .jsonb (.object [])
  | _ => .null

end AlertColumn

mutual

/-- JSONB holds no NUL character; that its numbers end somewhere, 131072 digits before the point and 16383
behind it, is left out. -/
def jsonbTakes : Json → Bool
  | .string s => storableText s
  | .array items => jsonbTakesAll items
  | .object members => jsonbTakesMembers members
  | _ => true

def jsonbTakesAll : List Json → Bool
  | [] => true
  | item :: items => jsonbTakes item && jsonbTakesAll items

def jsonbTakesMembers : List (String × Json) → Bool
  | [] => true
  | (key, value) :: members => storableText key && jsonbTakes value && jsonbTakesMembers members

end

/-- What the schema admits in a column. -/
def AlertColumn.admits (column : AlertColumn) : SqlValue → Bool
  | .null => column.nullable
  | .text s => column.type = .text && storableText s
  | .bigint _ => column.type = .bigint
  | .double _ => column.type = .double
  | .boolean _ => column.type = .boolean
  | .timestamptz _ => column.type = .timestamptz
  | .jsonb j => column.type = .jsonb && jsonbTakes j

def wrongTypeError (context : String) : RepoError := .message (context ++ ": unable to encode argument")

def notNullError (context : String) : RepoError :=
  .message (context ++ ": null value violates not-null constraint")

/-- An argument as the value of a column. -/
def encode (context : String) (column : AlertColumn) (arg : GoArg) : Except RepoError SqlValue :=
  match column.type, arg with
  | _, .nil => .ok .null
  | .text, .string s => if storableText s then .ok (.text s) else .error (encodingError context)
  | .bigint, .int64 n => .ok (.bigint n)
  | .double, .float64 bits => .ok (.double bits)
  | .boolean, .bool b => .ok (.boolean b)
  | .timestamptz, .time t => .ok (.timestamptz (microseconds t))
  | .jsonb, .json j => if jsonbTakes j then .ok (.jsonb j) else .error (encodingError context)
  | _, _ => .error (wrongTypeError context)

/-- A row of the table, as the schema admits it. -/
structure AlertRow where
  value : AlertColumn → SqlValue
  admitted : ∀ column : AlertColumn, column.admits (value column) = true

namespace AlertRow

def alertID (row : AlertRow) : String :=
  match row.value .alertID with
  | .text s => s
  | _ => ""

def of? (value : AlertColumn → SqlValue) : Option AlertRow :=
  if h : ∀ column ∈ AlertColumn.all, column.admits (value column) = true then
    some ⟨value, fun column => h column column.mem_all⟩
  else none

end AlertRow

abbrev AlertRows := Keyed AlertRow.alertID

/-- What an UPDATE sets: the schema admits it, and it is not the primary key. -/
structure AlertChange where
  values : List (AlertColumn × SqlValue)
  admitted : ∀ p ∈ values, p.1.admits p.2 = true
  keepsID : (values.lookup .alertID).isNone = true

namespace AlertChange

def of? (values : List (AlertColumn × SqlValue)) : Option AlertChange :=
  if h : ∀ p ∈ values, p.1.admits p.2 = true then
    if hid : (values.lookup .alertID).isNone = true then some ⟨values, h, hid⟩ else none
  else none

theorem admits_set (change : AlertChange) (row : AlertRow) (column : AlertColumn) :
    column.admits (Columns.set change.values row.value column) = true := by
  unfold Columns.set
  cases hlookup : change.values.lookup column with
  | none => exact row.admitted column
  | some value =>
    obtain ⟨before, after, hsplit, -⟩ := List.lookup_eq_some_iff.mp hlookup
    exact change.admitted (column, value) (by rw [hsplit]; simp)

def apply (change : AlertChange) (row : AlertRow) : AlertRow :=
  ⟨Columns.set change.values row.value, change.admits_set row⟩

theorem alertID_apply (change : AlertChange) (row : AlertRow) :
    (change.apply row).alertID = row.alertID := by
  have hnone : change.values.lookup .alertID = none := Option.isNone_iff_eq_none.mp change.keepsID
  simp only [AlertRow.alertID, apply, Columns.set, hnone, Option.getD_none]

theorem apply_apart (change : AlertChange) (a b : AlertRow) (h : a.alertID ≠ b.alertID) :
    (change.apply a).alertID ≠ b.alertID ∧ a.alertID ≠ (change.apply b).alertID ∧
      (change.apply a).alertID ≠ (change.apply b).alertID := by
  rw [alertID_apply, alertID_apply]
  exact ⟨h, h, h⟩

end AlertChange

/-- An alert as the program has it, which tells a nil slice or map from an empty one. -/
structure GivenAlert (V : Type) where
  alert : Alert V
  nilEventIDs : Bool
  nilNotifyChannels : Bool
  nilMetadata : Bool
  nilTags : Bool
  eventIDs_of_nil : nilEventIDs = true → alert.eventIDs = []
  notifyChannels_of_nil : nilNotifyChannels = true → alert.notifyChannels = []
  metadata_of_nil : nilMetadata = true → alert.metadata = []
  tags_of_nil : nilTags = true → alert.tags = []

/-- The four texts that `marshalAlertCollections` gives. -/
structure AlertJSON where
  eventIDs : Json
  notifyChannels : Json
  metadata : Json
  tags : Json

/-- `marshalJSONOrDefault`: a nil slice or map, once it is an `any`, is not nil, so that what is written
for it is null and not the default. -/
def marshalJSONOrDefault (isNil : Bool) (value : Json) : Json := if isNil then .null else value

section

variable {V : Type} (toJSON : V → Except String Json)

def marshalMembers : List (String × V) → Except String (List (String × Json))
  | [] => .ok []
  | (key, value) :: members =>
    match toJSON value with
    | .error err => .error err
    | .ok j => (marshalMembers members).map ((key, j) :: ·)

def GivenAlert.marshalCollections (given : GivenAlert V) : Except RepoError AlertJSON :=
  match marshalMembers toJSON given.alert.metadata with
  | .error err => .error (.message ("marshal metadata: " ++ err))
  | .ok members => .ok
    { eventIDs := marshalJSONOrDefault given.nilEventIDs (.array (given.alert.eventIDs.map .string))
      notifyChannels :=
        marshalJSONOrDefault given.nilNotifyChannels (.array (given.alert.notifyChannels.map .string))
      metadata := marshalJSONOrDefault given.nilMetadata (.object members)
      tags := marshalJSONOrDefault given.nilTags (.array (given.alert.tags.map .string)) }

def nullableString (value : String) : GoArg := if value = "" then .nil else .string value

def nullableInt64 (value : Int) : GoArg := if value = 0 then .nil else .int64 value

/-- A `*time.Time`. -/
def timePointer : Option Time → GoArg
  | none => .nil
  | some t => .time t

open AlertColumn in
/-- The columns of the INSERT, each with the number of its argument in VALUES. -/
def insertSettings : List (AlertColumn × Nat) :=
  [alertID, alertName, alertType, alertLevel, tenantID, supplierID,
    title, message, description,
    eventID, eventIDs,
    triggerCondition, threshold, currentValue,
    status, resolvedAt, resolvedBy, resolveNote,
    notifyEnabled, notifyChannels,
    createdAt, updatedAt, firstSeenAt, lastSeenAt,
    metadata, tags].zip
  [1, 2, 3, 4, 5, 6,
    7, 8, 9,
    10, 11,
    12, 13, 14,
    15, 16, 17, 18,
    19, 20,
    21, 22, 23, 24,
    25, 26]

def insertArgs (alert : Alert V) (json : AlertJSON) : List GoArg :=
  [.string alert.alertID, .string alert.alertName, .string alert.alertType, .string alert.alertLevel,
    .int64 alert.tenantID, nullableInt64 alert.supplierID,
    .string alert.title, .string alert.message, .string alert.description,
    nullableString alert.eventID, .json json.eventIDs,
    .string alert.triggerCondition, .float64 alert.threshold, .float64 alert.currentValue,
    .string alert.status, timePointer alert.resolvedAt, nullableString alert.resolvedBy,
    nullableString alert.resolveNote,
    .bool alert.notifyEnabled, .json json.notifyChannels,
    .time alert.createdAt, .time alert.updatedAt, .time alert.firstSeenAt, .time alert.lastSeenAt,
    .json json.metadata, .json json.tags]

open AlertColumn in
/-- The SET of the UPDATE; `$1` is the id in its WHERE. -/
def updateSettings : List (AlertColumn × Nat) :=
  [(alertName, 2), (alertType, 3), (alertLevel, 4), (tenantID, 5), (supplierID, 6),
    (title, 7), (message, 8), (description, 9),
    (eventID, 10), (eventIDs, 11),
    (triggerCondition, 12), (threshold, 13), (currentValue, 14),
    (status, 15), (resolvedAt, 16), (resolvedBy, 17), (resolveNote, 18),
    (notifyEnabled, 19), (notifyChannels, 20),
    (updatedAt, 21), (firstSeenAt, 22), (lastSeenAt, 23),
    (metadata, 24), (tags, 25)]

def updateArgs (alert : Alert V) (json : AlertJSON) : List GoArg :=
  [.string alert.alertID,
    .string alert.alertName, .string alert.alertType, .string alert.alertLevel,
    .int64 alert.tenantID, nullableInt64 alert.supplierID,
    .string alert.title, .string alert.message, .string alert.description,
    nullableString alert.eventID, .json json.eventIDs,
    .string alert.triggerCondition, .float64 alert.threshold, .float64 alert.currentValue,
    .string alert.status, timePointer alert.resolvedAt, nullableString alert.resolvedBy,
    nullableString alert.resolveNote,
    .bool alert.notifyEnabled, .json json.notifyChannels,
    .time alert.updatedAt, .time alert.firstSeenAt, .time alert.lastSeenAt,
    .json json.metadata, .json json.tags]

end

open AlertColumn in
/-- The SELECT list of `GetByID`. -/
def getByIDColumns : List AlertColumn :=
  [alertID, alertName, alertType, alertLevel, tenantID, supplierID,
    title, message, description,
    eventID, eventIDs,
    triggerCondition, threshold, currentValue,
    status, resolvedAt, resolvedBy, resolveNote,
    notifyEnabled, notifyChannels,
    createdAt, updatedAt, firstSeenAt, lastSeenAt,
    metadata, tags]

open AlertColumn in
/-- The SELECT list of `List`. -/
def listColumns : List AlertColumn :=
  [alertID, alertName, alertType, alertLevel, tenantID, supplierID,
    title, message, description,
    eventID, eventIDs,
    triggerCondition, threshold, currentValue,
    status, resolvedAt, resolvedBy, resolveNote,
    notifyEnabled, notifyChannels,
    createdAt, updatedAt, firstSeenAt, lastSeenAt,
    metadata, tags]

end SupplyPlatform.Alerts
