import SupplyPlatform.AlertColumns
import SupplyPlatform.Lib.Float64

namespace SupplyPlatform.Alerts

open Settlements (zeroTime padded)
open Iam (storableText)
open Audit (microseconds Json)
open Strings Relational Float64

/-- The variables that `scanAlert` scans into; a slice of bytes is nil for NULL. -/
structure Scanned where
  alert : Alert Json
  supplierID : Option Int
  eventID : Option String
  resolvedBy : Option String
  resolveNote : Option String
  resolvedAt : Option Time
  eventIDsJSON : Option Json
  notifyJSON : Option Json
  metadataJSON : Option Json
  tagsJSON : Option Json

def zeroAlert : Alert Json :=
  { alertID := "", alertName := "", alertType := "", alertLevel := "", tenantID := 0, supplierID := 0
    title := "", message := "", description := "", eventID := "", eventIDs := [], triggerCondition := ""
    threshold := 0, currentValue := 0, status := "", resolvedAt := none, resolvedBy := ""
    resolveNote := "", notifyEnabled := false, notifyChannels := [], createdAt := zeroTime
    updatedAt := zeroTime, firstSeenAt := zeroTime, lastSeenAt := zeroTime, metadata := [], tags := [] }

def Scanned.zero : Scanned := ⟨zeroAlert, none, none, none, none, none, none, none, none, none⟩

abbrev ScanTarget := SqlValue → Scanned → Except String Scanned

/-- A field of the alert, which NULL cannot be scanned into. -/
def field {α : Type} (read : SqlValue → Option α) (set : Alert Json → α → Alert Json) : ScanTarget :=
  fun value s =>
    match read value with
    | some x => .ok { s with alert := set s.alert x }
    | none => .error "cannot scan"

/-- A pointer, or a slice of bytes, which NULL leaves nil. -/
def pointer {α : Type} (read : SqlValue → Option α) (set : Scanned → Option α → Scanned) : ScanTarget :=
  fun value s =>
    match value with
    | .null => .ok (set s none)
    | value =>
      match read value with
      | some x => .ok (set s (some x))
      | none => .error "cannot scan"

namespace SqlValue

def toText : SqlValue → Option String
  | .text s => some s
  | _ => none

def toInt64 : SqlValue → Option Int
  | .bigint n => some n
  | _ => none

def toFloat64 : SqlValue → Option UInt64
  | .double bits => some bits
  | _ => none

def toBool : SqlValue → Option Bool
  | .boolean b => some b
  | _ => none

def toTime : SqlValue → Option Time
  | .timestamptz us => some (us * 1000)
  | _ => none

def toBytes : SqlValue → Option Json
  | .jsonb j => some j
  | _ => none

end SqlValue

open SqlValue in
/-- The targets of `scanAlert`. -/
def alertTargets : List ScanTarget :=
  [field toText (fun a s => { a with alertID := s }), field toText (fun a s => { a with alertName := s }),
    field toText (fun a s => { a with alertType := s }), field toText (fun a s => { a with alertLevel := s }),
    field toInt64 (fun a n => { a with tenantID := n }), pointer toInt64 (fun s n => { s with supplierID := n }),
    field toText (fun a s => { a with title := s }), field toText (fun a s => { a with message := s }),
    field toText (fun a s => { a with description := s }),
    pointer toText (fun s x => { s with eventID := x }), pointer toBytes (fun s j => { s with eventIDsJSON := j }),
    field toText (fun a s => { a with triggerCondition := s }),
    field toFloat64 (fun a x => { a with threshold := x }),
    field toFloat64 (fun a x => { a with currentValue := x }),
    field toText (fun a s => { a with status := s }), pointer toTime (fun s t => { s with resolvedAt := t }),
    pointer toText (fun s x => { s with resolvedBy := x }),
    pointer toText (fun s x => { s with resolveNote := x }),
    field toBool (fun a b => { a with notifyEnabled := b }),
    pointer toBytes (fun s j => { s with notifyJSON := j }),
    field toTime (fun a t => { a with createdAt := t }), field toTime (fun a t => { a with updatedAt := t }),
    field toTime (fun a t => { a with firstSeenAt := t }), field toTime (fun a t => { a with lastSeenAt := t }),
    pointer toBytes (fun s j => { s with metadataJSON := j }), pointer toBytes (fun s j => { s with tagsJSON := j })]

/-- What the errors of `encoding/json` call a value. -/
def jsonKind : Json → String
  | .null => "null"
  | .bool _ => "bool"
  | .number _ => "number"
  | .string _ => "string"
  | .array _ => "array"
  | .object _ => "object"

def unmarshalError (j : Json) (type : String) : String :=
  "json: cannot unmarshal " ++ jsonKind j ++ " into Go value of type " ++ type

/-- An element null leaves the text it is read into empty. -/
def unmarshalTexts : List Json → Except String (List String)
  | [] => .ok []
  | .string s :: items => (unmarshalTexts items).map (s :: ·)
  | .null :: items => (unmarshalTexts items).map ("" :: ·)
  | item :: _ => .error (unmarshalError item "string")

def unmarshalJSONSlice : Option Json → Except String (List String)
  | none => .ok []
  | some .null => .ok []
  | some (.array items) => unmarshalTexts items
  | some j => .error (unmarshalError j "[]string")

/-- A decimal in digits. -/
def numeral (n : ℚ) : String :=
  let places := ((List.range (n.den.log2 + 1)).find? (fun s => 10 ^ s % n.den = 0)).getD 0
  let units := n.num.natAbs * 10 ^ places / n.den
  (if n < 0 then "-" else "") ++ toString (units / 10 ^ places) ++
    (if places = 0 then "" else "." ++ padded places (units % 10 ^ places : Nat))

/-- A number that is read into an `any` becomes a float64. -/
def unmarshalNumber (n : ℚ) : Except String Json :=
  match parseFloat n with
  | some f => .ok (.number f)
  | none => .error ("json: cannot unmarshal number " ++ numeral n ++ " into Go value of type float64")

mutual

/-- What is read into an `any`. -/
def unmarshalAny : Json → Except String Json
  | .null => .ok .null
  | .bool b => .ok (.bool b)
  | .number n => unmarshalNumber n
  | .string s => .ok (.string s)
  | .array items => (unmarshalItems items).map .array
  | .object members => (unmarshalMembers members).map .object

def unmarshalItems : List Json → Except String (List Json)
  | [] => .ok []
  | item :: items =>
    match unmarshalAny item with
    | .error err => .error err
    | .ok x => (unmarshalItems items).map (x :: ·)

def unmarshalMembers : List (String × Json) → Except String (List (String × Json))
  | [] => .ok []
  | (key, value) :: members =>
    match unmarshalAny value with
    | .error err => .error err
    | .ok x => (unmarshalMembers members).map ((key, x) :: ·)

end

def unmarshalJSONMap : Option Json → Except String (List (String × Json))
  | none => .ok []
  | some .null => .ok []
  | some (.object members) => unmarshalMembers members
  | some j => .error (unmarshalError j "map[string]interface {}")

def named {α : Type} (what : String) : Except String α → Except String α
  | .ok x => .ok x
  | .error err => .error (what ++ ": " ++ err)

/-- The second half of `scanAlert`: what has been scanned as an alert. -/
def Scanned.decode (s : Scanned) : Except String (Alert Json) :=
  let alert := { s.alert with
    supplierID := s.supplierID.getD s.alert.supplierID
    eventID := s.eventID.getD s.alert.eventID
    resolvedBy := s.resolvedBy.getD s.alert.resolvedBy
    resolveNote := s.resolveNote.getD s.alert.resolveNote
    resolvedAt := s.resolvedAt }
  (named "decode event_ids" (unmarshalJSONSlice s.eventIDsJSON)).bind fun eventIDs =>
    (named "decode notify_channels" (unmarshalJSONSlice s.notifyJSON)).bind fun notifyChannels =>
      (named "decode metadata" (unmarshalJSONMap s.metadataJSON)).bind fun metadata =>
        (named "decode tags" (unmarshalJSONSlice s.tagsJSON)).bind fun tags =>
          .ok { alert with eventIDs := eventIDs, notifyChannels := notifyChannels, metadata := metadata,
                           tags := tags }

def scanAlert (values : List SqlValue) : Except String (Alert Json) :=
  (Columns.scan "number of field descriptions must equal number of destinations" alertTargets values
    Scanned.zero).bind Scanned.decode

section

variable {V : Type}

/-- The argument that belongs to each column. -/
def AlertColumn.source (alert : Alert V) (json : AlertJSON) : AlertColumn → GoArg
  | .alertID => .string alert.alertID
  | .alertName => .string alert.alertName
  | .alertType => .string alert.alertType
  | .alertLevel => .string alert.alertLevel
  | .tenantID => .int64 alert.tenantID
  | .supplierID => nullableInt64 alert.supplierID
  | .title => .string alert.title
  | .message => .string alert.message
  | .description => .string alert.description
  | .eventID => nullableString alert.eventID
  | .eventIDs => .json json.eventIDs
  | .triggerCondition => .string alert.triggerCondition
  | .threshold => .float64 alert.threshold
  | .currentValue => .float64 alert.currentValue
  | .status => .string alert.status
  | .resolvedAt => timePointer alert.resolvedAt
  | .resolvedBy => nullableString alert.resolvedBy
  | .resolveNote => nullableString alert.resolveNote
  | .notifyEnabled => .bool alert.notifyEnabled
  | .notifyChannels => .json json.notifyChannels
  | .createdAt => .time alert.createdAt
  | .updatedAt => .time alert.updatedAt
  | .firstSeenAt => .time alert.firstSeenAt
  | .lastSeenAt => .time alert.lastSeenAt
  | .metadata => .json json.metadata
  | .tags => .json json.tags

/-- The INSERT gives each column the argument that belongs to it. -/
theorem insert_pairs (alert : Alert V) (json : AlertJSON) :
    Columns.Pairs (AlertColumn.source alert json) (insertArgs alert json) insertSettings := by
  simp only [Columns.Pairs, insertSettings, List.zip_cons_cons, List.zip_nil_right, List.forall_mem_cons]
  repeat' apply And.intro
  all_goals first | rfl | exact fun _ h => absurd h List.not_mem_nil

/-- And so does the UPDATE, whose arguments leave the time of creation out. -/
theorem update_pairs (alert : Alert V) (json : AlertJSON) :
    Columns.Pairs (AlertColumn.source alert json) (updateArgs alert json) updateSettings := by
  simp only [Columns.Pairs, updateSettings, List.forall_mem_cons]
  repeat' apply And.intro
  all_goals first | rfl | exact fun _ h => absurd h List.not_mem_nil

theorem mem_insertSettings (column : AlertColumn) : column ∈ insertSettings.map Prod.fst := by
  cases column <;> decide

theorem mem_updateSettings (column : AlertColumn) :
    column ∈ updateSettings.map Prod.fst ↔ column ≠ .alertID ∧ column ≠ .createdAt := by
  cases column <;> decide

/-- What an argument is stored as. -/
def GoArg.stored : GoArg → SqlValue
  | .nil => .null
  | .string s => .text s
  | .int64 n => .bigint n
  | .float64 bits => .double bits
  | .bool b => .boolean b
  | .time t => .timestamptz (microseconds t)
  | .json j => .jsonb j

theorem encode_stored {context : String} {column : AlertColumn} {arg : GoArg} {value : SqlValue}
    (h : encode context column arg = .ok value) : value = arg.stored := by
  unfold encode at h
  split at h
  · cases h
    rfl
  · split at h
    · cases h
      rfl
    · cases h
  · cases h
    rfl
  · cases h
    rfl
  · cases h
    rfl
  · cases h
    rfl
  · split at h
    · cases h
      rfl
    · cases h
  · cases h

/-- The alert with its metadata as they are read back. -/
def Alert.asJSON (alert : Alert V) (metadata : List (String × Json)) : Alert Json :=
  { alertID := alert.alertID, alertName := alert.alertName, alertType := alert.alertType
    alertLevel := alert.alertLevel, tenantID := alert.tenantID, supplierID := alert.supplierID
    title := alert.title, message := alert.message, description := alert.description
    eventID := alert.eventID, eventIDs := alert.eventIDs, triggerCondition := alert.triggerCondition
    threshold := alert.threshold, currentValue := alert.currentValue, status := alert.status
    resolvedAt := alert.resolvedAt, resolvedBy := alert.resolvedBy, resolveNote := alert.resolveNote
    notifyEnabled := alert.notifyEnabled, notifyChannels := alert.notifyChannels
    createdAt := alert.createdAt, updatedAt := alert.updatedAt, firstSeenAt := alert.firstSeenAt
    lastSeenAt := alert.lastSeenAt, metadata := metadata, tags := alert.tags }

/-- The variables once a row has been scanned. -/
def Scanned.ofRow (row : AlertRow) : Scanned :=
  { alert :=
      { zeroAlert with
        alertID := ((row.value .alertID).toText).getD ""
        alertName := ((row.value .alertName).toText).getD ""
        alertType := ((row.value .alertType).toText).getD ""
        alertLevel := ((row.value .alertLevel).toText).getD ""
        tenantID := ((row.value .tenantID).toInt64).getD 0
        title := ((row.value .title).toText).getD ""
        message := ((row.value .message).toText).getD ""
        description := ((row.value .description).toText).getD ""
        triggerCondition := ((row.value .triggerCondition).toText).getD ""
        threshold := ((row.value .threshold).toFloat64).getD 0
        currentValue := ((row.value .currentValue).toFloat64).getD 0
        status := ((row.value .status).toText).getD ""
        notifyEnabled := ((row.value .notifyEnabled).toBool).getD false
        createdAt := ((row.value .createdAt).toTime).getD zeroTime
        updatedAt := ((row.value .updatedAt).toTime).getD zeroTime
        firstSeenAt := ((row.value .firstSeenAt).toTime).getD zeroTime
        lastSeenAt := ((row.value .lastSeenAt).toTime).getD zeroTime }
    supplierID := (row.value .supplierID).toInt64
    eventID := (row.value .eventID).toText
    resolvedBy := (row.value .resolvedBy).toText
    resolveNote := (row.value .resolveNote).toText
    resolvedAt := (row.value .resolvedAt).toTime
    eventIDsJSON := (row.value .eventIDs).toBytes
    notifyJSON := (row.value .notifyChannels).toBytes
    metadataJSON := (row.value .metadata).toBytes
    tagsJSON := (row.value .tags).toBytes }

/-- Every value but NULL that the schema admits in a column of the type can be read so. -/
def ReadsType {α : Type} (read : SqlValue → Option α) (type : ColumnType) : Prop :=
  read .null = none ∧ ∀ (column : AlertColumn) value, column.type = type → column.admits value = true →
    value = .null ∨ ∃ x, read value = some x

theorem readsType_text : ReadsType SqlValue.toText .text := by
  refine ⟨rfl, fun column value htype hadmits => ?_⟩
  cases value <;> simp [AlertColumn.admits, htype, SqlValue.toText] at hadmits ⊢

theorem readsType_bigint : ReadsType SqlValue.toInt64 .bigint := by
  refine ⟨rfl, fun column value htype hadmits => ?_⟩
  cases value <;> simp [AlertColumn.admits, htype, SqlValue.toInt64] at hadmits ⊢

theorem readsType_double : ReadsType SqlValue.toFloat64 .double := by
  refine ⟨rfl, fun column value htype hadmits => ?_⟩
  cases value <;> simp [AlertColumn.admits, htype, SqlValue.toFloat64] at hadmits ⊢

theorem readsType_boolean : ReadsType SqlValue.toBool .boolean := by
  refine ⟨rfl, fun column value htype hadmits => ?_⟩
  cases value <;> simp [AlertColumn.admits, htype, SqlValue.toBool] at hadmits ⊢

theorem readsType_timestamptz : ReadsType SqlValue.toTime .timestamptz := by
  refine ⟨rfl, fun column value htype hadmits => ?_⟩
  cases value <;> simp [AlertColumn.admits, htype, SqlValue.toTime] at hadmits ⊢

theorem readsType_jsonb : ReadsType SqlValue.toBytes .jsonb := by
  refine ⟨rfl, fun column value htype hadmits => ?_⟩
  cases value <;> simp [AlertColumn.admits, htype, SqlValue.toBytes] at hadmits ⊢

/-- A column without NULLs holds what can be read. -/
theorem exists_read {α : Type} {read : SqlValue → Option α} {type : ColumnType} (h : ReadsType read type)
    (row : AlertRow) {column : AlertColumn} (htype : column.type = type) (hnull : column.nullable = false) :
    ∃ x, read (row.value column) = some x := by
  have hadmits := row.admitted column
  rcases h.2 column _ htype hadmits with hvalue | hx
  · rw [hvalue, AlertColumn.admits, hnull] at hadmits
    cases hadmits
  · exact hx

/-- It is scanned into a field. -/
theorem field_row {α : Type} {read : SqlValue → Option α} {type : ColumnType} (h : ReadsType read type)
    (row : AlertRow) (column : AlertColumn) (htype : column.type = type) (hnull : column.nullable = false)
    (zero : α) (set : Alert Json → α → Alert Json) (s : Scanned) :
    field read set (row.value column) s =
      .ok { s with alert := set s.alert ((read (row.value column)).getD zero) } := by
  obtain ⟨x, hx⟩ := exists_read h row htype hnull
  rw [field, hx]
  rfl

theorem pointer_row {α : Type} {read : SqlValue → Option α} {type : ColumnType} (h : ReadsType read type)
    (row : AlertRow) (column : AlertColumn) (htype : column.type = type)
    (set : Scanned → Option α → Scanned) (s : Scanned) :
    pointer read set (row.value column) s = .ok (set s (read (row.value column))) := by
  rcases h.2 column _ htype (row.admitted column) with hvalue | ⟨x, hx⟩
  · rw [hvalue, h.1]
    rfl
  · have hne : row.value column ≠ .null := by
      intro hvalue
      rw [hvalue, h.1] at hx
      cases hx
    unfold pointer
    split
    next hvalue => exact absurd hvalue hne
    next => rw [hx]

/-- Every row that the schema admits is scanned, each value into the variable of its column. -/
theorem scan_row (mismatch : String) (row : AlertRow) :
    Columns.scan mismatch alertTargets (getByIDColumns.map row.value) Scanned.zero =
      .ok (Scanned.ofRow row) := by
  simp only [getByIDColumns, List.map_cons, List.map_nil, alertTargets]
  rw [Columns.scan_cons_ok (field_row readsType_text row .alertID rfl rfl "" _ _),
    Columns.scan_cons_ok (field_row readsType_text row .alertName rfl rfl "" _ _),
    Columns.scan_cons_ok (field_row readsType_text row .alertType rfl rfl "" _ _),
    Columns.scan_cons_ok (field_row readsType_text row .alertLevel rfl rfl "" _ _),
    Columns.scan_cons_ok (field_row readsType_bigint row .tenantID rfl rfl 0 _ _),
    Columns.scan_cons_ok (pointer_row readsType_bigint row .supplierID rfl _ _),
    Columns.scan_cons_ok (field_row readsType_text row .title rfl rfl "" _ _),
    Columns.scan_cons_ok (field_row readsType_text row .message rfl rfl "" _ _),
    Columns.scan_cons_ok (field_row readsType_text row .description rfl rfl "" _ _),
    Columns.scan_cons_ok (pointer_row readsType_text row .eventID rfl _ _),
    Columns.scan_cons_ok (pointer_row readsType_jsonb row .eventIDs rfl _ _),
    Columns.scan_cons_ok (field_row readsType_text row .triggerCondition rfl rfl "" _ _),
    Columns.scan_cons_ok (field_row readsType_double row .threshold rfl rfl 0 _ _),
    Columns.scan_cons_ok (field_row readsType_double row .currentValue rfl rfl 0 _ _),
    Columns.scan_cons_ok (field_row readsType_text row .status rfl rfl "" _ _),
    Columns.scan_cons_ok (pointer_row readsType_timestamptz row .resolvedAt rfl _ _),
    Columns.scan_cons_ok (pointer_row readsType_text row .resolvedBy rfl _ _),
    Columns.scan_cons_ok (pointer_row readsType_text row .resolveNote rfl _ _),
    Columns.scan_cons_ok (field_row readsType_boolean row .notifyEnabled rfl rfl false _ _),
    Columns.scan_cons_ok (pointer_row readsType_jsonb row .notifyChannels rfl _ _),
    Columns.scan_cons_ok (field_row readsType_timestamptz row .createdAt rfl rfl zeroTime _ _),
    Columns.scan_cons_ok (field_row readsType_timestamptz row .updatedAt rfl rfl zeroTime _ _),
    Columns.scan_cons_ok (field_row readsType_timestamptz row .firstSeenAt rfl rfl zeroTime _ _),
    Columns.scan_cons_ok (field_row readsType_timestamptz row .lastSeenAt rfl rfl zeroTime _ _),
    Columns.scan_cons_ok (pointer_row readsType_jsonb row .metadata rfl _ _),
    Columns.scan_cons_ok (pointer_row readsType_jsonb row .tags rfl _ _)]
  rfl

theorem map_ok_cases {ε α β : Type} {x : Except ε α} {f : α → β} {b : β} (h : x.map f = .ok b) :
    ∃ a, x = .ok a ∧ b = f a := by
  cases x with
  | error err => cases h
  | ok a => exact ⟨a, rfl, (Except.ok.inj h).symm⟩

mutual

/-- What `json.Marshal` writes of a value that was read into an `any`. -/
def marshalAny : Json → Json
  | .null => .null
  | .bool b => .bool b
  | .number f => .number (shortestDecimal f)
  | .string s => .string s
  | .array items => .array (marshalAnyItems items)
  | .object members => .object (marshalAnyMembers members)

def marshalAnyItems : List Json → List Json
  | [] => []
  | item :: items => marshalAny item :: marshalAnyItems items

def marshalAnyMembers : List (String × Json) → List (String × Json)
  | [] => []
  | (key, value) :: members => (key, marshalAny value) :: marshalAnyMembers members

end

mutual

/-- What has been decoded from JSON is read back as it was. -/
theorem unmarshalAny_marshalAny : ∀ j x, unmarshalAny j = .ok x → unmarshalAny (marshalAny x) = .ok x
  | .null, _, h => by cases h; rfl
  | .bool _, _, h => by cases h; rfl
  | .string _, _, h => by cases h; rfl
  | .number n, x, h => by
    rw [unmarshalAny, unmarshalNumber] at h
    split at h
    next f hf =>
      cases h
      rw [marshalAny, unmarshalAny, unmarshalNumber, parseFloat_shortestDecimal hf]
    next => cases h
  | .array items, x, h => by
    rw [unmarshalAny] at h
    obtain ⟨xs, hxs, rfl⟩ := map_ok_cases h
    rw [marshalAny, unmarshalAny, unmarshalItems_marshalAny items xs hxs]
    rfl
  | .object members, x, h => by
    rw [unmarshalAny] at h
    obtain ⟨xs, hxs, rfl⟩ := map_ok_cases h
    rw [marshalAny, unmarshalAny, unmarshalMembers_marshalAny members xs hxs]
    rfl

theorem unmarshalItems_marshalAny : ∀ items xs, unmarshalItems items = .ok xs →
    unmarshalItems (marshalAnyItems xs) = .ok xs
  | [], _, h => by cases h; rfl
  | item :: items, x, h => by
    rw [unmarshalItems] at h
    split at h
    next => cases h
    next y hy =>
      obtain ⟨ys, hys, rfl⟩ := map_ok_cases h
      rw [marshalAnyItems, unmarshalItems, unmarshalAny_marshalAny item y hy,
        unmarshalItems_marshalAny items ys hys]
      rfl

theorem unmarshalMembers_marshalAny : ∀ members xs, unmarshalMembers members = .ok xs →
    unmarshalMembers (marshalAnyMembers xs) = .ok xs
  | [], _, h => by cases h; rfl
  | (key, value) :: members, x, h => by
    rw [unmarshalMembers] at h
    split at h
    next => cases h
    next y hy =>
      obtain ⟨ys, hys, rfl⟩ := map_ok_cases h
      rw [marshalAnyMembers, unmarshalMembers, unmarshalAny_marshalAny value y hy,
        unmarshalMembers_marshalAny members ys hys]
      rfl

end

/-- A number that is written for a float64. -/
def floatNumeral (n : ℚ) : Bool := (parseFloat n).any (fun f => shortestDecimal f = n)

mutual

/-- Every number is written for a float64, as it is where the value was itself decoded from JSON. -/
def ofFloats : Json → Bool
  | .null | .bool _ | .string _ => true
  | .number n => floatNumeral n
  | .array items => ofFloatsItems items
  | .object members => ofFloatsMembers members

def ofFloatsItems : List Json → Bool
  | [] => true
  | item :: items => ofFloats item && ofFloatsItems items

def ofFloatsMembers : List (String × Json) → Bool
  | [] => true
  | (_, value) :: members => ofFloats value && ofFloatsMembers members

end

mutual

/-- Such a value is read as one that is written as it was. -/
theorem unmarshalAny_ofFloats : ∀ j, ofFloats j = true → ∃ x, unmarshalAny j = .ok x ∧ marshalAny x = j
  | .null, _ => ⟨.null, rfl, rfl⟩
  | .bool b, _ => ⟨.bool b, rfl, rfl⟩
  | .string s, _ => ⟨.string s, rfl, rfl⟩
  | .number n, h => by
    obtain ⟨f, hf, hn⟩ := (Option.any_eq_true _ _).mp h
    exact ⟨.number f, by rw [unmarshalAny, unmarshalNumber, hf], by rw [marshalAny, of_decide_eq_true hn]⟩
  | .array items, h => by
    obtain ⟨xs, hxs, hback⟩ := unmarshalItems_ofFloats items h
    exact ⟨.array xs, by rw [unmarshalAny, hxs]; rfl, by rw [marshalAny, hback]⟩
  | .object members, h => by
    obtain ⟨xs, hxs, hback⟩ := unmarshalMembers_ofFloats members h
    exact ⟨.object xs, by rw [unmarshalAny, hxs]; rfl, by rw [marshalAny, hback]⟩

theorem unmarshalItems_ofFloats : ∀ items, ofFloatsItems items = true →
    ∃ xs, unmarshalItems items = .ok xs ∧ marshalAnyItems xs = items
  | [], _ => ⟨[], rfl, rfl⟩
  | item :: items, h => by
    obtain ⟨hitem, hitems⟩ := Bool.and_eq_true_iff.mp h
    obtain ⟨x, hx, hback⟩ := unmarshalAny_ofFloats item hitem
    obtain ⟨xs, hxs, hbacks⟩ := unmarshalItems_ofFloats items hitems
    exact ⟨x :: xs, by rw [unmarshalItems, hx, hxs]; rfl, by rw [marshalAnyItems, hback, hbacks]⟩

theorem unmarshalMembers_ofFloats : ∀ members, ofFloatsMembers members = true →
    ∃ xs, unmarshalMembers members = .ok xs ∧ marshalAnyMembers xs = members
  | [], _ => ⟨[], rfl, rfl⟩
  | (key, value) :: members, h => by
    obtain ⟨hvalue, hmembers⟩ := Bool.and_eq_true_iff.mp h
    obtain ⟨x, hx, hback⟩ := unmarshalAny_ofFloats value hvalue
    obtain ⟨xs, hxs, hbacks⟩ := unmarshalMembers_ofFloats members hmembers
    exact ⟨(key, x) :: xs, by rw [unmarshalMembers, hx, hxs]; rfl, by rw [marshalAnyMembers, hback, hbacks]⟩

end

/-- The four texts are read back as the collections of the alert, with the metadata given. -/
structure AlertJSON.Reads (json : AlertJSON) (alert : Alert V) (metadata : List (String × Json)) : Prop where
  eventIDs : unmarshalJSONSlice (some json.eventIDs) = .ok alert.eventIDs
  notifyChannels : unmarshalJSONSlice (some json.notifyChannels) = .ok alert.notifyChannels
  metadata : unmarshalJSONMap (some json.metadata) = .ok metadata
  tags : unmarshalJSONSlice (some json.tags) = .ok alert.tags

theorem unmarshalTexts_strings (texts : List String) : unmarshalTexts (texts.map .string) = .ok texts := by
  induction texts with
  | nil => rfl
  | cons text texts ih => rw [List.map_cons, unmarshalTexts, ih, Except.map]

/-- A nil slice, which is written as null, is read as the empty one. -/
theorem unmarshalJSONSlice_marshal {isNil : Bool} {texts : List String} (h : isNil = true → texts = []) :
    unmarshalJSONSlice (some (marshalJSONOrDefault isNil (.array (texts.map .string)))) = .ok texts := by
  cases isNil with
  | true =>
    rw [h rfl]
    rfl
  | false => exact unmarshalTexts_strings texts

theorem unmarshalJSONMap_marshal {isNil : Bool} {members : List (String × Json)}
    (h : isNil = true → members = []) :
    unmarshalJSONMap (some (marshalJSONOrDefault isNil (.object members))) = unmarshalMembers members := by
  cases isNil with
  | true =>
    rw [h rfl]
    rfl
  | false => rfl

theorem reads_of_marshal {toJSON : V → Except String Json} {given : GivenAlert V} {json : AlertJSON}
    (h : given.marshalCollections toJSON = .ok json) :
    ∃ metadata, marshalMembers toJSON given.alert.metadata = .ok metadata ∧
      ∀ read, unmarshalMembers metadata = .ok read → json.Reads given.alert read := by
  unfold GivenAlert.marshalCollections at h
  split at h
  next => cases h
  next members hmembers =>
    cases h
    have hnil : given.nilMetadata = true → members = [] := by
      intro hnil
      rw [given.metadata_of_nil hnil, marshalMembers] at hmembers
      exact (Except.ok.inj hmembers).symm
    refine ⟨members, hmembers, fun read hread => ?_⟩
    exact ⟨unmarshalJSONSlice_marshal given.eventIDs_of_nil,
      unmarshalJSONSlice_marshal given.notifyChannels_of_nil, (unmarshalJSONMap_marshal hnil).trans hread,
      unmarshalJSONSlice_marshal given.tags_of_nil⟩

theorem toText_nullableString (x : String) :
    ((nullableString x).stored.toText).getD "" = x := by
  unfold nullableString
  split
  next h => exact h.symm
  next => rfl

theorem toInt64_nullableInt64 (n : Int) : ((nullableInt64 n).stored.toInt64).getD 0 = n := by
  unfold nullableInt64
  split
  next h => exact h.symm
  next => rfl

theorem toTime_timePointer (t : Option Time) :
    (timePointer t).stored.toTime = t.map (fun t => microseconds t * 1000) := by
  cases t with
  | none => rfl
  | some t => rfl

theorem scanAlert_row (row : AlertRow) :
    scanAlert (getByIDColumns.map row.value) = (Scanned.ofRow row).decode := by
  rw [scanAlert, scan_row, Except.bind]

/-- What is read of a row that has been written from an alert is the alert, its times in microseconds. -/
theorem decode_written {row : AlertRow} {alert : Alert V} {json : AlertJSON}
    {metadata : List (String × Json)}
    (hrow : ∀ column, row.value column = (AlertColumn.source alert json column).stored)
    (h : json.Reads alert metadata) : (Scanned.ofRow row).decode = .ok (alert.asJSON metadata).row := by
  have hscanned : (Scanned.ofRow row).eventIDsJSON = some json.eventIDs ∧
      (Scanned.ofRow row).notifyJSON = some json.notifyChannels ∧
      (Scanned.ofRow row).metadataJSON = some json.metadata ∧
      (Scanned.ofRow row).tagsJSON = some json.tags := by
    simp only [Scanned.ofRow, hrow]
    exact ⟨rfl, rfl, rfl, rfl⟩
  obtain ⟨heventIDs, hnotify, hmetadata, htags⟩ := hscanned
  simp only [Scanned.decode, heventIDs, hnotify, hmetadata, htags, h.eventIDs, h.notifyChannels, h.metadata,
    h.tags, named, Except.bind]
  simp only [Scanned.ofRow, hrow, AlertColumn.source, zeroAlert, toText_nullableString, toInt64_nullableInt64,
    toTime_timePointer]
  rfl

theorem bind_ok_cases {α β : Type} {x : Except String α} {f : α → Except String β} {b : β}
    (h : x.bind f = .ok b) : ∃ a, x = .ok a ∧ f a = .ok b := by
  cases x with
  | error err => cases h
  | ok a => exact ⟨a, rfl, h⟩

/-- What is decoded of the variables: only the collections are still to be read. -/
theorem decode_ok {s : Scanned} {alert : Alert Json} (h : s.decode = .ok alert) :
    ∃ eventIDs notifyChannels metadata tags, alert =
      { s.alert with
        supplierID := s.supplierID.getD s.alert.supplierID, eventID := s.eventID.getD s.alert.eventID
        resolvedBy := s.resolvedBy.getD s.alert.resolvedBy
        resolveNote := s.resolveNote.getD s.alert.resolveNote, resolvedAt := s.resolvedAt
        eventIDs := eventIDs, notifyChannels := notifyChannels, metadata := metadata, tags := tags } := by
  obtain ⟨eventIDs, -, h⟩ := bind_ok_cases h
  obtain ⟨notifyChannels, -, h⟩ := bind_ok_cases h
  obtain ⟨metadata, -, h⟩ := bind_ok_cases h
  obtain ⟨tags, -, h⟩ := bind_ok_cases h
  exact ⟨eventIDs, notifyChannels, metadata, tags, (Except.ok.inj h).symm⟩

theorem AlertRow.value_alertID (row : AlertRow) : row.value .alertID = .text row.alertID := by
  have hadmits := row.admitted .alertID
  unfold AlertRow.alertID
  split
  next s hvalue => exact hvalue
  next hother =>
    cases hvalue : row.value .alertID with
    | text s => exact absurd hvalue (hother s)
    | _ => simp [hvalue, AlertColumn.admits, AlertColumn.nullable, AlertColumn.type] at hadmits

theorem AlertRow.storable_alertID (row : AlertRow) : storableText row.alertID = true := by
  have hadmits := row.admitted .alertID
  rw [row.value_alertID, AlertColumn.admits, Bool.and_eq_true] at hadmits
  exact hadmits.2

theorem AlertRow.exists_createdAt (row : AlertRow) : ∃ us, row.value .createdAt = .timestamptz us := by
  have hadmits := row.admitted .createdAt
  cases hvalue : row.value .createdAt with
  | timestamptz us => exact ⟨us, rfl⟩
  | _ => simp [hvalue, AlertColumn.admits, AlertColumn.nullable, AlertColumn.type] at hadmits

/-- The id that is read is the key of the row. -/
theorem alertID_ofRow {row : AlertRow} {alert : Alert Json} (h : (Scanned.ofRow row).decode = .ok alert) :
    alert.alertID = row.alertID := by
  obtain ⟨_, _, _, _, rfl⟩ := decode_ok h
  simp only [Scanned.ofRow, row.value_alertID]
  rfl

theorem createdAt_ofRow {row : AlertRow} {alert : Alert Json} {us : Int}
    (hcreated : row.value .createdAt = .timestamptz us) (h : (Scanned.ofRow row).decode = .ok alert) :
    alert.createdAt = us * 1000 := by
  obtain ⟨_, _, _, _, rfl⟩ := decode_ok h
  simp only [Scanned.ofRow, hcreated]
  rfl

end

end SupplyPlatform.Alerts
