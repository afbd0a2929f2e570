import SupplyPlatform.AlertReadBack
import SupplyPlatform.Lib.Related

namespace SupplyPlatform.Alerts

open Settlements (zeroTime)
open Iam (storableText)
open Audit (microseconds Json)
open Strings Relational

section

variable {V : Type} {toJSON : V → Except String Json} {codec : MetadataCodec V}

/-- What `json.Marshal` writes of the metadata is their JSON, and JSONB takes the text as it takes the
value. -/
structure MetadataCodec.Writes (codec : MetadataCodec V) (toJSON : V → Except String Json) : Prop where
  refused : ∀ members err, marshalMembers toJSON members = .error err → codec.marshal members = .error err
  written : ∀ members json, marshalMembers toJSON members = .ok json →
    ∃ text, codec.marshal members = .ok text ∧ codec.jsonb text = jsonbTakesMembers json

/-- An alert as it is read: its metadata are what is read of their JSON, and have that JSON again. -/
def ReadAs (toJSON : V → Except String Json) (alert : Alert Json) (stored : Alert V) : Prop :=
  ∃ json metadata, marshalMembers toJSON stored.metadata = .ok json ∧ unmarshalMembers json = .ok metadata ∧
    marshalAnyMembers metadata = json ∧ alert = stored.asJSON metadata

/-- The numbers in the metadata are float64s. -/
def GivenAlert.OfFloats (toJSON : V → Except String Json) (given : GivenAlert V) : Prop :=
  ∀ json, marshalMembers toJSON given.alert.metadata = .ok json → ofFloatsMembers json = true

/-- What is read of the row is the alert. -/
def Shows (toJSON : V → Except String Json) (row : AlertRow) (stored : Alert V) : Prop :=
  ∃ alert, (Scanned.ofRow row).decode = .ok alert ∧ ReadAs toJSON alert stored

/-- The table of the columns has the rows of the table of the alerts. -/
def Represents (toJSON : V → Except String Json) (t : AlertRows) (a : AlertTable V) : Prop :=
  List.Forall₂ (Shows toJSON) t.rows a.rows

/-- Whether the database takes an argument: a text has no NUL character. -/
def GoArg.takes : GoArg → Bool
  | .string s => storableText s
  | .json j => jsonbTakes j
  | _ => true

/-- Whether an argument is of the Go type that a column takes. -/
def GoArg.fits : GoArg → ColumnType → Bool
  | .nil, _ | .string _, .text | .int64 _, .bigint | .float64 _, .double | .bool _, .boolean
  | .time _, .timestamptz | .json _, .jsonb => true
  | _, _ => false

theorem takes_nullableString (s : String) : (nullableString s).takes = storableText s := by
  unfold nullableString
  split
  next h =>
    subst h
    rfl
  next => rfl

theorem takes_nullableInt64 (n : Int) : (nullableInt64 n).takes = true := by
  unfold nullableInt64
  split <;> rfl

theorem takes_timePointer (t : Option Time) : (timePointer t).takes = true := by
  cases t <;> rfl

theorem jsonbTakesAll_strings (texts : List String) :
    jsonbTakesAll (texts.map .string) = texts.all storableText := by
  induction texts with
  | nil => rfl
  | cons text texts ih => rw [List.map_cons, jsonbTakesAll, jsonbTakes, ih, List.all_cons]

theorem jsonbTakes_slice {isNil : Bool} {texts : List String} (h : isNil = true → texts = []) :
    jsonbTakes (marshalJSONOrDefault isNil (.array (texts.map .string))) = texts.all storableText := by
  cases isNil with
  | true =>
    rw [h rfl]
    rfl
  | false => exact jsonbTakesAll_strings texts

/-- Every argument is of the type of its column. -/
theorem source_fits (alert : Alert V) (json : AlertJSON) (column : AlertColumn) :
    (AlertColumn.source alert json column).fits column.type = true := by
  have hstring (s : String) : (nullableString s).fits .text = true := by
    unfold nullableString
    split <;> rfl
  have hint (n : Int) : (nullableInt64 n).fits .bigint = true := by
    unfold nullableInt64
    split <;> rfl
  have htime (t : Option Time) : (timePointer t).fits .timestamptz = true := by
    cases t <;> rfl
  cases column
  case supplierID => exact hint _
  case eventID | resolvedBy | resolveNote => exact hstring _
  case resolvedAt => exact htime _
  all_goals rfl

/-- Only a NUL character is refused. -/
theorem encode_fits (context : String) {column : AlertColumn} {arg : GoArg} (h : arg.fits column.type = true) :
    encode context column arg =
      if arg.takes then .ok arg.stored else .error (encodingError context) := by
  unfold encode
  cases arg <;> cases htype : column.type <;> rw [htype] at h <;> first | rfl | cases h

/-- What the database makes of the four texts. -/
structure AlertJSON.TakenAs (json : AlertJSON) (codec : MetadataCodec V) (alert : Alert V) : Prop where
  eventIDs : jsonbTakes json.eventIDs = alert.eventIDs.all storableText
  notifyChannels : jsonbTakes json.notifyChannels = alert.notifyChannels.all storableText
  metadata : ∃ text, codec.marshal alert.metadata = .ok text ∧ codec.jsonb text = jsonbTakes json.metadata
  tags : jsonbTakes json.tags = alert.tags.all storableText

theorem takenAs_of_marshal (hcodec : codec.Writes toJSON) {given : GivenAlert V} {json : AlertJSON}
    (h : given.marshalCollections toJSON = .ok json) : json.TakenAs codec given.alert := by
  unfold GivenAlert.marshalCollections at h
  split at h
  next => cases h
  next members hmembers =>
    cases h
    obtain ⟨text, htext, hjsonb⟩ := hcodec.written _ _ hmembers
    refine ⟨jsonbTakes_slice given.eventIDs_of_nil, jsonbTakes_slice given.notifyChannels_of_nil,
      ⟨text, htext, ?_⟩, jsonbTakes_slice given.tags_of_nil⟩
    rw [hjsonb]
    cases hnil : given.nilMetadata with
    | true =>
      rw [given.metadata_of_nil hnil, marshalMembers] at hmembers
      cases hmembers
      rfl
    | false => rfl

theorem marshal_refused (hcodec : codec.Writes toJSON) {given : GivenAlert V} {err : RepoError}
    (h : given.marshalCollections toJSON = .error err) : marshalAlertCollections codec given.alert = .error err := by
  unfold GivenAlert.marshalCollections at h
  split at h
  next cause hmembers =>
    cases h
    rw [marshalAlertCollections, hcodec.refused _ _ hmembers]
  next => cases h

theorem takenAs_withDefaults {json : AlertJSON} {alert : Alert V} (h : json.TakenAs codec alert) (r : Reading) :
    json.TakenAs codec (alert.withDefaults r) :=
  ⟨h.eventIDs, h.notifyChannels, h.metadata, h.tags⟩

/-- An alert is stored just where each column takes its argument. -/
theorem storable_iff {alert : Alert V} {json : AlertJSON} (h : json.TakenAs codec alert) :
    alert.storable codec = true ↔ ∀ column, (AlertColumn.source alert json column).takes = true := by
  obtain ⟨text, htext, hjsonb⟩ := h.metadata
  have hcolumns : (∀ column, (AlertColumn.source alert json column).takes = true) ↔
      ∀ column ∈ AlertColumn.all, (AlertColumn.source alert json column).takes = true :=
    ⟨fun h column _ => h column, fun h column => h column column.mem_all⟩
  rw [hcolumns]
  simp only [Alert.storable, marshalAlertCollections, htext, hjsonb, Alert.texts, List.all_append,
    List.all_cons, List.all_nil, Bool.and_eq_true, Bool.and_true, ← h.eventIDs, ← h.notifyChannels, ← h.tags,
    AlertColumn.all, List.forall_mem_cons, AlertColumn.source, takes_nullableString, takes_nullableInt64,
    takes_timePointer]
  simp only [GoArg.takes, List.not_mem_nil, IsEmpty.forall_iff, implies_true, and_true, true_and]
  constructor
  · rintro ⟨⟨⟨⟨⟨hid, hname, htype, hlevel, htitle, hmessage, hdescription, hevent, htrigger, hstatus, hby,
      hnote⟩, hevents⟩, hchannels⟩, htags⟩, hmetadata⟩
    exact ⟨hid, hname, htype, hlevel, htitle, hmessage, hdescription, hevent, hevents, htrigger, hstatus, hby,
      hnote, hchannels, hmetadata, htags⟩
  · rintro ⟨hid, hname, htype, hlevel, htitle, hmessage, hdescription, hevent, hevents, htrigger, hstatus, hby,
      hnote, hchannels, hmetadata, htags⟩
    exact ⟨⟨⟨⟨⟨hid, hname, htype, hlevel, htitle, hmessage, hdescription, hevent, htrigger, hstatus, hby,
      hnote⟩, hevents⟩, hchannels⟩, htags⟩, hmetadata⟩

theorem encode_admits {context : String} {column : AlertColumn} {arg : GoArg} {value : SqlValue}
    (h : encode context column arg = .ok value) (hnil : arg = .nil → column.nullable = true) :
    column.admits value = true := by
  unfold encode at h
  split at h
  next =>
    cases h
    exact hnil rfl
  next htype =>
    split at h
    next hstorable =>
      cases h
      simp [AlertColumn.admits, htype, hstorable]
    next => cases h
  next htype =>
    cases h
    simp [AlertColumn.admits, htype]
  next htype =>
    cases h
    simp [AlertColumn.admits, htype]
  next htype =>
    cases h
    simp [AlertColumn.admits, htype]
  next htype =>
    cases h
    simp [AlertColumn.admits, htype]
  next htype =>
    split at h
    next hstorable =>
      cases h
      simp [AlertColumn.admits, htype, hstorable]
    next => cases h
  next => cases h

theorem nullable_of_source {alert : Alert V} {json : AlertJSON} {column : AlertColumn}
    (h : AlertColumn.source alert json column = .nil) : column.nullable = true := by
  cases column <;> first | rfl | cases h

theorem bind_takes {alert : Alert V} {json : AlertJSON} {args : List GoArg} {settings : List (AlertColumn × Nat)}
    (h : Columns.Pairs (AlertColumn.source alert json) args settings)
    (htakes : ∀ p ∈ settings, (AlertColumn.source alert json p.1).takes = true) (context : String) :
    ∃ values, Columns.bind (encode context) (wrongTypeError context) args settings = .ok values := by
  refine (Columns.bind_isOk_iff h).mpr (fun p hp => ?_)
  rw [encode_fits context (source_fits alert json p.1), if_pos (htakes p hp)]
  exact ⟨_, rfl⟩

theorem bind_refuses {alert : Alert V} {json : AlertJSON} {args : List GoArg}
    {settings : List (AlertColumn × Nat)} (h : Columns.Pairs (AlertColumn.source alert json) args settings)
    (hnot : ¬∀ p ∈ settings, (AlertColumn.source alert json p.1).takes = true) (context : String) :
    Columns.bind (encode context) (wrongTypeError context) args settings =
      .error (encodingError context) := by
  have hencode := fun column => encode_fits context (source_fits alert json column)
  cases hbind : Columns.bind (encode context) (wrongTypeError context) args settings with
  | ok values =>
    refine absurd (fun p hp => ?_) hnot
    obtain ⟨value, hvalue⟩ := (Columns.bind_isOk_iff h).mp ⟨values, hbind⟩ p hp
    by_contra hrefused
    rw [hencode, if_neg hrefused] at hvalue
    cases hvalue
  | error err =>
    refine congrArg Except.error (Columns.error_of_bind h (fun p _ err herr => ?_) hbind)
    rw [hencode] at herr
    split at herr
    next => cases herr
    next => exact (Except.error.inj herr).symm

namespace AlertRows

theorem insertedRow_of_takes {alert : Alert V} {json : AlertJSON}
    (h : ∀ column, (AlertColumn.source alert json column).takes = true) :
    ∃ row, insertedRow alert json = .ok row := by
  obtain ⟨values, hvalues⟩ := bind_takes (insert_pairs alert json) (fun p _ => h p.1) "create alert"
  have hadmits : ∀ column ∈ AlertColumn.all,
      column.admits (Columns.set values AlertColumn.default column) = true := fun column _ =>
    encode_admits (Columns.set_of_mem (insert_pairs alert json) hvalues (mem_insertSettings column) _)
      nullable_of_source
  exact ⟨⟨_, fun column => hadmits column column.mem_all⟩, by
    simp only [insertedRow, hvalues, AlertRow.of?, dif_pos hadmits]⟩

theorem insertedRow_of_not_takes {alert : Alert V} {json : AlertJSON}
    (h : ¬∀ column, (AlertColumn.source alert json column).takes = true) :
    insertedRow alert json = .error (encodingError "create alert") := by
  rw [insertedRow, bind_refuses (insert_pairs alert json) (fun hall => h (fun column => ?_))]
  obtain ⟨p, hp, rfl⟩ := List.mem_map.mp (mem_insertSettings column)
  exact hall p hp

theorem setChange_of_takes {alert : Alert V} {json : AlertJSON}
    (h : ∀ column, (AlertColumn.source alert json column).takes = true) :
    ∃ change, setChange alert json = .ok change := by
  obtain ⟨values, hvalues⟩ := bind_takes (update_pairs alert json) (fun p _ => h p.1) "update alert"
  have hadmits : ∀ p ∈ values, p.1.admits p.2 = true := fun p hp =>
    encode_admits (Columns.encode_of_mem_bind (update_pairs alert json) hvalues hp) nullable_of_source
  have hid : (values.lookup .alertID).isNone = true := by
    have hlookup := Columns.lookup_of_bind (update_pairs alert json) hvalues .alertID
    rw [if_neg (fun hmem => ((mem_updateSettings _).mp hmem).1 rfl)] at hlookup
    rw [hlookup]
    rfl
  exact ⟨⟨values, hadmits, hid⟩, by
    simp only [setChange, hvalues, AlertChange.of?, dif_pos hadmits, dif_pos hid]⟩

/-- An UPDATE is refused by its WHERE or by what it sets, with the same error. -/
theorem update_refused {alert : Alert V} {json : AlertJSON}
    (h : ¬∀ column, (AlertColumn.source alert json column).takes = true) :
    whereID "update alert" (updateArgs alert json) = .error (encodingError "update alert") ∨
      whereID "update alert" (updateArgs alert json) = .ok alert.alertID ∧
        setChange alert json = .error (encodingError "update alert") := by
  have hwhere : whereID "update alert" (updateArgs alert json) =
      if storableText alert.alertID then .ok alert.alertID else .error (encodingError "update alert") := rfl
  by_cases hid : storableText alert.alertID = true
  · refine .inr ⟨by rw [hwhere, if_pos hid], ?_⟩
    rw [setChange, bind_refuses (update_pairs alert json) (fun hall => h (fun column => ?_))]
    by_cases hkept : column = .alertID ∨ column = .createdAt
    · rcases hkept with rfl | rfl
      · exact hid
      · rfl
    · obtain ⟨p, hp, rfl⟩ := List.mem_map.mp ((mem_updateSettings column).mpr (not_or.mp hkept))
      exact hall p hp
  · exact .inl (by rw [hwhere, if_neg hid])

theorem shows_alertID {row : AlertRow} {stored : Alert V} (h : Shows toJSON row stored) :
    row.alertID = stored.alertID := by
  obtain ⟨alert, hdecode, _, metadata, -, -, -, rfl⟩ := h
  exact (alertID_ofRow hdecode).symm

theorem apart_iff (a b : AlertRow) (a' b' : Alert V) (ha : Shows toJSON a a') (hb : Shows toJSON b b') :
    a.alertID ≠ b.alertID ↔ a'.alertID ≠ b'.alertID := by
  rw [shows_alertID ha, shows_alertID hb]

theorem rel_lookup_alert {t : AlertRows} {a : AlertTable V} (h : Represents toJSON t a) (id : String) :
    Option.Rel (Shows toJSON) (Keyed.lookup t id) (Keyed.lookup a id) :=
  rel_lookup (fun _ _ hshows => shows_alertID hshows) h id

/-- What is read of the metadata of an alert. -/
structure MetadataRead (toJSON : V → Except String Json) (alert : Alert V) (json : AlertJSON)
    (metadata : List (String × Json)) : Prop where
  reads : json.Reads alert metadata
  again : marshalMembers toJSON alert.metadata = .ok (marshalAnyMembers metadata)
  unmarshal : unmarshalMembers (marshalAnyMembers metadata) = .ok metadata

theorem metadataRead_of_marshal {given : GivenAlert V} {json : AlertJSON} (hfloats : given.OfFloats toJSON)
    (h : given.marshalCollections toJSON = .ok json) :
    ∃ metadata, MetadataRead toJSON given.alert json metadata := by
  obtain ⟨written, hwritten, hreads⟩ := reads_of_marshal h
  obtain ⟨metadata, hread, rfl⟩ := unmarshalMembers_ofFloats written (hfloats written hwritten)
  exact ⟨metadata, hreads metadata hread, hwritten, hread⟩

theorem insertedRow_shows {alert : Alert V} {json : AlertJSON} {metadata : List (String × Json)}
    {row : AlertRow} (hrow : insertedRow alert json = .ok row) (h : MetadataRead toJSON alert json metadata) :
    Shows toJSON row alert.row :=
  ⟨_, decode_written (insertedRow_value hrow) h.reads, _, metadata, h.again, h.unmarshal, rfl, rfl⟩

/-- Over the columns `Create` does what it does over the alerts. -/
theorem create_refines (hcodec : codec.Writes toJSON) {t : AlertRows} {a : AlertTable V}
    (h : Represents toJSON t a) (r : Reading) (given : Option (GivenAlert V))
    (hfloats : ∀ g ∈ given, g.OfFloats toJSON) :
    (create toJSON t r given).2 = (AlertTable.create codec a r (given.map GivenAlert.alert)).2 ∧
      Represents toJSON (create toJSON t r given).1
        (AlertTable.create codec a r (given.map GivenAlert.alert)).1 := by
  cases given with
  | none => exact ⟨rfl, h⟩
  | some given =>
    simp only [create, AlertTable.create, Option.map_some]
    cases hmarshal : given.marshalCollections toJSON with
    | error err =>
      have hrefused : marshalAlertCollections codec (given.alert.withDefaults r) = .error err :=
        marshal_refused hcodec hmarshal
      simp only [hrefused]
      exact ⟨trivial, h⟩
    | ok json =>
      have htaken := takenAs_withDefaults (takenAs_of_marshal hcodec hmarshal) r
      obtain ⟨text, htext, -⟩ := htaken.metadata
      obtain ⟨metadata, hread⟩ := metadataRead_of_marshal (hfloats given rfl) hmarshal
      simp only [marshalAlertCollections, htext]
      by_cases hs : (given.alert.withDefaults r).storable codec = true
      · obtain ⟨row, hrow⟩ := insertedRow_of_takes ((storable_iff htaken).mp hs)
        have hshows : Shows toJSON row (given.alert.withDefaults r).row :=
          insertedRow_shows hrow ⟨reads_withDefaults hread.reads r, hread.again, hread.unmarshal⟩
        have hinsert := rel_insert apart_iff h hshows
        simp only [hrow, if_pos hs]
        generalize t.insert row = u at hinsert
        generalize a.insert (given.alert.withDefaults r).row = u' at hinsert
        cases hinsert with
        | none => exact ⟨rfl, h⟩
        | some hrows => exact ⟨rfl, hrows⟩
      · have hrefused := insertedRow_of_not_takes (mt (storable_iff htaken).mpr hs)
        simp only [hrefused, if_neg hs]
        exact ⟨trivial, h⟩

/-- What an UPDATE leaves of a row shows what it leaves of the alert. -/
theorem change_shows {alert stored : Alert V} {json : AlertJSON} {metadata : List (String × Json)}
    {change : AlertChange} {row : AlertRow} (hchange : setChange alert json = .ok change)
    (h : MetadataRead toJSON alert json metadata) (hshows : Shows toJSON row stored)
    (hid : row.alertID = alert.alertID) : Shows toJSON (change.apply row) (alert.overwrite stored) := by
  obtain ⟨us, hus⟩ := row.exists_createdAt
  have hkeep : stored.alertID = alert.alertID := (shows_alertID hshows).symm.trans hid
  obtain ⟨read, hdecode, _, _, -, -, -, rfl⟩ := hshows
  have hcreated : stored.createdAt = us * 1000 := createdAt_ofRow hus hdecode
  have hmicro : microseconds (us * 1000) = us := Int.mul_ediv_cancel us (by decide)
  have hupdated : json.Reads { alert with createdAt := us * 1000 } metadata :=
    ⟨h.reads.eventIDs, h.reads.notifyChannels, h.reads.metadata, h.reads.tags⟩
  refine ⟨_, decode_written (change_value hchange hid hus) hupdated, _, metadata, h.again, h.unmarshal, rfl, ?_⟩
  simp only [Alert.overwrite, Alert.asJSON, Alert.row, hkeep, hcreated, hmicro]

/-- Over the columns `Update` does what it does over the alerts. -/
theorem update_refines (hcodec : codec.Writes toJSON) {t : AlertRows} {a : AlertTable V}
    (h : Represents toJSON t a) (r : Reading) (given : Option (GivenAlert V))
    (hfloats : ∀ g ∈ given, g.OfFloats toJSON) :
    (update toJSON t r given).2 = (AlertTable.update codec a r (given.map GivenAlert.alert)).2 ∧
      Represents toJSON (update toJSON t r given).1
        (AlertTable.update codec a r (given.map GivenAlert.alert)).1 := by
  cases given with
  | none => exact ⟨rfl, h⟩
  | some given =>
    by_cases hempty : given.alert.alertID = ""
    · simp only [update, AlertTable.update, Option.map_some, if_pos hempty]
      exact ⟨trivial, h⟩
    simp only [update, AlertTable.update, Option.map_some, if_neg hempty]
    rw [← updated]
    cases hmarshal : given.marshalCollections toJSON with
    | error err =>
      have hrefused : marshalAlertCollections codec (updated given.alert r) = .error err :=
        marshal_refused hcodec hmarshal
      simp only [hrefused]
      exact ⟨trivial, h⟩
    | ok json =>
      have hgiven := takenAs_of_marshal hcodec hmarshal
      have htaken : json.TakenAs codec (updated given.alert r) :=
        ⟨hgiven.eventIDs, hgiven.notifyChannels, hgiven.metadata, hgiven.tags⟩
      obtain ⟨text, htext, -⟩ := htaken.metadata
      obtain ⟨metadata, hread⟩ := metadataRead_of_marshal (hfloats given rfl) hmarshal
      have hupdated : MetadataRead toJSON (updated given.alert r) json metadata :=
        ⟨⟨hread.reads.eventIDs, hread.reads.notifyChannels, hread.reads.metadata, hread.reads.tags⟩,
          hread.again, hread.unmarshal⟩
      simp only [marshalAlertCollections, htext]
      by_cases hs : (updated given.alert r).storable codec = true
      · have htakes := (storable_iff htaken).mp hs
        obtain ⟨change, hchange⟩ := setChange_of_takes htakes
        have hwhere : whereID "update alert" (updateArgs (updated given.alert r) json) =
            .ok (updated given.alert r).alertID := if_pos (htakes .alertID)
        have hlookup := rel_lookup_alert h (updated given.alert r).alertID
        simp only [hwhere, hchange, if_pos hs]
        generalize hrow : Keyed.lookup t (updated given.alert r).alertID = row at hlookup
        generalize hstored : Keyed.lookup a (updated given.alert r).alertID = stored at hlookup
        cases hlookup with
        | none => exact ⟨rfl, h⟩
        | some hshows =>
          refine ⟨rfl, rel_updateWhere change.apply_apart (AlertTable.overwrite_apart _)
            (fun b b' hb => by rw [shows_alertID hb]) (fun b b' hb hid => ?_) h⟩
          exact change_shows hchange hupdated hb (of_decide_eq_true hid)
      · have hnot := mt (storable_iff htaken).mpr hs
        simp only [if_neg hs]
        rcases update_refused hnot with hrefused | ⟨hwhere, hrefused⟩
        · simp only [hrefused]
          exact ⟨trivial, h⟩
        · simp only [hwhere, hrefused]
          exact ⟨trivial, h⟩

/-- Two calls end alike: with the same error, or with results that are related. -/
def Alike {α β : Type} (R : α → β → Prop) (x : Except RepoError α) (y : Except RepoError β) : Prop :=
  (∃ err, x = .error err ∧ y = .error err) ∨ ∃ a b, x = .ok a ∧ y = .ok b ∧ R a b

theorem getByID_refines {t : AlertRows} {a : AlertTable V} (h : Represents toJSON t a) (id : String) :
    Alike (ReadAs toJSON) (getByID t id) (AlertTable.getByID a id) := by
  by_cases hid : storableText id = true
  · have hlookup := rel_lookup_alert h id
    rw [AlertTable.getByID, if_pos hid]
    generalize hstored : Keyed.lookup a id = stored at hlookup
    generalize hrow : Keyed.lookup t id = row at hlookup
    cases hlookup with
    | none => exact .inl ⟨_, by rw [getByID, if_pos hid, hrow], rfl⟩
    | some hshows =>
      obtain ⟨alert, hdecode, hread⟩ := hshows
      exact .inr ⟨alert, _, getByID_of_lookup hrow hdecode, rfl, hread⟩
  · exact .inl ⟨_, if_neg hid, if_neg hid⟩

/-- What the conditions of `List` read of a row. -/
structure FilteredAs (row : AlertRow) (stored : Alert V) : Prop where
  tenantID : (row.value .tenantID).toInt64 = some stored.tenantID
  supplierID : ((row.value .supplierID).toInt64).getD 0 = stored.supplierID
  alertType : (row.value .alertType).toText = some stored.alertType
  alertLevel : (row.value .alertLevel).toText = some stored.alertLevel
  status : (row.value .status).toText = some stored.status
  title : (row.value .title).toText = some stored.title
  message : (row.value .message).toText = some stored.message
  createdAt : ∃ us, created row = some us ∧ stored.createdAt = us * 1000

theorem filteredAs_of_shows {row : AlertRow} {stored : Alert V} (h : Shows toJSON row stored) :
    FilteredAs row stored := by
  obtain ⟨alert, hdecode, _, metadata, -, -, -, rfl⟩ := h
  obtain ⟨us, hus⟩ := row.exists_createdAt
  obtain ⟨_, _, _, _, hread⟩ := decode_ok hdecode
  have htext {column : AlertColumn} (htype : column.type = .text) (hnull : column.nullable = false)
      {s : String} (hs : s = ((row.value column).toText).getD "") : (row.value column).toText = some s := by
    obtain ⟨x, hx⟩ := exists_read readsType_text row htype hnull
    rw [hs, hx, Option.getD_some]
  refine
    { tenantID := ?_
      supplierID := (congrArg Alert.supplierID hread).symm
      alertType := htext rfl rfl (congrArg Alert.alertType hread)
      alertLevel := htext rfl rfl (congrArg Alert.alertLevel hread)
      status := htext rfl rfl (congrArg Alert.status hread)
      title := htext rfl rfl (congrArg Alert.title hread)
      message := htext rfl rfl (congrArg Alert.message hread)
      createdAt := ⟨us, by rw [created, hus], createdAt_ofRow hus hdecode⟩ }
  have htenant : stored.tenantID = ((row.value .tenantID).toInt64).getD 0 := congrArg Alert.tenantID hread
  obtain ⟨n, hn⟩ := exists_read readsType_bigint row (show AlertColumn.tenantID.type = .bigint from rfl) rfl
  rw [htenant, hn, Option.getD_some]

theorem supplierID_of_mem {lower : Char → Char} {filter : AlertFilter} {id : Int}
    (h : .supplierID id ∈ filter.conditions lower) : id ≠ 0 := by
  simp only [AlertFilter.conditions, List.mem_append] at h
  have hpos : filter.supplierID > 0 ∧ id = filter.supplierID := by
    split_ifs at h <;> simp_all
  omega

/-- A condition holds of a row where it holds of the alert; of no supplier it never does. -/
theorem holds_eq (db : Locale) {row : AlertRow} {stored : Alert V} (h : FilteredAs row stored)
    {condition : AlertCondition} (hsupplier : ∀ id, condition = .supplierID id → id ≠ 0) :
    holds db row condition = condition.holds db stored := by
  obtain ⟨us, hus, hcreated⟩ := h.createdAt
  have hmicro : microseconds stored.createdAt = us := by
    rw [hcreated]
    exact Int.mul_ediv_cancel us (by decide)
  cases condition with
  | supplierID id =>
    have hid := hsupplier id rfl
    rw [holds, AlertCondition.holds, ← h.supplierID]
    cases (row.value .supplierID).toInt64 with
    | none => simp [Ne.symm hid]
    | some n => simp
  | tenantID id => simp [holds, AlertCondition.holds, h.tenantID]
  | alertType type => simp [holds, AlertCondition.holds, h.alertType]
  | alertLevel level => simp [holds, AlertCondition.holds, h.alertLevel]
  | status value => simp [holds, AlertCondition.holds, h.status]
  | createdFrom t => simp [holds, AlertCondition.holds, hus, hmicro]
  | createdTo t => simp [holds, AlertCondition.holds, hus, hmicro]
  | titleOrMessageLike pattern => simp [holds, AlertCondition.holds, h.title, h.message]

theorem scanRows_refines {rows : List AlertRow} {stored : List (Alert V)}
    (h : List.Forall₂ (Shows toJSON) rows stored) :
    ∃ alerts, scanRows rows = .ok alerts ∧ List.Forall₂ (ReadAs toJSON) alerts stored := by
  induction h with
  | nil => exact ⟨[], rfl, .nil⟩
  | cons hshows _ ih =>
    obtain ⟨alert, hdecode, hread⟩ := hshows
    obtain ⟨alerts, halerts, hreads⟩ := ih
    refine ⟨alert :: alerts, ?_, .cons hread hreads⟩
    simp only [scanRows, listColumns_eq, scanAlert_row, hdecode, halerts, Except.map]

theorem selected_refines (lower : Char → Char) (db : Locale) {t : AlertRows} {a : AlertTable V}
    (h : Represents toJSON t a) (filter : AlertFilter) :
    List.Forall₂ (Shows toJSON) (t.rows.filter (fun row => (filter.conditions lower).all (holds db row)))
      (AlertTable.selectRows lower db a filter) := by
  refine List.rel_filter (fun row stored hshows => ?_) h
  have hfiltered := filteredAs_of_shows hshows
  simp only [List.all_eq_true]
  refine forall₂_congr (fun condition hmem => ?_)
  rw [holds_eq db hfiltered (fun id hid => supplierID_of_mem (hid ▸ hmem))]

/-- The order of the page compares the times in microseconds as it compares them in nanoseconds. -/
theorem order_eq (db : Locale) {row row' : AlertRow} {stored stored' : Alert V} (h : Shows toJSON row stored)
    (h' : Shows toJSON row' stored') :
    (decide ((created row').getD 0 < (created row).getD 0) ||
        (created row' == created row && db.le row'.alertID row.alertID)) =
      (decide (stored'.createdAt < stored.createdAt) ||
        (stored'.createdAt == stored.createdAt && db.le stored'.alertID stored.alertID)) := by
  obtain ⟨us, hus, hcreated⟩ := (filteredAs_of_shows h).createdAt
  obtain ⟨us', hus', hcreated'⟩ := (filteredAs_of_shows h').createdAt
  rw [hus, hus', hcreated, hcreated', shows_alertID h, shows_alertID h', Option.getD_some, Option.getD_some]
  have hlt : us' < us ↔ us' * 1000 < us * 1000 := by omega
  have heq : us' = us ↔ us' * 1000 = us * 1000 := by omega
  simp only [hlt, beq_eq_decide, Option.some.injEq, heq]

theorem pageRows_refines {lower : Char → Char} {db : Locale} {t : AlertRows} {a : AlertTable V}
    (h : Represents toJSON t a) {filter : AlertFilter} {stored : List (Alert V)} {total : Int}
    (hlist : AlertTable.list lower db a filter = .ok (stored, total)) :
    List.Forall₂ (Shows toJSON) (pageRows lower db t filter) stored ∧
      (t.rows.filter (fun row => (filter.conditions lower).all (holds db row))).length = total := by
  have hselected := selected_refines lower db h filter
  unfold AlertTable.list at hlist
  split at hlist
  next =>
    cases hlist
    refine ⟨List.forall₂_take _ (List.forall₂_drop _ ?_), congrArg Int.ofNat hselected.length_eq⟩
    exact rel_mergeSort (fun _ _ _ _ hx hy => order_eq db hx hy) hselected
  next => cases hlist

/-- Over the columns `List` finds the page that it finds over the alerts. -/
theorem list_refines (lower : Char → Char) (db : Locale) {t : AlertRows} {a : AlertTable V}
    (h : Represents toJSON t a) (filter : AlertFilter) :
    Alike (fun p q => List.Forall₂ (ReadAs toJSON) p.1 q.1 ∧ p.2 = q.2) (list lower db t filter)
      (AlertTable.list lower db a filter) := by
  by_cases hsend : (filter.conditions lower).all AlertCondition.sendable = true
  · cases hlist : AlertTable.list lower db a filter with
    | error err =>
      rw [AlertTable.list, if_pos hsend] at hlist
      cases hlist
    | ok result =>
      obtain ⟨stored, total⟩ := result
      obtain ⟨hpage, htotal⟩ := pageRows_refines h hlist
      obtain ⟨alerts, halerts, hreads⟩ := scanRows_refines hpage
      refine .inr ⟨(alerts, total), (stored, total), ?_, rfl, hreads, rfl⟩
      rw [list, if_pos hsend, halerts]
      exact congrArg (fun n => Except.ok (alerts, n)) htotal
  · exact .inl ⟨_, if_neg hsend, if_neg hsend⟩

end AlertRows

end

end SupplyPlatform.Alerts
