import SupplyPlatform.AlertScan

namespace SupplyPlatform.Alerts

open Settlements (zeroTime)
open Iam (storableText)
open Audit (microseconds Json)
open Strings Relational Float64

namespace AlertRows

section

variable {V : Type} (toJSON : V → Except String Json)

def insertedRow (alert : Alert V) (json : AlertJSON) : Except RepoError AlertRow :=
  match Columns.bind (encode "create alert") (wrongTypeError "create alert") (insertArgs alert json)
      insertSettings with
  | .error err => .error err
  | .ok values =>
    match AlertRow.of? (Columns.set values AlertColumn.default) with
    | some row => .ok row
    | none => .error (notNullError "create alert")

/-- `PostgresAlertRepository.Create`. -/
def create (t : AlertRows) (r : Reading) : Option (GivenAlert V) → AlertRows × Outcome
  | none => (t, .rejected errInvalidAlertInput)
  | some given =>
    let alert := given.alert.withDefaults r
    match given.marshalCollections toJSON with
    | .error err => (t, .rejected err)
    | .ok json =>
      match insertedRow alert json with
      | .error err => (t, .rejected err)
      | .ok row =>
        match t.insert row with
        | some t' => (t', .accepted)
        | none => (t, .rejected errAlertConflict)

/-- `alert_id = $1`. -/
def whereID (context : String) (args : List GoArg) : Except RepoError String :=
  match (args[0]? : Option GoArg) with
  | some (.string id) => if storableText id then .ok id else .error (encodingError context)
  | _ => .error (wrongTypeError context)

def setChange (alert : Alert V) (json : AlertJSON) : Except RepoError AlertChange :=
  match Columns.bind (encode "update alert") (wrongTypeError "update alert") (updateArgs alert json)
      updateSettings with
  | .error err => .error err
  | .ok values =>
    match AlertChange.of? values with
    | some change => .ok change
    | none => .error (notNullError "update alert")

/-- The alert as `Update` leaves it, which sets the time of an update that has none. -/
def updated (alert : Alert V) (r : Reading) : Alert V :=
  alert.touch (if alert.updatedAt = zeroTime then r.now else alert.updatedAt)

/-- `PostgresAlertRepository.Update`. -/
def update (t : AlertRows) (r : Reading) : Option (GivenAlert V) → AlertRows × Outcome
  | none => (t, .rejected errInvalidAlertInput)
  | some given =>
    if given.alert.alertID = "" then (t, .rejected errInvalidAlertInput)
    else
      let alert := updated given.alert r
      match given.marshalCollections toJSON with
      | .error err => (t, .rejected err)
      | .ok json =>
        match whereID "update alert" (updateArgs alert json), setChange alert json with
        | .error err, _ => (t, .rejected err)
        | .ok _, .error err => (t, .rejected err)
        | .ok id, .ok change =>
          match Keyed.lookup t id with
          | none => (t, .rejected errAlertNotFound)
          | some _ =>
            (t.updateWhere (fun row => row.alertID = id) change.apply change.apply_apart, .accepted)

end

/-- `PostgresAlertRepository.GetByID`. -/
def getByID (t : AlertRows) (alertID : String) : Except RepoError (Alert Json) :=
  if storableText alertID then
    match Keyed.lookup t alertID with
    | none => .error errAlertNotFound
    | some row =>
      match scanAlert (getByIDColumns.map row.value) with
      | .ok alert => .ok alert
      | .error err => .error (.message ("get alert by id: " ++ err))
  else .error (encodingError "get alert by id")

def created (row : AlertRow) : Option Int :=
  match row.value .createdAt with
  | .timestamptz us => some us
  | _ => none

/-- A condition of the WHERE clause of `List`; NULL meets none of them. -/
def holds (db : Locale) (row : AlertRow) : AlertCondition → Bool
  | .tenantID id => (row.value .tenantID).toInt64 == some id
  | .supplierID id => (row.value .supplierID).toInt64 == some id
  | .alertType type => (row.value .alertType).toText == some type
  | .alertLevel level => (row.value .alertLevel).toText == some level
  | .status value => (row.value .status).toText == some value
  | .createdFrom t => (created row).any (fun us => us ≥ microseconds t)
  | .createdTo t => (created row).any (fun us => us ≤ microseconds t)
  | .titleOrMessageLike pattern =>
    ((row.value .title).toText).any (fun title => Like.like (toLower db.lower title) pattern) ||
      ((row.value .message).toText).any (fun message => Like.like (toLower db.lower message) pattern)

/-- The loop over the rows of the result, which one row that is not read ends. -/
def scanRows : List AlertRow → Except RepoError (List (Alert Json))
  | [] => .ok []
  | row :: rows =>
    match scanAlert (listColumns.map row.value) with
    | .error err => .error (.message ("scan alert: " ++ err))
    | .ok alert => (scanRows rows).map (alert :: ·)

/-- The rows of a page, ORDER BY created_at DESC, alert_id DESC. -/
def pageRows (lower : Char → Char) (db : Locale) (t : AlertRows) (filter : AlertFilter) : List AlertRow :=
  let selected := t.rows.filter (fun row => (filter.conditions lower).all (holds db row))
  let limit := if filter.limit ≤ 0 then 100 else filter.limit
  let limit := if limit > 1000 then 1000 else limit
  let offset := if filter.offset < 0 then 0 else filter.offset
  let ordered := selected.mergeSort (fun a b => (created b).getD 0 < (created a).getD 0 ||
    (created b == created a && db.le b.alertID a.alertID))
  (ordered.drop offset.toNat).take limit.toNat

/-- `PostgresAlertRepository.List`. -/
def list (lower : Char → Char) (db : Locale) (t : AlertRows) (filter : AlertFilter) :
    Except RepoError (List (Alert Json) × Int) :=
  if (filter.conditions lower).all AlertCondition.sendable then
    let total : Int := (t.rows.filter (fun row => (filter.conditions lower).all (holds db row))).length
    (scanRows (pageRows lower db t filter)).map (fun alerts => (alerts, total))
  else .error (encodingError "count alerts")

theorem listColumns_eq : listColumns = getByIDColumns := rfl

variable {V : Type} {toJSON : V → Except String Json} {t t' : AlertRows} {r : Reading}

theorem getByID_of_lookup {id : String} {row : AlertRow} {alert : Alert Json}
    (hlookup : Keyed.lookup t id = some row) (hdecode : (Scanned.ofRow row).decode = .ok alert) :
    getByID t id = .ok alert := by
  have hkey := Keyed.key_of_lookup hlookup
  have hid : storableText id = true := hkey ▸ row.storable_alertID
  rw [getByID, if_pos hid, hlookup]
  simp only [scanAlert_row, hdecode]

theorem getByID_ok {id : String} {row : AlertRow} {alert : Alert Json}
    (hlookup : Keyed.lookup t id = some row) (h : getByID t id = .ok alert) :
    (Scanned.ofRow row).decode = .ok alert := by
  unfold getByID at h
  split at h
  next =>
    rw [hlookup] at h
    simp only [scanAlert_row] at h
    cases hdecode : (Scanned.ofRow row).decode with
    | ok a =>
      rw [hdecode] at h
      exact congrArg Except.ok (Except.ok.inj h)
    | error err =>
      rw [hdecode] at h
      cases h
  next => cases h

theorem insertedRow_value {alert : Alert V} {json : AlertJSON} {row : AlertRow}
    (h : insertedRow alert json = .ok row) (column : AlertColumn) :
    row.value column = (AlertColumn.source alert json column).stored := by
  unfold insertedRow at h
  split at h
  next => cases h
  next values hbind =>
    split at h
    next inserted hrow =>
      obtain rfl := Except.ok.inj h
      unfold AlertRow.of? at hrow
      split at hrow
      next =>
        obtain rfl := Option.some.inj hrow
        exact encode_stored (Columns.set_of_mem (insert_pairs alert json) hbind (mem_insertSettings column) _)
      next => cases hrow
    next => cases h

theorem setChange_value {alert : Alert V} {json : AlertJSON} {change : AlertChange}
    (h : setChange alert json = .ok change) (row : AlertRow) (column : AlertColumn) :
    (change.apply row).value column =
      if column = .alertID ∨ column = .createdAt then row.value column
      else (AlertColumn.source alert json column).stored := by
  unfold setChange at h
  split at h
  next => cases h
  next values hbind =>
    split at h
    next change' hchange =>
      obtain rfl := Except.ok.inj h
      unfold AlertChange.of? at hchange
      split at hchange
      next =>
        split at hchange
        next =>
          obtain rfl := Option.some.inj hchange
          have hpairs := update_pairs alert json
          by_cases hkept : column = .alertID ∨ column = .createdAt
          · rw [if_pos hkept]
            refine Columns.set_of_not_mem hpairs hbind (fun hmem => ?_) row.value
            obtain ⟨hid, hcreated⟩ := (mem_updateSettings column).mp hmem
            exact hkept.elim hid hcreated
          · rw [if_neg hkept]
            have hmem := (mem_updateSettings column).mpr (not_or.mp hkept)
            exact encode_stored (Columns.set_of_mem hpairs hbind hmem row.value)
        next => cases hchange
      next => cases hchange
    next => cases h

/-- The row that a successful `Create` has inserted. -/
theorem create_accepted {given : GivenAlert V} (h : create toJSON t r (some given) = (t', .accepted)) :
    ∃ json row, given.marshalCollections toJSON = .ok json ∧
      insertedRow (given.alert.withDefaults r) json = .ok row ∧ t.insert row = some t' := by
  unfold create at h
  simp only at h
  split at h
  next => cases h
  next json hjson =>
    split at h
    next => cases h
    next row hrow =>
      split at h
      next inserted hinsert =>
        cases h
        exact ⟨json, row, hjson, hrow, hinsert⟩
      next => cases h

/-- The row that a successful `Update` has changed. -/
theorem update_accepted {given : GivenAlert V} (h : update toJSON t r (some given) = (t', .accepted)) :
    ∃ json change row, given.marshalCollections toJSON = .ok json ∧
      setChange (updated given.alert r) json = .ok change ∧
      Keyed.lookup t given.alert.alertID = some row ∧
      Keyed.lookup t' given.alert.alertID = some (change.apply row) := by
  simp only [update] at h
  split at h
  next => cases h
  next =>
    split at h
    next => cases h
    next json hjson =>
      cases hid : whereID "update alert" (updateArgs (updated given.alert r) json) with
      | error err =>
        rw [hid] at h
        cases h
      | ok id =>
        cases hchange : setChange (updated given.alert r) json with
        | error err =>
          rw [hid, hchange] at h
          cases h
        | ok change =>
          have hsame : id = given.alert.alertID := by
            simp only [whereID, updateArgs, List.getElem?_cons_zero] at hid
            split at hid
            next => exact (Except.ok.inj hid).symm
            next => cases hid
          subst hsame
          rw [hid, hchange] at h
          simp only at h
          split at h
          next => cases h
          next row hrow =>
            cases h
            refine ⟨json, change, row, hjson, hchange, hrow, ?_⟩
            rw [Keyed.lookup_updateWhere change.alertID_apply, if_pos rfl, hrow, Option.map_some]

theorem reads_withDefaults {given : GivenAlert V} {json : AlertJSON} {read : List (String × Json)}
    (h : json.Reads given.alert read) (r : Reading) : json.Reads (given.alert.withDefaults r) read :=
  ⟨h.eventIDs, h.notifyChannels, h.metadata, h.tags⟩

theorem created_alert_read {given : GivenAlert V} (h : create toJSON t r (some given) = (t', .accepted)) :
    ∃ metadata, marshalMembers toJSON given.alert.metadata = .ok metadata ∧
      ∀ read, unmarshalMembers metadata = .ok read →
        getByID t' (given.alert.idOr r) = .ok ((given.alert.withDefaults r).asJSON read).row := by
  obtain ⟨json, row, hjson, hrow, hinsert⟩ := create_accepted h
  obtain ⟨metadata, hmetadata, hreads⟩ := reads_of_marshal hjson
  have hvalue := insertedRow_value hrow
  have hid : row.alertID = given.alert.idOr r := by
    rw [AlertRow.alertID, hvalue]
    rfl
  have hlookup : Keyed.lookup t' (given.alert.idOr r) = some row := by
    rw [Keyed.lookup_of_insert hinsert, if_pos hid.symm]
  refine ⟨metadata, hmetadata, fun read hread => ?_⟩
  exact getByID_of_lookup hlookup (decode_written hvalue (reads_withDefaults (hreads read hread) r))

/-- What an UPDATE leaves of a row is the alert that was written, with the time of creation it had. -/
theorem change_value {alert : Alert V} {json : AlertJSON} {change : AlertChange} {row : AlertRow} {us : Int}
    (hchange : setChange alert json = .ok change) (hid : row.alertID = alert.alertID)
    (hcreated : row.value .createdAt = .timestamptz us) (column : AlertColumn) :
    (change.apply row).value column =
      (AlertColumn.source { alert with createdAt := us * 1000 } json column).stored := by
  rw [setChange_value hchange]
  by_cases hkept : column = .alertID ∨ column = .createdAt
  · rw [if_pos hkept]
    rcases hkept with rfl | rfl
    · rw [row.value_alertID, hid]
      rfl
    · have hmicro : microseconds (us * 1000) = us := Int.mul_ediv_cancel us (by decide)
      rw [hcreated, AlertColumn.source, GoArg.stored, hmicro]
  · rw [if_neg hkept]
    obtain ⟨-, hne⟩ := not_or.mp hkept
    cases column <;> first | rfl | exact absurd rfl hne

theorem updated_alert_read {given : GivenAlert V} (h : update toJSON t r (some given) = (t', .accepted)) :
    ∃ metadata row us, marshalMembers toJSON given.alert.metadata = .ok metadata ∧
      Keyed.lookup t given.alert.alertID = some row ∧ row.value .createdAt = .timestamptz us ∧
      ∀ read, unmarshalMembers metadata = .ok read → getByID t' given.alert.alertID =
        .ok { ((updated given.alert r).asJSON read).row with createdAt := us * 1000 } := by
  obtain ⟨json, change, row, hjson, hchange, hrow, hlookup⟩ := update_accepted h
  obtain ⟨metadata, hmetadata, hreads⟩ := reads_of_marshal hjson
  obtain ⟨us, hus⟩ := row.exists_createdAt
  have hvalue := change_value hchange (Keyed.key_of_lookup hrow) hus
  have hmicro : microseconds (us * 1000) = us := Int.mul_ediv_cancel us (by decide)
  refine ⟨metadata, row, us, hmetadata, hrow, hus, fun read hread => ?_⟩
  have hreads := hreads read hread
  have hupdated : json.Reads { updated given.alert r with createdAt := us * 1000 } read :=
    ⟨hreads.eventIDs, hreads.notifyChannels, hreads.metadata, hreads.tags⟩
  rw [getByID_of_lookup hlookup (decode_written hvalue hupdated)]
  simp only [Alert.asJSON, Alert.row, hmicro]

theorem scanRows_mem {rows : List AlertRow} {alerts : List (Alert Json)} {alert : Alert Json}
    (h : scanRows rows = .ok alerts) (hmem : alert ∈ alerts) :
    ∃ row ∈ rows, (Scanned.ofRow row).decode = .ok alert := by
  induction rows generalizing alerts with
  | nil =>
    cases h
    cases hmem
  | cons row rows ih =>
    simp only [scanRows, listColumns_eq, scanAlert_row] at h
    split at h
    next => cases h
    next first hfirst =>
      cases hrest : scanRows rows with
      | error err =>
        rw [hrest] at h
        cases h
      | ok rest =>
        rw [hrest] at h
        cases h
        rcases List.mem_cons.mp hmem with rfl | hmem
        · exact ⟨row, List.mem_cons_self, hfirst⟩
        · obtain ⟨row', hrow', hdecode⟩ := ih hrest hmem
          exact ⟨row', List.mem_cons_of_mem _ hrow', hdecode⟩

theorem mem_of_mem_pageRows {lower : Char → Char} {db : Locale} {filter : AlertFilter} {row : AlertRow}
    (h : row ∈ pageRows lower db t filter) : row ∈ t.rows := by
  have hordered := List.mem_of_mem_drop (List.mem_of_mem_take h)
  exact (List.mem_filter.mp (List.mem_mergeSort.mp hordered)).1

theorem listed_alert_read {lower : Char → Char} {db : Locale} {filter : AlertFilter}
    {alerts : List (Alert Json)} {total : Int} (h : list lower db t filter = .ok (alerts, total))
    {alert : Alert Json} (hmem : alert ∈ alerts) : getByID t alert.alertID = .ok alert := by
  unfold list at h
  split at h
  next =>
    cases hscan : scanRows (pageRows lower db t filter) with
    | error err =>
      rw [hscan] at h
      cases h
    | ok scanned =>
      rw [hscan] at h
      cases h
      obtain ⟨row, hrow, hdecode⟩ := scanRows_mem hscan hmem
      have hlookup := Keyed.mem_iff_lookup.mp (mem_of_mem_pageRows hrow)
      rw [← alertID_ofRow hdecode] at hlookup
      exact getByID_of_lookup hlookup hdecode
  next => cases h

/-- What `Create` and `Update` accept is read back as it was written, its times in microseconds, its time
of creation left by `Update` and the numbers of its metadata as float64s, which leaves what was decoded from
JSON as it was; and what is listed is what is read by id. -/
theorem written_alerts_read_back (toJSON : V → Except String Json) (lower : Char → Char) (db : Locale)
    (t : AlertRows) (r : Reading) :
    (∀ (given : GivenAlert V) t', create toJSON t r (some given) = (t', .accepted) →
      ∃ metadata, marshalMembers toJSON given.alert.metadata = .ok metadata ∧
        ∀ read, unmarshalMembers metadata = .ok read →
          getByID t' (given.alert.idOr r) = .ok ((given.alert.withDefaults r).asJSON read).row) ∧
    (∀ (given : GivenAlert V) t', update toJSON t r (some given) = (t', .accepted) →
      ∃ metadata createdAt, marshalMembers toJSON given.alert.metadata = .ok metadata ∧
        (∀ read, unmarshalMembers metadata = .ok read → getByID t' given.alert.alertID =
          .ok { ((updated given.alert r).asJSON read).row with createdAt := createdAt }) ∧
        ∀ before, getByID t given.alert.alertID = .ok before → before.createdAt = createdAt) ∧
    (∀ json decoded, unmarshalMembers json = .ok decoded →
      unmarshalMembers (marshalAnyMembers decoded) = .ok decoded) ∧
    ∀ filter alerts total, list lower db t filter = .ok (alerts, total) →
      ∀ alert ∈ alerts, getByID t alert.alertID = .ok alert := by
  refine ⟨fun given t' h => created_alert_read h, fun given t' h => ?_,
    fun json decoded h => unmarshalMembers_marshalAny json decoded h,
    fun filter alerts total h alert hmem => listed_alert_read h hmem⟩
  obtain ⟨metadata, row, us, hmetadata, hrow, hus, hread⟩ := updated_alert_read h
  exact ⟨metadata, us * 1000, hmetadata, hread, fun before hbefore =>
    createdAt_ofRow hus (getByID_ok hrow hbefore)⟩

/-- An alert with one entry in its metadata. -/
def measuredAlert (value : V) : GivenAlert V :=
  { alert :=
      { alertID := "ALT-1", alertName := "quota", alertType := "quota", alertLevel := "warning", tenantID := 1
        supplierID := 0, title := "quota", message := "", description := "", eventID := "", eventIDs := []
        triggerCondition := "", threshold := 0, currentValue := 0, status := "active", resolvedAt := none
        resolvedBy := "", resolveNote := "", notifyEnabled := true, notifyChannels := ["mail"], createdAt := 0
        updatedAt := 0, firstSeenAt := 0, lastSeenAt := 0, metadata := [("measured", value)], tags := [] }
    nilEventIDs := true, nilNotifyChannels := false, nilMetadata := false, nilTags := false
    eventIDs_of_nil := fun _ => rfl, notifyChannels_of_nil := fun h => absurd h Bool.false_ne_true
    metadata_of_nil := fun h => absurd h Bool.false_ne_true, tags_of_nil := fun _ => rfl }

/-- The store once the alert has been created, the value of its entry given by its JSON. -/
def measured (value : Json) : AlertRows × Outcome :=
  create .ok Table.empty ⟨1000, 2000, ""⟩ (some (measuredAlert value))

/-- A tenth is read as the float64 that it was written for. -/
theorem written_alerts_read_back_sample :
    getByID (measured (.number (1 / 10))).1 "ALT-1" =
      .ok (((measuredAlert (Json.number (1 / 10))).alert.withDefaults ⟨1000, 2000, ""⟩).asJSON
        [("measured", .number (float64 (1 / 10)))]).row ∧
    marshalAnyMembers [("measured", .number (float64 (1 / 10)))] = [("measured", .number (1 / 10))] := by
  have haccepted : (measured (.number (1 / 10))).2 = .accepted := by decide
  have hcreate : create .ok Table.empty ⟨1000, 2000, ""⟩ (some (measuredAlert (Json.number (1 / 10)))) =
      ((measured (.number (1 / 10))).1, .accepted) := Prod.ext rfl haccepted
  obtain ⟨metadata, hmetadata, hread⟩ :=
    (written_alerts_read_back .ok Char.toLower ⟨Char.toLower, fun _ _ => true⟩ Table.empty ⟨1000, 2000, ""⟩).1
      _ _ hcreate
  obtain rfl := Except.ok.inj hmetadata
  have hparse : parseFloat (1 / 10) = some (float64 (1 / 10)) := by decide +kernel
  have hshortest : shortestDecimal (float64 (1 / 10)) = 1 / 10 := by decide +kernel
  refine ⟨hread _ ?_, ?_⟩
  · simp only [unmarshalMembers, unmarshalAny, unmarshalNumber, hparse, Except.map]
  · simp only [marshalAnyMembers, marshalAny, hshortest]

/-- An int64 of 54 bits is read as its neighbour, and of a number beyond float64 nothing is read. -/
theorem large_number_read_otherwise :
    (measured (.number 9007199254740993)).2 = .accepted ∧
    (∃ alert, getByID (measured (.number 9007199254740993)).1 "ALT-1" = .ok alert ∧
      alert.metadata = [("measured", .number 9007199254740992)]) ∧
    (measured (.number (10 ^ 400))).2 = .accepted ∧
    (getByID (measured (.number (10 ^ 400))).1 "ALT-1").isOk = false := by
  have haccepted : (measured (.number 9007199254740993)).2 = .accepted := by decide
  have hcreate : create .ok Table.empty ⟨1000, 2000, ""⟩ (some (measuredAlert (Json.number 9007199254740993))) =
      ((measured (.number 9007199254740993)).1, .accepted) := Prod.ext rfl haccepted
  obtain ⟨metadata, hmetadata, hread⟩ := created_alert_read hcreate
  obtain rfl := Except.ok.inj hmetadata
  have hparse : parseFloat 9007199254740993 = some 9007199254740992 := by decide +kernel
  refine ⟨haccepted, ⟨_, hread [("measured", .number 9007199254740992)] ?_, rfl⟩, ?_, ?_⟩
  · simp only [unmarshalMembers, unmarshalAny, unmarshalNumber, hparse, Except.map]
  · decide
  · decide +kernel

end AlertRows

end SupplyPlatform.Alerts
