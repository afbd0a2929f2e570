import SupplyPlatform.AuditQuery
import SupplyPlatform.Lib.Like
import SupplyPlatform.Lib.Maps
import SupplyPlatform.QueryKeys

namespace SupplyPlatform.Alerts

open Settlements (zeroTime)
open Iam (storableText)
open Audit (microseconds)
open Strings Relational

/-- An alert; `V` is the type of the values its metadata hold, and the two floats are their bits. -/
structure Alert (V : Type) where
  alertID : String
  alertName : String
  alertType : String
  alertLevel : String
  tenantID : Int
  supplierID : Int
  title : String
  message : String
  description : String
  eventID : String
  eventIDs : List String
  triggerCondition : String
  threshold : UInt64
  currentValue : UInt64
  status : String
  resolvedAt : Option Time
  resolvedBy : String
  resolveNote : String
  notifyEnabled : Bool
  notifyChannels : List String
  createdAt : Time
  updatedAt : Time
  firstSeenAt : Time
  lastSeenAt : Time
  -- the entries of the map, one for each key
  metadata : List (String × V)
  tags : List String
  deriving DecidableEq

structure AlertFilter where
  tenantID : Int
  supplierID : Int
  alertType : String
  alertLevel : String
  status : String
  startTime : Time
  endTime : Time
  keywords : String
  limit : Int
  offset : Int
  deriving DecidableEq

def alertStatusActive : String := "active"
def alertStatusResolved : String := "resolved"
def alertStatusAcknowledged : String := "acknowledged"

def errAlertNotFound : RepoError := .message "alert not found"
def errInvalidAlertInput : RepoError := .message "invalid alert input"
def errAlertConflict : RepoError := .message "alert conflict"

/-- What a call reads besides its arguments: the clock, once and again, and a UUID should one be
needed. -/
structure Reading where
  now : Time
  later : Time
  uuid : String

/-- How a call ends; the in-memory store follows a nil pointer. -/
inductive Outcome
  | accepted
  | rejected (err : RepoError)
  | panicked
  deriving DecidableEq

def generateAlertID (uuid : String) : String := "ALT-" ++ String.ofList (uuid.toList.take 8)

variable {V : Type}

/-- The id an alert is created under. -/
def Alert.idOr (alert : Alert V) (r : Reading) : String :=
  if alert.alertID = "" then generateAlertID r.uuid else alert.alertID

theorem Alert.idOr_ne_empty (alert : Alert V) (r : Reading) : alert.idOr r ≠ "" := by
  unfold Alert.idOr
  split
  next =>
    intro hempty
    have := congrArg String.toList hempty
    simp [generateAlertID] at this
  next h => exact h

/-- The alert as the in-memory store makes it: the time of creation is that of the call, whatever the
alert has. -/
def Alert.stamp (alert : Alert V) (r : Reading) : Alert V :=
  { alert with alertID := alert.idOr r, createdAt := r.now, updatedAt := r.later }

/-- `alert.UpdatedAt = now`. -/
def Alert.touch (alert : Alert V) (now : Time) : Alert V := { alert with updatedAt := now }

/-- Every alert is under its own id. -/
def KeyedByID (alerts : Finmap (fun _ : String => Alert V)) : Prop :=
  ∀ id alert, alerts.lookup id = some alert → alert.alertID = id

theorem KeyedByID.insert {alerts : Finmap (fun _ : String => Alert V)} (h : KeyedByID alerts)
    (alert : Alert V) : KeyedByID (alerts.insert alert.alertID alert) :=
  Maps.forall_lookup_insert (P := fun id (alert : Alert V) => alert.alertID = id) h rfl

theorem KeyedByID.erase {alerts : Finmap (fun _ : String => Alert V)} (h : KeyedByID alerts)
    (key : String) : KeyedByID (alerts.erase key) :=
  fun id stored hstored => h id stored (Maps.lookup_of_lookup_erase hstored)

structure InMemoryAlertStore (V : Type) where
  alerts : Finmap (fun _ : String => Alert V)
  keyed : KeyedByID alerts

namespace InMemoryAlertStore

theorem keyed_empty : KeyedByID (∅ : Finmap (fun _ : String => Alert V)) := by
  intro id alert h
  rw [Finmap.lookup_empty] at h
  cases h

def new : InMemoryAlertStore V := ⟨∅, keyed_empty⟩

/-- `s.alerts[alert.AlertID] = alert`. -/
def put (s : InMemoryAlertStore V) (alert : Alert V) : InMemoryAlertStore V :=
  ⟨s.alerts.insert alert.alertID alert, s.keyed.insert alert⟩

theorem lookup_put (s : InMemoryAlertStore V) (alert : Alert V) (id : String) :
    (s.put alert).alerts.lookup id =
      if id = alert.alertID then some alert else s.alerts.lookup id :=
  Maps.lookup_insert _ _ _ _

def create (s : InMemoryAlertStore V) (r : Reading) : Option (Alert V) → InMemoryAlertStore V × Outcome
  | none => (s, .panicked)
  | some alert => (s.put (alert.stamp r), .accepted)

def getByID (s : InMemoryAlertStore V) (alertID : String) : Except RepoError (Alert V) :=
  match s.alerts.lookup alertID with
  | some alert => .ok alert
  | none => .error errAlertNotFound

def update (s : InMemoryAlertStore V) (r : Reading) : Option (Alert V) → InMemoryAlertStore V × Outcome
  | none => (s, .panicked)
  | some alert =>
    match s.alerts.lookup alert.alertID with
    | none => (s, .rejected errAlertNotFound)
    | some _ => (s.put (alert.touch r.now), .accepted)

def delete (s : InMemoryAlertStore V) (alertID : String) : InMemoryAlertStore V × Outcome :=
  match s.alerts.lookup alertID with
  | none => (s, .rejected errAlertNotFound)
  | some _ => (⟨s.alerts.erase alertID, s.keyed.erase alertID⟩, .accepted)

/-- The tests of the loop of `List`; an alert that fails none of them is kept. -/
def matchesFilter (filter : AlertFilter) (alert : Alert V) : Bool :=
  !(filter.tenantID > 0 && alert.tenantID != filter.tenantID) &&
  !(filter.supplierID > 0 && alert.supplierID != filter.supplierID) &&
  !(filter.alertType != "" && alert.alertType != filter.alertType) &&
  !(filter.alertLevel != "" && alert.alertLevel != filter.alertLevel) &&
  !(filter.status != "" && alert.status != filter.status) &&
  !(filter.startTime != zeroTime && alert.createdAt < filter.startTime) &&
  !(filter.endTime != zeroTime && alert.createdAt > filter.endTime) &&
  !(filter.keywords != "" && !contains alert.title filter.keywords &&
    !contains alert.message filter.keywords)

/-- `visited` is an order in which `range` goes over the map. -/
def Visits (s : InMemoryAlertStore V) (visited : List (Alert V)) : Prop :=
  visited.Nodup ∧ ∀ alert, alert ∈ visited ↔ s.alerts.lookup alert.alertID = some alert

def list (visited : List (Alert V)) (filter : AlertFilter) : List (Alert V) × Int :=
  let result := visited.filter (matchesFilter filter)
  let total : Int := result.length
  if filter.offset > 0 ∧ filter.offset ≥ result.length then ([], total)
  else
    let result := if filter.offset > 0 then result.drop filter.offset.toNat else result
    if filter.limit > 0 ∧ filter.limit < result.length then (result.take filter.limit.toNat, total)
    else (result, total)

end InMemoryAlertStore

/-- What the database does that its locale decides: LOWER, character by character, and the order of
the ids. -/
structure Locale where
  lower : Char → Char
  le : String → String → Bool

/-- `json.Marshal` of the metadata, and the texts JSONB takes. -/
structure MetadataCodec (V : Type) where
  marshal : List (String × V) → Except String String
  jsonb : String → Bool

/-- The table `audit_alerts`, its rows as alerts: 0 and "" are what NULL is read as. -/
abbrev AlertTable (V : Type) := Keyed (Alert.alertID (V := V))

/-- An alert as its row: TIMESTAMPTZ has no nanoseconds. -/
def Alert.row (alert : Alert V) : Alert V :=
  { alert with
    resolvedAt := alert.resolvedAt.map (fun t => microseconds t * 1000)
    createdAt := microseconds alert.createdAt * 1000
    updatedAt := microseconds alert.updatedAt * 1000
    firstSeenAt := microseconds alert.firstSeenAt * 1000
    lastSeenAt := microseconds alert.lastSeenAt * 1000 }

/-- The texts of an alert, those of its collections included. -/
def Alert.texts (alert : Alert V) : List String :=
  [alert.alertID, alert.alertName, alert.alertType, alert.alertLevel, alert.title, alert.message,
    alert.description, alert.eventID, alert.triggerCondition, alert.status, alert.resolvedBy,
    alert.resolveNote] ++ alert.eventIDs ++ alert.notifyChannels ++ alert.tags

/-- `marshalAlertCollections`: a slice of texts never fails, so that only the metadata can. -/
def marshalAlertCollections (codec : MetadataCodec V) (alert : Alert V) : Except RepoError String :=
  match codec.marshal alert.metadata with
  | .ok text => .ok text
  | .error err => .error (.message ("marshal metadata: " ++ err))

def encodingError (context : String) : RepoError :=
  .message (context ++ ": invalid byte sequence for encoding \"UTF8\": 0x00")

/-- An alert whose columns the database takes. -/
def Alert.storable (codec : MetadataCodec V) (alert : Alert V) : Bool :=
  alert.texts.all storableText &&
    match marshalAlertCollections codec alert with
    | .ok text => codec.jsonb text
    | .error _ => false

/-- The defaults of `PostgresAlertRepository.Create`. -/
def Alert.withDefaults (alert : Alert V) (r : Reading) : Alert V :=
  let createdAt := if alert.createdAt = zeroTime then r.now else alert.createdAt
  let updatedAt := if alert.updatedAt = zeroTime then createdAt else alert.updatedAt
  { alert with
    alertID := alert.idOr r
    status := if alert.status = "" then alertStatusActive else alert.status
    createdAt := createdAt
    updatedAt := updatedAt
    firstSeenAt := if alert.firstSeenAt = zeroTime then createdAt else alert.firstSeenAt
    lastSeenAt := if alert.lastSeenAt = zeroTime then updatedAt else alert.lastSeenAt }

/-- What UPDATE sets in a row: neither its id nor its time of creation. -/
def Alert.overwrite (alert row : Alert V) : Alert V :=
  { alert.row with alertID := row.alertID, createdAt := row.createdAt }

namespace AlertTable

def create (codec : MetadataCodec V) (t : AlertTable V) (r : Reading) :
    Option (Alert V) → AlertTable V × Outcome
  | none => (t, .rejected errInvalidAlertInput)
  | some alert =>
    let alert := alert.withDefaults r
    match marshalAlertCollections codec alert with
    | .error err => (t, .rejected err)
    | .ok _ =>
      if alert.storable codec then
        match t.insert alert.row with
        | some t' => (t', .accepted)
        | none => (t, .rejected errAlertConflict)
      else (t, .rejected (encodingError "create alert"))

def getByID (t : AlertTable V) (alertID : String) : Except RepoError (Alert V) :=
  if storableText alertID then
    match Keyed.lookup t alertID with
    | some alert => .ok alert
    | none => .error errAlertNotFound
  else .error (encodingError "get alert by id")

theorem overwrite_apart (alert a b : Alert V) (h : a.alertID ≠ b.alertID) :
    (alert.overwrite a).alertID ≠ b.alertID ∧ a.alertID ≠ (alert.overwrite b).alertID ∧
      (alert.overwrite a).alertID ≠ (alert.overwrite b).alertID :=
  ⟨h, h, h⟩

def update (codec : MetadataCodec V) (t : AlertTable V) (r : Reading) :
    Option (Alert V) → AlertTable V × Outcome
  | none => (t, .rejected errInvalidAlertInput)
  | some alert =>
    if alert.alertID = "" then (t, .rejected errInvalidAlertInput)
    else
      let alert := alert.touch (if alert.updatedAt = zeroTime then r.now else alert.updatedAt)
      match marshalAlertCollections codec alert with
      | .error err => (t, .rejected err)
      | .ok _ =>
        if alert.storable codec then
          match Keyed.lookup t alert.alertID with
          | none => (t, .rejected errAlertNotFound)
          | some _ =>
            (t.updateWhere (fun row => row.alertID = alert.alertID) alert.overwrite
              (overwrite_apart alert), .accepted)
        else (t, .rejected (encodingError "update alert"))

def delete (t : AlertTable V) (alertID : String) : AlertTable V × Outcome :=
  if storableText alertID then
    match Keyed.lookup t alertID with
    | none => (t, .rejected errAlertNotFound)
    | some _ => (Table.delete t (fun row => row.alertID = alertID), .accepted)
  else (t, .rejected (encodingError "delete alert"))

theorem storable_alertID {codec : MetadataCodec V} {alert : Alert V} (h : alert.storable codec = true) :
    storableText alert.alertID = true := by
  unfold Alert.storable at h
  rw [Bool.and_eq_true, List.all_eq_true] at h
  exact h.1 _ (by simp [Alert.texts])

theorem marshal_of_storable {codec : MetadataCodec V} {alert : Alert V}
    (h : alert.storable codec = true) : ∃ text, marshalAlertCollections codec alert = .ok text := by
  unfold Alert.storable at h
  cases hm : marshalAlertCollections codec alert with
  | ok text => exact ⟨text, rfl⟩
  | error err =>
    rw [hm, Bool.and_false] at h
    cases h

/-- The two outcomes of INSERT. -/
theorem create_cases (codec : MetadataCodec V) (t : AlertTable V) (r : Reading) (alert : Alert V) :
    (∃ err, create codec t r (some alert) = (t, .rejected err) ∧
      ((alert.withDefaults r).storable codec = true → Keyed.lookup t (alert.idOr r) ≠ none)) ∨
    ∃ t', (alert.withDefaults r).storable codec = true ∧
      Keyed.lookup t (alert.idOr r) = none ∧
      create codec t r (some alert) = (t', .accepted) ∧
      t.insert (alert.withDefaults r).row = some t' := by
  unfold create
  dsimp only
  cases hs : (alert.withDefaults r).storable codec with
  | false =>
    left
    split
    next err _ => exact ⟨err, rfl, nofun⟩
    next => exact ⟨_, rfl, nofun⟩
  | true =>
    obtain ⟨text, htext⟩ := marshal_of_storable hs
    rw [htext]
    dsimp only
    rw [if_pos rfl]
    cases hinsert : t.insert (alert.withDefaults r).row with
    | none =>
      left
      exact ⟨_, rfl, fun _ => Keyed.insert_eq_none.mp hinsert⟩
    | some t' =>
      right
      refine ⟨t', rfl, ?_, rfl, rfl⟩
      by_contra hn
      rw [Keyed.insert_eq_none.mpr hn] at hinsert
      cases hinsert

theorem storable_touch (codec : MetadataCodec V) (alert : Alert V) (now : Time) :
    (alert.touch now).storable codec = alert.storable codec := rfl

theorem lookup_overwritten {t : AlertTable V} {alert old : Alert V}
    (h : Keyed.lookup t alert.alertID = some old) (id : String) :
    Keyed.lookup (t.updateWhere (fun row => row.alertID = alert.alertID) alert.overwrite
        (overwrite_apart alert)) id =
      if id = alert.alertID then some (alert.overwrite old) else Keyed.lookup t id := by
  have hkey : ∀ row, (alert.overwrite row).alertID = row.alertID := fun _ => rfl
  rw [Keyed.lookup_updateWhere hkey, h]
  rfl

/-- The two outcomes of UPDATE. -/
theorem update_cases (codec : MetadataCodec V) (t : AlertTable V) (r : Reading) (alert : Alert V) :
    (∃ err, update codec t r (some alert) = (t, .rejected err) ∧
      (alert.alertID ≠ "" → alert.storable codec = true → Keyed.lookup t alert.alertID = none)) ∨
    ∃ t' old now, alert.alertID ≠ "" ∧ alert.storable codec = true ∧
      Keyed.lookup t alert.alertID = some old ∧ update codec t r (some alert) = (t', .accepted) ∧
      ∀ id, Keyed.lookup t' id =
        if id = alert.alertID then some ((alert.touch now).overwrite old) else Keyed.lookup t id := by
  unfold update
  dsimp only
  by_cases hid : alert.alertID = ""
  · left
    rw [if_pos hid]
    exact ⟨_, rfl, fun hn => absurd hid hn⟩
  rw [if_neg hid]
  generalize (if alert.updatedAt = zeroTime then r.now else alert.updatedAt) = now
  rw [storable_touch]
  cases hs : alert.storable codec with
  | false =>
    left
    split
    next err _ => exact ⟨err, rfl, fun _ => nofun⟩
    next => exact ⟨_, rfl, fun _ => nofun⟩
  | true =>
    obtain ⟨text, htext⟩ := marshal_of_storable ((storable_touch codec alert now).trans hs)
    rw [htext]
    dsimp only
    rw [if_pos rfl]
    cases hfound : Keyed.lookup t (alert.touch now).alertID with
    | none =>
      left
      exact ⟨_, rfl, fun _ _ => hfound⟩
    | some old =>
      right
      exact ⟨_, old, now, hid, rfl, hfound, rfl, lookup_overwritten hfound⟩

/-- The two outcomes of DELETE. -/
theorem delete_cases (t : AlertTable V) (alertID : String) :
    (∃ err, delete t alertID = (t, .rejected err) ∧
      (storableText alertID = true → Keyed.lookup t alertID = none)) ∨
    ∃ t', storableText alertID = true ∧ Keyed.lookup t alertID ≠ none ∧
      delete t alertID = (t', .accepted) ∧
      ∀ id, Keyed.lookup t' id = if id = alertID then none else Keyed.lookup t id := by
  unfold delete
  cases hid : storableText alertID with
  | false => exact .inl ⟨_, rfl, nofun⟩
  | true =>
    rw [if_pos rfl]
    cases hfound : Keyed.lookup t alertID with
    | none => exact .inl ⟨_, rfl, fun _ => rfl⟩
    | some old => exact .inr ⟨_, rfl, nofun, rfl, Keyed.lookup_delete⟩

end AlertTable

/-- The conditions of the WHERE clause of `List`. -/
inductive AlertCondition
  | tenantID (id : Int)
  | supplierID (id : Int)
  | alertType (type : String)
  | alertLevel (level : String)
  | status (value : String)
  | createdFrom (t : Time)
  | createdTo (t : Time)
  | titleOrMessageLike (pattern : String)
  deriving DecidableEq

def AlertFilter.conditions (lower : Char → Char) (filter : AlertFilter) : List AlertCondition :=
  (if filter.tenantID > 0 then [.tenantID filter.tenantID] else []) ++
  (if filter.supplierID > 0 then [.supplierID filter.supplierID] else []) ++
  (if filter.alertType ≠ "" then [.alertType filter.alertType] else []) ++
  (if filter.alertLevel ≠ "" then [.alertLevel filter.alertLevel] else []) ++
  (if filter.status ≠ "" then [.status filter.status] else []) ++
  (if filter.startTime ≠ zeroTime then [.createdFrom filter.startTime] else []) ++
  (if filter.endTime ≠ zeroTime then [.createdTo filter.endTime] else []) ++
  (if filter.keywords ≠ "" then [.titleOrMessageLike ("%" ++ toLower lower filter.keywords ++ "%")]
    else [])

def AlertCondition.holds (db : Locale) (row : Alert V) : AlertCondition → Bool
  | .tenantID id => row.tenantID == id
  -- NULL, which is 0 here, equals no id that is asked for
  | .supplierID id => row.supplierID == id
  | .alertType type => row.alertType == type
  | .alertLevel level => row.alertLevel == level
  | .status value => row.status == value
  | .createdFrom t => microseconds row.createdAt ≥ microseconds t
  | .createdTo t => microseconds row.createdAt ≤ microseconds t
  | .titleOrMessageLike pattern =>
    Like.like (toLower db.lower row.title) pattern || Like.like (toLower db.lower row.message) pattern

/-- PostgreSQL takes no text with a NUL character. -/
def AlertCondition.sendable : AlertCondition → Bool
  | .alertType type => storableText type
  | .alertLevel level => storableText level
  | .status value => storableText value
  | .titleOrMessageLike pattern => storableText pattern
  | _ => true

namespace AlertTable

def selectRows (lower : Char → Char) (db : Locale) (t : AlertTable V) (filter : AlertFilter) :
    List (Alert V) :=
  t.rows.filter (fun row => (filter.conditions lower).all (AlertCondition.holds db row))

/-- `PostgresAlertRepository.List`: the COUNT, then the page ORDER BY created_at DESC, alert_id DESC. -/
def list (lower : Char → Char) (db : Locale) (t : AlertTable V) (filter : AlertFilter) :
    Except RepoError (List (Alert V) × Int) :=
  if (filter.conditions lower).all AlertCondition.sendable then
    let selected := selectRows lower db t filter
    let total : Int := selected.length
    let limit := if filter.limit ≤ 0 then 100 else filter.limit
    let limit := if limit > 1000 then 1000 else limit
    let offset := if filter.offset < 0 then 0 else filter.offset
    let ordered := selected.mergeSort (fun a b => b.createdAt < a.createdAt ||
      (b.createdAt == a.createdAt && db.le b.alertID a.alertID))
    .ok ((ordered.drop offset.toNat).take limit.toNat, total)
  else .error (encodingError "count alerts")

end AlertTable

end SupplyPlatform.Alerts
