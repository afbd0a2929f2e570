import SupplyPlatform.AuditQuery

namespace SupplyPlatform.AuditLog

open Settlements (zeroTime generateSettlementNo)
open Iam (storableText)
open Audit (AuditEvent EventTable RepositoryFilter Condition microseconds selectedColumns
  all_optional_condition)

/-- `audit.Event`, the fields that a filter or the account's log reads. -/
structure Event where
  eventID : String
  tenantID : Int
  objectType : String
  objectID : Int
  action : String
  resultCode : String
  sourceIP : String
  createdAt : Time
  deriving DecidableEq

structure EventFilter where
  tenantID : Int
  objectType : String
  objectID : Int
  action : String
  startDate : String
  endDate : String
  limit : Int
  deriving DecidableEq

/-- What storing an event reads besides it: the clock, once and again, and a UUID should one be needed. -/
structure Reading where
  now : Time
  later : Time
  uuid : String

/-- An event that has been emitted. -/
structure Emission where
  event : Event
  r : Reading

def generateEventID (now : Time) : String := generateSettlementNo now ++ "-evt"

structure MemoryAuditStore where
  events : List Event

namespace MemoryAuditStore

/-- The event as `Emit` stores it: its id and its time are not those it has. -/
def stamp (m : Emission) : Event :=
  { m.event with eventID := generateEventID m.r.now, createdAt := m.r.later }

def emit (s : MemoryAuditStore) (m : Emission) : MemoryAuditStore := ⟨s.events ++ [stamp m]⟩

/-- The tests of the loops; the dates are not among them. -/
def matchesFilter (filter : EventFilter) (event : Event) : Bool :=
  !(filter.tenantID > 0 && event.tenantID != filter.tenantID) &&
  !(filter.objectType != "" && event.objectType != filter.objectType) &&
  !(filter.objectID > 0 && event.objectID != filter.objectID) &&
  !(filter.action != "" && event.action != filter.action)

def limited (filter : EventFilter) (result : List Event) : List Event :=
  if filter.limit > 0 ∧ (result.length : Int) > filter.limit then result.take filter.limit.toNat else result

def query (s : MemoryAuditStore) (filter : EventFilter) : List Event :=
  limited filter (s.events.filter (matchesFilter filter))

/-- The loop of `QueryWithTotal`: the total is counted before the tests. -/
def scan (filter : EventFilter) : List Event → List Event × Int → List Event × Int
  | [], found => found
  | event :: events, (result, total) =>
    scan filter events (if matchesFilter filter event then result ++ [event] else result, total + 1)

def queryWithTotal (s : MemoryAuditStore) (filter : EventFilter) : List Event × Int :=
  let found := scan filter s.events ([], 0)
  (limited filter found.1, found.2)

theorem scan_eq (filter : EventFilter) (events result : List Event) (total : Int) :
    scan filter events (result, total) =
      (result ++ events.filter (matchesFilter filter), total + events.length) := by
  induction events generalizing result total with
  | nil => simp [scan]
  | cons event events ih =>
    rw [scan, ih]
    refine Prod.ext ?_ ?_
    · by_cases h : matchesFilter filter event = true
      · simp [h]
      · simp [h]
    · show total + 1 + (events.length : Int) = total + ((events.length + 1 : Nat) : Int)
      omega

theorem queryWithTotal_eq (s : MemoryAuditStore) (filter : EventFilter) :
    s.queryWithTotal filter = (s.query filter, (s.events.length : Int)) := by
  unfold queryWithTotal query
  rw [scan_eq, List.nil_append, Int.zero_add]

end MemoryAuditStore

section Dates

def isLeap (year : Nat) : Bool := year % 4 = 0 && (year % 100 ≠ 0 || year % 400 = 0)

def daysIn (month year : Nat) : Nat :=
  if month = 2 then (if isLeap year then 29 else 28)
  else if month = 4 ∨ month = 6 ∨ month = 9 ∨ month = 11 then 30 else 31

/-- The days from the first of year 0 to the first of a year: a year that 4 divides has one more, but
for those that 100 and not 400 divides. -/
def daysBeforeYear (year : Nat) : Nat :=
  365 * year + (year + 3) / 4 - (year + 99) / 100 + (year + 399) / 400

def daysBeforeMonth (month year : Nat) : Nat :=
  ((List.range (month - 1)).map (fun m => daysIn (m + 1) year)).sum

/-- Midnight of a date, in UTC. -/
def dateTime (year month day : Nat) : Time :=
  (((daysBeforeYear year + daysBeforeMonth month year + day - 1 : Nat) : Int) - 719528) * 86400 * second

def number (digits : List Char) : Nat := Nat.ofDigitChars 10 digits 0

/-- `time.Parse("2006-01-02", s)`; `none` is an error. -/
def parseDate (s : String) : Option Time :=
  match s.toList with
  | [y₁, y₂, y₃, y₄, '-', m₁, m₂, '-', d₁, d₂] =>
    if [y₁, y₂, y₃, y₄, m₁, m₂, d₁, d₂].all Char.isDigit then
      let year := number [y₁, y₂, y₃, y₄]
      let month := number [m₁, m₂]
      let day := number [d₁, d₂]
      if 1 ≤ month ∧ month ≤ 12 ∧ 1 ≤ day ∧ day ≤ daysIn month year then some (dateTime year month day)
      else none
    else none
  | _ => none

def day : Int := 24 * 3600 * second

end Dates

namespace PostgresAuditStore

/-- The conversion of `Emit`, with what the repository fills in. -/
def toModel {V : Type} (m : Emission) : AuditEvent V :=
  let timestamp := if m.event.createdAt = zeroTime then m.r.now else m.event.createdAt
  { eventID := if m.event.eventID = "" then m.r.uuid else m.event.eventID
    eventName := m.event.action
    eventCategory := ""
    eventSubCategory := ""
    timestamp := timestamp
    timestampMs := timestamp / 1000000
    idempotencyKey := ""
    operatorID := 0
    tenantID := m.event.tenantID
    objectType := m.event.objectType
    objectID := m.event.objectID
    action := m.event.action
    actionDetail := ""
    credentialType := ""
    sourceType := ""
    sourceIP := m.event.sourceIP
    targetDirect := false
    resultCode := m.event.resultCode
    resultMessage := ""
    success := false
    extensions := []
    createdAt := m.r.later }

variable {V : Type}

/-- INSERT of an event that the table takes. -/
def emit (t : EventTable V) (m : Emission) : EventTable V := ⟨t.columns, t.rows ++ [(toModel m).row]⟩

def convertEventFromModel (me : AuditEvent V) : Event :=
  ⟨me.eventID, me.tenantID, me.objectType, me.objectID, me.action, me.resultCode, me.sourceIP, me.createdAt⟩

/-- The conversion of `Query` and `QueryWithTotal`: object type and id are lost, a date that does not
parse is none, and the end of a day is a second before the next. -/
def toRepository (filter : EventFilter) : RepositoryFilter :=
  { tenantID := filter.tenantID
    operatorID := 0
    category := ""
    eventName := filter.action
    startTime := if filter.startDate ≠ "" then parseDate filter.startDate else none
    endTime := if filter.endDate ≠ "" then (parseDate filter.endDate).map (fun t => t + (day - second)) else none
    limit := filter.limit
    offset := 0 }

def queryWithTotal (t : EventTable V) (filter : EventFilter) : Except RepoError (List Event × Int) :=
  (t.query (toRepository filter)).map (fun found => (found.1.map convertEventFromModel, found.2))

end PostgresAuditStore

structure LogItem where
  eventID : String
  operatorID : Int
  tenantID : Int
  objectType : String
  objectID : Int
  action : String
  createdAt : Time
  deriving DecidableEq

structure AccountLog where
  data : List LogItem
  page : Int
  pageSize : Int
  total : Int
  deriving DecidableEq

def LogItem.ofEvent (ev : Event) : LogItem :=
  ⟨ev.eventID, ev.tenantID, ev.tenantID, ev.objectType, ev.objectID, ev.action, ev.createdAt⟩

def logSize (pageSize : Int) : Int :=
  let pageSize := if pageSize < 1 then 20 else pageSize
  if pageSize > 1000 then 1000 else pageSize

def accountFilter (supplierID accountID limit : Int) : EventFilter :=
  ⟨supplierID, "supply_account", accountID, "", "", "", limit⟩

/-- `handleAccountAuditLogs` after `requireSupplierID`; `page` and `pageSize` are what the query of the
URL gives or its defaults. -/
def accountAuditLogs (queryWithTotal : EventFilter → Except RepoError (List Event × Int))
    (supplierID accountID page pageSize : Int) : Except RepoError AccountLog :=
  let page := if page < 1 then 1 else page
  (queryWithTotal (accountFilter supplierID accountID (logSize pageSize))).map (fun found =>
    ⟨found.1.map LogItem.ofEvent, page, logSize pageSize, found.2⟩)

theorem accountAuditLogs_ok {queryWithTotal : EventFilter → Except RepoError (List Event × Int)}
    {supplierID accountID page pageSize : Int} {found : List Event × Int}
    (h : queryWithTotal (accountFilter supplierID accountID (logSize pageSize)) = .ok found) :
    accountAuditLogs queryWithTotal supplierID accountID page pageSize =
      .ok ⟨found.1.map LogItem.ofEvent, if page < 1 then 1 else page, logSize pageSize, found.2⟩ := by
  unfold accountAuditLogs
  rw [h]
  rfl

/-- The time of an event: its own, or else that of its emission. -/
def Emission.time (m : Emission) : Time := if m.event.createdAt = zeroTime then m.r.now else m.event.createdAt

/-- From the first instant of a date on; a text that is no date asks for nothing. -/
def since (date : String) (t : Time) : Bool :=
  match parseDate date with
  | some start => start ≤ t
  | none => true

/-- Before the end of a date. -/
def through (date : String) (t : Time) : Bool :=
  match parseDate date with
  | some start => t < start + day
  | none => true

/-- What the filter asks for, all of it. -/
def Satisfies (filter : EventFilter) (m : Emission) : Prop :=
  (0 < filter.tenantID → m.event.tenantID = filter.tenantID) ∧
  (filter.objectType ≠ "" → m.event.objectType = filter.objectType) ∧
  (0 < filter.objectID → m.event.objectID = filter.objectID) ∧
  (filter.action ≠ "" → m.event.action = filter.action) ∧
  since filter.startDate m.time = true ∧ through filter.endDate m.time = true

instance (filter : EventFilter) (m : Emission) : Decidable (Satisfies filter m) :=
  inferInstanceAs (Decidable (_ ∧ _ ∧ _ ∧ _ ∧ _ ∧ _))

def satisfying (filter : EventFilter) (emitted : List Emission) : List Emission :=
  emitted.filter (fun m => decide (Satisfies filter m))

def memoryAfter (emitted : List Emission) : MemoryAuditStore := emitted.foldl MemoryAuditStore.emit ⟨[]⟩

def tableAfter (V : Type) (columns : List String) (emitted : List Emission) : EventTable V :=
  emitted.foldl PostgresAuditStore.emit ⟨columns, []⟩

/-- Both stores select, before the limit, the events that satisfy the filter, and report their number. -/
def QueriesExact (V : Type) (columns : List String) (filter : EventFilter) (emitted : List Emission) : Prop :=
  (memoryAfter emitted).events.filter (MemoryAuditStore.matchesFilter filter) =
    (satisfying filter emitted).map MemoryAuditStore.stamp ∧
  ((memoryAfter emitted).queryWithTotal filter).2 = (satisfying filter emitted).length ∧
  (tableAfter V columns emitted).selectRows (PostgresAuditStore.toRepository filter) =
    (satisfying filter emitted).map (fun m => (PostgresAuditStore.toModel m).row) ∧
  ∃ page, PostgresAuditStore.queryWithTotal (tableAfter V columns emitted) filter =
    .ok (page, ((satisfying filter emitted).length : Int))

section

variable {V : Type} {columns : List String} {filter : EventFilter} {emitted : List Emission}

theorem memoryAfter_events (emitted : List Emission) :
    (memoryAfter emitted).events = emitted.map MemoryAuditStore.stamp := by
  have hfold : ∀ (s : MemoryAuditStore), (emitted.foldl MemoryAuditStore.emit s).events =
      s.events ++ emitted.map MemoryAuditStore.stamp := by
    induction emitted with
    | nil => simp
    | cons m emitted ih =>
      intro s
      rw [List.foldl_cons, ih, MemoryAuditStore.emit, List.append_assoc]
      rfl
  exact hfold ⟨[]⟩

theorem tableAfter_eq (columns : List String) (emitted : List Emission) :
    tableAfter V columns emitted = ⟨columns, emitted.map (fun m => (PostgresAuditStore.toModel m).row)⟩ := by
  have hfold : ∀ (t : EventTable V), emitted.foldl PostgresAuditStore.emit t =
      ⟨t.columns, t.rows ++ emitted.map (fun m => (PostgresAuditStore.toModel m).row)⟩ := by
    induction emitted with
    | nil => simp
    | cons m emitted ih =>
      intro t
      rw [List.foldl_cons, ih, PostgresAuditStore.emit]
      simp
  exact hfold ⟨columns, []⟩

theorem matchesFilter_stamp {m : Emission} :
    MemoryAuditStore.matchesFilter filter (MemoryAuditStore.stamp m) = true ↔
      (0 < filter.tenantID → m.event.tenantID = filter.tenantID) ∧
      (filter.objectType ≠ "" → m.event.objectType = filter.objectType) ∧
      (0 < filter.objectID → m.event.objectID = filter.objectID) ∧
      (filter.action ≠ "" → m.event.action = filter.action) := by
  unfold MemoryAuditStore.matchesFilter MemoryAuditStore.stamp
  simp only [Bool.and_eq_true, Bool.not_eq_true', Bool.and_eq_false_imp, bne_iff_ne, ne_eq,
    bne_eq_false_iff_eq, decide_eq_true_eq, gt_iff_lt, and_assoc]

theorem matchesFilter_of_satisfies {m : Emission} (h : Satisfies filter m) :
    MemoryAuditStore.matchesFilter filter (MemoryAuditStore.stamp m) = true := by
  obtain ⟨htenant, htype, hid, haction, -⟩ := h
  exact matchesFilter_stamp.mpr ⟨htenant, htype, hid, haction⟩

theorem rowSelected_iff {m : Emission} :
    (PostgresAuditStore.toRepository filter).conditions.all
        (Condition.holds (PostgresAuditStore.toModel (V := V) m).row) = true ↔
      (filter.tenantID ≠ 0 → m.event.tenantID = filter.tenantID) ∧
      (filter.action ≠ "" → m.event.action = filter.action) ∧
      (∀ t, (PostgresAuditStore.toRepository filter).startTime = some t →
        microseconds t ≤ microseconds m.time) ∧
      ∀ t, (PostgresAuditStore.toRepository filter).endTime = some t →
        microseconds m.time ≤ microseconds t := by
  rw [RepositoryFilter.all_holds_row_iff]
  simp only [PostgresAuditStore.toRepository, ne_eq, not_true_eq_false, false_implies, true_and]
  exact Iff.rfl

theorem parseDate_empty : parseDate "" = none := rfl

theorem nanoseconds_of_parseDate {s : String} {t : Time} (h : parseDate s = some t) :
    Audit.nanoseconds t = 0 := by
  unfold parseDate at h
  split at h
  next =>
    split at h
    next =>
      dsimp only at h
      split at h
      next =>
        obtain rfl := Option.some.inj h
        show _ * 86400 * 1000000000 % 1000 = (0 : Int)
        omega
      next => cases h
    next => cases h
  next => cases h

theorem toRepository_startTime (filter : EventFilter) :
    (PostgresAuditStore.toRepository filter).startTime = parseDate filter.startDate := by
  show (if filter.startDate ≠ "" then parseDate filter.startDate else none) = _
  split
  next => rfl
  next h => rw [not_not.mp h, parseDate_empty]

theorem toRepository_endTime (filter : EventFilter) :
    (PostgresAuditStore.toRepository filter).endTime =
      (parseDate filter.endDate).map (fun t => t + (day - second)) := by
  show (if filter.endDate ≠ "" then _ else none) = _
  split
  next => rfl
  next h => rw [not_not.mp h, parseDate_empty, Option.map_none]

/-- A date starts with a microsecond, so its row is not before it when the event is not. -/
theorem since_iff {date : String} {t : Time} :
    since date t = true ↔ ∀ start, parseDate date = some start → microseconds start ≤ microseconds t := by
  unfold since
  cases hdate : parseDate date with
  | none => simp
  | some start =>
    simp only [decide_eq_true_eq, Option.some.injEq, forall_eq',
      Audit.whole_le_iff (nanoseconds_of_parseDate hdate)]

/-- What the query of the database asks for besides the filter: a negative tenant too, and none of the
last second of the end date. -/
def Kept (filter : EventFilter) (m : Emission) : Prop :=
  (filter.tenantID < 0 → m.event.tenantID = filter.tenantID) ∧
  ∀ t, parseDate filter.endDate = some t → microseconds m.time ≤ microseconds (t + (day - second))

theorem rowSelected_iff_kept {m : Emission} (h : Satisfies filter m) :
    (PostgresAuditStore.toRepository filter).conditions.all
        (Condition.holds (PostgresAuditStore.toModel (V := V) m).row) = true ↔ Kept filter m := by
  obtain ⟨htenant, -, -, haction, hsince, -⟩ := h
  rw [rowSelected_iff, toRepository_startTime, toRepository_endTime]
  constructor
  · rintro ⟨hdbtenant, -, -, hend⟩
    refine ⟨fun hneg => hdbtenant (by omega), fun t ht => hend _ ?_⟩
    rw [ht, Option.map_some]
  · rintro ⟨hneg, hend⟩
    refine ⟨fun hne => ?_, haction, since_iff.mp hsince, ?_⟩
    · rcases lt_or_gt_of_ne hne with hlt | hgt
      · exact hneg hlt
      · exact htenant hgt
    · intro u hu
      obtain ⟨t, ht, rfl⟩ := Option.map_eq_some_iff.mp hu
      exact hend t ht

theorem satisfying_eq_self (h : ∀ m ∈ emitted, Satisfies filter m) : satisfying filter emitted = emitted :=
  List.filter_eq_self.mpr (fun m hm => decide_eq_true (h m hm))

theorem satisfies_of_length (h : (satisfying filter emitted).length = emitted.length) :
    ∀ m ∈ emitted, Satisfies filter m :=
  fun m hm => of_decide_eq_true (List.length_filter_eq_length_iff.mp h m hm)

/-- Every row is selected just when every event is kept. -/
theorem selectRows_eq_all_iff (V : Type) (columns : List String) (h : ∀ m ∈ emitted, Satisfies filter m) :
    (tableAfter V columns emitted).selectRows (PostgresAuditStore.toRepository filter) =
      emitted.map (fun m => (PostgresAuditStore.toModel m).row) ↔ ∀ m ∈ emitted, Kept filter m := by
  rw [tableAfter_eq, EventTable.selectRows, List.filter_eq_self, List.forall_mem_map]
  exact forall₂_congr (fun m hm => rowSelected_iff_kept (h m hm))

theorem answers_iff (V : Type) (columns : List String) (filter : EventFilter) (emitted : List Emission) :
    (tableAfter V columns emitted).Answers (PostgresAuditStore.toRepository filter) ↔
      (∀ column ∈ selectedColumns, column ∈ columns) ∧ storableText filter.action = true := by
  rw [tableAfter_eq]
  constructor
  · intro h
    exact ⟨h.columns, (RepositoryFilter.all_sendable_iff.mp h.sendable).2⟩
  · rintro ⟨hcolumns, haction⟩
    exact ⟨hcolumns, RepositoryFilter.all_sendable_iff.mpr ⟨rfl, haction⟩⟩

theorem answers_of_queryWithTotal {t : EventTable V} {r : List Event × Int}
    (h : PostgresAuditStore.queryWithTotal t filter = .ok r) :
    t.Answers (PostgresAuditStore.toRepository filter) := by
  unfold PostgresAuditStore.queryWithTotal at h
  cases hquery : t.query (PostgresAuditStore.toRepository filter) with
  | error e =>
    rw [hquery] at h
    cases h
  | ok found => exact EventTable.answers_of_query_ok hquery

theorem queryWithTotal_ok {t : EventTable V} (h : t.Answers (PostgresAuditStore.toRepository filter)) :
    ∃ page, PostgresAuditStore.queryWithTotal t filter =
        .ok (page, ((t.selectRows (PostgresAuditStore.toRepository filter)).length : Int)) ∧
      (0 < filter.limit → page.length = min (min filter.limit 1000).toNat
        (t.selectRows (PostgresAuditStore.toRepository filter)).length) := by
  obtain ⟨page, hquery, hlength⟩ := EventTable.query_ok h
  refine ⟨page.map PostgresAuditStore.convertEventFromModel, ?_, ?_⟩
  · rw [PostgresAuditStore.queryWithTotal, hquery]
    rfl
  · intro hlimit
    rw [List.length_map, hlength hlimit]
    rfl

end

/-- The in-memory total counts every event, so it is right only where every event satisfies the filter;
the database, which is not told of the object, then has to keep them all. -/
theorem queries_exact_iff (V : Type) (columns : List String) (filter : EventFilter) (emitted : List Emission) :
    QueriesExact V columns filter emitted ↔
      ((∀ column ∈ selectedColumns, column ∈ columns) ∧ storableText filter.action = true) ∧
        ∀ m ∈ emitted, Satisfies filter m ∧ Kept filter m := by
  rw [← answers_iff V columns filter emitted]
  constructor
  · rintro ⟨-, htotal, hrows, page, hpage⟩
    have hall : ∀ m ∈ emitted, Satisfies filter m := by
      apply satisfies_of_length
      rw [MemoryAuditStore.queryWithTotal_eq, memoryAfter_events, List.length_map] at htotal
      exact (Int.ofNat_inj.mp htotal).symm
    rw [satisfying_eq_self hall] at hrows
    have hkept := (selectRows_eq_all_iff V columns hall).mp hrows
    exact ⟨answers_of_queryWithTotal hpage, fun m hm => ⟨hall m hm, hkept m hm⟩⟩
  · rintro ⟨hanswers, hevents⟩
    have hall : ∀ m ∈ emitted, Satisfies filter m := fun m hm => (hevents m hm).1
    have hrows := (selectRows_eq_all_iff V columns hall).mpr (fun m hm => (hevents m hm).2)
    obtain ⟨page, hpage, -⟩ := queryWithTotal_ok hanswers
    rw [hrows, List.length_map] at hpage
    unfold QueriesExact
    rw [satisfying_eq_self hall]
    refine ⟨?_, ?_, hrows, page, hpage⟩
    · rw [memoryAfter_events, List.filter_eq_self, List.forall_mem_map]
      exact fun m hm => matchesFilter_of_satisfies (hall m hm)
    · rw [MemoryAuditStore.queryWithTotal_eq, memoryAfter_events, List.length_map]

def accountCreated (accountID : Int) (uuid : String) : Emission :=
  ⟨⟨"", 7, "supply_account", accountID, "create", "OK", "", zeroTime⟩,
    ⟨1700000000 * second, 1700000000 * second, uuid⟩⟩

/-- An event of each of two accounts of one supplier. -/
def twoAccounts : List Emission :=
  [accountCreated 1 "3b241101-e2bb-4255-8caf-4136c566a962",
   accountCreated 2 "6ba7b810-9dad-41d1-80b4-00c04fd430c8"]

/-- The log of the first account lists and counts the event of the second. -/
theorem account_log_of_others :
    (∃ log, accountAuditLogs (PostgresAuditStore.queryWithTotal (tableAfter Unit selectedColumns twoAccounts))
        7 1 1 20 = .ok log ∧ log.data.length = 2 ∧ log.total = 2) ∧
      (∃ log, accountAuditLogs (fun filter => .ok ((memoryAfter twoAccounts).queryWithTotal filter))
        7 1 1 20 = .ok log ∧ log.data.length = 1 ∧ log.total = 2) ∧
      (satisfying (accountFilter 7 1 20) twoAccounts).length = 1 ∧
      ¬QueriesExact Unit selectedColumns (accountFilter 7 1 20) twoAccounts := by
  have hone : (satisfying (accountFilter 7 1 20) twoAccounts).length = 1 := by decide
  refine ⟨?_, ⟨_, rfl, by decide, by decide⟩, hone, ?_⟩
  · have hanswers := (answers_iff Unit selectedColumns (accountFilter 7 1 20) twoAccounts).mpr ⟨fun _ h => h, rfl⟩
    obtain ⟨page, hpage, hlength⟩ := queryWithTotal_ok hanswers
    have hrows : ((tableAfter Unit selectedColumns twoAccounts).selectRows
        (PostgresAuditStore.toRepository (accountFilter 7 1 20))).length = 2 := by decide
    rw [hrows] at hpage hlength
    refine ⟨_, accountAuditLogs_ok hpage, ?_, rfl⟩
    rw [List.length_map, hlength (by decide)]
    decide
  · rintro ⟨-, htotal, -⟩
    rw [hone] at htotal
    revert htotal
    decide

end SupplyPlatform.AuditLog
