import SupplyPlatform.AuditStore
import SupplyPlatform.IamRepository

namespace SupplyPlatform.Audit

open Settlements (zeroTime)
open Iam (storableText)

/-- `repository.EventFilter`, the filter of the layer below. -/
structure RepositoryFilter where
  tenantID : Int
  operatorID : Int
  category : String
  eventName : String
  startTime : Option Time
  endTime : Option Time
  limit : Int
  offset : Int
  deriving DecidableEq

/-- TIMESTAMPTZ counts microseconds; the driver cuts off what is below, in rows and arguments. -/
def microseconds (t : Time) : Int := t / 1000

def nanoseconds (t : Time) : Int := t % 1000

inductive Condition
  | tenantID (id : Int)
  | eventCategory (category : String)
  | eventName (name : String)
  | operatorID (id : Int)
  | timestampFrom (t : Time)
  | timestampTo (t : Time)
  deriving DecidableEq

def Condition.column : Condition → String
  | .tenantID _ => "tenant_id"
  | .eventCategory _ => "event_category"
  | .eventName _ => "event_name"
  | .operatorID _ => "operator_id"
  | .timestampFrom _ => "timestamp"
  | .timestampTo _ => "timestamp"

/-- PostgreSQL takes no text with a NUL character. -/
def Condition.sendable : Condition → Bool
  | .eventCategory category => storableText category
  | .eventName name => storableText name
  | _ => true

def selectedColumns : List String :=
  ["event_id", "event_name", "event_category", "event_sub_category",
   "timestamp", "timestamp_ms",
   "request_id", "trace_id", "span_id",
   "idempotency_key",
   "operator_id", "operator_type", "operator_role",
   "tenant_id", "tenant_type",
   "object_type", "object_id",
   "action", "action_detail",
   "credential_type", "credential_id", "credential_fingerprint",
   "source_type", "source_ip", "source_region", "user_agent",
   "target_type", "target_endpoint", "target_direct",
   "result_code", "result_message", "success",
   "before_state", "after_state",
   "security_flags", "risk_score",
   "compliance_tags", "invariant_rule",
   "extensions",
   "version", "created_at"]

variable {V : Type}

def Condition.holds (e : AuditEvent V) : Condition → Bool
  | .tenantID id => e.tenantID == id
  | .eventCategory category => e.eventCategory == category
  | .eventName name => e.eventName == name
  | .operatorID id => e.operatorID == id
  | .timestampFrom t => microseconds e.timestamp ≥ microseconds t
  | .timestampTo t => microseconds e.timestamp ≤ microseconds t

/-- The table `audit_events`: the columns it has and, as events, its rows. -/
structure EventTable (V : Type) where
  columns : List String
  rows : List (AuditEvent V)

def AuditEvent.row (e : AuditEvent V) : AuditEvent V :=
  { e with
    timestamp := microseconds e.timestamp * 1000
    createdAt := microseconds e.createdAt * 1000 }

def RepositoryFilter.conditions (filter : RepositoryFilter) : List Condition :=
  (if filter.tenantID ≠ 0 then [.tenantID filter.tenantID] else []) ++
  (if filter.category ≠ "" then [.eventCategory filter.category] else []) ++
  (if filter.eventName ≠ "" then [.eventName filter.eventName] else []) ++
  (if filter.operatorID ≠ 0 then [.operatorID filter.operatorID] else []) ++
  (match filter.startTime with
    | some t => [.timestampFrom t]
    | none => []) ++
  (match filter.endTime with
    | some t => [.timestampTo t]
    | none => [])

namespace EventTable

def selectRows (t : EventTable V) (filter : RepositoryFilter) : List (AuditEvent V) :=
  t.rows.filter (fun e => filter.conditions.all (Condition.holds e))

def undefinedColumn (t : EventTable V) (columns : List String) : Option String :=
  columns.find? (fun column => column ∉ t.columns)

def queryError (context column : String) : RepoError :=
  .message (context ++ ": column \"" ++ column ++ "\" does not exist")

def encodingError : RepoError :=
  .message "failed to count audit events: invalid byte sequence for encoding \"UTF8\": 0x00"

/-- `PostgresAuditRepository.Query`: the COUNT, then the page ORDER BY timestamp DESC; rows of one
timestamp may come in any order. -/
def query (t : EventTable V) (filter : RepositoryFilter) :
    Except RepoError (List (AuditEvent V) × Int) :=
  match t.undefinedColumn (filter.conditions.map Condition.column) with
  | some column => .error (queryError "failed to count audit events" column)
  | none =>
    if filter.conditions.all Condition.sendable then
      let total : Int := (t.selectRows filter).length
      let limit := if filter.limit ≤ 0 then 100 else filter.limit
      let limit := if limit > 1000 then 1000 else limit
      let offset := if filter.offset < 0 then 0 else filter.offset
      match t.undefinedColumn selectedColumns with
      | some column => .error (queryError "failed to query audit events" column)
      | none =>
        let ordered := (t.selectRows filter).mergeSort (fun a b => b.timestamp ≤ a.timestamp)
        .ok ((ordered.drop offset.toNat).take limit.toNat, total)
    else .error encodingError

end EventTable

def EventFilter.empty : EventFilter := ⟨0, "", "", "", 0, zeroTime, zeroTime, none, 0, 0⟩

/-- The conversion of `DatabaseAuditService.Query`. -/
def EventFilter.toRepository (filter : EventFilter) : RepositoryFilter :=
  { tenantID := filter.tenantID
    operatorID := 0
    category := filter.category
    eventName := filter.eventName
    startTime := if filter.startTime = zeroTime then none else some filter.startTime
    endTime := if filter.endTime = zeroTime then none else some filter.endTime
    limit := filter.limit
    offset := filter.offset }

/-- `DatabaseAuditService.Query`; a nil filter is the empty one. -/
def databaseQuery (t : EventTable V) (filter : Option EventFilter) :
    Except RepoError (List (AuditEvent V) × Int) :=
  t.query (filter.getD EventFilter.empty).toRepository

def InMemoryAuditStore.table (s : InMemoryAuditStore V) (columns : List String) : EventTable V :=
  ⟨columns, s.events.map AuditEvent.row⟩

/-- The two services report one total, select the same events and, for a Limit from 1 to 10000,
return pages of one size. -/
def QueriesAgree (columns : List String) (filter : EventFilter) (s : InMemoryAuditStore V) : Prop :=
  ∃ page total, databaseQuery (s.table columns) (some filter) = .ok (page, total) ∧
    total = (s.query filter).2 ∧
    ((s.table columns).selectRows filter.toRepository).Perm
      ((s.selectEvents filter).map AuditEvent.row) ∧
    (1 ≤ filter.limit → filter.limit ≤ 10000 → page.length = (s.query filter).1.length)

/-- Both ends of the range are set and no microsecond is in it. -/
def EventFilter.RangeEmpty (filter : EventFilter) : Prop :=
  filter.startTime ≠ zeroTime ∧ filter.endTime ≠ zeroTime ∧
    microseconds filter.endTime < microseconds filter.startTime

/-- A filter that survives the conversion: it asks for nothing the repository's filter lacks, its
tenant is not negative, its range is one of whole microseconds, and its Limit is not clamped. -/
structure EventFilter.Survives (filter : EventFilter) : Prop where
  tenantID : 0 ≤ filter.tenantID
  objectType : filter.objectType = ""
  objectID : filter.objectID ≤ 0
  success : filter.success = none
  startTime : filter.startTime ≠ zeroTime → nanoseconds filter.startTime = 0
  endTime : filter.endTime ≠ zeroTime → nanoseconds filter.endTime = 999
  limit : filter.limit ≤ 1000 ∨ 10000 < filter.limit

section Selection

/-- An instant in the range, as the in-memory store compares. -/
def EventFilter.InRange (filter : EventFilter) (t : Time) : Prop :=
  (filter.startTime ≠ zeroTime → filter.startTime ≤ t) ∧
  (filter.endTime ≠ zeroTime → t ≤ filter.endTime)

/-- An instant in the range, as PostgreSQL compares. -/
def EventFilter.InMicroRange (filter : EventFilter) (t : Time) : Prop :=
  (filter.startTime ≠ zeroTime → microseconds filter.startTime ≤ microseconds t) ∧
  (filter.endTime ≠ zeroTime → microseconds t ≤ microseconds filter.endTime)

theorem matchesFilter_iff {filter : EventFilter} {e : AuditEvent V} :
    InMemoryAuditStore.matchesFilter filter e = true ↔
      (0 < filter.tenantID → e.tenantID = filter.tenantID) ∧
      (filter.category ≠ "" → e.eventCategory = filter.category) ∧
      (filter.eventName ≠ "" → e.eventName = filter.eventName) ∧
      (filter.objectType ≠ "" → e.objectType = filter.objectType) ∧
      (0 < filter.objectID → e.objectID = filter.objectID) ∧
      filter.InRange e.timestamp ∧
      (∀ success, filter.success = some success → e.success = success) := by
  unfold InMemoryAuditStore.matchesFilter EventFilter.InRange
  cases hs : filter.success <;>
    simp only [Bool.and_eq_true, Bool.not_eq_true', Bool.and_eq_false_imp, bne_iff_ne, ne_eq,
      bne_eq_false_iff_eq, decide_eq_true_eq, decide_eq_false_iff_not, gt_iff_lt, not_lt, and_assoc,
      reduceCtorEq, false_implies, implies_true, Option.some.injEq, forall_eq']

theorem all_optional_condition {α : Type} {p : α → Bool} {asked : Prop} [Decidable asked] {c : α} :
    (if asked then [c] else []).all p = true ↔ (asked → p c = true) := by
  by_cases h : asked <;> simp [h]

theorem microseconds_row (e : AuditEvent V) :
    microseconds e.row.timestamp = microseconds e.timestamp := by
  show microseconds e.timestamp * 1000 / 1000 = _
  omega

theorem RepositoryFilter.all_holds_row_iff {filter : RepositoryFilter} {e : AuditEvent V} :
    filter.conditions.all (Condition.holds e.row) = true ↔
      (filter.tenantID ≠ 0 → e.tenantID = filter.tenantID) ∧
      (filter.category ≠ "" → e.eventCategory = filter.category) ∧
      (filter.eventName ≠ "" → e.eventName = filter.eventName) ∧
      (filter.operatorID ≠ 0 → e.operatorID = filter.operatorID) ∧
      (∀ t, filter.startTime = some t → microseconds t ≤ microseconds e.timestamp) ∧
      (∀ t, filter.endTime = some t → microseconds e.timestamp ≤ microseconds t) := by
  unfold RepositoryFilter.conditions
  cases filter.startTime <;> cases filter.endTime <;>
    simp only [List.all_append, List.all_cons, List.all_nil, Bool.and_eq_true, Bool.and_true, and_assoc,
      all_optional_condition, Condition.holds, microseconds_row, beq_iff_eq, decide_eq_true_eq, ge_iff_le,
      reduceCtorEq, false_implies, implies_true, Option.some.injEq, forall_eq', and_true, true_and] <;>
    exact Iff.rfl

theorem optional_time_iff {t : Time} {p : Time → Prop} :
    (∀ u, (if t = zeroTime then none else some t) = some u → p u) ↔ (t ≠ zeroTime → p t) := by
  by_cases h : t = zeroTime <;> simp [h]

theorem rowSelected_iff {filter : EventFilter} {e : AuditEvent V} :
    filter.toRepository.conditions.all (Condition.holds e.row) = true ↔
      (filter.tenantID ≠ 0 → e.tenantID = filter.tenantID) ∧
      (filter.category ≠ "" → e.eventCategory = filter.category) ∧
      (filter.eventName ≠ "" → e.eventName = filter.eventName) ∧
      filter.InMicroRange e.timestamp := by
  rw [RepositoryFilter.all_holds_row_iff]
  unfold EventFilter.toRepository EventFilter.InMicroRange
  simp only [optional_time_iff, ne_eq, not_true_eq_false, false_implies, true_and]

/-- An instant at the start of a microsecond is compared by its microsecond, as is one at the end. -/
theorem whole_le_iff {start t : Int} (h : nanoseconds start = 0) :
    start ≤ t ↔ microseconds start ≤ microseconds t := by
  unfold nanoseconds at h
  unfold microseconds
  omega

theorem le_whole_iff {t finish : Int} (h : nanoseconds finish = 999) :
    t ≤ finish ↔ microseconds t ≤ microseconds finish := by
  unfold nanoseconds at h
  unfold microseconds
  omega

theorem inRange_iff_of_survives {filter : EventFilter} (h : filter.Survives) (t : Time) :
    filter.InRange t ↔ filter.InMicroRange t := by
  refine and_congr (imp_congr_right (fun hset => ?_)) (imp_congr_right (fun hset => ?_))
  · exact whole_le_iff (h.startTime hset)
  · exact le_whole_iff (h.endTime hset)

theorem not_inMicroRange_of_rangeEmpty {filter : EventFilter} (h : filter.RangeEmpty) (t : Time) :
    ¬filter.InMicroRange t := by
  rintro ⟨hfrom, hto⟩
  obtain ⟨hstart, hend, hlt⟩ := h
  have hle := (hfrom hstart).trans (hto hend)
  omega

theorem inMicroRange_of_inRange {filter : EventFilter} {t : Time} (h : filter.InRange t) :
    filter.InMicroRange t :=
  ⟨fun hset => Int.ediv_le_ediv (by decide) (h.1 hset),
    fun hset => Int.ediv_le_ediv (by decide) (h.2 hset)⟩

def SelectedAlike (filter : EventFilter) (e : AuditEvent V) : Prop :=
  InMemoryAuditStore.matchesFilter filter e = true ↔
    filter.toRepository.conditions.all (Condition.holds e.row) = true

theorem selectedAlike_of_survives {filter : EventFilter} (h : filter.Survives) (e : AuditEvent V) :
    SelectedAlike filter e := by
  unfold SelectedAlike
  rw [matchesFilter_iff, rowSelected_iff, inRange_iff_of_survives h]
  have htenant : 0 < filter.tenantID ↔ filter.tenantID ≠ 0 := by
    have hnonneg := h.tenantID
    omega
  have hid : ¬0 < filter.objectID := by
    have hle := h.objectID
    omega
  simp only [htenant, h.objectType, hid, h.success, ne_eq, not_true_eq_false, false_implies,
    reduceCtorEq, implies_true, true_and, and_true]

theorem selectedAlike_of_rangeEmpty {filter : EventFilter} (h : filter.RangeEmpty)
    (e : AuditEvent V) : SelectedAlike filter e := by
  have hmicro := not_inMicroRange_of_rangeEmpty h e.timestamp
  have hrange : ¬filter.InRange e.timestamp := fun hin => hmicro (inMicroRange_of_inRange hin)
  unfold SelectedAlike
  rw [matchesFilter_iff, rowSelected_iff]
  simp only [hmicro, hrange, false_and, and_false]

theorem selectRows_table (s : InMemoryAuditStore V) (columns : List String) {filter : EventFilter}
    (h : ∀ e ∈ s.events, SelectedAlike filter e) :
    (s.table columns).selectRows filter.toRepository = (s.selectEvents filter).map AuditEvent.row := by
  unfold EventTable.selectRows InMemoryAuditStore.table InMemoryAuditStore.selectEvents
  rw [List.filter_map]
  congr 1
  apply List.filter_congr
  intro e he
  exact (Bool.eq_iff_iff.mpr (h e he)).symm

end Selection

section Paging

theorem InMemoryAuditStore.query_total (s : InMemoryAuditStore V) (filter : EventFilter) :
    (s.query filter).2 = (s.selectEvents filter).length := by
  unfold query
  dsimp only
  split
  next => rfl
  next => split <;> split <;> rfl

theorem InMemoryAuditStore.query_page_length (s : InMemoryAuditStore V) {filter : EventFilter}
    (hlimit : 0 < filter.limit) :
    (s.query filter).1.length =
      min filter.limit.toNat ((s.selectEvents filter).length - filter.offset.toNat) := by
  unfold query
  dsimp only
  generalize s.selectEvents filter = result
  split
  next hoff =>
    simp only [List.length_nil]
    omega
  next hoff =>
    have hdrop : (if filter.offset > 0 then result.drop filter.offset.toNat else result).length =
        result.length - filter.offset.toNat := by
      split
      next => exact List.length_drop
      next => omega
    generalize (if filter.offset > 0 then result.drop filter.offset.toNat else result) = rest at hdrop ⊢
    split
    next => rw [List.length_take, hdrop]
    next => rw [hdrop]; omega

theorem EventTable.undefinedColumn_eq_none {t : EventTable V} {columns : List String} :
    t.undefinedColumn columns = none ↔ ∀ column ∈ columns, column ∈ t.columns := by
  simp [undefinedColumn]

theorem Condition.column_mem_selectedColumns (c : Condition) : c.column ∈ selectedColumns := by
  cases c <;> simp [column, selectedColumns]

/-- What the statements need: every column they name and arguments that can be sent. -/
structure EventTable.Answers (t : EventTable V) (filter : RepositoryFilter) : Prop where
  columns : ∀ column ∈ selectedColumns, column ∈ t.columns
  sendable : filter.conditions.all Condition.sendable = true

theorem EventTable.query_ok {t : EventTable V} {filter : RepositoryFilter} (h : t.Answers filter) :
    ∃ page, t.query filter = .ok (page, ((t.selectRows filter).length : Int)) ∧
      (0 < filter.limit → page.length = min (min filter.limit 1000).toNat
        ((t.selectRows filter).length - filter.offset.toNat)) := by
  have hwhere : t.undefinedColumn (filter.conditions.map Condition.column) = none := by
    rw [undefinedColumn_eq_none]
    intro column hmem
    obtain ⟨c, -, rfl⟩ := List.mem_map.mp hmem
    exact h.columns _ c.column_mem_selectedColumns
  unfold query
  rw [hwhere, undefinedColumn_eq_none.mpr h.columns]
  dsimp only
  rw [if_pos h.sendable]
  refine ⟨_, rfl, ?_⟩
  intro hlimit
  rw [List.length_take, List.length_drop, List.length_mergeSort]
  split <;> split <;> split <;> omega

theorem EventTable.answers_of_query_ok {t : EventTable V} {filter : RepositoryFilter}
    {r : List (AuditEvent V) × Int} (h : t.query filter = .ok r) : t.Answers filter := by
  unfold query at h
  dsimp only at h
  split at h
  next => cases h
  next =>
    split at h
    next hsend =>
      split at h
      next => cases h
      next hnone => exact ⟨undefinedColumn_eq_none.mp hnone, hsend⟩
    next => cases h

theorem RepositoryFilter.all_sendable_iff {filter : RepositoryFilter} :
    filter.conditions.all Condition.sendable = true ↔
      storableText filter.category = true ∧ storableText filter.eventName = true := by
  have hempty : ∀ text : String, (text ≠ "" → storableText text = true) ↔ storableText text = true := by
    intro text
    constructor
    · intro h
      by_cases htext : text = ""
      · subst htext
        rfl
      · exact h htext
    · exact fun h _ => h
  unfold RepositoryFilter.conditions
  cases filter.startTime <;> cases filter.endTime <;>
    simp only [List.all_append, List.all_cons, List.all_nil, Bool.and_eq_true, Bool.and_true,
      all_optional_condition, Condition.sendable, implies_true, true_and, and_true, hempty]

end Paging

theorem queriesAgree_of_selectedAlike {columns : List String} {filter : EventFilter}
    (s : InMemoryAuditStore V) (hanswers : (s.table columns).Answers filter.toRepository)
    (hsame : ∀ e : AuditEvent V, SelectedAlike filter e)
    (hlimit : filter.limit ≤ 1000 ∨ 10000 < filter.limit ∨ s.selectEvents filter = []) :
    QueriesAgree columns filter s := by
  have hrows := selectRows_table s columns (fun e _ => hsame e)
  obtain ⟨page, hquery, hpage⟩ := EventTable.query_ok hanswers
  refine ⟨page, _, hquery, ?_, List.Perm.of_eq hrows, ?_⟩
  · rw [s.query_total, hrows, List.length_map]
  · intro hpos hle
    rw [hpage hpos, s.query_page_length hpos, hrows, List.length_map]
    change min (min filter.limit 1000).toNat (_ - filter.offset.toNat) = _
    rcases hlimit with hsmall | hlarge | hnone
    · rw [min_eq_left hsmall]
    · omega
    · simp [hnone]

theorem selectEvents_of_rangeEmpty (s : InMemoryAuditStore V) {filter : EventFilter}
    (h : filter.RangeEmpty) : s.selectEvents filter = [] := by
  apply List.filter_eq_nil_iff.mpr
  intro e _ hmatch
  have hin := (matchesFilter_iff.mp hmatch).2.2.2.2.2.1
  exact not_inMicroRange_of_rangeEmpty h e.timestamp (inMicroRange_of_inRange hin)

section Necessity

variable {filter : EventFilter}

/-- An event that passes every test of the filter but those on the time. -/
def EventFilter.eventAt (filter : EventFilter) (t : Time) : AuditEvent V :=
  { eventID := "e1", eventName := filter.eventName, eventCategory := filter.category,
    eventSubCategory := "", timestamp := t, timestampMs := 0, idempotencyKey := "", operatorID := 0,
    tenantID := filter.tenantID, objectType := filter.objectType, objectID := filter.objectID,
    action := "", actionDetail := "", credentialType := "", sourceType := "", sourceIP := "",
    targetDirect := false, resultCode := "", resultMessage := "",
    success := filter.success.getD true, extensions := [], createdAt := t }

/-- The first instant of the microsecond the range begins with, or else of the one it ends with. -/
def EventFilter.instant (filter : EventFilter) : Time :=
  if filter.startTime ≠ zeroTime then microseconds filter.startTime * 1000
  else microseconds filter.endTime * 1000

theorem microseconds_mul (n : Int) : microseconds (n * 1000) = n := by
  unfold microseconds
  omega

theorem microseconds_last (n : Int) : microseconds (n * 1000 + 999) = n := by
  unfold microseconds
  omega

theorem nanoseconds_of_le {t : Int} (h : t ≤ microseconds t * 1000) : nanoseconds t = 0 := by
  unfold microseconds at h
  unfold nanoseconds
  omega

theorem nanoseconds_of_last_le {t : Int} (h : microseconds t * 1000 + 999 ≤ t) :
    nanoseconds t = 999 := by
  unfold microseconds at h
  unfold nanoseconds
  omega

theorem inMicroRange_instant (h : ¬filter.RangeEmpty) : filter.InMicroRange filter.instant := by
  unfold EventFilter.InMicroRange EventFilter.instant
  split
  next hstart =>
    rw [microseconds_mul]
    refine ⟨fun _ => le_refl _, fun hend => ?_⟩
    by_contra hlt
    exact h ⟨hstart, hend, not_le.mp hlt⟩
  next hstart =>
    rw [microseconds_mul]
    exact ⟨fun hset => absurd hset hstart, fun _ => le_refl _⟩

theorem selectedAlike_of_agree {columns : List String} {e : AuditEvent V}
    (h : QueriesAgree columns filter ⟨[e], fun _ => none⟩) : SelectedAlike filter e := by
  obtain ⟨_, _, -, -, hperm, -⟩ := h
  have hlength := hperm.length_eq
  unfold EventTable.selectRows InMemoryAuditStore.table InMemoryAuditStore.selectEvents at hlength
  unfold SelectedAlike
  cases hmem : InMemoryAuditStore.matchesFilter filter e <;>
    cases hrow : filter.toRepository.conditions.all (Condition.holds e.row) <;>
    simp [hmem, hrow] at hlength ⊢

section

variable (halike : ∀ e : AuditEvent V, SelectedAlike filter e)

include halike

theorem matches_of_alike {e : AuditEvent V} (htenant : e.tenantID = filter.tenantID)
    (hcategory : e.eventCategory = filter.category) (hname : e.eventName = filter.eventName)
    (htime : filter.InMicroRange e.timestamp) :
    (filter.objectType ≠ "" → e.objectType = filter.objectType) ∧
    (0 < filter.objectID → e.objectID = filter.objectID) ∧
    filter.InRange e.timestamp ∧
    (∀ success, filter.success = some success → e.success = success) := by
  have hrow := rowSelected_iff.mpr ⟨fun _ => htenant, fun _ => hcategory, fun _ => hname, htime⟩
  exact (matchesFilter_iff.mp ((halike e).mpr hrow)).2.2.2

theorem inRange_of_alike {t : Time} (h : filter.InMicroRange t) : filter.InRange t :=
  (matches_of_alike halike (e := filter.eventAt t) rfl rfl rfl h).2.2.1

variable (hrange : ¬filter.RangeEmpty)

include hrange

theorem tenantID_nonneg_of_alike : 0 ≤ filter.tenantID := by
  by_contra hneg
  -- tenant 0 is let through by the in-memory test and not by the condition
  have hmatch : InMemoryAuditStore.matchesFilter filter
      { filter.eventAt filter.instant with tenantID := 0 : AuditEvent V } = true := by
    refine matchesFilter_iff.mpr ⟨fun hpos => ?_, fun _ => rfl, fun _ => rfl, fun _ => rfl,
      fun _ => rfl, inRange_of_alike halike (inMicroRange_instant hrange), ?_⟩
    · omega
    · intro success hs
      show filter.success.getD true = success
      rw [hs]
      rfl
  have htenant := (rowSelected_iff.mp ((halike _).mp hmatch)).1 (by omega)
  change 0 = filter.tenantID at htenant
  omega

theorem objectType_empty_of_alike : filter.objectType = "" := by
  by_contra hne
  have heq := (matches_of_alike halike
    (e := { filter.eventAt filter.instant with objectType := filter.objectType ++ "x" })
    rfl rfl rfl (inMicroRange_instant hrange)).1 hne
  have hlength := congrArg String.length heq
  rw [String.length_append] at hlength
  change filter.objectType.length + 1 = filter.objectType.length at hlength
  omega

theorem objectID_nonpos_of_alike : filter.objectID ≤ 0 := by
  by_contra hpos
  have heq := (matches_of_alike halike
    (e := { filter.eventAt filter.instant with objectID := filter.objectID + 1 })
    rfl rfl rfl (inMicroRange_instant hrange)).2.1 (by omega)
  change filter.objectID + 1 = filter.objectID at heq
  omega

theorem success_none_of_alike : filter.success = none := by
  cases hs : filter.success with
  | none => rfl
  | some success =>
    have heq := (matches_of_alike halike
      (e := { filter.eventAt filter.instant with success := !success })
      rfl rfl rfl (inMicroRange_instant hrange)).2.2.2 success hs
    cases success <;> cases heq

theorem startTime_whole_of_alike (hset : filter.startTime ≠ zeroTime) :
    nanoseconds filter.startTime = 0 := by
  have hle := (inRange_of_alike halike (inMicroRange_instant hrange)).1 hset
  unfold EventFilter.instant at hle
  rw [if_pos hset] at hle
  exact nanoseconds_of_le hle

theorem endTime_whole_of_alike (hset : filter.endTime ≠ zeroTime) :
    nanoseconds filter.endTime = 999 := by
  have hlast : filter.InMicroRange (microseconds filter.endTime * 1000 + 999) := by
    have hmicro := microseconds_last (microseconds filter.endTime)
    unfold EventFilter.InMicroRange
    rw [hmicro]
    refine ⟨fun hstart => ?_, fun _ => le_refl _⟩
    by_contra hlt
    exact hrange ⟨hstart, hset, not_le.mp hlt⟩
  exact nanoseconds_of_last_le ((inRange_of_alike halike hlast).2 hset)

theorem limit_of_agree {columns : List String}
    (hagree : ∀ s : InMemoryAuditStore V, QueriesAgree columns filter s) :
    filter.limit ≤ 1000 ∨ 10000 < filter.limit := by
  by_contra hbetween
  obtain ⟨hlow, hhigh⟩ := not_or.mp hbetween
  let e : AuditEvent V := filter.eventAt filter.instant
  have hrow := rowSelected_iff (e := e).mpr
    ⟨fun _ => rfl, fun _ => rfl, fun _ => rfl, inMicroRange_instant hrange⟩
  let s : InMemoryAuditStore V :=
    ⟨List.replicate (filter.offset.toNat + filter.limit.toNat) e, fun _ => none⟩
  have hselect : (s.selectEvents filter).length = filter.offset.toNat + filter.limit.toNat := by
    unfold InMemoryAuditStore.selectEvents
    rw [List.filter_replicate_of_pos ((halike e).mpr hrow), List.length_replicate]
  obtain ⟨page, total, hquery, -, -, hsize⟩ := hagree s
  have hanswers : (s.table columns).Answers filter.toRepository :=
    EventTable.answers_of_query_ok hquery
  obtain ⟨page', hquery', hpage⟩ := EventTable.query_ok hanswers
  have hsame : page = page' := (Prod.mk.inj (Except.ok.inj (hquery.symm.trans hquery'))).1
  have hdatabase := hpage (show 0 < filter.limit by omega)
  rw [selectRows_table s columns (fun e _ => halike e), List.length_map, hselect] at hdatabase
  change page'.length = min (min filter.limit 1000).toNat (_ - filter.offset.toNat) at hdatabase
  have hmemory := hsize (by omega) (by omega)
  rw [s.query_page_length (by omega), hselect, hsame] at hmemory
  omega

end

theorem survives_of_agree {columns : List String}
    (hagree : ∀ s : InMemoryAuditStore V, QueriesAgree columns filter s)
    (hrange : ¬filter.RangeEmpty) : filter.Survives := by
  have halike : ∀ e : AuditEvent V, SelectedAlike filter e :=
    fun e => selectedAlike_of_agree (hagree ⟨[e], fun _ => none⟩)
  exact {
    tenantID := tenantID_nonneg_of_alike halike hrange
    objectType := objectType_empty_of_alike halike hrange
    objectID := objectID_nonpos_of_alike halike hrange
    success := success_none_of_alike halike hrange
    startTime := startTime_whole_of_alike halike hrange
    endTime := endTime_whole_of_alike halike hrange
    limit := limit_of_agree halike hrange hagree }

end Necessity

theorem queries_agree_iff (V : Type) (columns : List String) (filter : EventFilter) :
    (∀ s : InMemoryAuditStore V, QueriesAgree columns filter s) ↔
      (∀ column ∈ selectedColumns, column ∈ columns) ∧
      (storableText filter.category = true ∧ storableText filter.eventName = true) ∧
      (filter.RangeEmpty ∨ filter.Survives) := by
  constructor
  · intro hagree
    obtain ⟨_, _, hquery, -⟩ := hagree InMemoryAuditStore.new
    have hanswers := EventTable.answers_of_query_ok hquery
    have hsend := RepositoryFilter.all_sendable_iff.mp hanswers.sendable
    refine ⟨hanswers.columns, hsend, ?_⟩
    by_cases hrange : filter.RangeEmpty
    · exact Or.inl hrange
    · exact Or.inr (survives_of_agree hagree hrange)
  · rintro ⟨hcolumns, hsend, hcases⟩ s
    have hanswers : (s.table columns).Answers filter.toRepository :=
      ⟨hcolumns, RepositoryFilter.all_sendable_iff.mpr hsend⟩
    rcases hcases with hempty | hsurvives
    · exact queriesAgree_of_selectedAlike s hanswers (selectedAlike_of_rangeEmpty hempty)
        (Or.inr (Or.inr (selectEvents_of_rangeEmpty s hempty)))
    · refine queriesAgree_of_selectedAlike s hanswers (selectedAlike_of_survives hsurvives) ?_
      rcases hsurvives.limit with hsmall | hlarge
      · exact Or.inl hsmall
      · exact Or.inr (Or.inl hlarge)

def packageEvent : AuditEvent String :=
  { EventFilter.empty.eventAt 5000 with
    eventName := "CRED-EXPOSE", eventCategory := "CRED", tenantID := 7, objectType := "package",
    objectID := 3 }

def accountFilter : EventFilter := { EventFilter.empty with objectType := "account", limit := 20 }

theorem object_type_is_lost :
    ¬QueriesAgree selectedColumns accountFilter ⟨[packageEvent], fun _ => none⟩ := by
  rintro ⟨_, _, -, -, hperm, -⟩
  exact absurd hperm.length_eq (by decide)

end SupplyPlatform.Audit
