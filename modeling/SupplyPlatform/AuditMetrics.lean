import Mathlib.Algebra.Order.Field.Rat
import Mathlib.Tactic.Linarith
import SupplyPlatform.AuditQuery
import SupplyPlatform.Lib.Pages
import SupplyPlatform.Lib.Strings

namespace SupplyPlatform.Audit

open Settlements (zeroTime)

inductive Detail
  | count (n : Nat)
  | breakdown (counts : String → Nat)

/-- A metric; its value is the number that the float64 stands for. -/
structure Metric where
  metricID : String
  metricName : String
  start : Time
  stop : Time
  value : ℚ
  unit : String
  status : String
  details : List (String × Detail)

variable {V : Type}

def isM013Event (eventName : String) : Bool := Strings.hasPrefix eventName "CRED-EXPOSE"

def isM014EventByCategory (e : AuditEvent V) : Bool :=
  e.eventCategory = "CRED" && e.eventSubCategory = "INGRESS"

def isM015EventByTargetDirect (e : AuditEvent V) : Bool := e.targetDirect

def isM016Event (eventName : String) : Bool := Strings.hasPrefix eventName "token.query_key"

def isM016QueryKeyRejectEvent (eventName : String) : Bool := eventName = "token.query_key.rejected"

def isPlatformToken (e : AuditEvent V) : Bool := e.credentialType = "platform_token"

def isEventUnresolved (e : AuditEvent V) : Bool := !e.success

/-- `asBool` is the type assertion on a value of the extensions. -/
def isEventBlocked (asBool : V → Option Bool) (e : AuditEvent V) : Bool :=
  if e.success then false
  else
    match (e.extensions.lookup "blocked").bind asBool with
    | some blocked => blocked
    | none => e.resultCode = "SEC_DIRECT_BYPASS" || e.resultCode = "SEC_DIRECT_BYPASS_BLOCKED"

/-- A share in percent; all of nothing is 100. -/
def percentage (part whole : Nat) : ℚ := if 0 < whole then part / whole * 100 else 100

section Metrics

variable (start stop : Time)

/-- What `CalculateM013` makes of the events it has listed. -/
def m013Metric (events : List (AuditEvent V)) : Metric :=
  let exposureCount := events.countP (fun e => isM013Event e.eventName)
  let unresolvedCount := events.countP (fun e => isM013Event e.eventName && isEventUnresolved e)
  { metricID := "M-013"
    metricName := "supplier_credential_exposure_events"
    start := start
    stop := stop
    value := exposureCount
    unit := "count"
    status := if exposureCount > 0 then "FAIL" else "PASS"
    details := [("total_exposure_events", .count exposureCount),
      ("unresolved_events", .count unresolvedCount)] }

/-- What `CalculateM014` makes of the events it has listed. -/
def m014Metric (events : List (AuditEvent V)) : Metric :=
  let totalIngressCount := events.countP isM014EventByCategory
  let platformCount := events.countP (fun e => isM014EventByCategory e && isPlatformToken e)
  let coveragePct := percentage platformCount totalIngressCount
  { metricID := "M-014"
    metricName := "platform_credential_ingress_coverage_pct"
    start := start
    stop := stop
    value := coveragePct
    unit := "percentage"
    status := if coveragePct < 100 then "FAIL" else "PASS"
    details := [("platform_token_requests", .count platformCount),
      ("total_requests", .count totalIngressCount),
      ("non_compliant_requests", .count (totalIngressCount - platformCount))] }

/-- What `CalculateM015` makes of the events it has listed. -/
def m015Metric (asBool : V → Option Bool) (events : List (AuditEvent V)) : Metric :=
  let directCallCount := events.countP isM015EventByTargetDirect
  let blockedCount := events.countP (fun e => isM015EventByTargetDirect e && isEventBlocked asBool e)
  { metricID := "M-015"
    metricName := "direct_supplier_call_by_consumer_events"
    start := start
    stop := stop
    value := directCallCount
    unit := "count"
    status := if directCallCount > 0 then "FAIL" else "PASS"
    details := [("total_direct_call_events", .count directCallCount),
      ("blocked_events", .count blockedCount)] }

/-- What `CalculateM016` makes of the events it has listed. -/
def m016Metric (events : List (AuditEvent V)) : Metric :=
  let totalQueryKey := events.countP (fun e => isM016Event e.eventName)
  let rejectedCount := events.countP (fun e =>
    isM016Event e.eventName && isM016QueryKeyRejectEvent e.eventName)
  let rejectBreakdown := fun code => events.countP (fun e =>
    (isM016Event e.eventName && isM016QueryKeyRejectEvent e.eventName) && e.resultCode = code)
  let rejectRate := percentage rejectedCount totalQueryKey
  { metricID := "M-016"
    metricName := "query_key_external_reject_rate_pct"
    start := start
    stop := stop
    value := rejectRate
    unit := "percentage"
    status := if rejectRate < 100 then "FAIL" else "PASS"
    details := [("rejected_requests", .count rejectedCount),
      ("total_external_query_key_requests", .count totalQueryKey),
      ("reject_breakdown", .breakdown rejectBreakdown)] }

/-- The filter of all four: the events of a period, but not more than 10000. -/
def metricsFilter : EventFilter :=
  { EventFilter.empty with startTime := start, endTime := stop, limit := 10000 }

/-- `Query` of an implementation of `AuditStoreInterface`. -/
abbrev Query (V : Type) := EventFilter → Except RepoError (List (AuditEvent V) × Int)

def calculateM013 (query : Query V) : Except RepoError Metric :=
  (query (metricsFilter start stop)).map (fun r => m013Metric start stop r.1)

def calculateM014 (query : Query V) : Except RepoError Metric :=
  (query (metricsFilter start stop)).map (fun r => m014Metric start stop r.1)

def calculateM015 (asBool : V → Option Bool) (query : Query V) : Except RepoError Metric :=
  (query (metricsFilter start stop)).map (fun r => m015Metric start stop asBool r.1)

def calculateM016 (query : Query V) : Except RepoError Metric :=
  (query (metricsFilter start stop)).map (fun r => m016Metric start stop r.1)

/-- An instant lies in the period; a bound that is not set bounds nothing. -/
def inPeriod (e : AuditEvent V) : Bool :=
  (start = zeroTime || start ≤ e.timestamp) && (stop = zeroTime || e.timestamp ≤ stop)

end Metrics

/-- An event that one of the metrics counts. -/
def counted (e : AuditEvent V) : Bool :=
  isM013Event e.eventName || isM014EventByCategory e || isM015EventByTargetDirect e || isM016Event e.eventName

/-- The metrics are those of all stored events of the period, and none of them passes with an event in it
that violates it. -/
structure ReportsAll (asBool : V → Option Bool) (query : Query V) (stored : List (AuditEvent V))
    (start stop : Time) : Prop where
  m013 : calculateM013 start stop query = .ok (m013Metric start stop (stored.filter (inPeriod start stop)))
  m014 : calculateM014 start stop query = .ok (m014Metric start stop (stored.filter (inPeriod start stop)))
  m015 : calculateM015 start stop asBool query =
    .ok (m015Metric start stop asBool (stored.filter (inPeriod start stop)))
  m016 : calculateM016 start stop query = .ok (m016Metric start stop (stored.filter (inPeriod start stop)))
  pass013 : ∀ m, calculateM013 start stop query = .ok m → m.status = "PASS" →
    ∀ e ∈ stored, inPeriod start stop e = true → isM013Event e.eventName = false
  pass014 : ∀ m, calculateM014 start stop query = .ok m → m.status = "PASS" →
    ∀ e ∈ stored, inPeriod start stop e = true → isM014EventByCategory e = true → isPlatformToken e = true
  pass015 : ∀ m, calculateM015 start stop asBool query = .ok m → m.status = "PASS" →
    ∀ e ∈ stored, inPeriod start stop e = true → isM015EventByTargetDirect e = false
  pass016 : ∀ m, calculateM016 start stop query = .ok m → m.status = "PASS" →
    ∀ e ∈ stored, inPeriod start stop e = true → isM016Event e.eventName = true →
      isM016QueryKeyRejectEvent e.eventName = true

theorem percentage_lt_iff {part whole : Nat} (hle : part ≤ whole) :
    percentage part whole < 100 ↔ part < whole := by
  unfold percentage
  by_cases hpos : 0 < whole
  · rw [if_pos hpos]
    have hwhole : (0 : ℚ) < whole := by exact_mod_cast hpos
    have hratio : ((part : ℚ) / whole < 1) ↔ part < whole := by
      rw [div_lt_one hwhole]
      exact_mod_cast Iff.rfl
    rw [← hratio]
    constructor <;> intro h <;> linarith
  · rw [if_neg hpos]
    exact iff_of_false (lt_irrefl _) (by omega)

section Passing

variable {start stop : Time} {events : List (AuditEvent V)} {e : AuditEvent V}

theorem not_exposure_of_pass (h : (m013Metric start stop events).status = "PASS") (he : e ∈ events) :
    isM013Event e.eventName = false := by
  have hzero : ¬(events.countP (fun e => isM013Event e.eventName) > 0) := by
    intro hpos
    rw [m013Metric, if_pos hpos] at h
    simp at h
  have hnone := List.countP_eq_zero.mp (Nat.eq_zero_of_not_pos hzero) e he
  simpa using hnone

theorem not_direct_of_pass {asBool : V → Option Bool}
    (h : (m015Metric start stop asBool events).status = "PASS") (he : e ∈ events) :
    isM015EventByTargetDirect e = false := by
  have hzero : ¬(events.countP isM015EventByTargetDirect > 0) := by
    intro hpos
    rw [m015Metric, if_pos hpos] at h
    simp at h
  have hnone := List.countP_eq_zero.mp (Nat.eq_zero_of_not_pos hzero) e he
  simpa using hnone

/-- Where a share is not below 100, all of the kind are of the part. -/
theorem forall_of_not_percentage_lt {p q : AuditEvent V → Bool}
    (h : ¬(percentage (events.countP (fun e => p e && q e)) (events.countP p) < 100)) (he : e ∈ events)
    (hp : p e = true) : q e = true := by
  have hle : events.countP (fun e => p e && q e) ≤ events.countP p :=
    List.countP_mono_left (fun e _ hboth => (Bool.and_eq_true_iff.mp hboth).1)
  rw [percentage_lt_iff hle] at h
  exact Pages.forall_of_countP_le (Nat.not_lt.mp h) e he hp

theorem platformToken_of_pass (h : (m014Metric start stop events).status = "PASS") (he : e ∈ events)
    (hingress : isM014EventByCategory e = true) : isPlatformToken e = true := by
  refine forall_of_not_percentage_lt (fun hlt => ?_) he hingress
  rw [m014Metric, if_pos hlt] at h
  simp at h

theorem rejected_of_pass (h : (m016Metric start stop events).status = "PASS") (he : e ∈ events)
    (hkey : isM016Event e.eventName = true) : isM016QueryKeyRejectEvent e.eventName = true := by
  refine forall_of_not_percentage_lt (p := fun e => isM016Event e.eventName)
    (q := fun e => isM016QueryKeyRejectEvent e.eventName) (fun hlt => ?_) he hkey
  rw [m016Metric, if_pos hlt] at h
  simp at h

end Passing

section Complete

variable {asBool : V → Option Bool} {query : Query V} {stored page rest : List (AuditEvent V)}
  {start stop : Time} {total : Int}

/-- The metrics read of the events only how many there are of some kinds that are counted. -/
theorem reportsAll_of_counts (hquery : query (metricsFilter start stop) = .ok (page, total))
    (h : ∀ p : AuditEvent V → Bool, (∀ e, p e = true → counted e = true) →
      page.countP p = (stored.filter (inPeriod start stop)).countP p) :
    ReportsAll asBool query stored start stop := by
  have h013 : calculateM013 start stop query =
      .ok (m013Metric start stop (stored.filter (inPeriod start stop))) := by
    rw [calculateM013, hquery]
    refine congrArg Except.ok ?_
    simp only [m013Metric]
    rw [h _ (by simp +contextual [counted]), h _ (by simp +contextual [counted])]
  have h014 : calculateM014 start stop query =
      .ok (m014Metric start stop (stored.filter (inPeriod start stop))) := by
    rw [calculateM014, hquery]
    refine congrArg Except.ok ?_
    simp only [m014Metric]
    rw [h _ (by simp +contextual [counted]), h _ (by simp +contextual [counted])]
  have h015 : calculateM015 start stop asBool query =
      .ok (m015Metric start stop asBool (stored.filter (inPeriod start stop))) := by
    rw [calculateM015, hquery]
    refine congrArg Except.ok ?_
    simp only [m015Metric]
    rw [h _ (by simp +contextual [counted]), h _ (by simp +contextual [counted])]
  have h016 : calculateM016 start stop query =
      .ok (m016Metric start stop (stored.filter (inPeriod start stop))) := by
    rw [calculateM016, hquery]
    refine congrArg Except.ok ?_
    have hbreakdown : (fun code => page.countP (fun e =>
        (isM016Event e.eventName && isM016QueryKeyRejectEvent e.eventName) && e.resultCode = code)) =
        (fun code => (stored.filter (inPeriod start stop)).countP (fun e =>
          (isM016Event e.eventName && isM016QueryKeyRejectEvent e.eventName) && e.resultCode = code)) := by
      funext code
      exact h _ (by simp +contextual [counted])
    simp only [m016Metric]
    rw [h _ (by simp +contextual [counted]), h _ (by simp +contextual [counted]), hbreakdown]
  have hmem : ∀ e ∈ stored, inPeriod start stop e = true → e ∈ stored.filter (inPeriod start stop) :=
    fun e he hin => List.mem_filter.mpr ⟨he, hin⟩
  refine ⟨h013, h014, h015, h016, ?_, ?_, ?_, ?_⟩
  · intro m hm hpass e he hin
    cases Except.ok.inj (h013.symm.trans hm)
    exact not_exposure_of_pass hpass (hmem e he hin)
  · intro m hm hpass e he hin
    cases Except.ok.inj (h014.symm.trans hm)
    exact platformToken_of_pass hpass (hmem e he hin)
  · intro m hm hpass e he hin
    cases Except.ok.inj (h015.symm.trans hm)
    exact not_direct_of_pass hpass (hmem e he hin)
  · intro m hm hpass e he hin
    cases Except.ok.inj (h016.symm.trans hm)
    exact rejected_of_pass hpass (hmem e he hin)

/-- The totals of the metrics tell how many events there are of each kind that is counted. -/
theorem counts_of_reportsAll (hquery : query (metricsFilter start stop) = .ok (page, total))
    (h : ReportsAll asBool query stored start stop) :
    page.countP (fun e => isM013Event e.eventName) =
      (stored.filter (inPeriod start stop)).countP (fun e => isM013Event e.eventName) ∧
    page.countP isM014EventByCategory = (stored.filter (inPeriod start stop)).countP isM014EventByCategory ∧
    page.countP isM015EventByTargetDirect =
      (stored.filter (inPeriod start stop)).countP isM015EventByTargetDirect ∧
    page.countP (fun e => isM016Event e.eventName) =
      (stored.filter (inPeriod start stop)).countP (fun e => isM016Event e.eventName) := by
  obtain ⟨h013, h014, h015, h016, -, -, -, -⟩ := h
  rw [calculateM013, hquery] at h013
  rw [calculateM014, hquery] at h014
  rw [calculateM015, hquery] at h015
  rw [calculateM016, hquery] at h016
  have hd013 := congrArg Metric.details (Except.ok.inj h013)
  have hd014 := congrArg Metric.details (Except.ok.inj h014)
  have hd015 := congrArg Metric.details (Except.ok.inj h015)
  have hd016 := congrArg Metric.details (Except.ok.inj h016)
  simp only [m013Metric, m014Metric, m015Metric, m016Metric, List.cons.injEq, Prod.mk.injEq,
    Detail.count.injEq, true_and] at hd013 hd014 hd015 hd016
  exact ⟨hd013.1, hd014.2.1, hd015.1, hd016.2.1⟩

/-- A store that answers with a page of what it has selected reports everything exactly when no event on
the page is counted that is outside the period, and none inside that is not on the page. -/
theorem reportsAll_iff (hquery : query (metricsFilter start stop) = .ok (page, total))
    (hperm : ((page ++ rest).filter (inPeriod start stop)).Perm (stored.filter (inPeriod start stop)))
    (hsep : (∀ e ∈ page, inPeriod start stop e = true) ∨ (∀ e ∈ rest, inPeriod start stop e = false)) :
    ReportsAll asBool query stored start stop ↔
      (∀ e ∈ page, counted e = true → inPeriod start stop e = true) ∧
      (∀ e ∈ rest, inPeriod start stop e = true → counted e = false) := by
  constructor
  · intro h
    obtain ⟨h013, h014, h015, h016⟩ := counts_of_reportsAll hquery h
    rw [← hperm.countP_eq, Pages.countP_page_iff hsep] at h013 h014 h015 h016
    constructor
    · intro e he hcounted
      simp only [counted, Bool.or_eq_true] at hcounted
      rcases hcounted with ((hexposure | hingress) | hdirect) | hkey
      · exact h013.1 e he hexposure
      · exact h014.1 e he hingress
      · exact h015.1 e he hdirect
      · exact h016.1 e he hkey
    · intro e he hin
      simp only [counted, Bool.or_eq_false_iff]
      exact ⟨⟨⟨h013.2 e he hin, h014.2 e he hin⟩, h015.2 e he hin⟩, h016.2 e he hin⟩
  · intro h
    refine reportsAll_of_counts hquery (fun p hp => ?_)
    rw [← hperm.countP_eq, Pages.countP_page_iff hsep]
    refine ⟨fun e he hpe => h.1 e he (hp e hpe), fun e he hin => ?_⟩
    have hnot := h.2 e he hin
    by_contra hpe
    rw [hp e (by simpa using hpe)] at hnot
    cases hnot

end Complete

section Stores

variable {start stop : Time}

theorem inPeriod_iff {e : AuditEvent V} :
    inPeriod start stop e = true ↔ (metricsFilter start stop).InRange e.timestamp := by
  unfold inPeriod EventFilter.InRange metricsFilter
  simp [or_iff_not_imp_left]

theorem selectEvents_metricsFilter (s : InMemoryAuditStore V) :
    s.selectEvents (metricsFilter start stop) = s.events.filter (inPeriod start stop) := by
  refine List.filter_congr (fun e _ => ?_)
  rw [Bool.eq_iff_iff, matchesFilter_iff, inPeriod_iff]
  simp [metricsFilter, EventFilter.empty]

theorem query_metricsFilter (s : InMemoryAuditStore V) :
    s.query (metricsFilter start stop) = ((s.events.filter (inPeriod start stop)).take 10000,
      ((s.events.filter (inPeriod start stop)).length : Int)) := by
  have hoffset : ¬((metricsFilter start stop).offset > 0) := by simp [metricsFilter, EventFilter.empty]
  have hlimit : (metricsFilter start stop).limit = 10000 := rfl
  unfold InMemoryAuditStore.query
  rw [selectEvents_metricsFilter, hlimit]
  dsimp only
  rw [if_neg (fun h => hoffset h.1), if_neg hoffset]
  by_cases hlt : (10000 : Int) < (s.events.filter (inPeriod start stop)).length
  · rw [if_pos ⟨by omega, hlt⟩]
    rfl
  · rw [if_neg (fun h => hlt h.2), List.take_of_length_le (by omega)]

/-- The rows of a period as the statement orders them; it compares instants by their microseconds. -/
def newestFirst (t : EventTable V) (start stop : Time) : List (AuditEvent V) :=
  (t.selectRows (metricsFilter start stop).toRepository).mergeSort (fun a b => b.timestamp ≤ a.timestamp)

theorem databaseQuery_metricsFilter {t : EventTable V}
    (hcolumns : ∀ column ∈ selectedColumns, column ∈ t.columns) :
    databaseQuery t (some (metricsFilter start stop)) = .ok ((newestFirst t start stop).take 1000,
      ((t.selectRows (metricsFilter start stop).toRepository).length : Int)) := by
  have hwhere :
      t.undefinedColumn ((metricsFilter start stop).toRepository.conditions.map Condition.column) = none := by
    rw [EventTable.undefinedColumn_eq_none]
    intro column hmem
    obtain ⟨c, -, rfl⟩ := List.mem_map.mp hmem
    exact hcolumns _ c.column_mem_selectedColumns
  have hsend : (metricsFilter start stop).toRepository.conditions.all Condition.sendable = true := by
    rw [RepositoryFilter.all_sendable_iff]
    exact ⟨rfl, rfl⟩
  unfold databaseQuery EventTable.query
  rw [Option.getD_some, hwhere, EventTable.undefinedColumn_eq_none.mpr hcolumns]
  dsimp only
  rw [if_pos hsend]
  rfl

theorem holds_row (e : AuditEvent V) (c : Condition) : c.holds e.row = c.holds e := by
  cases c with
  | timestampFrom t => simp only [Condition.holds, microseconds_row]
  | timestampTo t => simp only [Condition.holds, microseconds_row]
  | _ => rfl

theorem selected_iff {e : AuditEvent V} :
    (metricsFilter start stop).toRepository.conditions.all (Condition.holds e) = true ↔
      (metricsFilter start stop).InMicroRange e.timestamp := by
  rw [← funext (holds_row e), rowSelected_iff]
  simp [metricsFilter, EventFilter.empty]

theorem mem_newestFirst {t : EventTable V} {e : AuditEvent V} :
    e ∈ newestFirst t start stop ↔ e ∈ t.rows ∧ (metricsFilter start stop).InMicroRange e.timestamp := by
  rw [newestFirst, List.mem_mergeSort, EventTable.selectRows, List.mem_filter, selected_iff]

theorem newestFirst_filter_perm (t : EventTable V) (start stop : Time) :
    ((newestFirst t start stop).filter (inPeriod start stop)).Perm (t.rows.filter (inPeriod start stop)) := by
  have hsorted : ((newestFirst t start stop).filter (inPeriod start stop)).Perm
      ((t.selectRows (metricsFilter start stop).toRepository).filter (inPeriod start stop)) :=
    (List.mergeSort_perm _ _).filter _
  refine hsorted.trans (List.Perm.of_eq ?_)
  rw [EventTable.selectRows, List.filter_filter]
  refine List.filter_congr (fun e _ => ?_)
  cases hin : inPeriod start stop e with
  | false => rfl
  | true => exact selected_iff.mpr (inMicroRange_of_inRange (inPeriod_iff.mp hin))

theorem newestFirst_ordered (t : EventTable V) (start stop : Time) :
    (newestFirst t start stop).Pairwise (fun a b => b.timestamp ≤ a.timestamp) := by
  have htrans : ∀ a b c : AuditEvent V, decide (b.timestamp ≤ a.timestamp) = true →
      decide (c.timestamp ≤ b.timestamp) = true → decide (c.timestamp ≤ a.timestamp) = true :=
    fun a b c hab hbc => decide_eq_true (Int.le_trans (of_decide_eq_true hbc) (of_decide_eq_true hab))
  have htotal : ∀ a b : AuditEvent V,
      (decide (b.timestamp ≤ a.timestamp) || decide (a.timestamp ≤ b.timestamp)) = true := by
    intro a b
    rcases Int.le_total b.timestamp a.timestamp with h | h <;> simp [h]
  exact (List.pairwise_mergeSort htrans htotal _).imp of_decide_eq_true

/-- A selected row outside the period is older than every row in it: it is of the microsecond of the start. -/
theorem lt_of_outside {t : EventTable V} (hrows : ∀ e ∈ t.rows, nanoseconds e.timestamp = 0)
    {e e' : AuditEvent V} (he : e ∈ newestFirst t start stop) (hout : inPeriod start stop e = false)
    (hin : inPeriod start stop e' = true) : e.timestamp < e'.timestamp := by
  obtain ⟨hrow, hfrom, hto⟩ := mem_newestFirst.mp he
  obtain ⟨hfrom', -⟩ := inPeriod_iff.mp hin
  have hwhole := hrows e hrow
  have hnot : ¬(metricsFilter start stop).InRange e.timestamp := by
    rw [← inPeriod_iff, hout]
    exact Bool.false_ne_true
  have hstop : (metricsFilter start stop).endTime ≠ zeroTime →
      e.timestamp ≤ (metricsFilter start stop).endTime :=
    fun hset => (whole_le_iff hwhole).mpr (hto hset)
  by_contra hle
  refine hnot ⟨fun hset => ?_, hstop⟩
  exact Int.le_trans (hfrom' hset) (Int.not_lt.mp hle)

variable (asBool : V → Option Bool)

/-- The in-memory store lists the first 10000 events of the period. -/
theorem memory_reportsAll_iff (s : InMemoryAuditStore V) :
    ReportsAll asBool (fun filter => .ok (s.query filter)) s.events start stop ↔
      ∀ e ∈ (s.events.filter (inPeriod start stop)).drop 10000, counted e = false := by
  have hinside : ∀ e ∈ s.events.filter (inPeriod start stop), inPeriod start stop e = true :=
    fun e he => (List.mem_filter.mp he).2
  have hall : ((s.events.filter (inPeriod start stop)).take 10000 ++
      (s.events.filter (inPeriod start stop)).drop 10000).filter (inPeriod start stop) =
      s.events.filter (inPeriod start stop) := by
    rw [List.take_append_drop]
    exact List.filter_eq_self.mpr hinside
  rw [reportsAll_iff (congrArg Except.ok (query_metricsFilter s)) (List.Perm.of_eq hall)
    (.inl (fun e he => hinside e (List.mem_of_mem_take he)))]
  constructor
  · exact fun h e he => h.2 e he (hinside e (List.mem_of_mem_drop he))
  · exact fun h => ⟨fun e he _ => hinside e (List.mem_of_mem_take he), fun e he _ => h e he⟩

/-- The database lists the 1000 newest rows that are of the microseconds of the period. -/
theorem database_reportsAll_iff {t : EventTable V} (hcolumns : ∀ column ∈ selectedColumns, column ∈ t.columns)
    (hrows : ∀ e ∈ t.rows, nanoseconds e.timestamp = 0) :
    ReportsAll asBool (fun filter => databaseQuery t (some filter)) t.rows start stop ↔
      (∀ e ∈ (newestFirst t start stop).take 1000, counted e = true → inPeriod start stop e = true) ∧
      (∀ e ∈ (newestFirst t start stop).drop 1000, inPeriod start stop e = true → counted e = false) := by
  have hsplit := List.take_append_drop 1000 (newestFirst t start stop)
  refine reportsAll_iff (databaseQuery_metricsFilter hcolumns) ?_ ?_
  · rw [hsplit]
    exact newestFirst_filter_perm t start stop
  · by_cases hall : ∀ e ∈ (newestFirst t start stop).take 1000, inPeriod start stop e = true
    · exact .inl hall
    · right
      obtain ⟨e, he, hout⟩ : ∃ e ∈ (newestFirst t start stop).take 1000, inPeriod start stop e = false := by
        by_contra hnone
        exact hall (fun e he => by_contra (fun hout => hnone ⟨e, he, by simpa using hout⟩))
      intro e' he'
      by_contra hin
      have hlt := lt_of_outside hrows (List.mem_of_mem_take he) hout (by simpa using hin)
      have hordered := newestFirst_ordered t start stop
      rw [← hsplit] at hordered
      have hle := (List.pairwise_append.mp hordered).2.2 e he e' he'
      exact absurd hlt (Int.not_lt.mpr hle)

end Stores

/-- The metrics are complete exactly when what the page of the store leaves out is nothing that they count
and, in the database, nothing is counted that comes before the start within its microsecond. -/
theorem metrics_complete_iff (asBool : V → Option Bool) (s : InMemoryAuditStore V) (t : EventTable V)
    (hcolumns : ∀ column ∈ selectedColumns, column ∈ t.columns)
    (hrows : ∀ e ∈ t.rows, nanoseconds e.timestamp = 0) (start stop : Time) :
    (ReportsAll asBool (fun filter => .ok (s.query filter)) s.events start stop ↔
      ∀ e ∈ (s.events.filter (inPeriod start stop)).drop 10000, counted e = false) ∧
    (ReportsAll asBool (fun filter => databaseQuery t (some filter)) t.rows start stop ↔
      (∀ e ∈ (newestFirst t start stop).take 1000, counted e = true → inPeriod start stop e = true) ∧
      (∀ e ∈ (newestFirst t start stop).drop 1000, inPeriod start stop e = true → counted e = false)) :=
  ⟨memory_reportsAll_iff asBool s, database_reportsAll_iff asBool hcolumns hrows⟩

def directCall : AuditEvent String := { EventFilter.empty.eventAt 5000 with targetDirect := true }

def heartbeat : AuditEvent String := EventFilter.empty.eventAt 4000

theorem metrics_complete_of_two :
    ReportsAll (fun _ => none) (fun filter => .ok ((⟨[heartbeat, directCall], fun _ => none⟩ :
      InMemoryAuditStore String).query filter)) [heartbeat, directCall] 3000 6000 := by
  have hboth := metrics_complete_iff (fun _ => none) ⟨[heartbeat, directCall], fun _ => none⟩
    ⟨selectedColumns, [heartbeat]⟩ (fun _ h => h) (by decide) 3000 6000
  exact hboth.1.mpr (by decide)

/-- After 10000 others, a direct call is on no page: M-015 passes. -/
theorem direct_call_beyond_page :
    ¬∀ (s : InMemoryAuditStore String) (start stop : Time),
      ReportsAll (fun _ => none) (fun filter => .ok (s.query filter)) s.events start stop := by
  intro h
  have hreports := h ⟨List.replicate 10000 heartbeat ++ [directCall], fun _ => none⟩ 3000 6000
  rw [memory_reportsAll_iff] at hreports
  have hin : inPeriod 3000 6000 heartbeat = true := by decide
  have hfilter : (List.replicate 10000 heartbeat ++ [directCall]).filter (inPeriod 3000 6000) =
      List.replicate 10000 heartbeat ++ [directCall] := by
    rw [List.filter_append, List.filter_replicate_of_pos hin]
    rfl
  have hdrop : (List.replicate 10000 heartbeat ++ [directCall]).drop 10000 = [directCall] :=
    List.drop_left' List.length_replicate
  rw [hfilter, hdrop] at hreports
  exact absurd (hreports directCall (List.mem_singleton_self _)) (by decide)

end SupplyPlatform.Audit
