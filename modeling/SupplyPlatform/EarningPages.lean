import SupplyPlatform.Lib.Pages
import SupplyPlatform.Usage

namespace SupplyPlatform.Usage

open Pages (page pageCount readAll Straddles mem_readAll map_readAll perm_of_map_perm)

/-- The records read are those of the rows, each once. -/
def ReadOnce (rows : List UsageRow) (records : List EarningRecord) : Prop :=
  ∃ sorted : List UsageRow, sorted.Perm rows ∧ sorted.mapM scanRecord = .ok records

/-- Whatever order each call meets, all of them tell the number of the rows, and together the pages
give them all. -/
def RowsReadOnce (t : UsageTable) (supplierID : Int) (startDate endDate : String) (start stop : Time)
    (pageSize : Nat) : Prop :=
  let rows := t.rows.filter (selected supplierID start stop)
  ∀ orders : Nat → List UsageRow, (∀ i, Sorted t supplierID start stop (orders i)) →
    ∃ pages : Nat → List EarningRecord,
      (∀ i, listRecords t (orders i) supplierID startDate endDate (i + 1) pageSize =
        .ok (pages i, rows.length)) ∧
      ReadOnce rows ((List.range (pageCount pageSize rows.length)).flatMap pages)

def lies (supplierID : Int) (start stop : Time) (r : EarningRecord) : Bool :=
  r.supplierID = supplierID && start ≤ r.earnedAt && r.earnedAt < stop

/-- The same of the memory store, which goes over its map in some order at each call. -/
def RecordsReadOnce (s : InMemoryEarningStore) (supplierID : Int) (startDate endDate : String)
    (start stop : Time) (pageSize : Nat) : Prop :=
  let rows := s.records.filter (lies supplierID start stop)
  ∀ orders : Nat → List EarningRecord, (∀ i, (orders i).Perm s.records) →
    (∀ i, (InMemoryEarningStore.listRecords (orders i) supplierID startDate endDate (i + 1) pageSize).2 =
      rows.length) ∧
    ((List.range (pageCount pageSize rows.length)).flatMap fun i =>
      (InMemoryEarningStore.listRecords (orders i) supplierID startDate endDate (i + 1) pageSize).1).Perm rows

/-- Rows that started at one time lie on both sides of the boundary before page `i + 1`. -/
def TornApart (rows : List UsageRow) (pageSize : Nat) (startedAt : Time) (i : Nat) : Prop :=
  rows.countP (startedAt < ·.startedAt) < i * pageSize ∧ i * pageSize < rows.countP (startedAt ≤ ·.startedAt)

instance (rows : List UsageRow) (pageSize : Nat) (startedAt : Time) (i : Nat) :
    Decidable (TornApart rows pageSize startedAt i) :=
  inferInstanceAs (Decidable (_ ∧ _))

theorem straddles_iff (rows : List UsageRow) (pageSize : Nat) (k : Time) (i : Nat) :
    Straddles (fun r : UsageRow => -r.startedAt) pageSize rows k i ↔ TornApart rows pageSize (-k) i := by
  unfold Straddles TornApart
  simp only [neg_lt, neg_le]

/-- No column that the scan reads is NULL. -/
def Complete (r : UsageRow) : Prop := r.totalTokens.isSome ∧ r.success.isSome

instance (r : UsageRow) : Decidable (Complete r) := inferInstanceAs (Decidable (_ ∧ _))

def recordOf (r : UsageRow) : EarningRecord := earningRecord r (r.totalTokens.getD 0) (r.success.getD false)

theorem scanRecord_ok {r : UsageRow} (h : Complete r) : scanRecord r = .ok (recordOf r) := by
  obtain ⟨htokens, hsuccess⟩ := h
  obtain ⟨n, hn⟩ := Option.isSome_iff_exists.mp htokens
  obtain ⟨b, hb⟩ := Option.isSome_iff_exists.mp hsuccess
  simp [scanRecord, recordOf, hn, hb]

theorem scanRecord_error {r : UsageRow} (h : ¬Complete r) :
    scanRecord r = .error (.wrap "failed to scan record" .scanNull) := by
  unfold scanRecord
  split
  · rename_i htokens hsuccess
    exact absurd ⟨Option.isSome_iff_exists.mpr ⟨_, htokens⟩, Option.isSome_iff_exists.mpr ⟨_, hsuccess⟩⟩ h
  · rfl

theorem complete_of_scan {l : List UsageRow} {records : List EarningRecord} (h : l.mapM scanRecord = .ok records)
    {r : UsageRow} (hr : r ∈ l) : Complete r := by
  by_contra hnot
  obtain ⟨e, he⟩ := Relational.mapM_eq_error hr (scanRecord_error hnot)
  rw [h] at he
  cases he

theorem scan_complete {l : List UsageRow} (h : ∀ r ∈ l, Complete r) :
    l.mapM scanRecord = .ok (l.map recordOf) :=
  Relational.mapM_eq_ok fun r hr => scanRecord_ok (h r hr)

theorem listRecords_ok {t : UsageTable} {sorted : List UsageRow} {supplierID : Int}
    {startDate endDate : String} {start stop : Time} {i pageSize total : Nat} {records : List EarningRecord}
    (hrange : parseRange startDate endDate = .ok (start, stop)) :
    listRecords t sorted supplierID startDate endDate (i + 1) pageSize = .ok (records, total) ↔
      (page pageSize i sorted).mapM scanRecord = .ok records ∧
        total = (t.rows.filter (selected supplierID start stop)).length := by
  rw [listRecords_eq_ok hrange, Nat.add_sub_cancel]
  exact Iff.rfl

theorem complete_of_readOnce {t : UsageTable} {supplierID : Int} {startDate endDate : String}
    {start stop : Time} {pageSize : Nat} (hsize : 0 < pageSize)
    (hrange : parseRange startDate endDate = .ok (start, stop))
    (h : RowsReadOnce t supplierID startDate endDate start stop pageSize) :
    ∀ r ∈ t.rows.filter (selected supplierID start stop), Complete r := by
  intro r hr
  obtain ⟨l, hl⟩ := Pages.exists_ordered (fun r : UsageRow => -r.startedAt)
    (t.rows.filter (selected supplierID start stop))
  obtain ⟨pages, hpages, _⟩ := h (fun _ => l) (fun _ => hl)
  obtain ⟨i, hi⟩ := Pages.exists_page hsize (hl.1.mem_iff.mpr hr)
  exact complete_of_scan ((listRecords_ok hrange).mp (hpages i)).1 hi

/-- Of complete rows, what the calls give is what their pages hold. -/
theorem readOnce_iff {rows : List UsageRow} {orders : Nat → List UsageRow} {size : Nat}
    {pages : Nat → List EarningRecord} (hcomplete : ∀ r ∈ rows, Complete r)
    (horders : ∀ i, (orders i).Perm rows)
    (hpages : ∀ i, (page size i (orders i)).mapM scanRecord = .ok (pages i))
    (hkeys : (rows.map fun r => (r.id, r.startedAt)).Nodup) :
    ReadOnce rows ((List.range (pageCount size rows.length)).flatMap pages) ↔
      (readAll size rows.length orders).Perm rows := by
  have hall : ∀ r ∈ readAll size rows.length orders, Complete r := by
    intro r hr
    obtain ⟨i, hi⟩ := mem_readAll hr
    exact hcomplete r ((horders i).mem_iff.mp hi)
  have hpage : ∀ i, pages i = (page size i (orders i)).map recordOf := by
    intro i
    have hok := scan_complete (l := page size i (orders i)) fun r hr =>
      hcomplete r ((horders i).mem_iff.mp (List.mem_of_mem_drop (List.mem_of_mem_take hr)))
    exact (Except.ok.inj (hok.symm.trans (hpages i))).symm
  have hread : (List.range (pageCount size rows.length)).flatMap pages =
      (readAll size rows.length orders).map recordOf := by
    rw [map_readAll]
    exact congrArg (List.flatMap · _) (funext hpage)
  rw [hread]
  constructor
  · rintro ⟨sorted, hperm, hscan⟩
    have hsorted := scan_complete (l := sorted) fun r hr => hcomplete r (hperm.mem_iff.mp hr)
    have hsame := Except.ok.inj (hsorted.symm.trans hscan)
    have hids := congrArg (List.map fun e : EarningRecord => (e.id, e.earnedAt)) hsame
    rw [List.map_map, List.map_map] at hids
    have hreadKeys : (rows.map fun r => (r.id, r.startedAt)).Perm
        ((readAll size rows.length orders).map fun r => (r.id, r.startedAt)) := by
      refine (hperm.symm.map _).trans ?_
      exact List.Perm.of_eq hids
    exact perm_of_map_perm hkeys (fun r hr => (mem_readAll hr).elim fun i hi => (horders i).mem_iff.mp hi)
      hreadKeys.symm
  · intro hperm
    exact ⟨_, hperm, scan_complete hall⟩

theorem keys_nodup (t : UsageTable) (supplierID : Int) (start stop : Time) :
    ((t.rows.filter (selected supplierID start stop)).map fun r => (r.id, r.startedAt)).Nodup :=
  List.pairwise_map.mpr (t.unique.filter _)

/-- The calls for all the rows' pages read each row once under every order if and only if each of the
rows can be scanned and no page ends between rows that started at one time. -/
theorem rowsReadOnce_iff {t : UsageTable} {supplierID : Int} {startDate endDate : String}
    {start stop : Time} {pageSize : Nat} (hsize : 0 < pageSize)
    (hrange : parseRange startDate endDate = .ok (start, stop)) :
    RowsReadOnce t supplierID startDate endDate start stop pageSize ↔
      (∀ r ∈ t.rows.filter (selected supplierID start stop), Complete r) ∧
        ∀ startedAt i, ¬TornApart (t.rows.filter (selected supplierID start stop)) pageSize startedAt i := by
  have hkeys := keys_nodup t supplierID start stop
  have hstraddle := Pages.read_once_iff (fun r : UsageRow => -r.startedAt) hsize (hkeys.of_map _)
  simp only [straddles_iff] at hstraddle
  constructor
  · intro h
    have hcomplete := complete_of_readOnce hsize hrange h
    refine ⟨hcomplete, ?_⟩
    have hread := hstraddle.mp fun orders horders => by
      obtain ⟨pages, hpages, honce⟩ := h orders horders
      have hscan := fun i => ((listRecords_ok hrange).mp (hpages i)).1
      exact (readOnce_iff hcomplete (fun i => (horders i).1) hscan hkeys).mp honce
    intro startedAt i
    have hnot := hread (-startedAt) i
    rwa [neg_neg] at hnot
  · rintro ⟨hcomplete, hwhole⟩ orders horders
    have hscan : ∀ i, (page pageSize i (orders i)).mapM scanRecord =
        .ok ((page pageSize i (orders i)).map recordOf) := by
      intro i
      refine scan_complete fun r hr => hcomplete r ((horders i).1.mem_iff.mp ?_)
      exact List.mem_of_mem_drop (List.mem_of_mem_take hr)
    refine ⟨fun i => (page pageSize i (orders i)).map recordOf,
      fun i => (listRecords_ok hrange).mpr ⟨hscan i, rfl⟩, ?_⟩
    refine (readOnce_iff hcomplete (fun i => (horders i).1) hscan hkeys).mpr ?_
    exact hstraddle.mpr (fun k i => hwhole (-k) i) orders horders

theorem memory_listRecords (visited : List EarningRecord) (supplierID : Int) (startDate endDate : String)
    (i pageSize : Nat) :
    InMemoryEarningStore.listRecords visited supplierID startDate endDate (i + 1) pageSize =
      (page pageSize i (visited.filter (·.supplierID = supplierID)),
        (visited.filter (·.supplierID = supplierID)).length) := by
  unfold InMemoryEarningStore.listRecords page
  simp only [Nat.add_sub_cancel]
  generalize visited.filter (·.supplierID = supplierID) = result
  by_cases hpast : result.length ≤ i * pageSize
  · rw [if_pos hpast, List.drop_of_length_le hpast, List.take_nil]
  · rw [if_neg hpast]
    by_cases hlast : result.length < i * pageSize + pageSize
    · rw [if_pos hlast, List.take_length, List.take_of_length_le]
      rw [List.length_drop]
      omega
    · rw [if_neg hlast, List.drop_take, Nat.add_sub_cancel_left]

theorem lies_eq_filter (s : InMemoryEarningStore) (supplierID : Int) (start stop : Time) :
    s.records.filter (lies supplierID start stop) =
      (s.records.filter (·.supplierID = supplierID)).filter
        fun r => start ≤ r.earnedAt && r.earnedAt < stop := by
  rw [List.filter_filter]
  refine List.filter_congr fun r _ => ?_
  unfold lies
  rw [Bool.and_assoc, Bool.and_comm]

theorem filter_of_split {s : InMemoryEarningStore} {supplierID : Int} {own : List EarningRecord}
    (h : own.Perm (s.records.filter (·.supplierID = supplierID))) :
    (own ++ s.records.filter (¬·.supplierID = supplierID)).Perm s.records ∧
      (own ++ s.records.filter (¬·.supplierID = supplierID)).filter (·.supplierID = supplierID) = own := by
  constructor
  · refine (h.append_right _).trans ?_
    simp only [decide_not]
    exact List.filter_append_perm _ s.records
  · rw [List.filter_append, List.filter_eq_self.mpr fun r hr => (List.mem_filter.mp (h.mem_iff.mp hr)).2,
      List.filter_filter]
    simp

/-- The memory store's order is any, so one page must do; and its dates are none. -/
theorem recordsReadOnce_iff {s : InMemoryEarningStore} {supplierID : Int} {startDate endDate : String}
    {start stop : Time} {pageSize : Nat} (hsize : 0 < pageSize) :
    RecordsReadOnce s supplierID startDate endDate start stop pageSize ↔
      (∀ r ∈ s.records, r.supplierID = supplierID → start ≤ r.earnedAt ∧ r.earnedAt < stop) ∧
        (s.records.filter (·.supplierID = supplierID)).length ≤ pageSize := by
  have hnodup : (s.records.filter (·.supplierID = supplierID)).Nodup := (s.keyed.of_map _).filter _
  have hwithin : (∀ r ∈ s.records, r.supplierID = supplierID → start ≤ r.earnedAt ∧ r.earnedAt < stop) ↔
      s.records.filter (lies supplierID start stop) = s.records.filter (·.supplierID = supplierID) := by
    rw [lies_eq_filter, List.filter_eq_self]
    simp only [List.mem_filter, decide_eq_true_eq, Bool.and_eq_true, and_imp]
  rw [← Pages.read_once_any_order_iff hsize hnodup, hwithin]
  unfold RecordsReadOnce
  simp only [memory_listRecords]
  constructor
  · intro h
    have hsame : s.records.filter (lies supplierID start stop) =
        s.records.filter (·.supplierID = supplierID) := by
      have htotal := (h (fun _ => s.records) fun _ => List.Perm.refl _).1 0
      rw [lies_eq_filter] at htotal ⊢
      exact List.filter_eq_self.mpr (List.length_filter_eq_length_iff.mp htotal.symm)
    refine ⟨hsame, fun orders horders => ?_⟩
    have hread := (h (fun i => orders i ++ s.records.filter (¬·.supplierID = supplierID)) fun i =>
      (filter_of_split (horders i)).1).2
    simp only [fun i => (filter_of_split (horders i)).2, hsame] at hread
    exact hread
  · rintro ⟨hsame, hread⟩ orders horders
    rw [hsame]
    refine ⟨fun i => ((horders i).filter _).length_eq, ?_⟩
    exact hread (fun i => (orders i).filter (·.supplierID = supplierID)) fun i => (horders i).filter _

/-- When reading all pages gives every record once: of the table, and of the memory store. -/
theorem pages_read_once_iff (t : UsageTable) (s : InMemoryEarningStore) (supplierID : Int)
    (startDate endDate : String) (start stop : Time) (pageSize : Nat) (hsize : 0 < pageSize)
    (hrange : parseRange startDate endDate = .ok (start, stop)) :
    (RowsReadOnce t supplierID startDate endDate start stop pageSize ↔
      (∀ r ∈ t.rows.filter (selected supplierID start stop), Complete r) ∧
        ∀ startedAt i, ¬TornApart (t.rows.filter (selected supplierID start stop)) pageSize startedAt i) ∧
    (RecordsReadOnce s supplierID startDate endDate start stop pageSize ↔
      (∀ r ∈ s.records, r.supplierID = supplierID → start ≤ r.earnedAt ∧ r.earnedAt < stop) ∧
        (s.records.filter (·.supplierID = supplierID)).length ≤ pageSize) :=
  ⟨rowsReadOnce_iff hsize hrange, recordsReadOnce_iff hsize⟩

theorem countP_not_earlier_le (rows : List UsageRow) (startedAt : Time) :
    rows.countP (startedAt ≤ ·.startedAt) ≤
      rows.countP (startedAt < ·.startedAt) + (rows.map (·.startedAt)).count startedAt := by
  induction rows with
  | nil => simp
  | cons r rows ih =>
    rw [List.countP_cons, List.countP_cons, List.map_cons, List.count_cons]
    rcases lt_trichotomy startedAt r.startedAt with hlt | heq | hgt
    · rw [if_pos (decide_eq_true hlt.le), if_pos (decide_eq_true hlt)]
      omega
    · rw [if_pos (decide_eq_true heq.le), if_pos (beq_iff_eq.mpr heq.symm)]
      omega
    · rw [if_neg (by simpa using hgt)]
      omega

theorem not_tornApart_of_nodup {rows : List UsageRow} {pageSize i : Nat} {startedAt : Time}
    (h : (rows.map (·.startedAt)).Nodup) : ¬TornApart rows pageSize startedAt i := by
  rintro ⟨hlater, hnotEarlier⟩
  have hle := countP_not_earlier_le rows startedAt
  have hone := List.nodup_iff_count_le_one.mp h startedAt
  omega

/-- Midnight of 1 January 2024. -/
def newYear : Time := 1704067200 * second

def requestAt (id : Int) (startedAt : Time) : UsageRow :=
  ⟨id, 7, 1, startedAt, "openai", "gpt-4", some 10, some true⟩

def twoRequests (gap : Time) : UsageTable :=
  ⟨[requestAt 1 newYear, requestAt 2 (newYear + gap)], by
    have hids : (1 : Int) ≠ 2 := by decide
    exact List.pairwise_pair.mpr fun h => hids (Prod.mk.inj h).1⟩

def storeOf (gap : Time) : InMemoryEarningStore :=
  ⟨[recordOf (requestAt 1 newYear), recordOf (requestAt 2 (newYear + gap))],
    (by decide : [(1 : Int), 2].Nodup)⟩

theorem distinct_times_read_once :
    RowsReadOnce (twoRequests second) 7 "2024-01-01" "2024-01-01" newYear (newYear + AuditLog.day) 1 ∧
      RecordsReadOnce (storeOf second) 7 "2024-01-01" "2024-01-01" newYear (newYear + AuditLog.day) 2 := by
  have hrange : parseRange "2024-01-01" "2024-01-01" = .ok (newYear, newYear + AuditLog.day) := by
    decide +kernel
  constructor
  · refine (pages_read_once_iff (twoRequests second) (storeOf second) 7 _ _ _ _ 1 (by decide) hrange).1.mpr ?_
    have hrows : (twoRequests second).rows.filter (selected 7 newYear (newYear + AuditLog.day)) =
        [requestAt 1 newYear, requestAt 2 (newYear + second)] := by
      decide
    rw [hrows]
    refine ⟨by decide, ?_⟩
    exact fun startedAt i => not_tornApart_of_nodup (by decide)
  · refine (pages_read_once_iff (twoRequests second) (storeOf second) 7 _ _ _ _ 2 (by decide) hrange).2.mpr ?_
    decide

/-- Two requests at one time, on two pages: either may come on both of them. -/
theorem same_time_read_twice :
    ¬RowsReadOnce (twoRequests 0) 7 "2024-01-01" "2024-01-01" newYear (newYear + AuditLog.day) 1 ∧
      ¬RecordsReadOnce (storeOf 0) 7 "2024-01-01" "2024-01-01" newYear (newYear + AuditLog.day) 1 := by
  have hrange : parseRange "2024-01-01" "2024-01-01" = .ok (newYear, newYear + AuditLog.day) := by
    decide +kernel
  constructor
  · intro h
    have hwhole := ((rowsReadOnce_iff (by decide) hrange).mp h).2 newYear 1
    exact absurd hwhole (by decide)
  · intro h
    have hone := ((recordsReadOnce_iff (by decide)).mp h).2
    exact absurd hone (by decide)

end SupplyPlatform.Usage
