import SupplyPlatform.AlertStore
import SupplyPlatform.Lib.Runs

namespace SupplyPlatform.Alerts

open Settlements (zeroTime)
open Iam (storableText)
open Audit (microseconds nanoseconds all_optional_condition whole_le_iff le_whole_iff)
open Strings Relational Transition

variable {V : Type}

/-- The two stores, driven by the same calls, with how each call has ended in the one and the other. -/
structure Stores (V : Type) where
  memory : InMemoryAlertStore V
  table : AlertTable V
  outcomes : List (Outcome × Outcome)

inductive Call (V : Type)
  | create (alert : Option (Alert V)) (r : Reading)
  | update (alert : Option (Alert V)) (r : Reading)
  | delete (alertID : String)

namespace Stores

def start : Stores V := ⟨.new, Table.empty, []⟩

def after (s : Stores V) (memory : InMemoryAlertStore V × Outcome) (table : AlertTable V × Outcome) :
    Stores V :=
  ⟨memory.1, table.1, (memory.2, table.2) :: s.outcomes⟩

def step (codec : MetadataCodec V) (s : Stores V) : Call V → Option (Stores V)
  | .create alert r => some (s.after (s.memory.create r alert) (AlertTable.create codec s.table r alert))
  | .update alert r => some (s.after (s.memory.update r alert) (AlertTable.update codec s.table r alert))
  | .delete alertID => some (s.after (s.memory.delete alertID) (AlertTable.delete s.table alertID))

end Stores

/-- Both accept the call or both reject it. -/
def AnsweredAlike : Outcome × Outcome → Prop
  | (.accepted, .accepted) => True
  | (.rejected _, .rejected _) => True
  | _ => False

/-- The page has room for all of `total` alerts in both stores. -/
def AlertFilter.Uncut (filter : AlertFilter) (total : Int) : Prop :=
  filter.offset ≤ 0 ∧ total ≤ 1000 ∧ total ≤ if filter.limit ≤ 0 then 100 else filter.limit

/-- `List` reports one total and selects the same alerts in both stores, in whatever order the map is
gone over; a page that has room for them all has the same alerts. -/
def ListsAgree (lower : Char → Char) (db : Locale) (memory : InMemoryAlertStore V) (table : AlertTable V)
    (filter : AlertFilter) : Prop :=
  ∃ page total, AlertTable.list lower db table filter = .ok (page, total) ∧
    ∀ visited, memory.Visits visited →
      total = (InMemoryAlertStore.list visited filter).2 ∧
      ((visited.filter (InMemoryAlertStore.matchesFilter filter)).map Alert.alertID).Perm
        ((AlertTable.selectRows lower db table filter).map Alert.alertID) ∧
      (filter.Uncut total →
        ((InMemoryAlertStore.list visited filter).1.map Alert.alertID).Perm (page.map Alert.alertID))

/-- A filter that both stores read alike: its texts can be sent, its range is one of whole
microseconds, and each character of its keywords is its own lower case, that of no other, and not one
that LIKE reads. -/
structure AlertFilter.Plain (lower : Char → Char) (db : Locale) (filter : AlertFilter) : Prop where
  alertType : storableText filter.alertType = true
  alertLevel : storableText filter.alertLevel = true
  status : storableText filter.status = true
  startTime : filter.startTime ≠ zeroTime → nanoseconds filter.startTime = 0
  endTime : filter.endTime ≠ zeroTime → nanoseconds filter.endTime = 999
  keywords : storableText filter.keywords = true
  caseless : ∀ c ∈ filter.keywords.toList, lower c = c ∧ ∀ d, db.lower d = c ↔ d = c
  literal : ∀ c ∈ filter.keywords.toList, ¬Like.Special c

/-- The stores agree on every call so far and on every filter that both read alike. -/
def Stores.Agree (lower : Char → Char) (db : Locale) (s : Stores V) : Prop :=
  (∀ o ∈ s.outcomes, AnsweredAlike o) ∧
    ∀ filter : AlertFilter, filter.Plain lower db → ListsAgree lower db s.memory s.table filter

/-- A call that both stores take alike. An alert is created under a new id, with a status, values the
table takes and no time of creation other than that of the call; an alert that is stored is updated
with values the table takes and its time of creation. -/
def Stores.Common (codec : MetadataCodec V) (s : Stores V) : Call V → Prop
  | .create none _ => False
  | .create (some alert) r =>
    s.memory.alerts.lookup (alert.idOr r) = none ∧ alert.status ≠ "" ∧
      (alert.withDefaults r).storable codec = true ∧
      (alert.createdAt = zeroTime ∨ microseconds alert.createdAt = microseconds r.now)
  | .update none _ => False
  | .update (some alert) _ => ∀ old, s.memory.alerts.lookup alert.alertID = some old →
    alert.storable codec = true ∧ microseconds alert.createdAt = microseconds old.createdAt
  | .delete _ => True

/-- What `List` reads of an alert. -/
structure Listed where
  alertType : String
  alertLevel : String
  tenantID : Int
  supplierID : Int
  status : String
  title : String
  message : String
  created : Int

def Alert.listed (alert : Alert V) : Listed :=
  ⟨alert.alertType, alert.alertLevel, alert.tenantID, alert.supplierID, alert.status, alert.title,
    alert.message, microseconds alert.createdAt⟩

section Selection

variable {lower : Char → Char} {db : Locale} {filter : AlertFilter}

theorem matchesFilter_iff {alert : Alert V} :
    InMemoryAlertStore.matchesFilter filter alert = true ↔
      (0 < filter.tenantID → alert.tenantID = filter.tenantID) ∧
      (0 < filter.supplierID → alert.supplierID = filter.supplierID) ∧
      (filter.alertType ≠ "" → alert.alertType = filter.alertType) ∧
      (filter.alertLevel ≠ "" → alert.alertLevel = filter.alertLevel) ∧
      (filter.status ≠ "" → alert.status = filter.status) ∧
      (filter.startTime ≠ zeroTime → filter.startTime ≤ alert.createdAt) ∧
      (filter.endTime ≠ zeroTime → alert.createdAt ≤ filter.endTime) ∧
      (filter.keywords ≠ "" → contains alert.title filter.keywords = true ∨
        contains alert.message filter.keywords = true) := by
  unfold InMemoryAlertStore.matchesFilter
  simp only [Bool.and_eq_true, Bool.not_eq_true', Bool.and_eq_false_imp, bne_iff_ne, ne_eq,
    bne_eq_false_iff_eq, decide_eq_true_eq, decide_eq_false_iff_not, gt_iff_lt, not_lt, and_assoc,
    and_imp, Bool.not_eq_false', or_iff_not_imp_left, Bool.not_eq_true]

theorem rowSelected_iff {row : Alert V} :
    (filter.conditions lower).all (AlertCondition.holds db row) = true ↔
      (0 < filter.tenantID → row.tenantID = filter.tenantID) ∧
      (0 < filter.supplierID → row.supplierID = filter.supplierID) ∧
      (filter.alertType ≠ "" → row.alertType = filter.alertType) ∧
      (filter.alertLevel ≠ "" → row.alertLevel = filter.alertLevel) ∧
      (filter.status ≠ "" → row.status = filter.status) ∧
      (filter.startTime ≠ zeroTime → microseconds filter.startTime ≤ microseconds row.createdAt) ∧
      (filter.endTime ≠ zeroTime → microseconds row.createdAt ≤ microseconds filter.endTime) ∧
      (filter.keywords ≠ "" →
        Like.like (toLower db.lower row.title) ("%" ++ toLower lower filter.keywords ++ "%") = true ∨
        Like.like (toLower db.lower row.message) ("%" ++ toLower lower filter.keywords ++ "%") = true) := by
  unfold AlertFilter.conditions
  simp only [List.all_append, Bool.and_eq_true, and_assoc, all_optional_condition, AlertCondition.holds,
    beq_iff_eq, decide_eq_true_eq, ge_iff_le, gt_iff_lt, Bool.or_eq_true]

theorem map_lower_keywords (h : filter.Plain lower db) :
    filter.keywords.toList.map lower = filter.keywords.toList := by
  calc filter.keywords.toList.map lower = filter.keywords.toList.map id :=
        List.map_congr_left (fun c hc => (h.caseless c hc).1)
    _ = filter.keywords.toList := List.map_id _

/-- A keyword that is read literally is found by LIKE where it stands. -/
theorem like_keywords_iff (h : filter.Plain lower db) (text : String) :
    Like.like (toLower db.lower text) ("%" ++ toLower lower filter.keywords ++ "%") = true ↔
      contains text filter.keywords = true := by
  have hpattern : ("%" ++ toLower lower filter.keywords ++ "%").toList =
      '%' :: (filter.keywords.toList ++ ['%']) := by
    simp [toLower, map_lower_keywords h]
  have htext : (toLower db.lower text).toList = text.toList.map db.lower := by
    simp [toLower]
  unfold Like.like
  rw [hpattern, htext, Like.matchTokens_substring h.literal,
    Like.infix_map_iff (fun c hc => (h.caseless c hc).2), contains_iff]

/-- Such a filter selects an alert in the one store and its row in the other. -/
theorem matchesFilter_iff_of_plain (h : filter.Plain lower db) {alert row : Alert V}
    (hsame : alert.listed = row.listed) :
    InMemoryAlertStore.matchesFilter filter alert = true ↔
      (filter.conditions lower).all (AlertCondition.holds db row) = true := by
  obtain ⟨htype, hlevel, htenant, hsupplier, hstatus, htitle, hmessage, hcreated⟩ :=
    Listed.mk.inj hsame
  rw [matchesFilter_iff, rowSelected_iff, htype, hlevel, htenant, hsupplier, hstatus, htitle, hmessage]
  simp only [like_keywords_iff h]
  have hstart : (filter.startTime ≠ zeroTime → filter.startTime ≤ alert.createdAt) ↔
      (filter.startTime ≠ zeroTime → microseconds filter.startTime ≤ microseconds row.createdAt) := by
    rw [← hcreated]
    exact imp_congr_right (fun hset => whole_le_iff (h.startTime hset))
  have hend : (filter.endTime ≠ zeroTime → alert.createdAt ≤ filter.endTime) ↔
      (filter.endTime ≠ zeroTime → microseconds row.createdAt ≤ microseconds filter.endTime) := by
    rw [← hcreated]
    exact imp_congr_right (fun hset => le_whole_iff (h.endTime hset))
  rw [hstart, hend]

theorem sendable_of_plain (h : filter.Plain lower db) :
    (filter.conditions lower).all AlertCondition.sendable = true := by
  have hpattern : storableText ("%" ++ toLower lower filter.keywords ++ "%") = true := by
    have hkeywords := h.keywords
    simp only [storableText, toLower, map_lower_keywords h, String.toList_append, String.toList_ofList] at hkeywords ⊢
    simpa using hkeywords
  unfold AlertFilter.conditions
  simp only [List.all_append, Bool.and_eq_true, all_optional_condition, AlertCondition.sendable,
    h.alertType, h.alertLevel, h.status, hpattern, implies_true, and_self]

end Selection

section Paging

variable {lower : Char → Char} {db : Locale} {filter : AlertFilter}

theorem InMemoryAlertStore.list_total (visited : List (Alert V)) (filter : AlertFilter) :
    (list visited filter).2 = (visited.filter (matchesFilter filter)).length := by
  unfold list
  dsimp only
  split
  next => rfl
  next => split <;> split <;> rfl

theorem InMemoryAlertStore.list_uncut (visited : List (Alert V))
    (h : filter.Uncut (visited.filter (matchesFilter filter)).length) :
    (list visited filter).1 = visited.filter (matchesFilter filter) := by
  obtain ⟨hoffset, -, hlimit⟩ := h
  have hoff : ¬filter.offset > 0 := Int.not_lt.mpr hoffset
  have hlim : ¬(filter.limit > 0 ∧
      filter.limit < ((visited.filter (matchesFilter filter)).length : Int)) := by
    rintro ⟨hpos, hlt⟩
    rw [if_neg (by omega)] at hlimit
    omega
  simp only [list, hoff, false_and, if_false, if_neg hlim]

theorem AlertTable.list_ok (t : AlertTable V) (h : filter.Plain lower db) :
    ∃ page, list lower db t filter = .ok (page, ((selectRows lower db t filter).length : Int)) ∧
      (filter.Uncut (selectRows lower db t filter).length →
        page.Perm (selectRows lower db t filter)) := by
  unfold list
  rw [if_pos (sendable_of_plain h)]
  refine ⟨_, rfl, ?_⟩
  rintro ⟨hoffset, hmax, hlimit⟩
  have hdrop : (if filter.offset < 0 then 0 else filter.offset).toNat = 0 := by
    split <;> omega
  rw [hdrop, List.drop_zero, List.take_of_length_le]
  · exact List.mergeSort_perm _ _
  · rw [List.length_mergeSort]
    split at hlimit <;> split <;> omega

end Paging

section Visiting

variable {s : InMemoryAlertStore V} {visited : List (Alert V)}

theorem InMemoryAlertStore.exists_visits (s : InMemoryAlertStore V) : ∃ visited, s.Visits visited := by
  obtain ⟨alerts, keyed⟩ := s
  induction alerts using Finmap.induction_on with
  | _ l =>
    have hids : (l.entries.map Sigma.snd).map Alert.alertID = l.keys := by
      rw [List.map_map]
      refine List.map_congr_left (fun entry hentry => ?_)
      exact keyed entry.1 entry.2 (AList.mem_lookup_iff.mpr hentry)
    refine ⟨l.entries.map Sigma.snd, List.Nodup.of_map Alert.alertID (hids ▸ l.keys_nodup), fun alert => ?_⟩
    constructor
    · intro hmem
      obtain ⟨entry, hentry, rfl⟩ := List.mem_map.mp hmem
      have hfound : Finmap.lookup entry.1 (AList.toFinmap l) = some entry.2 :=
        AList.mem_lookup_iff.mpr hentry
      rw [keyed entry.1 entry.2 hfound]
      exact hfound
    · intro hfound
      exact List.mem_map.mpr ⟨⟨alert.alertID, alert⟩, AList.mem_lookup_iff.mp hfound, rfl⟩

theorem mem_visited_ids (h : s.Visits visited) {p : Alert V → Bool} {id : String} :
    id ∈ (visited.filter p).map Alert.alertID ↔
      ∃ alert, s.alerts.lookup id = some alert ∧ p alert = true := by
  rw [List.mem_map]
  constructor
  · rintro ⟨alert, hmem, rfl⟩
    obtain ⟨hvisited, hp⟩ := List.mem_filter.mp hmem
    exact ⟨alert, (h.2 alert).mp hvisited, hp⟩
  · rintro ⟨alert, hfound, hp⟩
    have hid := s.keyed id alert hfound
    refine ⟨alert, List.mem_filter.mpr ⟨(h.2 alert).mpr ?_, hp⟩, hid⟩
    rwa [hid]

theorem nodup_visited_ids (h : s.Visits visited) (p : Alert V → Bool) :
    ((visited.filter p).map Alert.alertID).Nodup := by
  refine List.Nodup.map_on ?_ (h.1.filter p)
  intro a ha b hb hid
  have ha' := (h.2 a).mp (List.mem_filter.mp ha).1
  have hb' := (h.2 b).mp (List.mem_filter.mp hb).1
  rw [hid] at ha'
  exact Option.some.inj (ha'.symm.trans hb')

theorem mem_row_ids {t : AlertTable V} {p : Alert V → Bool} {id : String} :
    id ∈ (t.rows.filter p).map Alert.alertID ↔ ∃ row, Keyed.lookup t id = some row ∧ p row = true := by
  rw [List.mem_map]
  constructor
  · rintro ⟨row, hmem, rfl⟩
    obtain ⟨hrow, hp⟩ := List.mem_filter.mp hmem
    exact ⟨row, Keyed.mem_iff_lookup.mp hrow, hp⟩
  · rintro ⟨row, hfound, hp⟩
    exact ⟨row, List.mem_filter.mpr ⟨List.mem_of_find?_eq_some hfound, hp⟩, Keyed.key_of_lookup hfound⟩

theorem nodup_row_ids (t : AlertTable V) (p : Alert V → Bool) :
    ((t.rows.filter p).map Alert.alertID).Nodup :=
  List.pairwise_map.mpr (t.unique.filter p)

end Visiting

namespace Stores

variable {lower : Char → Char} {db : Locale} {s t : Stores V}

/-- What the calls keep: the two stores have the same ids, and of the alerts what `List` reads. -/
structure Matched (s : Stores V) : Prop where
  answered : ∀ o ∈ s.outcomes, AnsweredAlike o
  listed : ∀ id, (s.memory.alerts.lookup id).map Alert.listed = (Keyed.lookup s.table id).map Alert.listed
  named : ∀ id row, Keyed.lookup s.table id = some row → id ≠ "" ∧ storableText id = true

theorem Matched.selected_iff (h : s.Matched) {filter : AlertFilter} (hplain : filter.Plain lower db)
    (id : String) :
    (∃ alert, s.memory.alerts.lookup id = some alert ∧
        InMemoryAlertStore.matchesFilter filter alert = true) ↔
      ∃ row, Keyed.lookup s.table id = some row ∧
        (filter.conditions lower).all (AlertCondition.holds db row) = true := by
  have hlisted := h.listed id
  cases hm : s.memory.alerts.lookup id with
  | none =>
    rw [hm, Option.map_none, eq_comm, Option.map_eq_none_iff] at hlisted
    rw [hlisted]
    constructor
    · rintro ⟨alert, hsome, -⟩
      cases hsome
    · rintro ⟨row, hsome, -⟩
      cases hsome
  | some alert =>
    rw [hm, Option.map_some, eq_comm, Option.map_eq_some_iff] at hlisted
    obtain ⟨row, hrow, hsame⟩ := hlisted
    rw [hrow]
    have hiff := matchesFilter_iff_of_plain hplain hsame.symm
    constructor
    · rintro ⟨_, hsome, hmatch⟩
      cases Option.some.inj hsome
      exact ⟨row, rfl, hiff.mp hmatch⟩
    · rintro ⟨_, hsome, hmatch⟩
      cases Option.some.inj hsome
      exact ⟨alert, rfl, hiff.mpr hmatch⟩

theorem Matched.agree (h : s.Matched) (lower : Char → Char) (db : Locale) : s.Agree lower db := by
  refine ⟨h.answered, fun filter hplain => ?_⟩
  obtain ⟨page, hlist, hpage⟩ := AlertTable.list_ok s.table hplain
  refine ⟨page, _, hlist, fun visited hvisits => ?_⟩
  have hperm : ((visited.filter (InMemoryAlertStore.matchesFilter filter)).map Alert.alertID).Perm
      ((AlertTable.selectRows lower db s.table filter).map Alert.alertID) := by
    refine (List.perm_ext_iff_of_nodup (nodup_visited_ids hvisits _) (nodup_row_ids s.table _)).mpr ?_
    intro id
    rw [mem_visited_ids hvisits, mem_row_ids]
    exact h.selected_iff hplain id
  have hlength : (AlertTable.selectRows lower db s.table filter).length =
      (visited.filter (InMemoryAlertStore.matchesFilter filter)).length := by
    simpa only [List.length_map] using hperm.length_eq.symm
  refine ⟨?_, hperm, fun huncut => ?_⟩
  · rw [InMemoryAlertStore.list_total, hlength]
  · have hmemory := InMemoryAlertStore.list_uncut visited (hlength ▸ huncut)
    rw [hmemory]
    exact hperm.trans ((hpage huncut).map _).symm

theorem Agree.selected_iff (h : s.Agree lower db) {filter : AlertFilter} (hplain : filter.Plain lower db)
    {id : String} {alert row : Alert V} (halert : s.memory.alerts.lookup id = some alert)
    (hrow : Keyed.lookup s.table id = some row) :
    InMemoryAlertStore.matchesFilter filter alert = true ↔
      (filter.conditions lower).all (AlertCondition.holds db row) = true := by
  obtain ⟨visited, hvisits⟩ := s.memory.exists_visits
  obtain ⟨_, _, -, hall⟩ := h.2 filter hplain
  have hmem := (hall visited hvisits).2.1.mem_iff (a := id)
  rw [mem_visited_ids hvisits, AlertTable.selectRows, mem_row_ids, halert, hrow] at hmem
  simpa using hmem

def emptyFilter : AlertFilter := ⟨0, 0, "", "", "", zeroTime, zeroTime, "", 0, 0⟩

theorem plain_status : { emptyFilter with status := alertStatusActive }.Plain lower db where
  alertType := rfl
  alertLevel := rfl
  status := by decide
  startTime := fun h => absurd rfl h
  endTime := fun h => absurd rfl h
  keywords := rfl
  caseless := nofun
  literal := nofun

/-- The last nanosecond of the microsecond `m`. -/
def lastOf (m : Int) : Time := m * 1000 + 999

theorem plain_endTime (m : Int) : { emptyFilter with endTime := lastOf m }.Plain lower db where
  alertType := rfl
  alertLevel := rfl
  status := rfl
  startTime := fun h => absurd rfl h
  endTime := fun _ => by
    show (m * 1000 + 999) % 1000 = 999
    omega
  keywords := rfl
  caseless := nofun
  literal := nofun

theorem lastOf_ne_zeroTime (m : Int) : lastOf m ≠ zeroTime := by
  show (m * 1000 + 999 : Int) ≠ -62135596800 * 1000000000
  omega

/-- Two alerts that every such filter selects alike are active alike and of one microsecond. -/
theorem Agree.status_iff (h : s.Agree lower db) {id : String} {alert row : Alert V}
    (halert : s.memory.alerts.lookup id = some alert) (hrow : Keyed.lookup s.table id = some row) :
    alert.status = alertStatusActive ↔ row.status = alertStatusActive := by
  have hiff := h.selected_iff plain_status halert hrow
  rw [matchesFilter_iff, rowSelected_iff] at hiff
  simpa [emptyFilter, alertStatusActive] using hiff

theorem Agree.created_eq (h : s.Agree lower db) {id : String} {alert row : Alert V}
    (halert : s.memory.alerts.lookup id = some alert) (hrow : Keyed.lookup s.table id = some row) :
    microseconds alert.createdAt = microseconds row.createdAt := by
  have hle : ∀ m : Int, microseconds alert.createdAt ≤ m ↔ microseconds row.createdAt ≤ m := by
    intro m
    have hiff := h.selected_iff (plain_endTime m) halert hrow
    rw [matchesFilter_iff, rowSelected_iff] at hiff
    simp only [emptyFilter, lt_self_iff_false, false_implies, ne_eq, not_true_eq_false, true_and,
      and_true, lastOf_ne_zeroTime m, not_false_eq_true, true_implies] at hiff
    have hlast : microseconds (lastOf m) = m := by
      show (m * 1000 + 999) / 1000 = m
      omega
    have hwhole : nanoseconds (lastOf m) = 999 := by
      show (m * 1000 + 999) % 1000 = 999
      omega
    rw [le_whole_iff hwhole, hlast] at hiff
    exact hiff
  exact Int.le_antisymm ((hle _).mpr (Int.le_refl _)) ((hle _).mp (Int.le_refl _))

theorem microseconds_row (t : Time) : microseconds (microseconds t * 1000) = microseconds t :=
  Int.mul_ediv_cancel _ (by decide)

theorem created_create_iff {alert : Alert V} {r : Reading} :
    microseconds r.now = microseconds (alert.withDefaults r).row.createdAt ↔
      alert.createdAt = zeroTime ∨ microseconds alert.createdAt = microseconds r.now := by
  show microseconds r.now =
    microseconds (microseconds (if alert.createdAt = zeroTime then r.now else alert.createdAt) * 1000) ↔ _
  rw [microseconds_row]
  split
  next hzero => exact iff_of_true rfl (.inl hzero)
  next hne => exact ⟨fun h => .inr h.symm, fun h => (h.resolve_left hne).symm⟩

/-- The alert that is created is listed alike by both stores. -/
theorem listed_create {alert : Alert V} {r : Reading} (hstatus : alert.status ≠ "")
    (hcreated : alert.createdAt = zeroTime ∨ microseconds alert.createdAt = microseconds r.now) :
    (alert.stamp r).listed = (alert.withDefaults r).row.listed := by
  have hsame : (alert.withDefaults r).row.status = alert.status := if_neg hstatus
  unfold Alert.listed
  rw [← created_create_iff.mpr hcreated, hsame]
  rfl

theorem answeredAlike_head {outcomes : List (Outcome × Outcome)} {o : Outcome × Outcome}
    (h : ∀ o' ∈ o :: outcomes, AnsweredAlike o') : AnsweredAlike o := h o List.mem_cons_self

/-- An id that is in neither store or in both. -/
theorem Matched.lookup_eq_none_iff (h : s.Matched) (id : String) :
    s.memory.alerts.lookup id = none ↔ Keyed.lookup s.table id = none := by
  rw [← Option.map_eq_none_iff (f := Alert.listed), h.listed, Option.map_eq_none_iff]

theorem Matched.after {memory : InMemoryAlertStore V × Outcome} {table : AlertTable V × Outcome}
    (h : s.Matched) (hanswered : AnsweredAlike (memory.2, table.2))
    (hlisted : ∀ id, (memory.1.alerts.lookup id).map Alert.listed =
      (Keyed.lookup table.1 id).map Alert.listed)
    (hnamed : ∀ id row, Keyed.lookup table.1 id = some row → id ≠ "" ∧ storableText id = true) :
    (s.after memory table).Matched where
  answered := by
    intro o ho
    rcases List.mem_cons.mp ho with rfl | ho
    · exact hanswered
    · exact h.answered o ho
  listed := hlisted
  named := hnamed

/-- Both stores write an alert under one id. -/
theorem Matched.put {memory : InMemoryAlertStore V} {table : AlertTable V} {key : String}
    {alert row : Alert V} (h : s.Matched) (hne : key ≠ "") (htext : storableText key = true)
    (hmemory : ∀ id, memory.alerts.lookup id = if id = key then some alert else s.memory.alerts.lookup id)
    (htable : ∀ id, Keyed.lookup table id = if id = key then some row else Keyed.lookup s.table id)
    (hsame : alert.listed = row.listed) :
    (s.after (memory, .accepted) (table, .accepted)).Matched := by
  refine h.after trivial (fun id => ?_) (fun id found hfound => ?_)
  · rw [hmemory, htable]
    split
    next => exact congrArg some hsame
    next => exact h.listed id
  · rw [htable] at hfound
    split at hfound
    next hid => exact hid ▸ ⟨hne, htext⟩
    next => exact h.named id found hfound

variable {codec : MetadataCodec V}

theorem create_matched (h : s.Matched) {alert : Alert V} {r : Reading}
    (hcommon : s.Common codec (.create (some alert) r)) :
    (s.after (s.memory.create r (some alert)) (AlertTable.create codec s.table r (some alert))).Matched := by
  obtain ⟨hnew, hstatus, hstorable, hcreated⟩ := hcommon
  rcases AlertTable.create_cases codec s.table r alert with
    ⟨err, -, hrefused⟩ | ⟨table, -, -, heq, hinsert⟩
  · exact absurd ((h.lookup_eq_none_iff _).mp hnew) (hrefused hstorable)
  · have htext := AlertTable.storable_alertID hstorable
    rw [heq]
    exact h.put (alert.idOr_ne_empty r) htext (s.memory.lookup_put _)
      (Keyed.lookup_of_insert hinsert) (listed_create hstatus hcreated)

/-- A call that is not taken alike shows, in how it ends or in a list. -/
theorem create_common (h : s.Matched) {alert : Option (Alert V)} {r : Reading}
    (hagree : (s.after (s.memory.create r alert) (AlertTable.create codec s.table r alert)).Agree lower db) :
    s.Common codec (.create alert r) := by
  cases alert with
  | none => exact (answeredAlike_head hagree.1).elim
  | some alert =>
    rcases AlertTable.create_cases codec s.table r alert with
      ⟨err, heq, -⟩ | ⟨table, hstorable, hnew, heq, hinsert⟩
    · rw [heq] at hagree
      exact (answeredAlike_head hagree.1).elim
    · rw [heq] at hagree
      have halert := s.memory.lookup_put (alert.stamp r) (alert.idOr r)
      have hrow := Keyed.lookup_of_insert hinsert (alert.idOr r)
      rw [show alert.idOr r = (alert.stamp r).alertID from rfl, if_pos rfl] at halert
      rw [show alert.idOr r = (alert.withDefaults r).row.alertID from rfl, if_pos rfl] at hrow
      refine ⟨(h.lookup_eq_none_iff _).mpr hnew, fun hempty => ?_, hstorable,
        created_create_iff.mp (hagree.created_eq halert hrow)⟩
      have hactive : (alert.withDefaults r).row.status = alertStatusActive := if_pos hempty
      have hstatus : alert.status = alertStatusActive := (hagree.status_iff halert hrow).mpr hactive
      rw [hempty] at hstatus
      exact absurd hstatus (by decide)

/-- What UPDATE leaves of a row is listed as the alert, with the time of creation of the row. -/
theorem listed_update {alert old row : Alert V} {now now' : Time} (hold : old.listed = row.listed)
    (hcreated : microseconds alert.createdAt = microseconds old.createdAt) :
    (alert.touch now).listed = ((alert.touch now').overwrite row).listed := by
  have hrow : microseconds old.createdAt = microseconds row.createdAt := congrArg Listed.created hold
  show Listed.mk _ _ _ _ _ _ _ (microseconds alert.createdAt) =
    Listed.mk _ _ _ _ _ _ _ (microseconds row.createdAt)
  rw [hcreated, hrow]
  rfl

theorem Matched.row_of_lookup (h : s.Matched) {id : String} {alert : Alert V}
    (halert : s.memory.alerts.lookup id = some alert) :
    ∃ row, Keyed.lookup s.table id = some row ∧ alert.listed = row.listed := by
  have hlisted := h.listed id
  rw [halert, Option.map_some, eq_comm, Option.map_eq_some_iff] at hlisted
  obtain ⟨row, hrow, hsame⟩ := hlisted
  exact ⟨row, hrow, hsame.symm⟩

theorem memory_update_of_stored {memory : InMemoryAlertStore V} {alert old : Alert V} (r : Reading)
    (h : memory.alerts.lookup alert.alertID = some old) :
    memory.update r (some alert) = (memory.put (alert.touch r.now), .accepted) := by
  simp only [InMemoryAlertStore.update, h]

theorem memory_update_of_none {memory : InMemoryAlertStore V} {alert : Alert V} (r : Reading)
    (h : memory.alerts.lookup alert.alertID = none) :
    memory.update r (some alert) = (memory, .rejected errAlertNotFound) := by
  simp only [InMemoryAlertStore.update, h]

/-- A call that both reject changes nothing. -/
theorem Matched.rejected (h : s.Matched) (err err' : RepoError) :
    (s.after (s.memory, .rejected err) (s.table, .rejected err')).Matched :=
  h.after trivial h.listed h.named

theorem update_matched (h : s.Matched) {alert : Alert V} {r : Reading}
    (hcommon : s.Common codec (.update (some alert) r)) :
    (s.after (s.memory.update r (some alert)) (AlertTable.update codec s.table r (some alert))).Matched := by
  rcases AlertTable.update_cases codec s.table r alert with
    ⟨err, heq, hrefused⟩ | ⟨table, row, now, hne, hstorable, hrow, heq, htable⟩
  · have hnone : s.memory.alerts.lookup alert.alertID = none := by
      cases hfound : s.memory.alerts.lookup alert.alertID with
      | none => rfl
      | some old =>
        obtain ⟨row, hrow, -⟩ := h.row_of_lookup hfound
        have hnone := hrefused (h.named _ row hrow).1 (hcommon old hfound).1
        rw [hrow] at hnone
        cases hnone
    rw [heq, memory_update_of_none r hnone]
    exact h.rejected _ err
  · cases hfound : s.memory.alerts.lookup alert.alertID with
    | none =>
      rw [(h.lookup_eq_none_iff _).mp hfound] at hrow
      cases hrow
    | some old =>
      obtain ⟨row', hrow', hsame⟩ := h.row_of_lookup hfound
      cases Option.some.inj (hrow.symm.trans hrow')
      rw [heq, memory_update_of_stored r hfound]
      exact h.put hne (AlertTable.storable_alertID hstorable) (s.memory.lookup_put _) htable
        (listed_update hsame (hcommon old hfound).2)

theorem update_common (h : s.Matched) {alert : Option (Alert V)} {r : Reading}
    (hagree : (s.after (s.memory.update r alert) (AlertTable.update codec s.table r alert)).Agree lower db) :
    s.Common codec (.update alert r) := by
  cases alert with
  | none => exact (answeredAlike_head hagree.1).elim
  | some alert =>
    intro old hfound
    rw [memory_update_of_stored r hfound] at hagree
    rcases AlertTable.update_cases codec s.table r alert with
      ⟨err, heq, -⟩ | ⟨table, row, now, -, hstorable, hrow, heq, htable⟩
    · rw [heq] at hagree
      exact (answeredAlike_head hagree.1).elim
    · rw [heq] at hagree
      refine ⟨hstorable, ?_⟩
      obtain ⟨row', hrow', hsame⟩ := h.row_of_lookup hfound
      cases Option.some.inj (hrow.symm.trans hrow')
      have halert := s.memory.lookup_put (alert.touch r.now) alert.alertID
      have hwritten := htable alert.alertID
      rw [show alert.alertID = (alert.touch r.now).alertID from rfl, if_pos rfl] at halert
      rw [if_pos rfl] at hwritten
      have hcreated := hagree.created_eq halert hwritten
      exact hcreated.trans (congrArg Listed.created hsame).symm

theorem delete_matched (h : s.Matched) (alertID : String) :
    (s.after (s.memory.delete alertID) (AlertTable.delete s.table alertID)).Matched := by
  rcases AlertTable.delete_cases s.table alertID with
    ⟨err, heq, hrefused⟩ | ⟨table, -, hrow, heq, htable⟩
  · have hnone : s.memory.alerts.lookup alertID = none := by
      cases hfound : s.memory.alerts.lookup alertID with
      | none => rfl
      | some old =>
        obtain ⟨row, hrow, -⟩ := h.row_of_lookup hfound
        have hnone := hrefused (h.named _ row hrow).2
        rw [hrow] at hnone
        cases hnone
    have hmemory : s.memory.delete alertID = (s.memory, .rejected errAlertNotFound) := by
      simp only [InMemoryAlertStore.delete, hnone]
    rw [heq, hmemory]
    exact h.rejected _ err
  · cases hfound : s.memory.alerts.lookup alertID with
    | none => exact absurd ((h.lookup_eq_none_iff _).mp hfound) hrow
    | some old =>
      have hmemory : s.memory.delete alertID =
          (⟨s.memory.alerts.erase alertID, s.memory.keyed.erase alertID⟩, .accepted) := by
        simp only [InMemoryAlertStore.delete, hfound]
      rw [heq, hmemory]
      refine h.after trivial (fun id => ?_) (fun id row hrow => ?_)
      · rw [htable, Maps.lookup_erase]
        by_cases hid : id = alertID
        · rw [if_pos hid, if_pos hid]
        · rw [if_neg hid, if_neg hid]
          exact h.listed id
      · rw [htable] at hrow
        split at hrow
        next => cases hrow
        next => exact h.named id row hrow

theorem start_matched : (start : Stores V).Matched where
  answered := nofun
  listed := fun id => by
    show ((∅ : Finmap (fun _ : String => Alert V)).lookup id).map Alert.listed = none
    rw [Finmap.lookup_empty]
    rfl
  named := fun id row h => by
    cases (show (none : Option (Alert V)) = some row from h)

end Stores

/-- The two stores agree throughout a run, on every call and on every filter that both read alike,
exactly when both take each of its calls alike. -/
theorem stores_agree_iff (lower : Char → Char) (db : Locale) (codec : MetadataCodec V)
    (calls : List (Call V)) :
    Throughout (Stores.step codec) (Stores.Agree lower db) Stores.start calls ↔
      EachStep (Stores.step codec) (Stores.Common codec) Stores.start calls := by
  refine throughout_iff_eachStep (I := Stores.Matched) ?_ (fun s h => h.agree lower db) ?_
    Stores.start_matched calls
  · intro s call t h hcommon hs
    cases call with
    | create alert r =>
      cases Option.some.inj hs
      cases alert with
      | none => exact hcommon.elim
      | some alert => exact Stores.create_matched h hcommon
    | update alert r =>
      cases Option.some.inj hs
      cases alert with
      | none => exact hcommon.elim
      | some alert => exact Stores.update_matched h hcommon
    | delete alertID =>
      cases Option.some.inj hs
      exact Stores.delete_matched h alertID
  · intro s call t h hcommon hs hagree
    cases call with
    | create alert r =>
      cases Option.some.inj hs
      exact hcommon (Stores.create_common h hagree)
    | update alert r =>
      cases Option.some.inj hs
      exact hcommon (Stores.update_common h hagree)
    | delete alertID => exact hcommon trivial

/-- An alert whose title is `quota`. -/
def quotaAlert : Alert Empty :=
  { alertID := "ALT-1", alertName := "", alertType := "quota", alertLevel := "warning", tenantID := 1,
    supplierID := 0, title := "quota", message := "", description := "", eventID := "", eventIDs := [],
    triggerCondition := "", threshold := 0, currentValue := 0, status := "active", resolvedAt := none,
    resolvedBy := "", resolveNote := "", notifyEnabled := true, notifyChannels := [],
    createdAt := zeroTime, updatedAt := zeroTime, firstSeenAt := zeroTime, lastSeenAt := zeroTime,
    metadata := [], tags := [] }

def sampleCodec : MetadataCodec Empty := ⟨fun _ => .ok "\x7b\x7d", fun _ => true⟩

def sampleLocale : Locale := ⟨Char.toLower, fun a b => decide (a ≤ b)⟩

def quotaCall : Call Empty := .create (some quotaAlert) ⟨1, 2, ""⟩

/-- The second of two equal calls of `Create` is accepted by the in-memory store, which overwrites the
alert, and rejected by the repository; and only the repository finds the alert under `QUOTA`. -/
theorem stores_differ :
    (∃ s, exec (Stores.step sampleCodec) Stores.start [quotaCall, quotaCall] = some s ∧
      s.outcomes.head? = some (.accepted, .rejected errAlertConflict)) ∧
    ∃ s, exec (Stores.step sampleCodec) Stores.start [quotaCall] = some s ∧
      ¬ListsAgree Char.toLower sampleLocale s.memory s.table
        { Stores.emptyFilter with keywords := "QUOTA" } := by
  refine ⟨⟨_, rfl, by decide⟩, _, rfl, ?_⟩
  rintro ⟨_, _, -, hall⟩
  obtain ⟨visited, hvisits⟩ := InMemoryAlertStore.exists_visits
    (Stores.start.memory.create ⟨1, 2, ""⟩ (some quotaAlert)).1
  have hmem := (hall visited hvisits).2.1.mem_iff (a := "ALT-1")
  have hrow : "ALT-1" ∈ (AlertTable.selectRows Char.toLower sampleLocale
      (AlertTable.create sampleCodec Stores.start.table ⟨1, 2, ""⟩ (some quotaAlert)).1
      { Stores.emptyFilter with keywords := "QUOTA" }).map Alert.alertID := by
    decide
  obtain ⟨alert, halert, hmatch⟩ := (mem_visited_ids hvisits).mp (hmem.mpr hrow)
  cases Option.some.inj (halert.symm.trans (InMemoryAlertStore.lookup_put _ _ _))
  exact absurd hmatch (by decide)

end SupplyPlatform.Alerts
