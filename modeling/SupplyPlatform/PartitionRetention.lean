import Mathlib.Data.List.Nodup
import SupplyPlatform.Lib.Table
import SupplyPlatform.Partition

namespace SupplyPlatform.Partitions

open Calendar (Date daysIn)
open Decimals (fixed padded_eq_fixed fixed_cmp append_lt_append_iff)

def fourDigitMonths : Nat := 120000

def ofMonth (table : String) (month : Nat) : Relation := ⟨"public", partitionName table month⟩

/-- What a run is for: partitions of the `r` months before this one stay, older ones go, and so does
nothing else. -/
structure RetentionKept (before after : List Relation) (table : String) (today : Date) (r : Nat) : Prop where
  months : ∀ a < fourDigitMonths, ofMonth table a ∈ before →
    (ofMonth table a ∈ after ↔ today.month - r ≤ a)
  others : ∀ x ∈ before, ¬(x.schema = "public" ∧ isPartitionName table x.name) → x ∈ after
  nothingNew : ∀ x ∈ after, x ∈ before

theorem partitionName_fixed {table : String} {month : Nat} (h : month < fourDigitMonths) :
    (partitionName table month).toList =
      table.toList ++ ('_' :: (fixed 4 (month / 12) ++ '_' :: fixed 2 (month % 12 + 1))) := by
  unfold fourDigitMonths at h
  rw [toList_partitionName, padded_eq_fixed (by decide) (by omega), padded_eq_fixed (by decide) (by omega),
    List.append_assoc, List.cons_append]

/-- The names of a table's partitions are in the order of the months. -/
theorem partitionName_lt_iff {table : String} {a b : Nat} (ha : a < fourDigitMonths)
    (hb : b < fourDigitMonths) :
    (partitionName table a).toList < (partitionName table b).toList ↔ a < b := by
  rw [partitionName_fixed ha, partitionName_fixed hb]
  unfold fourDigitMonths at ha hb
  obtain ⟨hyearLt, hyearEq⟩ := fixed_cmp 4 (a := a / 12) (b := b / 12) (by omega) (by omega)
  obtain ⟨hmonthLt, -⟩ := fixed_cmp 2 (a := a % 12 + 1) (b := b % 12 + 1) (by omega) (by omega)
  rw [append_lt_append_iff rfl, List.cons_lt_cons_iff, append_lt_append_iff (by simp), List.cons_lt_cons_iff,
    hyearLt, hyearEq, hmonthLt]
  simp only [List.lt_irrefl, Char.lt_irrefl, false_or, true_and]
  omega

theorem isPartitionName_ofMonth (table : String) {month : Nat} (h : month < fourDigitMonths) :
    isPartitionName table (partitionName table month) = true := by
  have htable : Strings.hasPrefix (partitionName table month) table = true :=
    Strings.hasPrefix_iff.mpr ⟨"_" ++ formatMonth "_" month, by rw [partitionName, String.append_assoc]⟩
  unfold isPartitionName
  rw [htable, partitionName_fixed h, List.drop_left]
  simp [fixed, Nat.mod_lt]

theorem dropAll_ok {pg : Postgres} {rows relations after : List Relation} {n d : Nat}
    (h : dropAll pg rows relations n = (after, d, none)) :
    d = n + rows.length ∧ ∀ x, x ∈ after ↔ x ∈ relations ∧ ∀ r ∈ rows, x ≠ ⟨"public", r.name⟩ := by
  induction rows generalizing relations n with
  | nil =>
    cases h
    simp
  | cons r rows ih =>
    rw [dropAll] at h
    cases hdrop : pg.drop r.name with
    | error e =>
      rw [hdrop] at h
      cases h
    | ok =>
      simp only [hdrop] at h
      obtain ⟨hd, hmem⟩ := ih h
      constructor
      · rw [hd, List.length_cons]
        omega
      · intro x
        rw [hmem, List.mem_filter, List.forall_mem_cons, and_assoc, decide_eq_true_eq]

theorem expired_public {table cutoffPrefix : String} {r : Relation}
    (h : expired table cutoffPrefix r = true) : r = ⟨"public", r.name⟩ := by
  unfold expired at h
  simp only [Bool.and_eq_true, decide_eq_true_eq] at h
  rw [← h.1.1]

/-- A run that ends without an error has dropped what its query finds. -/
theorem dropOldPartitions_ok {m : PartitionManager} {pg : Postgres} {today : Date}
    {visited after : List Relation} {cfg : PartitionConfig} {n : Nat} (hcfg : cfg ∈ m.config)
    (hr : 1 ≤ cfg.retentionMonths)
    (hrun : dropOldPartitions pg m.config today visited cfg.tableName = (after, n, none)) (x : Relation) :
    x ∈ after ↔ x ∈ visited ∧ expired cfg.tableName
      (partitionName cfg.tableName (today.subMonths cfg.retentionMonths).month) x = false := by
  have hfind : m.config.find? (·.tableName = cfg.tableName) = some cfg := by
    refine Relational.find?_eq_of_unique hcfg (decide_eq_true rfl) ?_
    intro q hq hname
    exact List.inj_on_of_nodup_map m.keyed hq hcfg (of_decide_eq_true hname)
  unfold dropOldPartitions at hrun
  simp only [hfind, if_neg (by omega : ¬cfg.retentionMonths = 0)] at hrun
  cases hquery : pg.query with
  | error e =>
    rw [hquery] at hrun
    cases hrun
  | ok =>
    simp only [hquery] at hrun
    obtain ⟨-, hmem⟩ := dropAll_ok hrun
    rw [hmem]
    refine and_congr_right fun hx => ?_
    constructor
    · intro h
      by_contra hexp
      have hexp := Bool.eq_true_of_not_eq_false hexp
      exact h x (List.mem_filter.mpr ⟨hx, hexp⟩) (expired_public hexp)
    · rintro hexp r hr rfl
      have hold := (List.mem_filter.mp hr).2
      rw [expired_public hold] at hold
      exact absurd (hexp.symm.trans hold) Bool.false_ne_true

theorem ofMonth_expired_iff {table : String} {a cutoff : Nat} (ha : a < fourDigitMonths)
    (hcutoff : cutoff < fourDigitMonths) :
    expired table (partitionName table cutoff) (ofMonth table a) = false ↔ cutoff ≤ a := by
  unfold expired ofMonth
  rw [isPartitionName_ofMonth table ha, ← not_iff_not]
  simp [partitionName_lt_iff ha hcutoff]

/-- The day of the run must stand in the month that is to be the oldest kept: where it does not, the
limit is taken a month later, and the partition of that month goes too. -/
theorem retention_kept_iff (m : PartitionManager) (pg : Postgres) (today : Date)
    (before after : List Relation) (cfg : PartitionConfig) (n : Nat) (hcfg : cfg ∈ m.config)
    (hr : 1 ≤ cfg.retentionMonths)
    (hfrom : cfg.retentionMonths ≤ today.month) (hto : today.month < fourDigitMonths)
    (hrun : dropOldPartitions pg m.config today before cfg.tableName = (after, n, none)) :
    RetentionKept before after cfg.tableName today cfg.retentionMonths ↔
      today.day ≤ daysIn (today.month - cfg.retentionMonths) ∨
        ofMonth cfg.tableName (today.month - cfg.retentionMonths) ∉ before := by
  have hmem := dropOldPartitions_ok hcfg hr hrun
  have hcutoff : (today.subMonths cfg.retentionMonths).month =
      if today.day ≤ daysIn (today.month - cfg.retentionMonths) then today.month - cfg.retentionMonths
      else today.month - cfg.retentionMonths + 1 := today.month_atMonth _
  have hkept : ∀ a < fourDigitMonths, ofMonth cfg.tableName a ∈ before →
      (ofMonth cfg.tableName a ∈ after ↔ (today.subMonths cfg.retentionMonths).month ≤ a) := by
    intro a ha hbefore
    have hlt : (today.subMonths cfg.retentionMonths).month < fourDigitMonths := by
      rw [hcutoff]
      split <;> omega
    rw [hmem, ofMonth_expired_iff ha hlt]
    exact and_iff_right hbefore
  constructor
  · intro h
    by_contra hnot
    obtain ⟨hday, hbefore⟩ := not_or.mp hnot
    have hbefore := not_not.mp hbefore
    have hlt : today.month - cfg.retentionMonths < fourDigitMonths := by omega
    have hspec := h.months _ hlt hbefore
    rw [hkept _ hlt hbefore, hcutoff, if_neg hday] at hspec
    omega
  · intro h
    refine ⟨?_, ?_, fun x hx => ((hmem x).mp hx).1⟩
    · intro a ha hbefore
      rw [hkept a ha hbefore, hcutoff]
      by_cases hday : today.day ≤ daysIn (today.month - cfg.retentionMonths)
      · rw [if_pos hday]
      · have hgone := h.resolve_left hday
        have hne : a ≠ today.month - cfg.retentionMonths := fun heq => hgone (heq ▸ hbefore)
        rw [if_neg hday]
        omega
    · intro x hx hnot
      refine (hmem x).mpr ⟨hx, ?_⟩
      unfold expired
      simp only [Bool.and_eq_false_iff, decide_eq_false_iff_not]
      rw [not_and] at hnot
      by_cases hschema : x.schema = "public"
      · exact .inl (.inr (Bool.eq_false_iff.mpr (hnot hschema)))
      · exact .inl (.inl hschema)

/-- The partitions of the idempotency records for the first months of 2023. -/
def firstMonths : List Relation :=
  [ofMonth "supply_idempotency_records" (2023 * 12), ofMonth "supply_idempotency_records" (2023 * 12 + 1),
    ofMonth "supply_idempotency_records" (2023 * 12 + 2)]

def midMarch : Date := ⟨2023 * 12 + 2, 14, by decide, by decide⟩

def lateMarch : Date := ⟨2023 * 12 + 2, 30, by decide, by decide⟩

theorem mid_march_keeps_february :
    RetentionKept firstMonths
      [ofMonth "supply_idempotency_records" (2023 * 12 + 1),
        ofMonth "supply_idempotency_records" (2023 * 12 + 2)] "supply_idempotency_records" midMarch 1 :=
  (retention_kept_iff newPartitionManager .working midMarch firstMonths _
    ⟨"supply_idempotency_records", 1, 1⟩ 1 (by decide) (by decide) (by decide) (by decide)
    (by decide)).mpr (.inl (by decide))

/-- On 30 March the limit is 30 February, which is March: February goes, though it is the month kept. -/
theorem late_march_drops_february :
    dropOldPartitions .working newPartitionManager.config lateMarch firstMonths
        "supply_idempotency_records" = ([ofMonth "supply_idempotency_records" (2023 * 12 + 2)], 2, none) ∧
      ¬RetentionKept firstMonths [ofMonth "supply_idempotency_records" (2023 * 12 + 2)]
        "supply_idempotency_records" lateMarch 1 := by
  refine ⟨by decide, ?_⟩
  intro h
  have hfebruary := (h.months (2023 * 12 + 1) (by decide) (by decide)).mpr (by decide)
  exact absurd hfebruary (by decide)

end SupplyPlatform.Partitions
