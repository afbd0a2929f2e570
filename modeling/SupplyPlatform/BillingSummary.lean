import Mathlib.Algebra.Order.Ring.Rat
import Mathlib.Data.List.Sort
import Mathlib.Tactic.Ring
import SupplyPlatform.Usage

namespace SupplyPlatform.Usage

open Relational (sum_groups sum_filter_add)

def sumOver {M : Type} [AddCommMonoid M] (stats : List PlatformStat) (f : PlatformStat → M) : M :=
  (stats.map f).sum

/-- A summary whose totals are those of its platforms. -/
structure BillingSummary.AddsUp (s : BillingSummary) : Prop where
  revenue : s.summary.totalRevenue = sumOver s.byPlatform (·.revenue)
  orders : s.summary.totalOrders = sumOver s.byPlatform (·.orders)
  usage : s.summary.totalUsage = sumOver s.byPlatform (·.tokens)
  rate : s.summary.avgSuccessRate * s.summary.totalOrders =
    sumOver s.byPlatform fun p => p.orders * p.successRate
  noRate : s.summary.totalOrders = 0 → s.summary.avgSuccessRate = 0
  fee : s.summary.platformFee + s.summary.netEarnings = s.summary.totalRevenue

/-- The sums of two summaries make those of a third. -/
structure Parts (s₁ s₂ s : BillingTotal) : Prop where
  revenue : s₁.totalRevenue + s₂.totalRevenue = s.totalRevenue
  orders : s₁.totalOrders + s₂.totalOrders = s.totalOrders
  usage : s₁.totalUsage + s₂.totalUsage = s.totalUsage
  requests : s₁.totalRequests + s₂.totalRequests = s.totalRequests
  rate : s₁.avgSuccessRate * s₁.totalOrders + s₂.avgSuccessRate * s₂.totalOrders =
    s.avgSuccessRate * s.totalOrders
  fee : s₁.platformFee + s₂.platformFee = s.platformFee
  net : s₁.netEarnings + s₂.netEarnings = s.netEarnings

def totalsOf (rows : List UsageRow) : BillingTotal where
  totalRevenue := revenue rows
  totalOrders := rows.length
  totalUsage := tokens rows
  totalRequests := rows.length
  avgSuccessRate := successRate rows
  platformFee := revenue rows * (1 / 100)
  netEarnings := revenue rows - revenue rows * (1 / 100)

theorem getBillingSummary_eq {order : RevenueOrder} {t : UsageTable} {supplierID : Int}
    {startDate endDate : String} {start stop : Time}
    (hrange : parseRange startDate endDate = .ok (start, stop)) :
    getBillingSummary order t supplierID startDate endDate =
      .ok ⟨startDate, endDate, totalsOf (t.rows.filter (selected supplierID start stop)),
        platformQuery order (t.rows.filter (selected supplierID start stop))⟩ := by
  unfold getBillingSummary
  rw [hrange]
  rfl

theorem successRate_mul (rows : List UsageRow) : successRate rows * rows.length = (rows.map score).sum := by
  unfold successRate
  by_cases h : rows.length = 0
  · rw [if_pos h, List.length_eq_zero_iff.mp h]
    simp
  · have hne : (rows.length : ℚ) ≠ 0 := Nat.cast_ne_zero.mpr h
    rw [if_neg h]
    exact div_mul_cancel₀ _ hne

theorem sumOver_platforms {M : Type} [AddCommMonoid M] (order : RevenueOrder) {rows : List UsageRow}
    {f : PlatformStat → M} {g : UsageRow → M} (hf : ∀ platform, f (platformStat rows platform) =
      ((rows.filter (·.platform = platform)).map g).sum) :
    sumOver (platformQuery order rows) f = (rows.map g).sum := by
  unfold sumOver platformQuery
  rw [((order.perm _).map f).sum_eq, platformStats, List.map_map, ← sum_groups (List.nodup_dedup _)
    (fun r hr => List.mem_dedup.mpr (List.mem_map_of_mem (f := UsageRow.platform) hr))]
  exact congrArg List.sum (List.map_congr_left fun platform _ => hf platform)

theorem addsUp_of_platformQuery (order : RevenueOrder) (rows : List UsageRow) (startDate endDate : String) :
    BillingSummary.AddsUp ⟨startDate, endDate, totalsOf rows, platformQuery order rows⟩ where
  revenue := (sumOver_platforms order fun _ => rfl).symm
  orders := by
    rw [sumOver_platforms (g := fun _ => 1) order fun _ => by simp [platformStat]]
    simp [totalsOf]
  usage := (sumOver_platforms order fun _ => rfl).symm
  rate := by
    rw [sumOver_platforms (g := score) order fun platform => by
      rw [mul_comm]
      exact successRate_mul _]
    exact successRate_mul rows
  noRate hnone := if_pos hnone
  fee := add_sub_cancel _ _

/-- The rows of two ranges that meet are those of both together. -/
theorem selected_split {t : UsageTable} {supplierID : Int} {start cut stop : Time} (hstart : start ≤ cut)
    (hstop : cut ≤ stop) :
    (t.rows.filter (selected supplierID start cut) ++ t.rows.filter (selected supplierID cut stop)).Perm
      (t.rows.filter (selected supplierID start stop)) := by
  refine List.Perm.trans (List.Perm.of_eq ?_)
    (List.filter_append_perm (fun r => r.startedAt < cut) (t.rows.filter (selected supplierID start stop)))
  rw [List.filter_filter, List.filter_filter]
  congr 1
  · refine List.filter_congr fun r _ => ?_
    rw [Bool.eq_iff_iff]
    unfold selected
    simp only [Bool.and_eq_true, decide_eq_true_eq]
    constructor
    · rintro ⟨hown, hcut⟩
      exact ⟨hcut, hown, hcut.trans_le hstop⟩
    · rintro ⟨hcut, hown, -⟩
      exact ⟨hown, hcut⟩
  · refine List.filter_congr fun r _ => ?_
    rw [Bool.eq_iff_iff]
    unfold selected
    simp only [Bool.and_eq_true, decide_eq_true_eq, Bool.not_eq_true', decide_eq_false_iff_not, not_lt]
    constructor
    · rintro ⟨⟨hsupplier, hcut⟩, hlast⟩
      exact ⟨hcut, ⟨hsupplier, hstart.trans hcut⟩, hlast⟩
    · rintro ⟨hcut, ⟨hsupplier, -⟩, hlast⟩
      exact ⟨⟨hsupplier, hcut⟩, hlast⟩

theorem totals_parts {rows₁ rows₂ rows : List UsageRow} (h : (rows₁ ++ rows₂).Perm rows) :
    Parts (totalsOf rows₁) (totalsOf rows₂) (totalsOf rows) := by
  have hrevenue : revenue rows₁ + revenue rows₂ = revenue rows := by
    unfold revenue
    rw [← (h.map _).sum_eq, List.map_append, List.sum_append]
  have hlength : rows₁.length + rows₂.length = rows.length := by
    rw [← h.length_eq, List.length_append]
  refine ⟨hrevenue, hlength, ?_, hlength, ?_, ?_, ?_⟩
  · change tokens rows₁ + tokens rows₂ = tokens rows
    unfold tokens
    rw [← (h.map _).sum_eq, List.map_append, List.sum_append]
  · change successRate rows₁ * rows₁.length + successRate rows₂ * rows₂.length =
      successRate rows * rows.length
    rw [successRate_mul, successRate_mul, successRate_mul, ← (h.map _).sum_eq, List.map_append,
      List.sum_append]
  · change revenue rows₁ * (1 / 100) + revenue rows₂ * (1 / 100) = revenue rows * (1 / 100)
    rw [← add_mul, hrevenue]
  · change revenue rows₁ - revenue rows₁ * (1 / 100) + (revenue rows₂ - revenue rows₂ * (1 / 100)) =
      revenue rows - revenue rows * (1 / 100)
    rw [← hrevenue]
    ring

/-- A summary agrees with itself, with the count of `ListRecords`, and with the summaries of two ranges
of days that follow each other and make up its own. -/
theorem billing_summary_agrees (order : RevenueOrder) (t : UsageTable) (supplierID : Int)
    (startDate endDate : String) (start stop : Time)
    (hrange : parseRange startDate endDate = .ok (start, stop)) :
    ∃ s, getBillingSummary order t supplierID startDate endDate = .ok s ∧ s.AddsUp ∧
      (∀ sorted page pageSize records total,
        listRecords t sorted supplierID startDate endDate page pageSize = .ok (records, total) →
        s.summary.totalOrders = total) ∧
      (∀ lastDate nextDate cut order₁ order₂ s₁ s₂,
        parseRange startDate lastDate = .ok (start, cut) → parseRange nextDate endDate = .ok (cut, stop) →
        start ≤ cut → cut ≤ stop →
        getBillingSummary order₁ t supplierID startDate lastDate = .ok s₁ →
        getBillingSummary order₂ t supplierID nextDate endDate = .ok s₂ →
        Parts s₁.summary s₂.summary s.summary) := by
  refine ⟨_, getBillingSummary_eq hrange, addsUp_of_platformQuery order _ startDate endDate, ?_, ?_⟩
  · intro sorted page pageSize records total h
    exact ((listRecords_eq_ok hrange).mp h).2.symm
  · intro lastDate nextDate cut order₁ order₂ s₁ s₂ hfirst hsecond hstart hstop h₁ h₂
    rw [getBillingSummary_eq hfirst] at h₁
    rw [getBillingSummary_eq hsecond] at h₂
    cases h₁
    cases h₂
    exact totals_parts (selected_split hstart hstop)

/-- Requests of the first two days of a year: three on the first, of two platforms, one on the second. -/
def fourRequests : UsageTable where
  rows := [⟨1, 7, 3, 1704067200 * second, "openai", "gpt-4", some 10, some true⟩,
    ⟨2, 7, 1, 1704067260 * second, "openai", "gpt-4", none, some false⟩,
    ⟨3, 7, 2, 1704067320 * second, "anthropic", "claude-3", some 5, none⟩,
    ⟨4, 7, 4, 1704153600 * second, "anthropic", "claude-3", some 20, some true⟩]
  unique := by decide

/-- The stable order. -/
def stableOrder : RevenueOrder where
  sort := List.insertionSort fun a b => b.revenue ≤ a.revenue
  perm := List.perm_insertionSort _
  descending := List.pairwise_insertionSort _

theorem two_days_agree :
    ∃ s, getBillingSummary stableOrder fourRequests 7 "2024-01-01" "2024-01-02" = .ok s ∧ s.AddsUp ∧
      s.byPlatform = [⟨"anthropic", 6, 2, 25, 50⟩, ⟨"openai", 4, 2, 10, 50⟩] ∧
      ∀ order₁ order₂ s₁ s₂,
        getBillingSummary order₁ fourRequests 7 "2024-01-01" "2024-01-01" = .ok s₁ →
        getBillingSummary order₂ fourRequests 7 "2024-01-02" "2024-01-02" = .ok s₂ →
        Parts s₁.summary s₂.summary s.summary := by
  have hrange : parseRange "2024-01-01" "2024-01-02" = .ok (1704067200 * second, 1704240000 * second) := by
    decide +kernel
  obtain ⟨s, hs, hadds, -, hparts⟩ := billing_summary_agrees stableOrder fourRequests 7 "2024-01-01"
    "2024-01-02" (1704067200 * second) (1704240000 * second) hrange
  refine ⟨s, hs, hadds, ?_, fun order₁ order₂ s₁ s₂ => ?_⟩
  · cases (getBillingSummary_eq hrange).symm.trans hs
    decide +kernel
  · exact hparts "2024-01-01" "2024-01-02" (1704153600 * second) order₁ order₂ s₁ s₂
      (by decide +kernel) (by decide +kernel) (by decide +kernel) (by decide +kernel)

end SupplyPlatform.Usage
