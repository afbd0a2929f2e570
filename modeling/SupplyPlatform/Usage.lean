import Mathlib.Algebra.BigOperators.Group.List.Basic
import Mathlib.Algebra.Field.Rat
import Mathlib.Data.List.Dedup
import SupplyPlatform.AuditLog
import SupplyPlatform.Lib.Table

namespace SupplyPlatform.Usage

open AuditLog (parseDate)

/-- The columns of `supply_usage_records` that the queries read. The tokens are NULL only under the
partitioned schema. -/
structure UsageRow where
  id : Int
  supplierUserID : Int
  totalCost : ℚ
  startedAt : Time
  platform : String
  model : String
  totalTokens : Option Int
  success : Option Bool
  deriving DecidableEq

/-- The table, with the primary key of the partitioned schema. -/
abbrev UsageTable :=
  Relational.Table UsageRow fun a b => (a.id, a.startedAt) ≠ (b.id, b.startedAt)

structure EarningRecord where
  id : Int
  supplierID : Int
  settlementID : Int
  earningsType : String
  amount : ℚ
  status : String
  description : String
  earnedAt : Time
  deriving DecidableEq

/-- Both dates at midnight, and a day added to the second. -/
def parseRange (startDate endDate : String) : Except RepoError (Time × Time) :=
  match parseDate startDate with
  | none => .error (.message "invalid start date")
  | some start =>
    match parseDate endDate with
    | none => .error (.message "invalid end date")
    | some last => .ok (start, last + AuditLog.day)

/-- The WHERE clause of all the queries. -/
def selected (supplierID : Int) (start stop : Time) (r : UsageRow) : Bool :=
  r.supplierUserID = supplierID && start ≤ r.startedAt && r.startedAt < stop

def earningRecord (r : UsageRow) (totalTokens : Int) (success : Bool) : EarningRecord where
  id := r.id
  supplierID := r.supplierUserID
  settlementID := 0
  earningsType := "usage"
  amount := r.totalCost
  status := if success then "available" else "pending"
  description := r.platform ++ " " ++ r.model ++ " " ++ toString totalTokens ++ " tokens"
  earnedAt := r.startedAt

def scanRecord (r : UsageRow) : Except RepoError EarningRecord :=
  match r.totalTokens, r.success with
  | some totalTokens, some success => .ok (earningRecord r totalTokens success)
  | _, _ => .error (.wrap "failed to scan record" .scanNull)

/-- `ListRecords`, where PostgreSQL takes the page from the rows in the order `sorted`. -/
def listRecords (t : UsageTable) (sorted : List UsageRow) (supplierID : Int) (startDate endDate : String)
    (page pageSize : Nat) : Except RepoError (List EarningRecord × Nat) :=
  match parseRange startDate endDate with
  | .error e => .error e
  | .ok (start, stop) =>
    let total := t.rows.countP (selected supplierID start stop)
    let offset := (page - 1) * pageSize
    match ((sorted.drop offset).take pageSize).mapM scanRecord with
    | .error e => .error e
    | .ok records => .ok (records, total)

theorem listRecords_eq_ok {t : UsageTable} {sorted : List UsageRow} {supplierID : Int}
    {startDate endDate : String} {start stop : Time} {page pageSize total : Nat}
    {records : List EarningRecord} (hrange : parseRange startDate endDate = .ok (start, stop)) :
    listRecords t sorted supplierID startDate endDate page pageSize = .ok (records, total) ↔
      ((sorted.drop ((page - 1) * pageSize)).take pageSize).mapM scanRecord = .ok records ∧
        total = (t.rows.filter (selected supplierID start stop)).length := by
  unfold listRecords
  rw [hrange]
  simp only [List.countP_eq_length_filter]
  cases ((sorted.drop ((page - 1) * pageSize)).take pageSize).mapM scanRecord with
  | error e => simp
  | ok read =>
    simp only [Except.ok.injEq, Prod.mk.injEq]
    exact and_congr_right fun _ => eq_comm

/-- ORDER BY started_at DESC. -/
def Sorted (t : UsageTable) (supplierID : Int) (start stop : Time) (sorted : List UsageRow) : Prop :=
  t.Answers (selected supplierID start stop) (fun r => -r.startedAt) sorted

instance (t : UsageTable) (supplierID : Int) (start stop : Time) (sorted : List UsageRow) :
    Decidable (Sorted t supplierID start stop sorted) :=
  inferInstanceAs (Decidable (t.Answers _ _ _))

structure PlatformStat where
  platform : String
  revenue : ℚ
  orders : Nat
  tokens : Int
  successRate : ℚ
  deriving DecidableEq

structure BillingTotal where
  totalRevenue : ℚ
  totalOrders : Nat
  totalUsage : Int
  totalRequests : Nat
  avgSuccessRate : ℚ
  platformFee : ℚ
  netEarnings : ℚ
  deriving DecidableEq

structure BillingSummary where
  periodStart : String
  periodEnd : String
  summary : BillingTotal
  byPlatform : List PlatformStat
  deriving DecidableEq

/-- SUM of the costs. -/
def revenue (rows : List UsageRow) : ℚ := (rows.map (·.totalCost)).sum

/-- SUM of the tokens, which leaves NULL out. -/
def tokens (rows : List UsageRow) : Int := (rows.map (·.totalTokens.getD 0)).sum

/-- CASE WHEN success THEN 100.0 ELSE 0.0 END. -/
def score (r : UsageRow) : ℚ := if r.success = some true then 100 else 0

/-- AVG of the scores, and 0 where there is no row. -/
def successRate (rows : List UsageRow) : ℚ :=
  if rows.length = 0 then 0 else (rows.map score).sum / rows.length

def platformStat (rows : List UsageRow) (platform : String) : PlatformStat :=
  let group := rows.filter (·.platform = platform)
  { platform := platform, revenue := revenue group, orders := group.length, tokens := tokens group,
    successRate := successRate group }

/-- GROUP BY platform. -/
def platformStats (rows : List UsageRow) : List PlatformStat :=
  (rows.map (·.platform)).dedup.map (platformStat rows)

/-- ORDER BY revenue DESC, whatever order the ties come in. -/
structure RevenueOrder where
  sort : List PlatformStat → List PlatformStat
  perm : ∀ stats, (sort stats).Perm stats
  descending : ∀ stats, (sort stats).Pairwise fun a b => b.revenue ≤ a.revenue

/-- The query by platform. -/
def platformQuery (order : RevenueOrder) (rows : List UsageRow) : List PlatformStat :=
  order.sort (platformStats rows)

def getBillingSummary (order : RevenueOrder) (t : UsageTable) (supplierID : Int)
    (startDate endDate : String) : Except RepoError BillingSummary :=
  match parseRange startDate endDate with
  | .error e => .error e
  | .ok (start, stop) =>
    let rows := t.rows.filter (selected supplierID start stop)
    let totalRevenue := revenue rows
    let platformFee := totalRevenue * (1 / 100)
    .ok
      { periodStart := startDate
        periodEnd := endDate
        summary :=
          { totalRevenue := totalRevenue
            totalOrders := rows.length
            totalUsage := tokens rows
            totalRequests := rows.length
            avgSuccessRate := successRate rows
            platformFee := platformFee
            netEarnings := totalRevenue - platformFee }
        byPlatform := platformQuery order rows }

/-- The map of `InMemoryEarningStore`, by record. -/
structure InMemoryEarningStore where
  records : List EarningRecord
  keyed : (records.map (·.id)).Nodup

/-- `ListRecords` of the memory store, which goes over the map in the order `visited`. -/
def InMemoryEarningStore.listRecords (visited : List EarningRecord) (supplierID : Int)
    (_startDate _endDate : String) (page pageSize : Nat) : List EarningRecord × Nat :=
  let result := visited.filter (·.supplierID = supplierID)
  let total := result.length
  let start := (page - 1) * pageSize
  let stop := start + pageSize
  if total ≤ start then ([], total)
  else ((result.take (if total < stop then total else stop)).drop start, total)

end SupplyPlatform.Usage
