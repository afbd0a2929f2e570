import SupplyPlatform.Lib.Calendar
import SupplyPlatform.Lib.Decimals
import SupplyPlatform.Lib.Separators
import SupplyPlatform.Lib.Strings
import SupplyPlatform.Settlement

namespace SupplyPlatform.Partitions

open Calendar (Date)
open Settlements (padded)

structure PartitionConfig where
  tableName : String
  retentionMonths : Nat
  preCreateMonths : Nat
  deriving DecidableEq

/-- A name that SQL and a regular expression read as it stands, also with a month after it. -/
def isPlain (name : String) : Bool :=
  name.toList.all (fun c => c.isLower || c.isDigit || c = '_') && name.toList.length ≤ 54

/-- `PartitionManager`; the configuration is a map by table. -/
structure PartitionManager where
  config : List PartitionConfig
  keyed : (config.map (·.tableName)).Nodup
  plain : ∀ cfg ∈ config, isPlain cfg.tableName

def newPartitionManager : PartitionManager where
  config := [⟨"audit_events", 12, 3⟩, ⟨"supply_usage_records", 3, 3⟩, ⟨"supply_idempotency_records", 1, 1⟩]
  keyed := by decide
  plain := by decide

/-- A row of `pg_class` with the name of its schema. -/
structure Relation where
  schema : String
  name : String
  deriving DecidableEq

/-- A partition as CREATE TABLE makes it, for the dates from `startDate` to before `endDate`. -/
structure Partition where
  table : String
  name : String
  startDate : Date
  endDate : Date
  deriving DecidableEq

/-- The database, with the partitions that a run has created. -/
structure Catalog where
  relations : List Relation
  created : List Partition
  deriving DecidableEq

/-- What the statements meet besides: each of them may fail. -/
structure Postgres where
  check : String → Except DbError Unit
  query : Except DbError Unit
  create : Partition → Except DbError Unit
  drop : String → Except DbError Unit

/-- Statements that go through. -/
def Postgres.working : Postgres where
  check _ := .ok ()
  query := .ok ()
  create _ := .ok ()
  drop _ := .ok ()

/-- `Format("2006_01")` and `Format("2006-01")`. -/
def formatMonth (sep : String) (month : Nat) : String :=
  padded 4 (month / 12 : Nat) ++ sep ++ padded 2 (month % 12 + 1 : Nat)

def partitionName (table : String) (month : Nat) : String := table ++ "_" ++ formatMonth "_" month

/-- The partition that `createPartition` names and bounds for a date. -/
def partitionOf (table : String) (partitionDate : Date) : Partition :=
  let startDate := Date.firstOfMonth partitionDate.month
  { table := table, name := partitionName table startDate.month, startDate := startDate,
    endDate := startDate.addMonths 1 }

def Catalog.add (c : Catalog) (p : Partition) : Catalog :=
  { relations := c.relations ++ [⟨"public", p.name⟩], created := c.created ++ [p] }

def createPartition (pg : Postgres) (c : Catalog) (table : String) (partitionDate : Date) :
    Except (String × DbError) Catalog :=
  match pg.check (partitionOf table partitionDate).name with
  | .error e => .error ("failed to check partition existence", e)
  | .ok () =>
    if c.relations.any (·.name = (partitionOf table partitionDate).name) then .ok c
    else
      match pg.create (partitionOf table partitionDate) with
      | .error e => .error ("failed to create partition", e)
      | .ok () => .ok (c.add (partitionOf table partitionDate))

def errEnsure (table : String) (futureDate : Date) (e : String × DbError) : RepoError :=
  .wrap ("failed to create partition for " ++ table ++ " at " ++ formatMonth "-" futureDate.month ++
    ": " ++ e.1) e.2

def ensureMonth (pg : Postgres) (today : Date) (table : String) (c : Catalog) (i : Nat) :
    Except RepoError Catalog :=
  (createPartition pg c table (today.addMonths i)).mapError (errEnsure table (today.addMonths i))

def ensureTable (pg : Postgres) (today : Date) (c : Catalog) (cfg : PartitionConfig) :
    Except RepoError Catalog :=
  (List.range (cfg.preCreateMonths + 1)).foldlM (ensureMonth pg today cfg.tableName) c

/-- `EnsureFuturePartitions`, which goes over the configuration in some order. -/
def ensureFuturePartitions (pg : Postgres) (today : Date) (order : List PartitionConfig)
    (relations : List Relation) : Except RepoError Catalog :=
  order.foldlM (ensureTable pg today) ⟨relations, []⟩

/-- `relname ~ '^table_[0-9]{4}_[0-9]{2}$'`. -/
def isPartitionName (table name : String) : Bool :=
  Strings.hasPrefix name table &&
    match name.toList.drop table.toList.length with
    | ['_', a, b, c, d, '_', e, f] => [a, b, c, d, e, f].all Char.isDigit
    | _ => false

/-- The rows of the query of `DropOldPartitions`; `relname <` compares as the type `name` does. -/
def expired (table cutoffPrefix : String) (r : Relation) : Bool :=
  r.schema = "public" && isPartitionName table r.name && r.name.toList < cutoffPrefix.toList

/-- The loop over the rows: the relations it leaves, the number dropped, and the error that ends it. -/
def dropAll (pg : Postgres) :
    List Relation → List Relation → Nat → List Relation × Nat × Option RepoError
  | [], relations, dropped => (relations, dropped, none)
  | r :: rows, relations, dropped =>
    match pg.drop r.name with
    | .error e => (relations, dropped, some (.wrap ("failed to drop partition " ++ r.name) e))
    | .ok () => dropAll pg rows (relations.filter (· ≠ ⟨"public", r.name⟩)) (dropped + 1)

/-- `DropOldPartitions`; `visited` are the relations in the order of the scan. -/
def dropOldPartitions (pg : Postgres) (config : List PartitionConfig) (today : Date)
    (visited : List Relation) (tableName : String) : List Relation × Nat × Option RepoError :=
  match config.find? (·.tableName = tableName) with
  | none => (visited, 0, some (.message ("unknown table: " ++ tableName)))
  | some cfg =>
    if cfg.retentionMonths = 0 then (visited, 0, none)
    else
      let cutoffDate := today.subMonths cfg.retentionMonths
      let cutoffPrefix := tableName ++ "_" ++ formatMonth "_" cutoffDate.month
      match pg.query with
      | .error e => (visited, 0, some (.wrap "failed to query partitions" e))
      | .ok () => dropAll pg (visited.filter (expired tableName cutoffPrefix)) visited 0

theorem toList_padded (width n : Nat) : (padded width (n : Nat)).toList = Separators.padded width n := by
  unfold padded Separators.padded
  rw [String.toList_ofList, Int.toNat_natCast]

theorem toList_partitionName (table : String) (month : Nat) :
    (partitionName table month).toList =
      (table.toList ++ '_' :: Separators.padded 4 (month / 12)) ++
        '_' :: Separators.padded 2 (month % 12 + 1) := by
  unfold partitionName formatMonth
  simp only [String.toList_append, toList_padded, List.append_assoc, List.cons_append]
  rfl

theorem underscore_notMem_padded (width n : Nat) : '_' ∉ Separators.padded width n := by
  intro h
  exact absurd (Separators.isDigit_of_mem_padded h) (by decide)

theorem padded_injective {width a b : Nat} (h : Separators.padded width a = Separators.padded width b) :
    a = b := by
  rw [← Separators.ofDigitChars_padded width a, h, Separators.ofDigitChars_padded]

/-- A name tells its table and its month: both numbers stand behind the last two separators. -/
theorem partitionName_inj {table table' : String} {a b : Nat} :
    partitionName table a = partitionName table' b ↔ table = table' ∧ a = b := by
  constructor
  · intro h
    have hlist := congrArg String.toList h
    rw [toList_partitionName, toList_partitionName] at hlist
    obtain ⟨hfront, hmonth⟩ :=
      Separators.append_sep_inj (underscore_notMem_padded _ _) (underscore_notMem_padded _ _) hlist
    obtain ⟨htable, hyear⟩ :=
      Separators.append_sep_inj (underscore_notMem_padded _ _) (underscore_notMem_padded _ _) hfront
    have hm := padded_injective hmonth
    have hy := padded_injective hyear
    exact ⟨String.toList_inj.mp htable, by omega⟩
  · rintro ⟨rfl, rfl⟩
    rfl

end SupplyPlatform.Partitions
