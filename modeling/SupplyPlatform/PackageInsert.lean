import SupplyPlatform.Package

namespace SupplyPlatform.Packages

open Relational
open Settlements (errNotFound zeroTime)

inductive SqlValue
  | int (n : Int)
  | numeric (q : ℚ)
  | text (s : String)
  | status (s : PackageStatus)
  | timestamp (t : Time)
  | null
  deriving DecidableEq

/-- INSERT INTO .. (columns) VALUES ($i, $j, ..). -/
structure Insert where
  columns : List String
  values : List Nat

/-- PostgreSQL parses the statement before it is given an argument. -/
def Insert.parse (i : Insert) : Except String Unit :=
  if i.values.length < i.columns.length then .error "INSERT has more target columns than expressions"
  else if i.columns.length < i.values.length then
    .error "INSERT has more expressions than target columns"
  else .ok ()

/-- The driver sends exactly as many arguments as the statement has parameters. -/
def Insert.bind (i : Insert) (args : List SqlValue) : Except String (List (String × SqlValue)) :=
  match i.parse with
  | .error e => .error e
  | .ok () =>
    if args.length ≠ i.values.foldl max 0 then .error "expected a different number of arguments"
    else .ok (i.columns.zip (i.values.map (fun n => args.getD (n - 1) .null)))

def assigned (values : List (String × SqlValue)) (column : String) (default : SqlValue) : SqlValue :=
  (values.lookup column).getD default

def notNull (column : String) : String :=
  "null value in column \"" ++ column ++ "\" of relation \"supply_packages\" violates not-null constraint"

def intColumn (values : List (String × SqlValue)) (column : String) (default : SqlValue) :
    Except String Int :=
  match assigned values column default with
  | .int n => .ok n
  | _ => .error (notNull column)

def numericColumn (values : List (String × SqlValue)) (column : String) : Except String ℚ :=
  match assigned values column (.numeric 0) with
  | .numeric q => .ok q
  | _ => .error (notNull column)

def textColumn (values : List (String × SqlValue)) (column : String) (default : SqlValue) :
    Except String String :=
  match assigned values column default with
  | .text s => .ok s
  | _ => .error (notNull column)

def statusColumn (values : List (String × SqlValue)) (column : String) : Except String PackageStatus :=
  match assigned values column .null with
  | .status s => .ok s
  | _ => .error (notNull column)

def timeColumn (values : List (String × SqlValue)) (column : String) : Option Time :=
  match assigned values column .null with
  | .timestamp t => some t
  | _ => none

/-- The row of `supply_packages` the values make, with the id of the sequence and the times of the
statement. -/
def rowOf (values : List (String × SqlValue)) (id : Int) (now : Time) : Except String PackageRow := do
  let supplyAccountID ← intColumn values "supply_account_id" .null
  let userID ← intColumn values "user_id" .null
  let platform ← textColumn values "platform" (.text "")
  let model ← textColumn values "model" .null
  let totalQuota ← numericColumn values "total_quota"
  let availableQuota ← numericColumn values "available_quota"
  let soldQuota ← numericColumn values "sold_quota"
  let reservedQuota ← numericColumn values "reserved_quota"
  let pricePer1MInput ← numericColumn values "price_per_1m_input"
  let pricePer1MOutput ← numericColumn values "price_per_1m_output"
  let minPurchase ← numericColumn values "min_purchase"
  let validDays ← intColumn values "valid_days" (.int 0)
  let status ← statusColumn values "status"
  let maxConcurrent ← intColumn values "max_concurrent" (.int 0)
  let rateLimitRPM ← intColumn values "rate_limit_rpm" (.int 0)
  let totalOrders ← intColumn values "total_orders" (.int 0)
  let totalRevenue ← numericColumn values "total_revenue"
  let rating ← numericColumn values "rating"
  let ratingCount ← intColumn values "rating_count" (.int 0)
  let quotaUnit ← textColumn values "quota_unit" (.text "token")
  let priceUnit ← textColumn values "price_unit" (.text "per_1m_tokens")
  let currencyCode ← textColumn values "currency_code" (.text "USD")
  let version ← intColumn values "version" (.int 0)
  return { id, supplyAccountID, userID, platform, model, totalQuota, availableQuota, soldQuota,
           reservedQuota, pricePer1MInput, pricePer1MOutput, minPurchase,
           startAt := timeColumn values "start_at", endAt := timeColumn values "end_at", validDays,
           status, maxConcurrent, rateLimitRPM, totalOrders, totalRevenue, rating, ratingCount,
           quotaUnit, priceUnit, currencyCode, version, createdAt := now, updatedAt := now }

def createStatement : Insert where
  columns :=
    ["supply_account_id", "user_id", "platform", "model",
     "total_quota", "available_quota", "sold_quota", "reserved_quota",
     "price_per_1m_input", "price_per_1m_output", "min_purchase",
     "start_at", "end_at", "valid_days",
     "status", "max_concurrent", "rate_limit_rpm",
     "total_orders", "total_revenue", "rating", "rating_count",
     "quota_unit", "price_unit", "currency_code", "version",
     "created_ip", "updated_ip", "audit_trace_id",
     "request_id"]
  values :=
    [1, 2, 3, 4, 5, 6, 7, 8, 9, 10, 11, 12, 13, 14, 15, 16, 17, 18, 19, 20, 21,
     22, 23, 24, 25, 26, 27, 28]

def timeArgument (t : Time) : SqlValue := if t = zeroTime then .null else .timestamp t

def createArguments (pkg : Package) (requestID traceID : String) : List SqlValue :=
  [.int pkg.supplierID, .int pkg.accountID, .text pkg.platform, .text pkg.model,
   .numeric pkg.totalQuota, .numeric pkg.availableQuota, .numeric pkg.soldQuota,
   .numeric pkg.reservedQuota,
   .numeric pkg.pricePer1MInput, .numeric pkg.pricePer1MOutput, .numeric pkg.minPurchase,
   timeArgument pkg.startAt, timeArgument pkg.endAt, .int pkg.validDays,
   .status pkg.status, .int pkg.maxConcurrent, .int pkg.rateLimitRPM,
   .int pkg.totalOrders, .numeric pkg.totalRevenue, .numeric pkg.rating, .int pkg.ratingCount,
   .text "token", .text "per_1m_tokens", .text "USD", .int 0,
   .null, .null, .text traceID,
   .text requestID]

def createError (cause : String) : RepoError := .message ("failed to create package: " ++ cause)

/-- `PackageRepository.Create`, with the package as it leaves it; `nextID` is the next value of the
table's sequence. -/
def create (t : PackageTable) (nextID : Int) (now : Time) (pkg : Package) (requestID traceID : String) :
    PackageTable × Except RepoError Package :=
  match createStatement.bind (createArguments pkg requestID traceID) with
  | .error e => (t, .error (createError e))
  | .ok values =>
    match rowOf values nextID now with
    | .error e => (t, .error (createError e))
    | .ok row =>
      match t.insert row with
      | none => (t, .error (createError "duplicate key value violates unique constraint"))
      | some t' => (t', .ok { pkg with id := row.id, createdAt := row.createdAt, updatedAt := row.updatedAt })

/-- The scan of `List`: the columns it does not select stay at Go's zero values. -/
def decodeListed (r : PackageRow) : Package :=
  { id := r.id, supplierID := r.supplyAccountID, accountID := r.userID, platform := r.platform,
    model := r.model, totalQuota := r.totalQuota, availableQuota := r.availableQuota,
    soldQuota := r.soldQuota, reservedQuota := 0, pricePer1MInput := r.pricePer1MInput,
    pricePer1MOutput := r.pricePer1MOutput, minPurchase := 0, startAt := zeroTime, endAt := zeroTime,
    validDays := r.validDays, maxConcurrent := r.maxConcurrent, rateLimitRPM := r.rateLimitRPM,
    status := r.status, totalOrders := r.totalOrders, totalRevenue := r.totalRevenue, rating := 0,
    ratingCount := 0, quotaUnit := "", priceUnit := "", currencyCode := "", version := r.version,
    createdAt := r.createdAt, updatedAt := r.updatedAt }

/-- `PackageRepository.List`: ORDER BY created_at DESC. -/
def list (t : PackageTable) (supplierID : Int) : List Package :=
  ((t.rows.filter (fun r => r.userID = supplierID)).mergeSort
    (fun a b => b.createdAt ≤ a.createdAt)).map decodeListed

def SameOffer (p q : Package) : Prop :=
  p.supplierID = q.supplierID ∧ p.accountID = q.accountID ∧ p.model = q.model ∧
  p.platform = q.platform ∧
  (p.totalQuota = q.totalQuota ∧ p.availableQuota = q.availableQuota ∧ p.soldQuota = q.soldQuota ∧
    p.reservedQuota = q.reservedQuota) ∧
  (p.pricePer1MInput = q.pricePer1MInput ∧ p.pricePer1MOutput = q.pricePer1MOutput ∧
    p.minPurchase = q.minPurchase) ∧
  (p.startAt = q.startAt ∧ p.endAt = q.endAt ∧ p.validDays = q.validDays) ∧
  (p.maxConcurrent = q.maxConcurrent ∧ p.rateLimitRPM = q.rateLimitRPM) ∧ p.status = q.status

/-- `Create` succeeds; `GetByID` of the supplier returns the package and of any other finds none,
`List` has it, and `Update` of what was returned succeeds. -/
def StoresPackage (t : PackageTable) (nextID : Int) (now : Time) (pkg : Package)
    (requestID traceID : String) : Prop :=
  ∃ t' created, create t nextID now pkg requestID traceID = (t', .ok created) ∧
    (∃ got, getByID t' pkg.supplierID created.id = .ok got ∧ SameOffer pkg got ∧
      ∀ later, ∃ updated, (update t' got got.version later).2 = .ok updated) ∧
    (∀ other, other ≠ pkg.supplierID → getByID t' other created.id = .error errNotFound) ∧
    ∃ p ∈ list t' pkg.supplierID, p.id = created.id

theorem Insert.bind_of_short {i : Insert} (h : i.values.length < i.columns.length)
    (args : List SqlValue) :
    i.bind args = .error "INSERT has more target columns than expressions" := by
  have hparse : i.parse = .error "INSERT has more target columns than expressions" := if_pos h
  unfold Insert.bind
  rw [hparse]

/-- Whatever the package, the table and the sequence: the statement names 29 columns and has 28
expressions, and the table stays as it was. -/
theorem create_fails (t : PackageTable) (nextID : Int) (now : Time) (pkg : Package)
    (requestID traceID : String) :
    create t nextID now pkg requestID traceID =
      (t, .error (createError "INSERT has more target columns than expressions")) := by
  have hshort : createStatement.values.length < createStatement.columns.length := by decide
  unfold create
  rw [Insert.bind_of_short hshort]

theorem create_never_stores (t : PackageTable) (nextID : Int) (now : Time) (pkg : Package)
    (requestID traceID : String) : ¬StoresPackage t nextID now pkg requestID traceID := by
  rintro ⟨t', created, hcreate, _⟩
  rw [create_fails] at hcreate
  simp at hcreate

def samplePackage : Package :=
  { id := 0, supplierID := 7, accountID := 7, platform := "openai", model := "gpt-4",
    totalQuota := 1000, availableQuota := 1000, soldQuota := 0, reservedQuota := 0,
    pricePer1MInput := 1, pricePer1MOutput := 2, minPurchase := 0, startAt := zeroTime,
    endAt := zeroTime, validDays := 30, maxConcurrent := 1, rateLimitRPM := 60, status := .draft,
    totalOrders := 0, totalRevenue := 0, rating := 0, ratingCount := 0, quotaUnit := "token",
    priceUnit := "per_1m_tokens", currencyCode := "USD", version := 0, createdAt := zeroTime,
    updatedAt := zeroTime }

theorem sample_package_not_stored : ¬StoresPackage Table.empty 1 0 samplePackage "req-1" "trace-1" := by
  rintro ⟨t', created, hcreate, _⟩
  rw [create_fails] at hcreate
  simp at hcreate

end SupplyPlatform.Packages
