import SupplyPlatform.Numeric

namespace SupplyPlatform.Settlements

open Relational Float64

inductive SettlementStatus
  | pending
  | processing
  | completed
  | failed
  deriving DecidableEq

/-- The named payment methods, and whatever other text a request carries. -/
inductive PaymentMethod
  | bank
  | alipay
  | wechat
  | other (name : String)
  deriving DecidableEq

/-- Amounts are float64 in Go; here they are the rationals these denote. -/
structure Settlement where
  id : Int
  supplierID : Int
  settlementNo : String
  status : SettlementStatus
  totalAmount : ℚ
  feeAmount : ℚ
  netAmount : ℚ
  paymentMethod : PaymentMethod
  paymentAccount : String
  paymentTransactionID : String
  paidAt : Option Time
  periodStart : Time
  periodEnd : Time
  totalOrders : Int
  totalUsageRecords : Int
  version : Int
  createdAt : Time
  updatedAt : Time
  deriving DecidableEq

/-- A row of `supply_settlements`; the NUMERIC(20, 6) columns count millionths. -/
structure SettlementRow where
  id : Int
  settlementNo : String
  userID : Int
  totalAmount : Int
  feeAmount : Int
  netAmount : Int
  status : SettlementStatus
  paymentMethod : PaymentMethod
  paymentAccount : String
  periodStart : Time
  periodEnd : Time
  totalOrders : Int
  totalUsageRecords : Int
  paymentTransactionID : String
  paidAt : Option Time
  currencyCode : String
  amountUnit : String
  version : Int
  requestID : String
  idempotencyKey : String
  auditTraceID : String
  createdAt : Time
  updatedAt : Time
  deriving DecidableEq

/-- PRIMARY KEY (id) and UNIQUE (settlement_no). -/
def Apart (a b : SettlementRow) : Prop := a.id ≠ b.id ∧ a.settlementNo ≠ b.settlementNo

instance : DecidableRel Apart := fun a b =>
  inferInstanceAs (Decidable (a.id ≠ b.id ∧ a.settlementNo ≠ b.settlementNo))

instance : Std.Symm Apart := ⟨fun _ _ h => ⟨h.1.symm, h.2.symm⟩⟩

abbrev SettlementTable := Table SettlementRow Apart

inductive AccountStatus
  | pending
  | active
  | suspended
  | disabled
  deriving DecidableEq

/-- The columns of `supply_accounts` that the balance reads. -/
structure AccountRow where
  userID : Int
  status : AccountStatus
  availableQuota : Int
  deriving DecidableEq

structure WithdrawRequest where
  amount : ℚ
  paymentMethod : PaymentMethod
  paymentAccount : String
  smsCode : String
  deriving DecidableEq

/-- An amount as the argument for a NUMERIC(20, 6) column. -/
def numeric206 (x : ℚ) : Except DbError Int := storeFloat 20 6 x

/-- Such a column as an amount. -/
def fromNumeric (millionths : Int) : ℚ := scanFloat 6 millionths

/-- Year, month and day of a count of days since 1970-01-01. -/
def civilDate (days : Int) : Int × Int × Int :=
  let z := days + 719468
  let era := z / 146097
  let doe := z % 146097
  let yoe := (doe - doe / 1460 + doe / 36524 - doe / 146096) / 365
  let doy := doe - (365 * yoe + yoe / 4 - yoe / 100)
  let mp := (5 * doy + 2) / 153
  let day := doy - (153 * mp + 2) / 5 + 1
  let month := if mp < 10 then mp + 3 else mp - 9
  let year := yoe + era * 400 + (if month ≤ 2 then 1 else 0)
  (year, month, day)

/-- A number in decimal with at least the given width. -/
def padded (width : Nat) (n : Int) : String :=
  let digits := Nat.toDigits 10 n.toNat
  String.ofList (List.replicate (width - digits.length) '0' ++ digits)

/-- `time.Now().Format("20060102150405")` in UTC: one number for a whole second. -/
def generateSettlementNo (now : Time) : String :=
  let seconds := now / second
  let clock := seconds % 86400
  let (year, month, day) := civilDate (seconds / 86400)
  padded 4 year ++ padded 2 month ++ padded 2 day ++ padded 2 (clock / 3600) ++
    padded 2 (clock / 60 % 60) ++ padded 2 (clock % 60)

/-- Go's zero `time.Time`, 1 January of year 1. -/
def zeroTime : Time := -62135596800 * second

def isOpen : SettlementStatus → Bool
  | .pending => true
  | .processing => true
  | _ => false

/-- The rows the uniqueness of a withdrawal is about. -/
def openFor (supplierID : Int) (r : SettlementRow) : Bool :=
  r.userID = supplierID && isOpen r.status

def hasPendingOrProcessingWithdraw (t : SettlementTable) (supplierID : Int) : Bool :=
  t.rows.any (openFor supplierID)

def getWithdrawableBalance (accounts : List AccountRow) (supplierID : Int) : Int :=
  ((accounts.filter (fun a => a.userID = supplierID && a.status = .active)).map
    (·.availableQuota)).sum

def errInvalidSMS : RepoError := .message "invalid sms code"

def errWithdrawAlreadyProcessing : RepoError :=
  .message "SUP_SET_4093: another withdrawal is already processing"

def errAmountNotPositive : RepoError := .message "SUP_SET_4003: withdraw amount must be positive"

def errExceedsBalance : RepoError :=
  .message "SUP_SET_4001: withdraw amount exceeds available balance"

def errCannotCancel : RepoError :=
  .message "SUP_SET_4092: cannot cancel processing or completed settlements"

def errNotFound : RepoError := .message "resource not found"

def errConcurrencyConflict : RepoError :=
  .message "concurrency conflict: resource was modified by another transaction"

/-- The settlement `Withdraw` builds once its checks have passed. -/
def newWithdrawal (supplierID : Int) (req : WithdrawRequest) (now : Time) : Settlement :=
  { id := 0, supplierID := supplierID, settlementNo := generateSettlementNo now, status := .pending,
    totalAmount := req.amount, feeAmount := float64 (req.amount * float64 (1 / 100)),
    netAmount := float64 (req.amount * float64 (99 / 100)), paymentMethod := req.paymentMethod,
    paymentAccount := req.paymentAccount, paymentTransactionID := "", paidAt := none,
    periodStart := zeroTime, periodEnd := zeroTime, totalOrders := 0, totalUsageRecords := 0,
    version := 1, createdAt := now, updatedAt := now }

/-- The row the INSERT of `CreateWithdrawTx` writes; its version is 0 whatever the struct says. -/
def withdrawalRow (s : Settlement) (id : Int) (now : Time) : Except DbError SettlementRow :=
  match numeric206 s.totalAmount, numeric206 s.feeAmount, numeric206 s.netAmount with
  | .ok total, .ok fee, .ok net =>
    .ok { id := id, settlementNo := s.settlementNo, userID := s.supplierID, totalAmount := total,
          feeAmount := fee, netAmount := net, status := s.status, paymentMethod := s.paymentMethod,
          paymentAccount := s.paymentAccount, periodStart := s.periodStart, periodEnd := s.periodEnd,
          totalOrders := s.totalOrders, totalUsageRecords := s.totalUsageRecords,
          paymentTransactionID := "", paidAt := none, currencyCode := "USD", amountUnit := "minor",
          version := 0, requestID := "", idempotencyKey := "", auditTraceID := "",
          createdAt := now, updatedAt := now }
  | .error e, _, _ => .error e
  | _, .error e, _ => .error e
  | _, _, .error e => .error e

/-- The settlement with the columns of RETURNING. -/
def Settlement.created (s : Settlement) (row : SettlementRow) : Settlement :=
  { s with id := row.id, createdAt := row.createdAt, updatedAt := row.updatedAt }

def errAlreadyOpen (existingID : Int) : RepoError :=
  .message ("already has pending or processing withdrawal: " ++ toString existingID)

def errCreate (cause : DbError) : RepoError := .wrap "failed to create withdrawal in tx" cause

def decodeSettlement (r : SettlementRow) : Settlement :=
  { id := r.id, supplierID := r.userID, settlementNo := r.settlementNo, status := r.status,
    totalAmount := fromNumeric r.totalAmount, feeAmount := fromNumeric r.feeAmount,
    netAmount := fromNumeric r.netAmount, paymentMethod := r.paymentMethod,
    paymentAccount := r.paymentAccount, paymentTransactionID := r.paymentTransactionID,
    paidAt := r.paidAt, periodStart := r.periodStart, periodEnd := r.periodEnd,
    totalOrders := r.totalOrders, totalUsageRecords := r.totalUsageRecords, version := r.version,
    createdAt := r.createdAt, updatedAt := r.updatedAt }

def getByID (t : SettlementTable) (supplierID id : Int) : Except RepoError Settlement :=
  match t.rows.find? (fun r => r.id = id && r.userID = supplierID) with
  | some r => .ok (decodeSettlement r)
  | none => .error errNotFound

/-- The WHERE clause of `Update`. -/
def updates (s : Settlement) (expectedVersion : Int) (r : SettlementRow) : Bool :=
  r.id = s.id && r.userID = s.supplierID && r.version = expectedVersion

/-- What `Update` sets; the amounts, the number and the owner are not among it. -/
def updatedRow (s : Settlement) (expectedVersion : Int) (now : Time) (r : SettlementRow) :
    SettlementRow :=
  { r with status := s.status, paymentMethod := s.paymentMethod, paymentAccount := s.paymentAccount,
           paymentTransactionID := s.paymentTransactionID, paidAt := s.paidAt,
           totalOrders := s.totalOrders, totalUsageRecords := s.totalUsageRecords,
           version := expectedVersion + 1, updatedAt := now }

def update (t : SettlementTable) (s : Settlement) (expectedVersion : Int) (now : Time) :
    SettlementTable × Except RepoError Unit :=
  (t.update (fun r => if updates s expectedVersion r then updatedRow s expectedVersion now r else r)
    (by
      intro a b h
      have hid : ∀ r, (if updates s expectedVersion r then updatedRow s expectedVersion now r
          else r).id = r.id := by
        intro r
        split <;> rfl
      have hno : ∀ r, (if updates s expectedVersion r then updatedRow s expectedVersion now r
          else r).settlementNo = r.settlementNo := by
        intro r
        split <;> rfl
      exact ⟨by rw [hid a, hid b]; exact h.1, by rw [hno a, hno b]; exact h.2⟩),
    if t.rows.any (updates s expectedVersion) then .ok () else .error errConcurrencyConflict)

/-- `Cancel` between its read and its update. -/
def cancelled (s : Settlement) (now : Time) : Except RepoError Settlement :=
  match s.status with
  | .processing | .completed => .error errCannotCancel
  | _ => .ok { s with status := .failed, updatedAt := now }

end SupplyPlatform.Settlements
