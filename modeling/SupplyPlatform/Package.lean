import Mathlib.Data.Rat.Defs
import Mathlib.Algebra.Order.Ring.Rat
import SupplyPlatform.Settlement

namespace SupplyPlatform.Packages

open Relational
open Settlements (errNotFound errConcurrencyConflict zeroTime)

inductive PackageStatus
  | draft
  | active
  | paused
  | soldOut
  | expired
  deriving DecidableEq

/-- Quotas, prices and ratings are float64 in Go and NUMERIC in the database; here they are the
rationals these denote, in exact arithmetic. What a scan into float64 and the way back make of them is
said by `scanned` and `updateFloat`. -/
structure Package where
  id : Int
  supplierID : Int
  accountID : Int
  platform : String
  model : String
  totalQuota : ℚ
  availableQuota : ℚ
  soldQuota : ℚ
  reservedQuota : ℚ
  pricePer1MInput : ℚ
  pricePer1MOutput : ℚ
  minPurchase : ℚ
  startAt : Time
  endAt : Time
  validDays : Int
  maxConcurrent : Int
  rateLimitRPM : Int
  status : PackageStatus
  totalOrders : Int
  totalRevenue : ℚ
  rating : ℚ
  ratingCount : Int
  quotaUnit : String
  priceUnit : String
  currencyCode : String
  version : Int
  createdAt : Time
  updatedAt : Time
  deriving DecidableEq

/-- A row of `supply_packages`. -/
structure PackageRow where
  id : Int
  supplyAccountID : Int
  userID : Int
  platform : String
  model : String
  totalQuota : ℚ
  availableQuota : ℚ
  soldQuota : ℚ
  reservedQuota : ℚ
  pricePer1MInput : ℚ
  pricePer1MOutput : ℚ
  minPurchase : ℚ
  startAt : Option Time
  endAt : Option Time
  validDays : Int
  status : PackageStatus
  maxConcurrent : Int
  rateLimitRPM : Int
  totalOrders : Int
  totalRevenue : ℚ
  rating : ℚ
  ratingCount : Int
  quotaUnit : String
  priceUnit : String
  currencyCode : String
  version : Int
  createdAt : Time
  updatedAt : Time
  deriving DecidableEq

/-- PRIMARY KEY (id). -/
def Apart (a b : PackageRow) : Prop := a.id ≠ b.id

instance : DecidableRel Apart := fun a b => inferInstanceAs (Decidable (a.id ≠ b.id))

instance : Std.Symm Apart := ⟨fun _ _ h => Ne.symm h⟩

abbrev PackageTable := Table PackageRow Apart

/-- The scan of `GetByID`: the supplier is read from `supply_account_id` and the account from
`user_id`, though it is by `user_id` that the query asks for the supplier. -/
def decodePackage (r : PackageRow) : Package :=
  { id := r.id, supplierID := r.supplyAccountID, accountID := r.userID, platform := r.platform,
    model := r.model, totalQuota := r.totalQuota, availableQuota := r.availableQuota,
    soldQuota := r.soldQuota, reservedQuota := r.reservedQuota, pricePer1MInput := r.pricePer1MInput,
    pricePer1MOutput := r.pricePer1MOutput, minPurchase := r.minPurchase,
    startAt := r.startAt.getD zeroTime, endAt := r.endAt.getD zeroTime, validDays := r.validDays,
    maxConcurrent := r.maxConcurrent, rateLimitRPM := r.rateLimitRPM, status := r.status,
    totalOrders := r.totalOrders, totalRevenue := r.totalRevenue, rating := r.rating,
    ratingCount := r.ratingCount, quotaUnit := r.quotaUnit, priceUnit := r.priceUnit,
    currencyCode := r.currencyCode, version := r.version, createdAt := r.createdAt,
    updatedAt := r.updatedAt }

/-- `PackageRepository.GetByID`, which `DBPackageStore.GetByID` hands on. -/
def getByID (t : PackageTable) (supplierID id : Int) : Except RepoError Package :=
  match t.rows.find? (fun r => r.id = id && r.userID = supplierID) with
  | some r => .ok (decodePackage r)
  | none => .error errNotFound

/-- The WHERE clause of `PackageRepository.Update`. -/
def updates (pkg : Package) (expectedVersion : Int) (r : PackageRow) : Bool :=
  r.id = pkg.id && r.userID = pkg.supplierID && r.version = expectedVersion

/-- What `PackageRepository.Update` sets: the quotas with the rest. -/
def updatedRow (pkg : Package) (expectedVersion : Int) (now : Time) (r : PackageRow) : PackageRow :=
  { r with platform := pkg.platform, model := pkg.model, totalQuota := pkg.totalQuota,
           availableQuota := pkg.availableQuota, soldQuota := pkg.soldQuota,
           reservedQuota := pkg.reservedQuota, pricePer1MInput := pkg.pricePer1MInput,
           pricePer1MOutput := pkg.pricePer1MOutput, startAt := some pkg.startAt,
           endAt := some pkg.endAt, validDays := pkg.validDays, status := pkg.status,
           maxConcurrent := pkg.maxConcurrent, rateLimitRPM := pkg.rateLimitRPM,
           totalOrders := pkg.totalOrders, totalRevenue := pkg.totalRevenue, rating := pkg.rating,
           ratingCount := pkg.ratingCount, version := expectedVersion + 1, updatedAt := now }

/-- `PackageRepository.Update`, with the package as it leaves it. -/
def update (t : PackageTable) (pkg : Package) (expectedVersion : Int) (now : Time) :
    PackageTable × Except RepoError Package :=
  (t.updateWhere (updates pkg expectedVersion) (updatedRow pkg expectedVersion now)
    (fun _ _ h => ⟨h, h, h⟩),
    if t.rows.any (updates pkg expectedVersion) then
      .ok { pkg with version := expectedVersion + 1, updatedAt := now }
    else .error errConcurrencyConflict)

/-- The WHERE clause of `UpdateQuota`. -/
def sellable (packageID supplierID : Int) (usedQuota : ℚ) (r : PackageRow) : Bool :=
  r.id = packageID && r.userID = supplierID && usedQuota ≤ r.availableQuota

def soldRow (usedQuota : ℚ) (now : Time) (r : PackageRow) : PackageRow :=
  { r with availableQuota := r.availableQuota - usedQuota, soldQuota := r.soldQuota + usedQuota,
           updatedAt := now }

/-- `PackageRepository.UpdateQuota`: arithmetic in place, with no word of the version. -/
def updateQuota (t : PackageTable) (packageID supplierID : Int) (usedQuota : ℚ) (now : Time) :
    PackageTable × Except RepoError Unit :=
  (t.updateWhere (sellable packageID supplierID usedQuota) (soldRow usedQuota now)
    (fun _ _ h => ⟨h, h, h⟩),
    if t.rows.any (sellable packageID supplierID usedQuota) then .ok ()
    else .error (.message "insufficient quota or package not found"))

/-- `DBPackageStore.Update`: the version expected of the row is the package's own. -/
def storeUpdate (t : PackageTable) (pkg : Package) (now : Time) :
    PackageTable × Except RepoError Package :=
  update t pkg pkg.version now

/-- What `Publish`, `Pause` and `Unlist` do with the package once they may change it. -/
def saveStatus (t : PackageTable) (pkg : Package) (status : PackageStatus) (now : Time) :
    PackageTable × Except RepoError Package :=
  storeUpdate t { pkg with status := status, updatedAt := now, version := pkg.version + 1 } now

/-- `Publish` and `Pause`. -/
def changeStatus (allowed : PackageStatus → Bool) (refusal : RepoError) (status : PackageStatus)
    (t : PackageTable) (now : Time) (supplierID packageID : Int) :
    PackageTable × Except RepoError Package :=
  match getByID t supplierID packageID with
  | .error e => (t, .error e)
  | .ok pkg => if allowed pkg.status then saveStatus t pkg status now else (t, .error refusal)

def canPublish : PackageStatus → Bool
  | .draft => true
  | .paused => true
  | _ => false

def publish := changeStatus canPublish
  (.message "SUP_PKG_4092: can only publish draft or paused packages") .active

def canPause : PackageStatus → Bool
  | .active => true
  | _ => false

def pause := changeStatus canPause (.message "SUP_PKG_4092: can only pause active packages") .paused

/-- `Unlist` asks for no status. -/
def unlist (t : PackageTable) (now : Time) (supplierID packageID : Int) :
    PackageTable × Except RepoError Package :=
  match getByID t supplierID packageID with
  | .error e => (t, .error e)
  | .ok pkg => saveStatus t pkg .expired now

structure BatchPriceItem where
  packageID : Int
  pricePer1MInput : ℚ
  pricePer1MOutput : ℚ
  deriving DecidableEq

/-- A failure of one item; its message is the text of `message`. -/
structure BatchPriceFailure where
  packageID : Int
  errorCode : String
  message : RepoError
  deriving DecidableEq

structure BatchUpdatePriceResponse where
  total : Nat
  successCount : Nat
  failedCount : Nat
  failures : List BatchPriceFailure
  deriving DecidableEq

def priceable : PackageStatus → Bool
  | .soldOut => false
  | .expired => false
  | _ => true

theorem priceable_iff {status : PackageStatus} :
    priceable status = true ↔ status ≠ .soldOut ∧ status ≠ .expired := by
  cases status <;> decide

/-- One round of the loop of `BatchUpdatePrice`: the table after it, and the failure if it is one. -/
def updatePrice (t : PackageTable) (now : Time) (supplierID : Int) (item : BatchPriceItem) :
    PackageTable × Option BatchPriceFailure :=
  if item.pricePer1MInput < 0 ∨ item.pricePer1MOutput < 0 then
    (t, some ⟨item.packageID, "SUP_PKG_4004", .message "price cannot be negative"⟩)
  else
    match getByID t supplierID item.packageID with
    | .error e => (t, some ⟨item.packageID, "NOT_FOUND", e⟩)
    | .ok pkg =>
      if priceable pkg.status then
        match storeUpdate t { pkg with pricePer1MInput := item.pricePer1MInput,
                                       pricePer1MOutput := item.pricePer1MOutput, updatedAt := now,
                                       version := pkg.version + 1 } now with
        | (t', .error e) => (t', some ⟨item.packageID, "UPDATE_FAILED", e⟩)
        | (t', .ok _) => (t', none)
      else
        (t, some ⟨item.packageID, "SUP_PKG_4093",
          .message "cannot update price for sold_out or expired packages"⟩)

def BatchUpdatePriceResponse.add (resp : BatchUpdatePriceResponse) :
    Option BatchPriceFailure → BatchUpdatePriceResponse
  | none => { resp with successCount := resp.successCount + 1 }
  | some failure => { resp with failedCount := resp.failedCount + 1,
                                failures := resp.failures ++ [failure] }

def batchUpdatePrice (t : PackageTable) (now : Time) (supplierID : Int) (items : List BatchPriceItem) :
    PackageTable × BatchUpdatePriceResponse :=
  items.foldl (fun acc item =>
      ((updatePrice acc.1 now supplierID item).1, acc.2.add (updatePrice acc.1 now supplierID item).2))
    (t, { total := items.length, successCount := 0, failedCount := 0, failures := [] })

theorem getByID_ok {t : PackageTable} {supplierID id : Int} {pkg : Package}
    (h : getByID t supplierID id = .ok pkg) :
    ∃ r ∈ t.rows, r.id = id ∧ r.userID = supplierID ∧ pkg = decodePackage r := by
  unfold getByID at h
  split at h
  next r hf =>
    obtain ⟨hr, hid, hown⟩ := of_find?_and hf
    exact ⟨r, hr, hid, hown, (Except.ok.inj h).symm⟩
  next => simp at h

theorem row_eq_of_id {t : PackageTable} {a b : PackageRow} (ha : a ∈ t.rows) (hb : b ∈ t.rows)
    (h : a.id = b.id) : a = b :=
  Table.eq_of_not_apart ha hb (fun hap => hap h)

theorem updates_iff {pkg : Package} {v : Int} {r : PackageRow} :
    updates pkg v r ↔ r.id = pkg.id ∧ r.userID = pkg.supplierID ∧ r.version = v := by
  simp [updates, and_assoc]

end SupplyPlatform.Packages
