import SupplyPlatform.PackageInsert
import SupplyPlatform.PackageQuota
import SupplyPlatform.SettlementLedger

namespace SupplyPlatform

open Relational

namespace Settlements

/-- The scan of the queries with FOR UPDATE: what they do not select stays Go's zero value. -/
def decodeLocked (r : SettlementRow) : Settlement :=
  { decodeSettlement r with
    paymentTransactionID := "", paidAt := none, periodStart := zeroTime, periodEnd := zeroTime,
    totalOrders := 0, totalUsageRecords := 0 }

def decodeListed (r : SettlementRow) : Settlement :=
  { decodeSettlement r with
    paymentAccount := "", paymentTransactionID := "", paidAt := none, totalUsageRecords := 0 }

/-- `GetForUpdate` and `GetForUpdateNoWait`; `lock` is what taking the lock of the row reports. -/
def getLocked (context : String) (t : SettlementTable) (lock : Except DbError Unit)
    (supplierID id : Int) : Except RepoError Settlement :=
  match t.rows.find? (fun r => r.id = id && r.userID = supplierID), lock with
  | none, _ => .error errNotFound
  | some _, .error e => .error (.wrap context e)
  | some r, .ok () => .ok (decodeLocked r)

def getForUpdate := getLocked "failed to get settlement for update"

def getForUpdateNoWait := getLocked "failed to get settlement for update (nowait)"

/-- `GetProcessing` with SKIP LOCKED and LIMIT 1; `visited` are the rows in the order of the scan. -/
def getProcessing (visited : List SettlementRow) (locked : Int → Bool) (supplierID : Int) :
    Option Settlement :=
  (visited.find? (fun r => r.userID = supplierID && r.status = .processing && !locked r.id)).map
    decodeLocked

/-- `List`, by ORDER BY created_at DESC. -/
def list (t : SettlementTable) (supplierID : Int) : List Settlement :=
  ((t.rows.filter (·.userID = supplierID)).mergeSort (fun a b => b.createdAt ≤ a.createdAt)).map
    decodeListed

/-- The ways to read a settlement that is to be updated. -/
inductive Reader
  | getByID
  | getForUpdate
  | getForUpdateNoWait
  | getProcessing
  | list

/-- The reader may answer with `s`, or with a list that `s` is in. -/
def Reader.Answers (t : SettlementTable) (supplierID : Int) (s : Settlement) : Reader → Prop
  | .getByID => ∃ id, Settlements.getByID t supplierID id = .ok s
  | .getForUpdate => ∃ lock id, Settlements.getForUpdate t lock supplierID id = .ok s
  | .getForUpdateNoWait => ∃ lock id, Settlements.getForUpdateNoWait t lock supplierID id = .ok s
  | .getProcessing => ∃ visited locked, visited.Perm t.rows ∧
      Settlements.getProcessing visited locked supplierID = some s
  | .list => s ∈ Settlements.list t supplierID

def Reader.decode : Reader → SettlementRow → Settlement
  | .getByID => decodeSettlement
  | .list => decodeListed
  | _ => decodeLocked

/-- What `Update` writes and the reader does not fetch is the zero value in the row as well. -/
def Reader.Covers (r : SettlementRow) : Reader → Prop
  | .getByID => True
  | .list => r.paymentAccount = "" ∧ r.totalUsageRecords = 0 ∧ r.paymentTransactionID = "" ∧
      r.paidAt = none
  | _ => r.totalOrders = 0 ∧ r.totalUsageRecords = 0 ∧ r.paymentTransactionID = "" ∧ r.paidAt = none

/-- The rows differ in status, version and time of update at most. -/
def SameButStatus (before after : SettlementRow) : Prop :=
  { before with status := after.status, version := after.version,
                updatedAt := after.updatedAt } = after

instance (before after : SettlementRow) : Decidable (SameButStatus before after) :=
  inferInstanceAs (Decidable (_ = _))

theorem SameButStatus.refl (r : SettlementRow) : SameButStatus r r := rfl

theorem getLocked_ok {context : String} {t : SettlementTable} {lock : Except DbError Unit}
    {supplierID id : Int} {s : Settlement} (h : getLocked context t lock supplierID id = .ok s) :
    ∃ r ∈ t.rows, r.userID = supplierID ∧ s = decodeLocked r := by
  unfold getLocked at h
  split at h
  next => simp at h
  next => simp at h
  next r hf => exact ⟨r, (of_find?_and hf).1, (of_find?_and hf).2.2, (Except.ok.inj h).symm⟩

theorem getProcessing_some {rows visited : List SettlementRow} (hv : visited.Perm rows)
    {locked : Int → Bool} {supplierID : Int} {s : Settlement}
    (h : getProcessing visited locked supplierID = some s) :
    ∃ r ∈ rows, r.userID = supplierID ∧ s = decodeLocked r := by
  obtain ⟨r, hf, rfl⟩ := Option.map_eq_some_iff.mp h
  have hp := List.find?_some hf
  simp only [Bool.and_eq_true, decide_eq_true_eq] at hp
  exact ⟨r, hv.mem_iff.mp (List.mem_of_find?_eq_some hf), hp.1.1, rfl⟩

/-- Whatever a reader answers is its scan of one of the supplier's rows. -/
theorem Reader.Answers.row {t : SettlementTable} {supplierID : Int} {s : Settlement}
    {reader : Reader} (h : reader.Answers t supplierID s) :
    ∃ r ∈ t.rows, r.userID = supplierID ∧ s = reader.decode r := by
  cases reader with
  | getByID =>
    obtain ⟨id, h⟩ := h
    obtain ⟨r, hr, _, hu, rfl⟩ := getByID_ok h
    exact ⟨r, hr, hu, rfl⟩
  | getForUpdate =>
    obtain ⟨lock, id, h⟩ := h
    exact getLocked_ok h
  | getForUpdateNoWait =>
    obtain ⟨lock, id, h⟩ := h
    exact getLocked_ok h
  | getProcessing =>
    obtain ⟨visited, locked, hv, h⟩ := h
    exact getProcessing_some hv h
  | list =>
    obtain ⟨r, hr, rfl⟩ := List.mem_map.mp h
    obtain ⟨hr, hu⟩ := List.mem_filter.mp (List.mem_mergeSort.mp hr)
    exact ⟨r, hr, by simpa using hu, rfl⟩

theorem Reader.updates_decode (reader : Reader) (r q : SettlementRow) (status : SettlementStatus) :
    updates { reader.decode r with status := status } (reader.decode r).version q ↔
      q.id = r.id ∧ q.userID = r.userID ∧ q.version = r.version := by
  simp only [updates, Bool.and_eq_true, decide_eq_true_eq, and_assoc]
  cases reader <;> rfl

/-- The row that `Update` writes back is the old one exactly where the reader has fetched it. -/
theorem Reader.sameButStatus_iff (reader : Reader) (r : SettlementRow) (status : SettlementStatus)
    (now : Time) :
    SameButStatus r (updatedRow { reader.decode r with status := status } (reader.decode r).version
      now r) ↔ reader.Covers r := by
  cases reader <;>
    simp [SameButStatus, updatedRow, decode, decodeLocked, decodeListed, decodeSettlement, Covers]

/-- The value read, with another status, is written back under the version as read. -/
def writeBack (t : SettlementTable) (s : Settlement) (status : SettlementStatus) (now : Time) :
    SettlementTable :=
  (update t { s with status := status } s.version now).1

theorem writeBack_rows (t : SettlementTable) (s : Settlement) (status : SettlementStatus) (now : Time) :
    (writeBack t s status now).rows =
      t.rows.map (fun r => if updates { s with status := status } s.version r then
        updatedRow { s with status := status } s.version now r else r) := rfl

theorem writeBack_iff {t : SettlementTable} {supplierID : Int} {s : Settlement} {reader : Reader}
    (h : reader.Answers t supplierID s) (status : SettlementStatus) (now : Time) :
    List.Forall₂ SameButStatus t.rows (writeBack t s status now).rows ↔
      ∀ r ∈ t.rows, r.id = s.id → reader.Covers r := by
  obtain ⟨r, hr, _, rfl⟩ := h.row
  have hid : (reader.decode r).id = r.id := by cases reader <;> rfl
  have hone : ∀ q ∈ t.rows, q.id = r.id → q = r := fun q hq => row_eq_of_id hq hr
  have hrow := forall₂_updated_iff SameButStatus.refl
    (f := updatedRow { reader.decode r with status := status } (reader.decode r).version now) hr
    ((reader.updates_decode r r status).mpr ⟨rfl, rfl, rfl⟩)
    (fun q hq hu => hone q hq ((reader.updates_decode r q status).mp hu).1)
  rw [writeBack_rows]
  refine (hrow.trans (reader.sameButStatus_iff r status now)).trans ?_
  constructor
  · intro hc q hq hqid
    rw [hone q hq (hqid.trans hid)]
    exact hc
  · intro hc
    exact hc r hr hid.symm

end Settlements

namespace Packages

open Settlements (errNotFound errConcurrencyConflict zeroTime)
open Float64

/-- A row as its NUMERIC columns come to a scan into float64. -/
def PackageRow.scanned (r : PackageRow) : PackageRow :=
  { r with totalQuota := float64 r.totalQuota, availableQuota := float64 r.availableQuota,
           soldQuota := float64 r.soldQuota, reservedQuota := float64 r.reservedQuota,
           pricePer1MInput := float64 r.pricePer1MInput, pricePer1MOutput := float64 r.pricePer1MOutput,
           minPurchase := float64 r.minPurchase, totalRevenue := float64 r.totalRevenue,
           rating := float64 r.rating }

/-- The table that the queries scan. -/
def scanned (t : PackageTable) : PackageTable := t.update PackageRow.scanned (fun _ _ h => h)

/-- A package with the numbers that its columns hold once `Update` has sent them. -/
def Package.sent (pkg : Package) : Except DbError Package := do
  let totalQuota ← asColumn 20 6 pkg.totalQuota
  let availableQuota ← asColumn 20 6 pkg.availableQuota
  let soldQuota ← asColumn 20 6 pkg.soldQuota
  let reservedQuota ← asColumn 20 6 pkg.reservedQuota
  let pricePer1MInput ← asColumn 20 6 pkg.pricePer1MInput
  let pricePer1MOutput ← asColumn 20 6 pkg.pricePer1MOutput
  let totalRevenue ← asColumn 20 6 pkg.totalRevenue
  let rating ← asColumn 10 4 pkg.rating
  return { pkg with totalQuota := totalQuota, availableQuota := availableQuota, soldQuota := soldQuota,
                    reservedQuota := reservedQuota, pricePer1MInput := pricePer1MInput,
                    pricePer1MOutput := pricePer1MOutput, totalRevenue := totalRevenue, rating := rating }

/-- `PackageRepository.Update` of float64s: a number that a column cannot hold fails the UPDATE of a row. -/
def updateFloat (t : PackageTable) (pkg : Package) (expectedVersion : Int) (now : Time) :
    PackageTable × Except RepoError Package :=
  match pkg.sent with
  | .ok sent => ((update t sent expectedVersion now).1, (update t pkg expectedVersion now).2)
  | .error e =>
    (t, if t.rows.any (updates pkg expectedVersion) then .error (.wrap "failed to update package" e)
      else .error errConcurrencyConflict)

/-- The scan of `GetForUpdate`. -/
def decodeLocked (r : PackageRow) : Package :=
  { decodePackage r with
    minPurchase := 0, startAt := zeroTime, endAt := zeroTime, validDays := 0, maxConcurrent := 0,
    rateLimitRPM := 0, totalOrders := 0, totalRevenue := 0, rating := 0, ratingCount := 0,
    quotaUnit := "", priceUnit := "", currencyCode := "" }

/-- `GetForUpdate`; `lock` is what taking the lock of the row reports. -/
def getForUpdate (t : PackageTable) (lock : Except DbError Unit) (supplierID id : Int) :
    Except RepoError Package :=
  match t.rows.find? (fun r => r.id = id && r.userID = supplierID), lock with
  | none, _ => .error errNotFound
  | some _, .error e => .error (.wrap "failed to get package for update" e)
  | some r, .ok () => .ok (decodeLocked r)

/-- The ways to read a package that is to be updated. -/
inductive Reader
  | getByID
  | getForUpdate
  | list

/-- The reader scans its answer, or a list that it is in, into float64. -/
def Reader.Answers (t : PackageTable) (supplierID : Int) (pkg : Package) : Reader → Prop
  | .getByID => ∃ id, Packages.getByID (scanned t) supplierID id = .ok pkg
  | .getForUpdate => ∃ lock id, Packages.getForUpdate (scanned t) lock supplierID id = .ok pkg
  | .list => pkg ∈ Packages.list (scanned t) supplierID

def Reader.decode : Reader → PackageRow → Package
  | .getByID => decodePackage
  | .getForUpdate => decodeLocked
  | .list => decodeListed

/-- What every reader fetches of the quotas and prices is kept by the way through float64. -/
structure PackageRow.Kept (r : PackageRow) : Prop where
  totalQuota : Survives 20 6 r.totalQuota
  availableQuota : Survives 20 6 r.availableQuota
  soldQuota : Survives 20 6 r.soldQuota
  pricePer1MInput : Survives 20 6 r.pricePer1MInput
  pricePer1MOutput : Survives 20 6 r.pricePer1MOutput

/-- What `Update` writes and the reader does not fetch is in the row what Go's zero value becomes
there, and what it fetches survives; no reader can hand on a NULL in `start_at` or `end_at`. -/
def Reader.Covers (r : PackageRow) : Reader → Prop
  | .getByID => r.Kept ∧ Survives 20 6 r.reservedQuota ∧ Survives 20 6 r.totalRevenue ∧
      Survives 10 4 r.rating ∧ r.startAt ≠ none ∧ r.endAt ≠ none
  | .getForUpdate => r.Kept ∧ Survives 20 6 r.reservedQuota ∧ r.startAt = some zeroTime ∧
      r.endAt = some zeroTime ∧ r.validDays = 0 ∧ r.maxConcurrent = 0 ∧ r.rateLimitRPM = 0 ∧
      r.totalOrders = 0 ∧ r.totalRevenue = 0 ∧ r.rating = 0 ∧ r.ratingCount = 0
  | .list => r.Kept ∧ Survives 20 6 r.totalRevenue ∧ r.reservedQuota = 0 ∧
      r.startAt = some zeroTime ∧ r.endAt = some zeroTime ∧ r.rating = 0 ∧ r.ratingCount = 0

/-- The quotas and prices of a row are millionths below `2 ^ 33`; every rating is one of NUMERIC(10, 4). -/
structure PackageRow.Ordinary (r : PackageRow) : Prop where
  amounts : ∀ x ∈ [r.totalQuota, r.availableQuota, r.soldQuota, r.reservedQuota, r.pricePer1MInput,
    r.pricePer1MOutput, r.totalRevenue], ∃ millionths : Int, |millionths| < 2 ^ 33 * 10 ^ 6 ∧
      x = ofUnits 6 millionths
  rating : ∃ units : Int, units.natAbs < 10 ^ 10 ∧ r.rating = ofUnits 4 units

/-- What `GetByID` reads of such a row has nothing to lose on its way back. -/
theorem covers_getByID {r : PackageRow} (h : r.Ordinary) (hstart : r.startAt ≠ none) (hend : r.endAt ≠ none) :
    Reader.getByID.Covers r := by
  have hamount : ∀ x, (∃ millionths : Int, |millionths| < 2 ^ 33 * 10 ^ 6 ∧ x = ofUnits 6 millionths) →
      Survives 20 6 x := by
    rintro x ⟨millionths, hlt, rfl⟩
    have hbound : millionths.natAbs < 10 ^ 20 := by
      rw [Int.abs_eq_natAbs] at hlt
      omega
    exact survives_of_lt (k := 33) (by norm_num) hlt hbound
  have hrating : Survives 10 4 r.rating := by
    obtain ⟨units, hlt, hr⟩ := h.rating
    have hbound : |units| < 2 ^ 39 * 10 ^ 4 := by
      rw [Int.abs_eq_natAbs]
      omega
    rw [hr]
    exact survives_of_lt (k := 39) (by norm_num) hbound hlt
  have hall := fun x hx => hamount x (h.amounts x hx)
  simp only [List.forall_mem_cons] at hall
  obtain ⟨htotal, havailable, hsold, hreserved, hinput, houtput, hrevenue, -⟩ := hall
  exact ⟨⟨htotal, havailable, hsold, hinput, houtput⟩, hreserved, hrevenue, hrating, hstart, hend⟩

/-- At `2 ^ 33` float64 has no number for every millionth. -/
example : asColumn 20 6 (float64 (8589934592000001 / 10 ^ 6)) = .ok (8589934592000002 / 10 ^ 6) := by
  decide +kernel

def SameButStatus (before after : PackageRow) : Prop :=
  { before with status := after.status, version := after.version,
                updatedAt := after.updatedAt } = after

theorem SameButStatus.refl (r : PackageRow) : SameButStatus r r := rfl

theorem Reader.Answers.row {t : PackageTable} {supplierID : Int} {pkg : Package} {reader : Reader}
    (h : reader.Answers t supplierID pkg) :
    ∃ r ∈ t.rows, r.userID = supplierID ∧ pkg = reader.decode r.scanned := by
  have hscanned : ∃ q ∈ (scanned t).rows, q.userID = supplierID ∧ pkg = reader.decode q := by
    cases reader with
    | getByID =>
      obtain ⟨id, h⟩ := h
      obtain ⟨q, hq, _, hu, rfl⟩ := getByID_ok h
      exact ⟨q, hq, hu, rfl⟩
    | getForUpdate =>
      obtain ⟨lock, id, h⟩ := h
      unfold Packages.getForUpdate at h
      split at h
      next => simp at h
      next => simp at h
      next q hf => exact ⟨q, (of_find?_and hf).1, (of_find?_and hf).2.2, (Except.ok.inj h).symm⟩
    | list =>
      obtain ⟨q, hq, rfl⟩ := List.mem_map.mp h
      obtain ⟨hq, hu⟩ := List.mem_filter.mp (List.mem_mergeSort.mp hq)
      exact ⟨q, hq, by simpa using hu, rfl⟩
  obtain ⟨q, hq, hu, rfl⟩ := hscanned
  obtain ⟨r, hr, rfl⟩ := List.mem_map.mp hq
  exact ⟨r, hr, hu, rfl⟩

theorem bind_ok {ε α β : Type} {x : Except ε α} {f : α → Except ε β} {b : β} :
    x.bind f = .ok b ↔ ∃ a, x = .ok a ∧ f a = .ok b := by
  cases x <;> simp [Except.bind]

/-- What is sent differs from the package in the numbers of the columns. -/
theorem sent_ok {pkg sent : Package} (h : pkg.sent = .ok sent) :
    asColumn 20 6 pkg.totalQuota = .ok sent.totalQuota ∧
    asColumn 20 6 pkg.availableQuota = .ok sent.availableQuota ∧
    asColumn 20 6 pkg.soldQuota = .ok sent.soldQuota ∧
    asColumn 20 6 pkg.reservedQuota = .ok sent.reservedQuota ∧
    asColumn 20 6 pkg.pricePer1MInput = .ok sent.pricePer1MInput ∧
    asColumn 20 6 pkg.pricePer1MOutput = .ok sent.pricePer1MOutput ∧
    asColumn 20 6 pkg.totalRevenue = .ok sent.totalRevenue ∧
    asColumn 10 4 pkg.rating = .ok sent.rating ∧
    { pkg with totalQuota := sent.totalQuota, availableQuota := sent.availableQuota,
               soldQuota := sent.soldQuota, reservedQuota := sent.reservedQuota,
               pricePer1MInput := sent.pricePer1MInput, pricePer1MOutput := sent.pricePer1MOutput,
               totalRevenue := sent.totalRevenue, rating := sent.rating } = sent := by
  obtain ⟨totalQuota, htotal, h⟩ := bind_ok.mp h
  obtain ⟨availableQuota, havailable, h⟩ := bind_ok.mp h
  obtain ⟨soldQuota, hsold, h⟩ := bind_ok.mp h
  obtain ⟨reservedQuota, hreserved, h⟩ := bind_ok.mp h
  obtain ⟨pricePer1MInput, hinput, h⟩ := bind_ok.mp h
  obtain ⟨pricePer1MOutput, houtput, h⟩ := bind_ok.mp h
  obtain ⟨totalRevenue, hrevenue, h⟩ := bind_ok.mp h
  obtain ⟨rating, hrating, h⟩ := bind_ok.mp h
  obtain rfl := Except.ok.inj h
  exact ⟨htotal, havailable, hsold, hreserved, hinput, houtput, hrevenue, hrating, rfl⟩

theorem asColumn_zero : asColumn 20 6 0 = .ok 0 ∧ asColumn 10 4 0 = .ok 0 := by
  decide +kernel

/-- A column that has been scanned and sent survives exactly where it holds what it held. -/
theorem survives_iff {precision scale : Nat} {x y : ℚ} (h : asColumn precision scale (float64 x) = .ok y) :
    Survives precision scale x ↔ x = y := by
  rw [Survives, h, Except.ok.injEq]
  exact eq_comm

theorem eq_some_getD_iff {o : Option Time} {x : Time} : o = some (o.getD x) ↔ o ≠ none := by
  cases o <;> simp

theorem Reader.sameButStatus_iff (reader : Reader) (r : PackageRow) {status : PackageStatus}
    {sent : Package} (h : { reader.decode r.scanned with status := status }.sent = .ok sent) (v : Int)
    (now : Time) : SameButStatus r (updatedRow sent v now r) ↔ reader.Covers r := by
  obtain ⟨htotal, havailable, hsold, hreserved, hinput, houtput, hrevenue, hrating, hsent⟩ := sent_ok h
  obtain ⟨hzero, hzero'⟩ := asColumn_zero
  have hfetched : asColumn 20 6 (float64 r.totalQuota) = .ok sent.totalQuota ∧
      asColumn 20 6 (float64 r.availableQuota) = .ok sent.availableQuota ∧
      asColumn 20 6 (float64 r.soldQuota) = .ok sent.soldQuota ∧
      asColumn 20 6 (float64 r.pricePer1MInput) = .ok sent.pricePer1MInput ∧
      asColumn 20 6 (float64 r.pricePer1MOutput) = .ok sent.pricePer1MOutput := by
    cases reader <;> exact ⟨htotal, havailable, hsold, hinput, houtput⟩
  obtain ⟨htotal, havailable, hsold, hinput, houtput⟩ := hfetched
  have hkept : r.Kept ↔ r.totalQuota = sent.totalQuota ∧ r.availableQuota = sent.availableQuota ∧
      r.soldQuota = sent.soldQuota ∧ r.pricePer1MInput = sent.pricePer1MInput ∧
      r.pricePer1MOutput = sent.pricePer1MOutput := by
    rw [← survives_iff htotal, ← survives_iff havailable, ← survives_iff hsold, ← survives_iff hinput,
      ← survives_iff houtput]
    exact ⟨fun h => ⟨h.1, h.2, h.3, h.4, h.5⟩, fun ⟨h1, h2, h3, h4, h5⟩ => ⟨h1, h2, h3, h4, h5⟩⟩
  cases reader with
  | getByID =>
    rw [Covers, hkept, survives_iff hreserved, survives_iff hrevenue, survives_iff hrating, ← hsent]
    simp only [SameButStatus, updatedRow, decode, decodePackage, PackageRow.scanned, PackageRow.mk.injEq,
      eq_some_getD_iff, ne_eq, and_self, and_true, true_and]
    tauto
  | getForUpdate =>
    have hrevenue : sent.totalRevenue = 0 := Except.ok.inj (hrevenue.symm.trans hzero)
    have hrating : sent.rating = 0 := Except.ok.inj (hrating.symm.trans hzero')
    rw [Covers, hkept, survives_iff hreserved, ← hsent]
    simp only [SameButStatus, updatedRow, decode, decodeLocked, decodePackage, PackageRow.scanned, hrevenue,
      hrating, PackageRow.mk.injEq, and_self, and_true, true_and]
    tauto
  | list =>
    have hreserved : sent.reservedQuota = 0 := Except.ok.inj (hreserved.symm.trans hzero)
    have hrating : sent.rating = 0 := Except.ok.inj (hrating.symm.trans hzero')
    rw [Covers, hkept, survives_iff hrevenue, ← hsent]
    simp only [SameButStatus, updatedRow, decode, decodeListed, PackageRow.scanned, hreserved, hrating,
      PackageRow.mk.injEq, and_self, and_true, true_and]
    tauto

def writeBack (t : PackageTable) (pkg : Package) (status : PackageStatus) (now : Time) : PackageTable :=
  (updateFloat t { pkg with status := status } pkg.version now).1

theorem writeBack_rows {t : PackageTable} {pkg sent : Package} {status : PackageStatus}
    (h : { pkg with status := status }.sent = .ok sent) (now : Time) :
    (writeBack t pkg status now).rows =
      t.rows.map (fun r => if updates sent pkg.version r then updatedRow sent pkg.version now r else r) := by
  unfold writeBack updateFloat
  simp only [h]
  rfl

theorem writeBack_refused {t : PackageTable} {pkg : Package} {status : PackageStatus} {e : DbError}
    (h : { pkg with status := status }.sent = .error e) (now : Time) : writeBack t pkg status now = t := by
  unfold writeBack updateFloat
  simp only [h]

theorem Reader.updates_sent (reader : Reader) (r q : PackageRow) {status : PackageStatus} {sent : Package}
    (h : { reader.decode r.scanned with status := status }.sent = .ok sent) :
    updates sent (reader.decode r.scanned).version q ↔
      q.id = r.id ∧ q.userID = r.supplyAccountID ∧ q.version = r.version := by
  obtain ⟨_, _, _, _, _, _, _, _, hsent⟩ := sent_ok h
  rw [updates_iff, ← hsent]
  cases reader <;> rfl

/-- A row whose account is not its supplier is not even found by `Update`, and one with a number that is
no longer taken fails it. -/
theorem writeBack_iff {t : PackageTable} {supplierID : Int} {pkg : Package} {reader : Reader}
    (h : reader.Answers t supplierID pkg) (status : PackageStatus) (now : Time) :
    List.Forall₂ SameButStatus t.rows (writeBack t pkg status now).rows ↔
      ((∃ sent, { pkg with status := status }.sent = .ok sent) →
        ∀ r ∈ t.rows, r.id = pkg.id → r.supplyAccountID = r.userID → reader.Covers r) := by
  obtain ⟨r, hr, _, rfl⟩ := h.row
  have hid : (reader.decode r.scanned).id = r.id := by cases reader <;> rfl
  have hone : ∀ q ∈ t.rows, q.id = r.id → q = r := fun q hq => row_eq_of_id hq hr
  cases hsent : { reader.decode r.scanned with status := status }.sent with
  | error e =>
    rw [writeBack_refused hsent]
    refine iff_of_true (List.forall₂_same.mpr (fun q _ => SameButStatus.refl q)) (fun hsends => ?_)
    obtain ⟨sent, h⟩ := hsends
    cases h
  | ok sent =>
    rw [writeBack_rows hsent, forall_prop_of_true ⟨sent, rfl⟩]
    by_cases hown : r.supplyAccountID = r.userID
    · have hrow := forall₂_updated_iff SameButStatus.refl
        (f := updatedRow sent (reader.decode r.scanned).version now) hr
        ((reader.updates_sent r r hsent).mpr ⟨rfl, hown.symm, rfl⟩)
        (fun q hq hu => hone q hq ((reader.updates_sent r q hsent).mp hu).1)
      refine (hrow.trans (reader.sameButStatus_iff r hsent _ now)).trans ?_
      constructor
      · intro hc q hq hqid _
        rw [hone q hq (hqid.trans hid)]
        exact hc
      · intro hc
        exact hc r hr hid.symm hown
    · constructor
      · intro _ q hq hqid hqown
        rw [hone q hq (hqid.trans hid)] at hqown
        exact absurd hqown hown
      · intro _
        rw [List.forall₂_map_right_iff, List.forall₂_same]
        intro q hq
        rw [if_neg]
        · rfl
        · intro hu
          obtain ⟨hqid, hqu, _⟩ := (reader.updates_sent r q hsent).mp hu
          rw [hone q hq hqid] at hqu
          exact hown hqu.symm

end Packages

/-- Written back with another status, a row keeps the rest exactly where the reader covers it. -/
theorem status_write_back_iff (settlements : Settlements.SettlementTable)
    (packages : Packages.PackageTable) (now : Time) :
    (∀ reader supplierID settlement status,
      Settlements.Reader.Answers settlements supplierID settlement reader →
        (List.Forall₂ Settlements.SameButStatus settlements.rows
            (Settlements.writeBack settlements settlement status now).rows ↔
          ∀ r ∈ settlements.rows, r.id = settlement.id → Settlements.Reader.Covers r reader)) ∧
    ∀ reader supplierID pkg status, Packages.Reader.Answers packages supplierID pkg reader →
      (List.Forall₂ Packages.SameButStatus packages.rows
          (Packages.writeBack packages pkg status now).rows ↔
        ((∃ sent, { pkg with status := status }.sent = .ok sent) →
          ∀ r ∈ packages.rows, r.id = pkg.id → r.supplyAccountID = r.userID →
            Packages.Reader.Covers r reader)) :=
  ⟨fun _ _ _ status h => Settlements.writeBack_iff h status now,
    fun _ _ _ status h => Packages.writeBack_iff h status now⟩

namespace Settlements

def paidRow : SettlementRow :=
  { id := 1, settlementNo := "20240101000000", userID := 7, totalAmount := 100000000,
    feeAmount := 1000000, netAmount := 99000000, status := .processing, paymentMethod := .bank,
    paymentAccount := "6222", periodStart := 0, periodEnd := 0, totalOrders := 3,
    totalUsageRecords := 40, paymentTransactionID := "TXN-1", paidAt := some 5, currencyCode := "USD",
    amountUnit := "minor", version := 2, requestID := "", idempotencyKey := "", auditTraceID := "",
    createdAt := 0, updatedAt := 5 }

def paidTable : SettlementTable := ⟨[paidRow], List.pairwise_singleton _ _⟩

/-- Completed after `GetForUpdate`, the settlement has lost its transaction, its time of payment and
its counts. -/
theorem write_back_loses_payment :
    Reader.Answers paidTable 7 (decodeLocked paidRow) .getForUpdate ∧
      ¬List.Forall₂ SameButStatus paidTable.rows
        (writeBack paidTable (decodeLocked paidRow) .completed 9).rows := by
  refine ⟨⟨.ok (), 1, rfl⟩, ?_⟩
  rw [writeBack_rows]
  intro h
  have hrow := (List.forall₂_cons.mp h).1
  exact absurd hrow (by decide)

end Settlements

end SupplyPlatform
