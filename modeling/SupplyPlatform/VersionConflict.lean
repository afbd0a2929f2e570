import SupplyPlatform.Account
import SupplyPlatform.Package

namespace SupplyPlatform

open Relational
open Settlements (AccountStatus errConcurrencyConflict)

namespace Accounts

/-- The operation succeeds and leaves the row one version further. -/
def Lands (outcome : AccountTable × Except RepoError Account) (r : AccountRow) : Prop :=
  (∃ account, outcome.2 = .ok account) ∧
    ∃ q ∈ outcome.1.rows, q.id = r.id ∧ q.version = r.version + 1

theorem decodeAccount_ok {scanAddr : Option String → Except DbError String} {r : AccountRow}
    {account : Account} (h : decodeAccount scanAddr r = .ok account) :
    account.id = r.id ∧ account.version = r.version := by
  unfold decodeAccount at h
  split at h
  next => cases Except.ok.inj h; exact ⟨rfl, rfl⟩
  all_goals simp at h

theorem getByID_ok {scanAddr : Option String → Except DbError String} {t : AccountTable}
    {supplierID id : Int} {account : Account} (h : getByID scanAddr t supplierID id = .ok account) :
    ∃ r ∈ t.rows, account.id = r.id ∧ account.version = r.version := by
  unfold getByID at h
  split at h
  next => simp at h
  next r hf =>
    split at h
    next => simp at h
    next decoded hd =>
      cases Except.ok.inj h
      exact ⟨r, List.mem_of_find?_eq_some hf, decodeAccount_ok hd⟩

theorem update_conflict {t : AccountTable} {account : Account} {v : Int} {now : Time}
    (h : ∀ r ∈ t.rows, updates account v r = false) :
    update t account v now = (t, .error errConcurrencyConflict) := by
  have hany : t.rows.any (updates account v) = false := by simpa using h
  unfold update
  rw [Table.updateWhere_of_none h, hany]
  rfl

/-- The service has counted the version up; the store then asks for a row that already has it. -/
theorem storeUpdate_counted {scanAddr : Option String → Except DbError String} {t : AccountTable}
    {supplierID id : Int} {account edited : Account} {now : Time}
    (hget : getByID scanAddr t supplierID id = .ok account) (hid : edited.id = account.id)
    (hv : edited.version = account.version + 1) :
    storeUpdate t edited now = (t, .error errConcurrencyConflict) := by
  obtain ⟨r, hr, hrid, hrv⟩ := getByID_ok hget
  refine update_conflict (fun q hq => ?_)
  by_contra hu
  have hu : updates edited edited.version q = true := by simpa using hu
  simp only [updates, Bool.and_eq_true, decide_eq_true_eq] at hu
  have hqr : q = r := Table.eq_of_not_apart hq hr (fun hap => hap (hu.1.1.trans (hid.trans hrid)))
  have hver := hu.2
  rw [hqr, hv, hrv] at hver
  omega

theorem changeStatus_conflict {allowed : AccountStatus → Bool} (refusal : RepoError)
    (status : AccountStatus) {scanAddr : Option String → Except DbError String} {t : AccountTable}
    (now : Time) {supplierID id : Int} {account : Account}
    (hget : getByID scanAddr t supplierID id = .ok account) (ha : allowed account.status) :
    changeStatus allowed refusal status scanAddr t now supplierID id =
      (t, .error errConcurrencyConflict) := by
  simp only [changeStatus, hget, ha, if_true]
  exact storeUpdate_counted hget rfl rfl

/-- Whatever the account, the table stays as it is and the caller gets an error. -/
theorem changeStatus_error (allowed : AccountStatus → Bool) (refusal : RepoError)
    (status : AccountStatus) (scanAddr : Option String → Except DbError String) (t : AccountTable)
    (now : Time) (supplierID id : Int) :
    ∃ e, changeStatus allowed refusal status scanAddr t now supplierID id = (t, .error e) := by
  cases hget : getByID scanAddr t supplierID id with
  | error e => exact ⟨e, by simp only [changeStatus, hget]⟩
  | ok account =>
    by_cases ha : allowed account.status
    · exact ⟨_, changeStatus_conflict refusal status now hget ha⟩
    · exact ⟨refusal, by simp [changeStatus, hget, ha]⟩

theorem not_lands {t : AccountTable} {e : RepoError} (r : AccountRow) : ¬Lands (t, .error e) r := by
  rintro ⟨⟨account, hok⟩, _⟩
  cases hok

end Accounts

namespace Packages

/-- The operation succeeds and leaves the row one version further. -/
def Lands (outcome : PackageTable × Except RepoError Package) (r : PackageRow) : Prop :=
  (∃ pkg, outcome.2 = .ok pkg) ∧ ∃ q ∈ outcome.1.rows, q.id = r.id ∧ q.version = r.version + 1

/-- An item that `BatchUpdatePrice` has nothing against. -/
structure ValidItem (t : PackageTable) (supplierID : Int) (item : BatchPriceItem) : Prop where
  input : 0 ≤ item.pricePer1MInput
  output : 0 ≤ item.pricePer1MOutput
  package : ∃ pkg, getByID t supplierID item.packageID = .ok pkg ∧ priceable pkg.status

theorem update_conflict {t : PackageTable} {pkg : Package} {v : Int} {now : Time}
    (h : ∀ r ∈ t.rows, updates pkg v r = false) :
    update t pkg v now = (t, .error errConcurrencyConflict) := by
  have hany : t.rows.any (updates pkg v) = false := by simpa using h
  unfold update
  rw [Table.updateWhere_of_none h, hany]
  rfl

/-- The service has counted the version up; the store then asks for a row that already has it. -/
theorem storeUpdate_counted {t : PackageTable} {supplierID id : Int} {pkg : Package} (edited : Package)
    (now : Time) (hget : getByID t supplierID id = .ok pkg) (hid : edited.id = pkg.id)
    (hv : edited.version = pkg.version + 1) :
    storeUpdate t edited now = (t, .error errConcurrencyConflict) := by
  obtain ⟨r, hr, _, _, rfl⟩ := getByID_ok hget
  refine update_conflict (fun q hq => ?_)
  by_contra hu
  obtain ⟨hqid, _, hqv⟩ := updates_iff.mp (by simpa using hu)
  have hqr : q = r := row_eq_of_id hq hr (hqid.trans hid)
  have hsame : (decodePackage r).version = r.version := rfl
  rw [hqr, hv, hsame] at hqv
  omega

theorem saveStatus_conflict {t : PackageTable} {supplierID id : Int} {pkg : Package}
    (hget : getByID t supplierID id = .ok pkg) (status : PackageStatus) (now : Time) :
    saveStatus t pkg status now = (t, .error errConcurrencyConflict) :=
  storeUpdate_counted _ now hget rfl rfl

theorem changeStatus_error (allowed : PackageStatus → Bool) (refusal : RepoError)
    (status : PackageStatus) (t : PackageTable) (now : Time) (supplierID id : Int) :
    ∃ e, changeStatus allowed refusal status t now supplierID id = (t, .error e) := by
  cases hget : getByID t supplierID id with
  | error e => exact ⟨e, by simp only [changeStatus, hget]⟩
  | ok pkg =>
    by_cases ha : allowed pkg.status
    · refine ⟨errConcurrencyConflict, ?_⟩
      simp only [changeStatus, hget, ha, if_true, saveStatus_conflict hget]
    · exact ⟨refusal, by simp [changeStatus, hget, ha]⟩

theorem unlist_error (t : PackageTable) (now : Time) (supplierID id : Int) :
    ∃ e, unlist t now supplierID id = (t, .error e) := by
  cases hget : getByID t supplierID id with
  | error e => exact ⟨e, by simp only [unlist, hget]⟩
  | ok pkg => exact ⟨errConcurrencyConflict, by simp only [unlist, hget, saveStatus_conflict hget]⟩

theorem not_lands {t : PackageTable} {e : RepoError} (r : PackageRow) : ¬Lands (t, .error e) r := by
  rintro ⟨⟨pkg, hok⟩, _⟩
  cases hok

theorem updatePrice_valid {t : PackageTable} {supplierID : Int} {item : BatchPriceItem}
    (h : ValidItem t supplierID item) (now : Time) :
    updatePrice t now supplierID item =
      (t, some ⟨item.packageID, "UPDATE_FAILED", errConcurrencyConflict⟩) := by
  obtain ⟨pkg, hget, hst⟩ := h.package
  have hpos : ¬(item.pricePer1MInput < 0 ∨ item.pricePer1MOutput < 0) := by
    simp [h.input, h.output]
  have hstore := storeUpdate_counted { pkg with pricePer1MInput := item.pricePer1MInput,
                                                pricePer1MOutput := item.pricePer1MOutput,
                                                updatedAt := now,
                                                version := pkg.version + 1 } now hget rfl rfl
  simp only [updatePrice, hpos, if_false, hget, hst, if_true, hstore]

/-- No item of a batch succeeds or changes anything. -/
theorem updatePrice_failure (t : PackageTable) (now : Time) (supplierID : Int) (item : BatchPriceItem) :
    ∃ failure, updatePrice t now supplierID item = (t, some failure) := by
  by_cases hneg : item.pricePer1MInput < 0 ∨ item.pricePer1MOutput < 0
  · exact ⟨_, by simp only [updatePrice, hneg, if_true]; rfl⟩
  · cases hget : getByID t supplierID item.packageID with
    | error e => exact ⟨_, by simp only [updatePrice, hneg, if_false, hget]; rfl⟩
    | ok pkg =>
      by_cases hst : priceable pkg.status
      · have hvalid : ValidItem t supplierID item :=
          ⟨not_lt.mp (fun h => hneg (.inl h)), not_lt.mp (fun h => hneg (.inr h)), pkg, hget, hst⟩
        exact ⟨_, updatePrice_valid hvalid now⟩
      · exact ⟨_, by simp only [updatePrice, hneg, if_false, hget, hst]; rfl⟩

/-- The loop of `BatchUpdatePrice` with the response built so far. -/
theorem foldl_updatePrice (t : PackageTable) (now : Time) (supplierID : Int)
    (items : List BatchPriceItem) (resp : BatchUpdatePriceResponse) :
    ∃ failures, items.foldl (fun acc item => ((updatePrice acc.1 now supplierID item).1,
        acc.2.add (updatePrice acc.1 now supplierID item).2)) (t, resp) =
      (t, { resp with failedCount := resp.failedCount + items.length,
                      failures := resp.failures ++ failures }) ∧
      ∀ item ∈ items, ValidItem t supplierID item →
        ⟨item.packageID, "UPDATE_FAILED", errConcurrencyConflict⟩ ∈ failures := by
  induction items generalizing resp with
  | nil => exact ⟨[], by simp, by simp⟩
  | cons item items ih =>
    obtain ⟨failure, hfail⟩ := updatePrice_failure t now supplierID item
    obtain ⟨failures, hfold, hvalid⟩ := ih (resp.add (some failure))
    refine ⟨failure :: failures, ?_, ?_⟩
    · rw [List.foldl_cons, hfail]
      refine hfold.trans ?_
      simp only [BatchUpdatePriceResponse.add, List.length_cons, List.append_assoc,
        List.singleton_append, Prod.mk.injEq, true_and, BatchUpdatePriceResponse.mk.injEq, and_true]
      omega
    · intro x hx hv
      rcases List.mem_cons.mp hx with rfl | hx
      · have heq := hfail.symm.trans (updatePrice_valid hv now)
        have hfailure := Option.some.inj (Prod.mk.inj heq).2
        rw [hfailure]
        exact List.mem_cons_self
      · exact List.mem_cons_of_mem _ (hvalid x hx hv)

theorem batchUpdatePrice_conflict (t : PackageTable) (now : Time) (supplierID : Int)
    (items : List BatchPriceItem) :
    (batchUpdatePrice t now supplierID items).1 = t ∧
      (batchUpdatePrice t now supplierID items).2.successCount = 0 ∧
      ∀ item ∈ items, ValidItem t supplierID item →
        ⟨item.packageID, "UPDATE_FAILED", errConcurrencyConflict⟩ ∈
          (batchUpdatePrice t now supplierID items).2.failures := by
  obtain ⟨failures, hfold, hvalid⟩ := foldl_updatePrice t now supplierID items
    { total := items.length, successCount := 0, failedCount := 0, failures := [] }
  have hbatch := hfold
  rw [show items.foldl _ _ = batchUpdatePrice t now supplierID items from rfl] at hbatch
  rw [hbatch]
  exact ⟨rfl, rfl, by simpa using hvalid⟩

end Packages

/-- No operation that stores an account or a package through the database gets its change through:
each counts the version up and then expects the row to have it already. -/
theorem versioned_operations_never_land (scanAddr : Option String → Except DbError String)
    (accounts : Accounts.AccountTable) (t : Packages.PackageTable) (now : Time) (supplierID : Int)
    (items : List Packages.BatchPriceItem) :
    (∀ r ∈ accounts.rows,
      ¬Accounts.Lands (Accounts.activate scanAddr accounts now r.userID r.id) r ∧
        ¬Accounts.Lands (Accounts.suspend scanAddr accounts now r.userID r.id) r) ∧
    (∀ r ∈ t.rows,
      ¬Packages.Lands (Packages.publish t now r.userID r.id) r ∧
        ¬Packages.Lands (Packages.pause t now r.userID r.id) r ∧
        ¬Packages.Lands (Packages.unlist t now r.userID r.id) r) ∧
    (Packages.batchUpdatePrice t now supplierID items).1 = t ∧
    (Packages.batchUpdatePrice t now supplierID items).2.successCount = 0 ∧
    ∀ item ∈ items, Packages.ValidItem t supplierID item →
      ⟨item.packageID, "UPDATE_FAILED", errConcurrencyConflict⟩ ∈
        (Packages.batchUpdatePrice t now supplierID items).2.failures := by
  refine ⟨fun r _ => ⟨?_, ?_⟩, fun r _ => ⟨?_, ?_, ?_⟩,
    Packages.batchUpdatePrice_conflict t now supplierID items⟩
  · obtain ⟨e, he⟩ := Accounts.changeStatus_error Accounts.canActivate _ .active scanAddr accounts now
      r.userID r.id
    rw [Accounts.activate, he]
    exact Accounts.not_lands r
  · obtain ⟨e, he⟩ := Accounts.changeStatus_error Accounts.canSuspend _ .suspended scanAddr accounts now
      r.userID r.id
    rw [Accounts.suspend, he]
    exact Accounts.not_lands r
  · obtain ⟨e, he⟩ := Packages.changeStatus_error Packages.canPublish _ .active t now r.userID r.id
    rw [Packages.publish, he]
    exact Packages.not_lands r
  · obtain ⟨e, he⟩ := Packages.changeStatus_error Packages.canPause _ .paused t now r.userID r.id
    rw [Packages.pause, he]
    exact Packages.not_lands r
  · obtain ⟨e, he⟩ := Packages.unlist_error t now r.userID r.id
    rw [he]
    exact Packages.not_lands r

/-- A pending account of supplier 7, stored at version 3. -/
def Accounts.sampleRow : Accounts.AccountRow :=
  { id := 1, userID := 7, platform := .openai, accountType := .apiKey, accountName := "main",
    encryptedCredentials := "hash_sk-abcde", keyID := "", status := .pending, riskLevel := "",
    totalQuota := 0, availableQuota := 0, frozenQuota := 0, isVerified := false, verifiedAt := none,
    lastCheckAt := none, tosCompliant := false, tosCheckResult := "", totalRequests := 0,
    totalTokens := 0, totalCost := 0, successRate := 0, riskScore := 0, riskReason := "",
    isFrozen := false, frozenReason := "", credentialCipherAlgo := "AES-256-GCM",
    credentialKMSKeyAlias := "kms/supply/default", credentialKeyVersion := 1, quotaUnit := "token",
    currencyCode := "USD", version := 3, createdIP := none, updatedIP := none, auditTraceID := "",
    createdAt := 0, updatedAt := 0 }

def Accounts.sampleTable : Accounts.AccountTable :=
  ⟨[Accounts.sampleRow], List.pairwise_singleton _ _⟩

/-- NULL decoded as the zero address. -/
def Accounts.scanZero (ip : Option String) : Except DbError String := .ok (ip.getD "invalid IP")

theorem versioned_operations_never_land_sample :
    Accounts.sampleRow ∈ Accounts.sampleTable.rows ∧
      ¬Accounts.Lands (Accounts.activate Accounts.scanZero Accounts.sampleTable 0 7 1)
        Accounts.sampleRow := by
  have hmem : Accounts.sampleRow ∈ Accounts.sampleTable.rows := List.mem_singleton.mpr rfl
  exact ⟨hmem, ((versioned_operations_never_land Accounts.scanZero Accounts.sampleTable
    Relational.Table.empty 0 7 []).1 Accounts.sampleRow hmem).1⟩

/-- Activating a pending account nobody else touches: the store reports a conflict. -/
theorem activate_counterexample :
    Accounts.canActivate Accounts.sampleRow.status = true ∧
      (Accounts.activate Accounts.scanZero Accounts.sampleTable 0 7 1).2 =
        .error errConcurrencyConflict ∧
      (Accounts.activate Accounts.scanZero Accounts.sampleTable 0 7 1).1.rows.map (·.version) = [3] ∧
      ¬Accounts.Lands (Accounts.activate Accounts.scanZero Accounts.sampleTable 0 7 1)
        Accounts.sampleRow := by
  have hconflict : (Accounts.activate Accounts.scanZero Accounts.sampleTable 0 7 1).2 =
      .error errConcurrencyConflict := by
    decide
  refine ⟨rfl, hconflict, by decide, ?_⟩
  rintro ⟨⟨account, hok⟩, _⟩
  rw [hconflict] at hok
  cases hok

end SupplyPlatform
