import SupplyPlatform.CatalogDeletion
import SupplyPlatform.SettlementVersions

namespace SupplyPlatform

open Relational
open Settlements (errConcurrencyConflict)

/-- What a call has handed back is not what is stored: it names another version than the one
`GetByID` finds, and an `Update` with it is refused. -/
structure Stale {α β : Type} (version : α → Int) (getByID : Except RepoError α)
    (update : Time → Except RepoError β) (x : α) : Prop where
  differs : getByID ≠ .ok x
  behind : ∀ stored, getByID = .ok stored → version stored ≠ version x
  refused : ∀ later, update later = .error errConcurrencyConflict

theorem Stale.of_version {α β : Type} {version : α → Int} {getByID : Except RepoError α}
    {update : Time → Except RepoError β} {x : α}
    (hb : ∀ stored, getByID = .ok stored → version stored ≠ version x)
    (hu : ∀ later, update later = .error errConcurrencyConflict) : Stale version getByID update x :=
  ⟨fun h => hb x h rfl, hb, hu⟩

namespace Settlements

theorem withdrawalRow_version {settlement : Settlement} {id : Int} {now : Time} {row : SettlementRow}
    (h : withdrawalRow settlement id now = .ok row) : row.version = 0 := by
  unfold withdrawalRow at h
  split at h
  next => cases Except.ok.inj h; rfl
  all_goals simp at h

/-- A `CreateWithdrawTx` that succeeds has inserted a row of version 0, and its struct keeps the
version it came with. -/
theorem createWithdrawTx_ok {t t' : SettlementTable} {settlement s : Settlement} {id : Int} {now : Time}
    {fault : Fault} (h : createWithdrawTx t settlement id now fault = (t', .ok s)) :
    s.version = settlement.version ∧
      ∃ row ∈ t'.rows, row.id = s.id ∧ row.version = 0 := by
  unfold createWithdrawTx at h
  split at h
  next => simp at h
  next =>
    split at h
    next => simp at h
    next row hrow =>
      split at h
      next => simp at h
      next u hu =>
        cases fault with
        | none =>
          obtain ⟨rfl, hs⟩ := Prod.mk.inj h
          cases Except.ok.inj hs
          exact ⟨rfl, row, (Table.mem_of_insert hu).mpr (.inr rfl), rfl, withdrawalRow_version hrow⟩
        | applied => simp [commitTx] at h
        | unapplied => simp [commitTx] at h

theorem withdraw_ok {t t' : SettlementTable} {accounts : List AccountRow} {now : Time}
    {id supplierID : Int} {req : WithdrawRequest} {sms : Except RepoError Bool} {fault : Fault}
    {s : Settlement} (h : withdraw t accounts now id supplierID req sms fault = (t', .ok s)) :
    createWithdrawTx t (newWithdrawal supplierID req now) id now fault = (t', .ok s) := by
  unfold withdraw at h
  split at h
  next => simp at h
  next => simp at h
  next =>
    split at h
    next => simp at h
    next =>
      split at h
      next => simp at h
      next =>
        split at h
        next => simp at h
        next => exact h

/-- `GetByID` and `Update` go by the id, and under this id there is one row. -/
theorem stale_of_row {t : SettlementTable} {s : Settlement} {row : SettlementRow} (hr : row ∈ t.rows)
    (hid : row.id = s.id) (hv : row.version ≠ s.version) :
    Stale (·.version) (getByID t s.supplierID s.id) (fun later => (update t s s.version later).2) s := by
  have hone : ∀ q ∈ t.rows, q.id = s.id → q = row := fun q hq h => row_eq_of_id hq hr (h.trans hid.symm)
  refine .of_version (fun stored hs => ?_) (fun later => ?_)
  · unfold getByID at hs
    split at hs
    next q hf =>
      cases Except.ok.inj hs
      have hq := List.find?_some hf
      simp only [Bool.and_eq_true, decide_eq_true_eq] at hq
      rw [hone q (List.mem_of_find?_eq_some hf) hq.1]
      exact hv
    next => simp at hs
  · refine (update_missing later (List.find?_eq_none.mpr (fun q hq hu => ?_))).2
    obtain ⟨hqid, _, hqv⟩ := updates_iff.mp hu
    rw [hone q hq hqid] at hqv
    exact hv hqv

theorem withdraw_stale {t t' : SettlementTable} {accounts : List AccountRow} {now : Time}
    {id supplierID : Int} {req : WithdrawRequest} {sms : Except RepoError Bool} {fault : Fault}
    {s : Settlement} (h : withdraw t accounts now id supplierID req sms fault = (t', .ok s)) :
    Stale (·.version) (getByID t' s.supplierID s.id)
      (fun later => (update t' s s.version later).2) s := by
  obtain ⟨hs, row, hr, hid, hv⟩ := createWithdrawTx_ok (withdraw_ok h)
  have hone : s.version = 1 := hs
  exact stale_of_row hr hid (by omega)

end Settlements

namespace Accounts

/-- `Create` of the service over `DBAccountStore`. -/
def createStored (t : AccountTable) (drawn : Except DbError Int) (now : Time)
    (req : Catalog.CreateAccountRequest) : AccountTable × Except RepoError Account :=
  if req.riskAck then create t drawn now (Catalog.newAccount req now)
  else (t, .error (.message "risk_ack is required"))

theorem createStored_ok {t t' : AccountTable} {drawn : Except DbError Int} {now : Time}
    {req : Catalog.CreateAccountRequest} {account : Account}
    (h : createStored t drawn now req = (t', .ok account)) :
    account.version = 1 ∧ ∃ row ∈ t'.rows, row.id = account.id ∧ row.version = 0 := by
  unfold createStored at h
  split at h
  next =>
    unfold create at h
    split at h
    next => simp at h
    next => simp at h
    next =>
      split at h
      next => simp at h
      next u hu =>
        obtain ⟨rfl, ha⟩ := Prod.mk.inj h
        cases Except.ok.inj ha
        exact ⟨rfl, _, (Table.mem_of_insert hu).mpr (.inr rfl), rfl, rfl⟩
  next => simp at h

theorem stale_of_row (scanAddr : Option String → Except DbError String) {t : AccountTable}
    {account : Account} {row : AccountRow} (hr : row ∈ t.rows) (hid : row.id = account.id)
    (hv : row.version ≠ account.version) :
    Stale (·.version) (getByID scanAddr t account.supplierID account.id)
      (fun later => (update t account account.version later).2) account := by
  have hone : ∀ q ∈ t.rows, q.id = account.id → q = row :=
    fun q hq h => Table.eq_of_not_apart hq hr (fun hap => hap (h.trans hid.symm))
  refine .of_version (fun stored hs => ?_) (fun later => ?_)
  · unfold getByID at hs
    split at hs
    next => simp at hs
    next q hf =>
      split at hs
      next => simp at hs
      next decoded hd =>
        cases Except.ok.inj hs
        have hq := List.find?_some hf
        simp only [Bool.and_eq_true, decide_eq_true_eq] at hq
        rw [(decodeAccount_ok hd).2, hone q (List.mem_of_find?_eq_some hf) hq.1]
        exact hv
  · rw [update_conflict]
    intro q hq
    by_contra hu
    have hu : updates account account.version q = true := by simpa using hu
    simp only [updates, Bool.and_eq_true, decide_eq_true_eq] at hu
    have hqv := hu.2
    rw [hone q hq hu.1.1] at hqv
    exact hv hqv

end Accounts

/-- Neither call that creates an entity hands back what it has stored. -/
theorem created_entities_stale (settlements : Settlements.SettlementTable)
    (balances : List Settlements.AccountRow) (accounts : Accounts.AccountTable)
    (scanAddr : Option String → Except DbError String) (now : Time) :
    (∀ id supplierID req sms fault t s,
      Settlements.withdraw settlements balances now id supplierID req sms fault = (t, .ok s) →
        Stale (·.version) (Settlements.getByID t s.supplierID s.id)
          (fun later => (Settlements.update t s s.version later).2) s) ∧
    ∀ drawn req t account, Accounts.createStored accounts drawn now req = (t, .ok account) →
      Stale (·.version) (Accounts.getByID scanAddr t account.supplierID account.id)
        (fun later => (Accounts.update t account account.version later).2) account := by
  refine ⟨fun _ _ _ _ _ _ _ h => Settlements.withdraw_stale h, fun _ _ _ _ h => ?_⟩
  obtain ⟨hv, row, hr, hid, hrow⟩ := Accounts.createStored_ok h
  exact Accounts.stale_of_row scanAddr hr hid (by omega)

theorem sample_withdrawal :
    ∃ t s, Settlements.withdraw Table.empty Settlements.sampleAccounts 0 1 1 Settlements.sampleWithdraw
      (.ok true) .none = (t, .ok s) := by
  have hok : (Settlements.withdraw Table.empty Settlements.sampleAccounts 0 1 1
      Settlements.sampleWithdraw (.ok true) .none).2.toOption.isSome := by
    decide +kernel
  cases h : Settlements.withdraw Table.empty Settlements.sampleAccounts 0 1 1
      Settlements.sampleWithdraw (.ok true) .none with
  | mk t answer =>
    cases answer with
    | ok s => exact ⟨t, s, rfl⟩
    | error e =>
      rw [h] at hok
      cases hok

/-- A first withdrawal, read back and updated. -/
theorem withdrawn_settlement_refused :
    ∃ t s, Settlements.withdraw Table.empty Settlements.sampleAccounts 0 1 1 Settlements.sampleWithdraw
        (.ok true) .none = (t, .ok s) ∧
      Settlements.getByID t s.supplierID s.id ≠ .ok s ∧
      (Settlements.update t s s.version 1).2 = .error errConcurrencyConflict := by
  obtain ⟨t, s, h⟩ := sample_withdrawal
  exact ⟨t, s, h, (Settlements.withdraw_stale h).differs, (Settlements.withdraw_stale h).refused 1⟩

end SupplyPlatform
