import Mathlib.Algebra.Order.Ring.Rat
import SupplyPlatform.CatalogStatus
import SupplyPlatform.SettlementMemory
import SupplyPlatform.VersionConflict

namespace SupplyPlatform

open Relational
open Settlements (AccountStatus errNotFound)

namespace Accounts

/-- The row that `AccountRepository.Create` inserts; a nil address is NULL. -/
def createdRow (account : Account) (credentials : String) (id : Int) (now : Time) : AccountRow :=
  { id := id, userID := account.supplierID, platform := account.provider,
    accountType := account.accountType, accountName := account.accountAlias,
    encryptedCredentials := credentials, keyID := account.keyID, status := account.status,
    riskLevel := account.riskLevel, totalQuota := account.totalQuota,
    availableQuota := account.availableQuota, frozenQuota := account.frozenQuota,
    isVerified := account.isVerified, verifiedAt := account.verifiedAt,
    lastCheckAt := account.lastCheckAt, tosCompliant := account.tosCompliant,
    tosCheckResult := account.tosCheckResult, totalRequests := account.totalRequests,
    totalTokens := account.totalTokens, totalCost := account.totalCost,
    successRate := account.successRate, riskScore := account.riskScore, riskReason := account.riskReason,
    isFrozen := account.isFrozen, frozenReason := account.frozenReason,
    credentialCipherAlgo := "AES-256-GCM", credentialKMSKeyAlias := "kms/supply/default",
    credentialKeyVersion := 1, quotaUnit := "token", currencyCode := "USD", version := 0,
    createdIP := if account.createdIP = "" then none else some account.createdIP,
    updatedIP := if account.updatedIP = "" then none else some account.updatedIP,
    auditTraceID := "", createdAt := now, updatedAt := now }

/-- `AccountRepository.Create`; `drawn` is the next value of the table's sequence, or what else the
statement meets. A hash that is no text is refused. -/
def create (t : AccountTable) (drawn : Except DbError Int) (now : Time) (account : Account) :
    AccountTable × Except RepoError Account :=
  match Bytes.decodeUtf8 account.credentialHash, drawn with
  | none, _ => (t, .error (.wrap "failed to create account" .invalidEncoding))
  | _, .error e => (t, .error (.wrap "failed to create account" e))
  | some credentials, .ok id =>
    match t.insert (createdRow account credentials id now) with
    | none => (t, .error (.wrap "failed to create account" .uniqueViolation))
    | some t' => (t', .ok { account with id := id, createdAt := now, updatedAt := now })

/-- `AccountRepository.GetWithdrawableBalance`. -/
def getWithdrawableBalance (rows : List AccountRow) (supplierID : Int) : ℚ :=
  ((rows.filter (fun r => r.userID = supplierID && r.status = .active)).map (·.availableQuota)).sum

section

variable (scanAddr : Option String → Except DbError String)

/-- `Delete` of the service over `DBAccountStore`, which has nothing to delete a row with. -/
def delete (t : AccountTable) (supplierID accountID : Int) : AccountTable × Except RepoError Unit :=
  match getByID scanAddr t supplierID accountID with
  | .error e => (t, .error e)
  | .ok account =>
    if account.status = .active then (t, .error (.message "SUP_ACC_4092: cannot delete active accounts"))
    else (t, .ok ())

end

end Accounts

namespace Catalog

open Accounts (Account AccountTable)
open MemoryStore (Evolves)

/-- No call finds the account any more, and it is not in the balance. -/
structure Gone (getByID : Except RepoError Account) (activate suspend : Time → Except RepoError Account)
    (delete : Except RepoError Unit) (balance others : ℚ) : Prop where
  getByID : ∃ err, getByID = .error err
  activate : ∀ now, ∃ err, activate now = .error err
  suspend : ∀ now, ∃ err, suspend now = .error err
  delete : ∃ err, delete = .error err
  balance : balance = others

/-- Over the in-memory stores the balance is a constant, whatever the accounts are. -/
def GoneFromMemory (s : State) (supplierID id : Int) : Prop :=
  Gone (s.accounts.getByID supplierID id) (fun now => (activate s.accounts now supplierID id).2)
    (fun now => (suspend s.accounts now supplierID id).2) (deleteAccount s.accounts supplierID id).2
    Settlements.MemoryStore.getWithdrawableBalance Settlements.MemoryStore.getWithdrawableBalance

/-- Each `Delete` is of an account that the supplier does not have or that is active. -/
def RefusesDeletes (s : State) (op : Operation) : Prop :=
  ∀ supplierID id, op = .deleteAccount supplierID id →
    ∀ account, s.accounts.getByID supplierID id = .ok account → account.status = .active

def DeletesFromMemory (s : State) (op : Operation) (supplierID id : Int) : Prop :=
  op = .deleteAccount supplierID id ∧ (deleteAccount s.accounts supplierID id).2 = .ok ()

section

variable (scanAddr : Option String → Except DbError String)

/-- A call of `accountService` over `DBAccountStore`, with what the statement of a `Create` meets. -/
def accountStep (t : AccountTable) : Operation × Except DbError Int → Option AccountTable
  | (.createAccount now req, drawn) =>
    if req.riskAck then some (Accounts.create t drawn now (newAccount req now)).1 else some t
  | (.activate now supplierID id, _) => some (Accounts.activate scanAddr t now supplierID id).1
  | (.suspend now supplierID id, _) => some (Accounts.suspend scanAddr t now supplierID id).1
  | (.deleteAccount supplierID id, _) => some (Accounts.delete scanAddr t supplierID id).1
  | _ => some t

def GoneFromTable (t : AccountTable) (supplierID id : Int) : Prop :=
  Gone (Accounts.getByID scanAddr t supplierID id)
    (fun now => (Accounts.activate scanAddr t now supplierID id).2)
    (fun now => (Accounts.suspend scanAddr t now supplierID id).2)
    (Accounts.delete scanAddr t supplierID id).2 (Accounts.getWithdrawableBalance t.rows supplierID)
    (Accounts.getWithdrawableBalance (t.rows.filter (·.id ≠ id)) supplierID)

def TableRefusesDeletes (t : AccountTable) (call : Operation × Except DbError Int) : Prop :=
  ∀ supplierID id, call.1 = .deleteAccount supplierID id →
    ∀ account, Accounts.getByID scanAddr t supplierID id = .ok account → account.status = .active

def DeletesFromTable (t : AccountTable) (call : Operation × Except DbError Int) (supplierID id : Int) :
    Prop :=
  call.1 = .deleteAccount supplierID id ∧ (Accounts.delete scanAddr t supplierID id).2 = .ok ()

end

section

variable {σ α : Type} {step : σ → α → Option σ} {deletes : σ → α → Int → Int → Prop}
  {gone : σ → Int → Int → Prop}

/-- Whenever a call of the run deletes an account, it is gone from then on. -/
def StaysDeleted (step : σ → α → Option σ) (deletes : σ → α → Int → Int → Prop)
    (gone : σ → Int → Int → Prop) (s : σ) (calls : List α) : Prop :=
  ∀ before call after t u supplierID id, calls = before ++ call :: after →
    Transition.exec step s before = some t → deletes t call supplierID id →
    Transition.exec step t (call :: after) = some u → gone u supplierID id

theorem exec_total (total : ∀ s a, ∃ t, step s a = some t) (s : σ) (calls : List α) :
    ∃ t, Transition.exec step s calls = some t := by
  induction calls generalizing s with
  | nil => exact ⟨s, rfl⟩
  | cons call calls ih =>
    obtain ⟨t, ht⟩ := total s call
    obtain ⟨u, hu⟩ := ih t
    exact ⟨u, Option.bind_eq_some_iff.mpr ⟨t, ht, hu⟩⟩

/-- Where a deleted account is found and what is found stays to be found, only a run whose calls delete
nothing has its accounts deleted. -/
theorem staysDeleted_iff {ok : σ → α → Prop} (found : σ → Int → Int → Prop)
    (total : ∀ s a, ∃ t, step s a = some t)
    (deletes_iff : ∀ s a, ok s a ↔ ∀ supplierID id, ¬deletes s a supplierID id)
    (deleted : ∀ s a supplierID id, deletes s a supplierID id → found s supplierID id)
    (kept : ∀ s a t supplierID id, found s supplierID id → step s a = some t → found t supplierID id)
    (refuted : ∀ s supplierID id, found s supplierID id → ¬gone s supplierID id) (s : σ) (calls : List α) :
    StaysDeleted step deletes gone s calls ↔ Transition.EachStep step ok s calls := by
  rw [Transition.eachStep_iff_split]
  constructor
  · intro h before call after t v hcalls ht hstep
    refine (deletes_iff t call).mpr (fun supplierID id hdeletes => ?_)
    obtain ⟨u, hu⟩ := exec_total total t (call :: after)
    have hgone := h before call after t u supplierID id hcalls ht hdeletes hu
    have hfound : found u supplierID id := (Transition.reach_of_exec hu).invariant
      (deleted t call supplierID id hdeletes) (fun s a t hs _ hstep => kept s a t supplierID id hs hstep)
    exact refuted u supplierID id hfound hgone
  · intro h before call after t u supplierID id hcalls ht hdeletes
    obtain ⟨v, hv⟩ := total t call
    exact absurd hdeletes ((deletes_iff t call).mp (h before call after t v hcalls ht hv) supplierID id)

end

def SameOwner (a b : Account) : Prop := b.supplierID = a.supplierID

theorem SameOwner.refl (a : Account) : SameOwner a a := rfl

theorem changeAccount_keeps_owner (allowed : AccountStatus → Bool) (refusal : RepoError)
    (status : AccountStatus) (m : AccountStore) (now : Time) (supplierID id : Int) :
    Evolves SameOwner (fun _ => True) m (changeAccount allowed refusal status m now supplierID id).1 := by
  unfold changeAccount
  split
  next => exact Evolves.refl SameOwner.refl m
  next account hget =>
    split
    next => exact MemoryStore.save_evolves SameOwner.refl hget rfl (SameOwner.refl account)
    next => exact Evolves.refl SameOwner.refl m

theorem createAccount_keeps_owner (m : AccountStore) (now : Time) (req : CreateAccountRequest) :
    Evolves SameOwner (fun _ => True) m (createAccount m now req).1 := by
  unfold createAccount
  split
  next => exact MemoryStore.create_evolves SameOwner.refl m trivial
  next => exact Evolves.refl SameOwner.refl m

theorem deleteAccount_store (m : AccountStore) (supplierID id : Int) :
    (deleteAccount m supplierID id).1 = m := by
  unfold deleteAccount
  split
  next => rfl
  next => split <;> rfl

/-- No call takes an account away. -/
theorem step_keeps_owner {s t : State} {op : Operation} (h : step s op = some t) :
    Evolves SameOwner (fun _ => True) s.accounts t.accounts := by
  cases op with
  | createAccount now req =>
    cases Option.some.inj h
    exact createAccount_keeps_owner s.accounts now req
  | activate now supplierID id =>
    cases Option.some.inj h
    exact changeAccount_keeps_owner _ _ _ s.accounts now supplierID id
  | suspend now supplierID id =>
    cases Option.some.inj h
    exact changeAccount_keeps_owner _ _ _ s.accounts now supplierID id
  | deleteAccount supplierID id =>
    cases Option.some.inj h
    rw [deleteAccount_store]
    exact Evolves.refl SameOwner.refl s.accounts
  | createDraft | publish | pause | unlist | clone | batchUpdatePrice =>
    cases Option.some.inj h
    exact Evolves.refl SameOwner.refl s.accounts

def FoundInMemory (s : State) (supplierID id : Int) : Prop :=
  ∃ account, s.accounts.getByID supplierID id = .ok account

theorem FoundInMemory.step {s t : State} {op : Operation} {supplierID id : Int}
    (h : FoundInMemory s supplierID id) (hstep : step s op = some t) : FoundInMemory t supplierID id := by
  obtain ⟨account, hget⟩ := h
  obtain ⟨hitem, howner, -⟩ := MemoryStore.getByID_ok hget
  obtain ⟨later, hlater, hsame⟩ := (step_keeps_owner hstep).kept id account hitem
  have hown : accountEntity.supplierID later = supplierID := hsame.trans howner
  exact ⟨later, by simp only [MemoryStore.getByID, hlater, hown, if_true]⟩

theorem refusesDeletes_iff (s : State) (op : Operation) :
    RefusesDeletes s op ↔ ∀ supplierID id, ¬DeletesFromMemory s op supplierID id := by
  refine forall_congr' (fun supplierID => forall_congr' (fun id => ?_))
  constructor
  · rintro h ⟨hop, hok⟩
    unfold deleteAccount at hok
    split at hok
    next => cases hok
    next account hget =>
      rw [if_pos (h hop account hget)] at hok
      cases hok
  · intro h hop account hget
    by_contra hactive
    refine h ⟨hop, ?_⟩
    simp only [deleteAccount, hget, hactive, if_false]

theorem DeletesFromMemory.found {s : State} {op : Operation} {supplierID id : Int}
    (h : DeletesFromMemory s op supplierID id) : FoundInMemory s supplierID id := by
  obtain ⟨-, hok⟩ := h
  unfold deleteAccount at hok
  split at hok
  next => cases hok
  next account hget => exact ⟨account, hget⟩

section

variable {scanAddr : Option String → Except DbError String}

def FoundInTable (scanAddr : Option String → Except DbError String) (t : AccountTable)
    (supplierID id : Int) : Prop :=
  ∃ account, Accounts.getByID scanAddr t supplierID id = .ok account

/-- A call leaves the table as it is or puts a row at its end. -/
theorem accountStep_rows {t u : AccountTable} {call : Operation × Except DbError Int}
    (h : accountStep scanAddr t call = some u) : ∃ rows, u.rows = t.rows ++ rows := by
  obtain ⟨op, drawn⟩ := call
  cases op with
  | createAccount now req =>
    simp only [accountStep] at h
    split at h
    next =>
      cases Option.some.inj h
      unfold Accounts.create
      split
      next => exact ⟨[], (List.append_nil _).symm⟩
      next => exact ⟨[], (List.append_nil _).symm⟩
      next =>
        split
        next => exact ⟨[], (List.append_nil _).symm⟩
        next v hv => exact ⟨_, (Table.rows_of_insert hv).1⟩
    next =>
      cases Option.some.inj h
      exact ⟨[], (List.append_nil _).symm⟩
  | activate now supplierID id =>
    cases Option.some.inj h
    obtain ⟨e, he⟩ := Accounts.changeStatus_error Accounts.canActivate _ .active scanAddr t now supplierID id
    rw [Accounts.activate, he]
    exact ⟨[], (List.append_nil _).symm⟩
  | suspend now supplierID id =>
    cases Option.some.inj h
    obtain ⟨e, he⟩ := Accounts.changeStatus_error Accounts.canSuspend _ .suspended scanAddr t now supplierID id
    rw [Accounts.suspend, he]
    exact ⟨[], (List.append_nil _).symm⟩
  | deleteAccount supplierID id =>
    cases Option.some.inj h
    refine ⟨[], ?_⟩
    unfold Accounts.delete
    split
    next => exact (List.append_nil _).symm
    next => split <;> exact (List.append_nil _).symm
  | createDraft | publish | pause | unlist | clone | batchUpdatePrice =>
    cases Option.some.inj h
    exact ⟨[], (List.append_nil _).symm⟩

theorem FoundInTable.step {t u : AccountTable} {call : Operation × Except DbError Int} {supplierID id : Int}
    (h : FoundInTable scanAddr t supplierID id) (hstep : accountStep scanAddr t call = some u) :
    FoundInTable scanAddr u supplierID id := by
  obtain ⟨account, hget⟩ := h
  obtain ⟨rows, hrows⟩ := accountStep_rows hstep
  unfold Accounts.getByID at hget
  cases hfind : t.rows.find? (fun r => r.id = id && r.userID = supplierID) with
  | none =>
    rw [hfind] at hget
    cases hget
  | some r =>
    have hlater : u.rows.find? (fun r => r.id = id && r.userID = supplierID) = some r := by
      rw [hrows, List.find?_append, hfind, Option.some_or]
    refine ⟨account, ?_⟩
    unfold Accounts.getByID
    rw [hlater]
    rw [hfind] at hget
    exact hget

theorem tableRefusesDeletes_iff (t : AccountTable) (call : Operation × Except DbError Int) :
    TableRefusesDeletes scanAddr t call ↔
      ∀ supplierID id, ¬DeletesFromTable scanAddr t call supplierID id := by
  refine forall_congr' (fun supplierID => forall_congr' (fun id => ?_))
  constructor
  · rintro h ⟨hop, hok⟩
    unfold Accounts.delete at hok
    split at hok
    next => cases hok
    next account hget =>
      rw [if_pos (h hop account hget)] at hok
      cases hok
  · intro h hop account hget
    by_contra hactive
    refine h ⟨hop, ?_⟩
    simp only [Accounts.delete, hget, hactive, if_false]

theorem DeletesFromTable.found {t : AccountTable} {call : Operation × Except DbError Int}
    {supplierID id : Int} (h : DeletesFromTable scanAddr t call supplierID id) :
    FoundInTable scanAddr t supplierID id := by
  obtain ⟨-, hok⟩ := h
  unfold Accounts.delete at hok
  split at hok
  next => cases hok
  next account hget => exact ⟨account, hget⟩

end

theorem not_gone_of_found {getByID : Except RepoError Account}
    {activate suspend : Time → Except RepoError Account} {delete : Except RepoError Unit} {balance others : ℚ}
    (h : ∃ account, getByID = .ok account) : ¬Gone getByID activate suspend delete balance others := by
  rintro ⟨⟨err, herr⟩, -⟩
  obtain ⟨account, hok⟩ := h
  rw [hok] at herr
  cases herr

theorem step_total (s : State) (op : Operation) : ∃ t, step s op = some t := by
  cases op <;> exact ⟨_, rfl⟩

theorem accountStep_total (scanAddr : Option String → Except DbError String) (t : AccountTable)
    (call : Operation × Except DbError Int) : ∃ u, accountStep scanAddr t call = some u := by
  obtain ⟨op, drawn⟩ := call
  cases op with
  | createAccount now req =>
    simp only [accountStep]
    split
    · exact ⟨_, rfl⟩
    · exact ⟨_, rfl⟩
  | activate | suspend | deleteAccount => exact ⟨_, rfl⟩
  | createDraft | publish | pause | unlist | clone | batchUpdatePrice => exact ⟨_, rfl⟩

/-- Over either store an account that `Delete` has reported as deleted is never gone: the deleted accounts of
a run stay deleted only where each `Delete` is refused. -/
theorem deleted_accounts_gone_iff (s : State) (ops : List Operation)
    (scanAddr : Option String → Except DbError String) (t : AccountTable)
    (calls : List (Operation × Except DbError Int)) :
    (StaysDeleted step DeletesFromMemory GoneFromMemory s ops ↔
      Transition.EachStep step RefusesDeletes s ops) ∧
    (StaysDeleted (accountStep scanAddr) (DeletesFromTable scanAddr) (GoneFromTable scanAddr) t calls ↔
      Transition.EachStep (accountStep scanAddr) (TableRefusesDeletes scanAddr) t calls) := by
  constructor
  · exact staysDeleted_iff FoundInMemory step_total refusesDeletes_iff (fun _ _ _ _ h => h.found)
      (fun _ _ _ _ _ h hstep => h.step hstep) (fun _ _ _ h => not_gone_of_found h) s ops
  · exact staysDeleted_iff (FoundInTable scanAddr) (accountStep_total scanAddr) tableRefusesDeletes_iff
      (fun _ _ _ _ h => h.found) (fun _ _ _ _ _ h hstep => h.step hstep)
      (fun _ _ _ h => not_gone_of_found h) t calls

def sampleAccount : CreateAccountRequest :=
  { supplierID := 1001, provider := .openai, accountType := .apiKey, credential := "sk-abcdefgh",
    accountAlias := "main", riskAck := true }

/-- An account is deleted, and then activated. -/
theorem deleted_account_activated :
    ¬StaysDeleted step DeletesFromMemory GoneFromMemory State.new
      [.createAccount 0 sampleAccount, .deleteAccount 1001 1, .activate 1 1001 1] ∧
    ∃ t account, Transition.exec step State.new
        [.createAccount 0 sampleAccount, .deleteAccount 1001 1, .activate 1 1001 1] = some t ∧
      t.accounts.getByID 1001 1 = .ok account ∧ account.status = .active := by
  refine ⟨fun h => ?_, _, _, rfl, rfl, rfl⟩
  obtain ⟨⟨err, herr⟩, -⟩ := h [.createAccount 0 sampleAccount] (.deleteAccount 1001 1) [.activate 1 1001 1]
    _ _ 1001 1 rfl rfl ⟨rfl, rfl⟩ rfl
  cases herr

end Catalog

end SupplyPlatform
