import SupplyPlatform.Lib.Runs
import SupplyPlatform.Settlement

namespace SupplyPlatform.Settlements

open Relational

/-- Where a call of `Withdraw` or `Cancel` stands, named after the statement it runs next. -/
inductive Call
  | idle
  | hasPending (supplierID : Int) (req : WithdrawRequest)
  | balance (supplierID : Int) (req : WithdrawRequest)
  | begin_ (s : Settlement)
  | lockOpen (s : Settlement)
  | rollback (supplierID : Int) (err : RepoError)
  | insert (s : Settlement)
  | commit (s : Settlement) (row : SettlementRow)
  | update (s : Settlement) (expectedVersion : Int)
  | reread (supplierID id : Int)
  | done (result : Except RepoError Settlement)

/-- The committed rows, the row locks and the unique index entries of the open transactions, each
with its owner, and the calls. -/
structure State where
  table : SettlementTable
  accounts : List AccountRow
  call : Nat → Call
  locks : List (Nat × Int)
  numbers : List (Nat × String)
  now : Time
  lastID : Int

inductive Action
  | tick (elapsed : Nat)
  | withdraw (n : Nat) (supplierID : Int) (req : WithdrawRequest) (sms : Except RepoError Bool)
  | hasPending (n : Nat)
  | balance (n : Nat)
  | begin_ (n : Nat)
  | lockOpen (n : Nat) (rows : List SettlementRow)
  | rollback (n : Nat)
  | insert (n : Nat) (id : Int)
  | commit (n : Nat) (fault : Fault)
  | cancel (n : Nat) (supplierID id : Int)
  | update (n : Nat)
  | reread (n : Nat)
  | fail (n : Nat) (err : RepoError)

def State.setCall (s : State) (n : Nat) (x : Call) : State :=
  { s with call := Function.update s.call n x }

@[simp] theorem setCall_self (s : State) (n : Nat) (x : Call) : (s.setCall n x).call n = x := by
  simp [State.setCall]

@[simp] theorem setCall_setCall (s : State) (n : Nat) (x y : Call) :
    (s.setCall n x).setCall n y = s.setCall n y := by
  simp [State.setCall]

theorem call_set {s : State} {n m : Nat} {x : Call} (hm : m ≠ n) :
    (s.setCall n x).call m = s.call m := by
  simp [State.setCall, hm]

/-- The end of a transaction: its locks and its index entries go. -/
def State.endTx (s : State) (n : Nat) : State :=
  { s with locks := s.locks.filter (fun l => l.1 ≠ n),
           numbers := s.numbers.filter (fun l => l.1 ≠ n) }

/-- What `FOR UPDATE SKIP LOCKED` sees: committed rows that no other transaction has locked. -/
def lockable (s : State) (n : Nat) (r : SettlementRow) : Bool :=
  !s.locks.any (fun l => l.1 ≠ n && l.2 = r.id)

/-- `Withdraw` after its SMS check. -/
def verified (supplierID : Int) (req : WithdrawRequest) : Except RepoError Bool → Call
  | .error e => .done (.error e)
  | .ok false => .done (.error errInvalidSMS)
  | .ok true => .hasPending supplierID req

/-- `Withdraw` after the query for an open withdrawal. -/
def pendingChecked (supplierID : Int) (req : WithdrawRequest) (hasPending : Bool) : Call :=
  if hasPending then .done (.error errWithdrawAlreadyProcessing)
  else if req.amount ≤ 0 then .done (.error errAmountNotPositive)
  else .balance supplierID req

/-- `Withdraw` after the query for the balance. -/
def balanceChecked (supplierID : Int) (req : WithdrawRequest) (balance : Int) (now : Time) : Call :=
  if req.amount > fromNumeric balance then .done (.error errExceedsBalance)
  else .begin_ (newWithdrawal supplierID req now)

/-- One statement of one call. A statement that has to wait for another transaction is not enabled:
an INSERT of a number another open transaction has inserted, an UPDATE of a locked row. -/
def step (s : State) : Action → Option State
  | .tick elapsed => some { s with now := s.now + elapsed }
  | .withdraw n supplierID req sms =>
    match s.call n with
    | .idle | .done _ => some (s.setCall n (verified supplierID req sms))
    | _ => none
  | .hasPending n =>
    match s.call n with
    | .hasPending supplierID req =>
      some (s.setCall n (pendingChecked supplierID req
        (hasPendingOrProcessingWithdraw s.table supplierID)))
    | _ => none
  | .balance n =>
    match s.call n with
    | .balance supplierID req =>
      some (s.setCall n (balanceChecked supplierID req
        (getWithdrawableBalance s.accounts supplierID) s.now))
    | _ => none
  | .begin_ n =>
    match s.call n with
    | .begin_ settlement => some (s.setCall n (.lockOpen settlement))
    | _ => none
  | .lockOpen n rows =>
    match s.call n with
    | .lockOpen settlement =>
      if rows.Perm (s.table.rows.filter
          (fun r => openFor settlement.supplierID r && lockable s n r)) then
        match rows with
        | [] => some (s.setCall n (.insert settlement))
        | existing :: _ =>
          some ({ s with locks := rows.map (fun r : SettlementRow => (n, r.id)) ++ s.locks }.setCall n
            (.rollback settlement.supplierID (errAlreadyOpen existing.id)))
      else none
    | _ => none
  | .rollback n =>
    match s.call n with
    | .rollback _ err => some ((s.endTx n).setCall n (.done (.error err)))
    | _ => none
  | .insert n id =>
    match s.call n with
    | .insert settlement =>
      if s.lastID < id ∧ ¬s.numbers.any (fun l => l.2 = settlement.settlementNo) then
        match withdrawalRow settlement id s.now with
        | .error e => some ((s.endTx n).setCall n (.done (.error (errCreate e))))
        | .ok row =>
          if s.table.rows.any (fun r => r.settlementNo = row.settlementNo) then
            some ({ s with lastID := id }.endTx n |>.setCall n
              (.done (.error (errCreate .uniqueViolation))))
          else
            some ({ s with lastID := id, numbers := (n, row.settlementNo) :: s.numbers }.setCall n
              (.commit settlement row))
      else none
    | _ => none
  | .commit n fault =>
    match s.call n with
    | .commit settlement row =>
      match fault, s.table.insert row with
      | .none, some t =>
        some ({ s with table := t }.endTx n |>.setCall n (.done (.ok (settlement.created row))))
      | .applied, some t =>
        some ({ s with table := t }.endTx n |>.setCall n
          (.done (.error (.wrap "failed to commit transaction" .connection))))
      | _, _ =>
        some (s.endTx n |>.setCall n
          (.done (.error (.wrap "failed to commit transaction" .connection))))
    | _ => none
  | .cancel n supplierID id =>
    match s.call n with
    | .idle | .done _ =>
      match getByID s.table supplierID id with
      | .error e => some (s.setCall n (.done (.error e)))
      | .ok settlement =>
        match cancelled settlement s.now with
        | .error e => some (s.setCall n (.done (.error e)))
        | .ok failed => some (s.setCall n (.update failed settlement.version))
    | _ => none
  | .update n =>
    match s.call n with
    | .update settlement expectedVersion =>
      if s.locks.any (fun l => l.2 = settlement.id) then none
      else
        match update s.table settlement expectedVersion s.now with
        | (t, .ok ()) =>
          some ({ s with table := t }.setCall n (.reread settlement.supplierID settlement.id))
        | (t, .error e) => some ({ s with table := t }.setCall n (.done (.error e)))
    | _ => none
  | .reread n =>
    match s.call n with
    | .reread supplierID id => some (s.setCall n (.done (getByID s.table supplierID id)))
    | _ => none
  | .fail n err => some ((s.endTx n).setCall n (.done (.error err)))

def State.start (t : SettlementTable) (accounts : List AccountRow) (now : Time) : State :=
  { table := t, accounts := accounts, call := fun _ => .idle, locks := [], numbers := [], now := now,
    lastID := (t.rows.map (·.id)).foldr max 0 }

end SupplyPlatform.Settlements
