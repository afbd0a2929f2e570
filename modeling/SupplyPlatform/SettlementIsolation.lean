import SupplyPlatform.SettlementSerial
import SupplyPlatform.SettlementVersions

namespace SupplyPlatform.Settlements

open Relational

/-- What `Withdraw` runs on. The sequence of `supply_settlements.id` has handed out every id in use. -/
structure Database where
  table : SettlementTable
  accounts : List AccountRow
  lastID : Int
  drawn : ∀ r ∈ table.rows, r.id ≤ lastID

/-- `Withdraw` as its caller sees it: done, or rejected with an error. -/
def Database.outcome (d : Database) (now : Time) (supplierID : Int) (req : WithdrawRequest)
    (sms : Except RepoError Bool) (fault : Fault) : Except RepoError Unit :=
  (withdraw d.table d.accounts now (d.lastID + 1) supplierID req sms fault).2.map (fun _ => ())

/-- Two states a supplier cannot tell apart by its own rows. -/
structure Agree (supplierID : Int) (d e : Database) : Prop where
  settlements : ∀ r : SettlementRow, r.userID = supplierID → (r ∈ d.table.rows ↔ r ∈ e.table.rows)
  accounts : (d.accounts.filter (fun a => a.userID = supplierID)).Perm
    (e.accounts.filter (fun a => a.userID = supplierID))

/-- The checks of `Withdraw` before its transaction. -/
structure Database.Checked (d : Database) (supplierID : Int) (req : WithdrawRequest)
    (sms : Except RepoError Bool) : Prop where
  verified : sms = .ok true
  closed : hasPendingOrProcessingWithdraw d.table supplierID = false
  positive : 0 < req.amount
  available : req.amount ≤ fromNumeric (getWithdrawableBalance d.accounts supplierID)

/-- The request passes these checks, its amounts can be stored, and none of the supplier's own
settlements is of the same second. -/
structure Database.Ready (d : Database) (now : Time) (supplierID : Int) (req : WithdrawRequest)
    (sms : Except RepoError Bool) : Prop extends Database.Checked d supplierID req sms where
  stored : ∃ row, withdrawalRow (newWithdrawal supplierID req now) (d.lastID + 1) now = .ok row
  unused : ∀ r ∈ d.table.rows, r.userID = supplierID → r.settlementNo ≠ generateSettlementNo now

def committed : Fault → Except RepoError Unit
  | .none => .ok ()
  | _ => .error errCommit

theorem Agree.symm {supplierID : Int} {d e : Database} (h : Agree supplierID d e) :
    Agree supplierID e d :=
  ⟨fun r hr => (h.settlements r hr).symm, h.accounts.symm⟩

theorem Agree.hasPending {supplierID : Int} {d e : Database} (h : Agree supplierID d e) :
    hasPendingOrProcessingWithdraw d.table supplierID =
      hasPendingOrProcessingWithdraw e.table supplierID := by
  have himp : ∀ {d e : Database}, Agree supplierID d e →
      hasPendingOrProcessingWithdraw d.table supplierID →
        hasPendingOrProcessingWithdraw e.table supplierID := by
    intro d e h hd
    obtain ⟨r, hr, hopen⟩ := List.any_eq_true.mp hd
    have hown : r.userID = supplierID := by
      simp only [openFor, Bool.and_eq_true, decide_eq_true_eq] at hopen
      exact hopen.1
    exact List.any_eq_true.mpr ⟨r, (h.settlements r hown).mp hr, hopen⟩
  exact Bool.eq_iff_iff.mpr ⟨himp h, himp h.symm⟩

theorem Agree.balance {supplierID : Int} {d e : Database} (h : Agree supplierID d e) :
    getWithdrawableBalance d.accounts supplierID = getWithdrawableBalance e.accounts supplierID := by
  have hown : ∀ accounts : List AccountRow, getWithdrawableBalance accounts supplierID =
      (((accounts.filter (fun a => a.userID = supplierID)).filter (fun a => a.status = .active)).map
        (·.availableQuota)).sum := by
    intro accounts
    have hboth : accounts.filter (fun a => a.userID = supplierID && a.status = .active) =
        (accounts.filter (fun a => a.userID = supplierID)).filter (fun a => a.status = .active) := by
      rw [List.filter_filter]
      apply List.filter_congr
      intro a _
      exact Bool.and_comm _ _
    unfold getWithdrawableBalance
    rw [hboth]
  rw [hown, hown]
  exact ((h.accounts.filter _).map _).sum_eq

/-- `CreateWithdrawTx` once nothing is open: the INSERT fails on the settlement number alone. -/
theorem Database.created (d : Database) {settlement : Settlement} {now : Time} {row : SettlementRow}
    (hopen : hasPendingOrProcessingWithdraw d.table settlement.supplierID = false)
    (hrow : withdrawalRow settlement (d.lastID + 1) now = .ok row) (fault : Fault) :
    (createWithdrawTx d.table settlement (d.lastID + 1) now fault).2.map (fun _ => ()) =
      if d.table.rows.any (fun r => r.settlementNo = settlement.settlementNo) then
        .error (errCreate .uniqueViolation)
      else committed fault := by
  have hnone : d.table.rows.find? (openFor settlement.supplierID) = none := by
    rw [List.find?_eq_none]
    intro r hr
    simpa using List.any_eq_false.mp hopen r hr
  have hno : row.settlementNo = settlement.settlementNo := (withdrawalRow_ok hrow).2.2.1
  have hfresh : ∀ r ∈ d.table.rows, r.id < row.id := by
    intro r hr
    have hle := d.drawn r hr
    rw [withdrawalRow_id hrow]
    omega
  have hcollide := insert_eq_none_iff hfresh
  rw [hno] at hcollide
  unfold createWithdrawTx
  simp only [hnone, hrow]
  cases hins : d.table.insert row with
  | none =>
    rw [if_pos (hcollide.mp hins)]
    rfl
  | some t =>
    rw [if_neg (fun hany => by simp [hcollide.mpr hany] at hins)]
    cases fault with
    | none => rfl
    | unapplied => rfl
    | applied => rfl

theorem Agree.checked {supplierID : Int} {d e : Database} (h : Agree supplierID d e)
    {req : WithdrawRequest} {sms : Except RepoError Bool} (hc : d.Checked supplierID req sms) :
    e.Checked supplierID req sms :=
  ⟨hc.verified, h.hasPending ▸ hc.closed, hc.positive, h.balance ▸ hc.available⟩

end SupplyPlatform.Settlements
