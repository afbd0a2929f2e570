import SupplyPlatform.SettlementExclusion

namespace SupplyPlatform.Settlements

open Relational

def errCommit : RepoError := .wrap "failed to commit transaction" .connection

/-- The COMMIT that turns `t` into `t'`. -/
def commitTx (t t' : SettlementTable) (created : Settlement) :
    Fault → SettlementTable × Except RepoError Settlement
  | .none => (t', .ok created)
  | .applied => (t', .error errCommit)
  | .unapplied => (t, .error errCommit)

/-- `CreateWithdrawTx` with no other transaction open. -/
def createWithdrawTx (t : SettlementTable) (settlement : Settlement) (id : Int) (now : Time)
    (fault : Fault) : SettlementTable × Except RepoError Settlement :=
  match t.rows.find? (openFor settlement.supplierID) with
  | some existing => (t, .error (errAlreadyOpen existing.id))
  | none =>
    match withdrawalRow settlement id now with
    | .error e => (t, .error (errCreate e))
    | .ok row =>
      match t.insert row with
      | none => (t, .error (errCreate .uniqueViolation))
      | some t' => commitTx t t' (settlement.created row) fault

def withdraw (t : SettlementTable) (accounts : List AccountRow) (now : Time) (id supplierID : Int)
    (req : WithdrawRequest) (sms : Except RepoError Bool) (fault : Fault) :
    SettlementTable × Except RepoError Settlement :=
  match sms with
  | .error e => (t, .error e)
  | .ok false => (t, .error errInvalidSMS)
  | .ok true =>
    if hasPendingOrProcessingWithdraw t supplierID then (t, .error errWithdrawAlreadyProcessing)
    else if req.amount ≤ 0 then (t, .error errAmountNotPositive)
    else if req.amount > fromNumeric (getWithdrawableBalance accounts supplierID) then
      (t, .error errExceedsBalance)
    else createWithdrawTx t (newWithdrawal supplierID req now) id now fault

/-- `Cancel` from its update on. -/
def updateAndRead (t : SettlementTable) (failed : Settlement) (expectedVersion : Int) (now : Time)
    (supplierID id : Int) : SettlementTable × Except RepoError Settlement :=
  match update t failed expectedVersion now with
  | (t', .error e) => (t', .error e)
  | (t', .ok ()) => (t', getByID t' supplierID id)

def cancel (t : SettlementTable) (now : Time) (supplierID id : Int) :
    SettlementTable × Except RepoError Settlement :=
  match getByID t supplierID id with
  | .error e => (t, .error e)
  | .ok settlement =>
    match cancelled settlement now with
    | .error e => (t, .error e)
    | .ok failed => updateAndRead t failed settlement.version now supplierID id

/-- What calls that follow one another see and change. -/
structure Ledger where
  table : SettlementTable
  accounts : List AccountRow
  now : Time
  lastID : Int

inductive Ledger.Action
  | tick (elapsed : Nat)
  | withdraw (supplierID : Int) (req : WithdrawRequest) (sms : Except RepoError Bool) (id : Int)
      (fault : Fault)
  | cancel (supplierID id : Int)
  | update (settlement : Settlement) (expectedVersion : Int)

/-- The moves of a settlement that is paid out. -/
def advances : SettlementStatus → SettlementStatus → Bool
  | .pending, .processing => true
  | .processing, .completed => true
  | _, _ => false

/-- One whole call; none writes the accounts. An `Update` is enabled when the row it writes, if any,
moves on to be paid. -/
def Ledger.step (l : Ledger) : Ledger.Action → Option Ledger
  | .tick elapsed => some { l with now := l.now + elapsed }
  | .withdraw supplierID req sms id fault =>
    if l.lastID < id then
      some { l with table := (Settlements.withdraw l.table l.accounts l.now id supplierID req sms
                      fault).1,
                    lastID := id }
    else none
  | .cancel supplierID id =>
    some { l with table := (Settlements.cancel l.table l.now supplierID id).1 }
  | .update settlement expectedVersion =>
    if ∀ r ∈ l.table.rows, updates settlement expectedVersion r →
        advances r.status settlement.status then
      some { l with table := (Settlements.update l.table settlement expectedVersion l.now).1 }
    else none

def Ledger.start (t : SettlementTable) (accounts : List AccountRow) (now : Time) : Ledger :=
  { table := t, accounts := accounts, now := now, lastID := (t.rows.map (·.id)).foldr max 0 }

/-- What a settlement takes out of a supplier's balance. -/
def share (u : Int) (r : SettlementRow) : Int :=
  if r.userID = u ∧ r.status ≠ .failed then r.totalAmount else 0

def withdrawn (t : SettlementTable) (u : Int) : Int := (t.rows.map (share u)).sum

/-- A supplier's settlements that have not failed are covered by the balance. -/
def Within (u : Int) (l : Ledger) : Prop :=
  withdrawn l.table u ≤ getWithdrawableBalance l.accounts u

/-- The checks `Withdraw` and `CreateWithdrawTx` make, passed with `row` to be written. -/
structure Ledger.Accepts (l : Ledger) (supplierID : Int) (req : WithdrawRequest)
    (sms : Except RepoError Bool) (id : Int) (row : SettlementRow) : Prop where
  verified : sms = .ok true
  closed : hasPendingOrProcessingWithdraw l.table supplierID = false
  positive : 0 < req.amount
  available : req.amount ≤ fromNumeric (getWithdrawableBalance l.accounts supplierID)
  encoded : withdrawalRow (newWithdrawal supplierID req l.now) id l.now = .ok row
  unique : ∀ q ∈ l.table.rows, Apart q row

/-- The check that is missing: an accepted withdrawal fits into what earlier ones have left. A
cancelled settlement of a negative amount, which no withdrawal writes, would have to leave room. -/
def Covered (u : Int) (l : Ledger) : Ledger.Action → Prop
  | .withdraw supplierID req sms id fault => supplierID = u → fault ≠ .unapplied →
      ∀ row, l.Accepts supplierID req sms id row →
        withdrawn l.table u + row.totalAmount ≤ getWithdrawableBalance l.accounts u
  | .cancel supplierID id => supplierID = u →
      ∀ r ∈ l.table.rows, r.id = id → r.userID = u → r.status = .pending →
        withdrawn l.table u ≤ getWithdrawableBalance l.accounts u + r.totalAmount
  | _ => True

theorem createWithdrawTx_table {t : SettlementTable} (settlement : Settlement) (id : Int) (now : Time)
    (fault : Fault) (hopen : hasPendingOrProcessingWithdraw t settlement.supplierID = false) :
    (∃ row, withdrawalRow settlement id now = .ok row ∧ (∀ q ∈ t.rows, Apart q row) ∧
      fault ≠ .unapplied ∧ (createWithdrawTx t settlement id now fault).1.rows = t.rows ++ [row]) ∨
    ((createWithdrawTx t settlement id now fault).1 = t ∧
      (fault = .unapplied ∨ ∀ row, withdrawalRow settlement id now = .ok row →
        ¬∀ q ∈ t.rows, Apart q row)) := by
  have hnone : t.rows.find? (openFor settlement.supplierID) = none := by
    rw [List.find?_eq_none]
    intro r hr
    simpa using List.any_eq_false.mp hopen r hr
  unfold createWithdrawTx
  simp only [hnone]
  cases hrow : withdrawalRow settlement id now with
  | error e => exact .inr ⟨rfl, .inr (fun _ h => by simp at h)⟩
  | ok row =>
    simp only
    cases hins : t.insert row with
    | none =>
      refine .inr ⟨rfl, .inr (fun q hq hapart => ?_)⟩
      cases Except.ok.inj hq
      obtain ⟨x, hx, hnot⟩ : ∃ x ∈ t.rows, ¬Apart x row := by simpa [Table.insert] using hins
      exact hnot (hapart x hx)
    | some t' =>
      obtain ⟨hrows, hapart⟩ := Table.rows_of_insert hins
      cases fault with
      | none => exact .inl ⟨row, rfl, hapart, by simp, hrows⟩
      | applied => exact .inl ⟨row, rfl, hapart, by simp, hrows⟩
      | unapplied => exact .inr ⟨rfl, .inl rfl⟩

/-- A withdrawal writes its row exactly when it is accepted and its commit goes through. -/
theorem withdraw_table (l : Ledger) (supplierID : Int) (req : WithdrawRequest)
    (sms : Except RepoError Bool) (id : Int) (fault : Fault) :
    (∃ row, l.Accepts supplierID req sms id row ∧ fault ≠ .unapplied ∧
      (withdraw l.table l.accounts l.now id supplierID req sms fault).1.rows =
        l.table.rows ++ [row]) ∨
    ((withdraw l.table l.accounts l.now id supplierID req sms fault).1 = l.table ∧
      (fault = .unapplied ∨ ∀ row, ¬l.Accepts supplierID req sms id row)) := by
  unfold withdraw
  split
  next => exact .inr ⟨rfl, .inr (fun _ h => by simpa using h.verified)⟩
  next => exact .inr ⟨rfl, .inr (fun _ h => by simpa using h.verified)⟩
  next =>
    split
    next hopen => exact .inr ⟨rfl, .inr (fun _ h => by simp [h.closed] at hopen)⟩
    next hopen =>
      split
      next hneg => exact .inr ⟨rfl, .inr (fun _ h => absurd h.positive (not_lt.mpr hneg))⟩
      next hpos =>
        split
        next hover => exact .inr ⟨rfl, .inr (fun _ h => absurd h.available (not_le.mpr hover))⟩
        next hbal =>
          have hclosed : hasPendingOrProcessingWithdraw l.table supplierID = false := by
            simpa using hopen
          rcases createWithdrawTx_table (newWithdrawal supplierID req l.now) id l.now fault hclosed with
            ⟨row, hrow, hapart, hfault, hrows⟩ | ⟨hsame, hwhy⟩
          · exact .inl ⟨row, ⟨rfl, hclosed, not_le.mp hpos, not_lt.mp hbal, hrow, hapart⟩, hfault,
              hrows⟩
          · refine .inr ⟨hsame, hwhy.imp_right (fun h row hacc => ?_)⟩
            exact h row hacc.encoded hacc.unique

theorem withdrawn_append {t t' : SettlementTable} {row : SettlementRow} {u : Int}
    (h : t'.rows = t.rows ++ [row]) : withdrawn t' u = withdrawn t u + share u row := by
  simp [withdrawn, h]

theorem Ledger.Accepts.share_row {l : Ledger} {supplierID : Int} {req : WithdrawRequest}
    {sms : Except RepoError Bool} {id : Int} {row : SettlementRow}
    (h : l.Accepts supplierID req sms id row) (u : Int) :
    share u row = if supplierID = u then row.totalAmount else 0 := by
  obtain ⟨howner, hstatus, _, _⟩ := withdrawalRow_ok h.encoded
  have hs : row.status = .pending := hstatus
  have ho : row.userID = supplierID := howner
  simp [share, hs, ho]

theorem rows_update (t : SettlementTable) (s : Settlement) (v : Int) (now : Time) :
    (update t s v now).1.rows =
      t.rows.map (fun r => if updates s v r then updatedRow s v now r else r) := rfl

/-- A settlement on its way to being paid takes as much out of the balance as before. -/
theorem withdrawn_advance {t : SettlementTable} {s : Settlement} {v : Int} {now : Time} {u : Int}
    (h : ∀ r ∈ t.rows, updates s v r → advances r.status s.status) :
    withdrawn (update t s v now).1 u = withdrawn t u := by
  unfold withdrawn
  rw [rows_update, List.map_map]
  refine congrArg List.sum (List.map_congr_left (fun r hr => ?_))
  show share u (if updates s v r then updatedRow s v now r else r) = share u r
  split
  next hu =>
    have hadv := h r hr hu
    have hlive : r.status ≠ .failed ∧ s.status ≠ .failed := by
      constructor <;> intro hf <;> cases hr : r.status <;> simp_all [advances]
    simp [share, updatedRow, hlive]
  next => rfl

/-- The row that `GetByID` reads is the only one with its id. -/
theorem getByID_ok {t : SettlementTable} {supplierID id : Int} {settlement : Settlement}
    (h : getByID t supplierID id = .ok settlement) :
    ∃ r ∈ t.rows, r.id = id ∧ r.userID = supplierID ∧ settlement = decodeSettlement r := by
  unfold getByID at h
  split at h
  next r hf =>
    obtain ⟨hr, hid, hown⟩ := of_find?_and hf
    exact ⟨r, hr, hid, hown, (Except.ok.inj h).symm⟩
  next => simp at h

theorem getByID_error {t : SettlementTable} {supplierID id : Int} {e : RepoError}
    (h : getByID t supplierID id = .error e) :
    ∀ r ∈ t.rows, ¬(r.id = id ∧ r.userID = supplierID) := by
  unfold getByID at h
  split at h
  next => simp at h
  next hf =>
    intro r hr hp
    have hnot := List.find?_eq_none.mp hf r hr
    simp [hp] at hnot

theorem rows_nodup (t : SettlementTable) : t.rows.Nodup :=
  t.unique.imp (fun h heq => h.1 (congrArg SettlementRow.id heq))

/-- A failed settlement gives back what it took. -/
theorem withdrawn_fail {t : SettlementTable} {r : SettlementRow} (hr : r ∈ t.rows) {failed : Settlement}
    (hid : failed.id = r.id) (hown : failed.supplierID = r.userID) (hst : failed.status = .failed)
    {now : Time} {u : Int} :
    withdrawn (update t failed r.version now).1 u = withdrawn t u - share u r := by
  have hrest : ∀ q ∈ t.rows, q ≠ r →
      share u (if updates failed r.version q then updatedRow failed r.version now q else q) =
        share u q := by
    intro q hq hne
    have hqr : q.id ≠ r.id := fun heq => hne (row_eq_of_id hq hr heq)
    have hnot : updates failed r.version q = false := by simp [updates, hid, hqr]
    simp [hnot]
  have hself : share u (if updates failed r.version r then updatedRow failed r.version now r else r) =
      0 := by
    simp [updates, hid, hown, share, updatedRow, hst]
  unfold withdrawn
  rw [rows_update, sum_map_of_change (rows_nodup t) hr hrest, hself, add_zero]

theorem cancel_table {t : SettlementTable} {now : Time} {supplierID id : Int}
    {settlement failed : Settlement} (hget : getByID t supplierID id = .ok settlement)
    (hc : cancelled settlement now = .ok failed) :
    (cancel t now supplierID id).1 = (update t failed settlement.version now).1 := by
  simp only [cancel, hget, hc, updateAndRead]
  split <;> simp_all

/-- `Cancel` gives back a pending settlement and changes no other sum. -/
theorem withdrawn_cancel (t : SettlementTable) (now : Time) (supplierID id u : Int) :
    (∃ r ∈ t.rows, r.id = id ∧ r.userID = supplierID ∧ r.status = .pending ∧
      withdrawn (cancel t now supplierID id).1 u = withdrawn t u - share u r) ∨
    ((∀ r ∈ t.rows, r.id = id → r.userID = supplierID → r.status ≠ .pending) ∧
      withdrawn (cancel t now supplierID id).1 u = withdrawn t u) := by
  cases hget : getByID t supplierID id with
  | error e =>
    refine .inr ⟨fun r hr hid hown _ => ?_, by simp only [cancel, hget]⟩
    exact getByID_error hget r hr ⟨hid, hown⟩
  | ok settlement =>
    obtain ⟨r, hr, hid, hown, rfl⟩ := getByID_ok hget
    have hsole : ∀ q ∈ t.rows, q.id = id → q = r := fun q hq hqid =>
      row_eq_of_id hq hr (hqid.trans hid.symm)
    cases hc : cancelled (decodeSettlement r) now with
    | error e =>
      refine .inr ⟨fun q hq hqid _ hpending => ?_, by simp only [cancel, hget, hc]⟩
      rw [hsole q hq hqid] at hpending
      simp [cancelled, decodeSettlement, hpending] at hc
    | ok failed =>
      obtain ⟨hfailed, hst⟩ := cancelled_ok hc
      have hsum : withdrawn (update t failed r.version now).1 u = withdrawn t u - share u r :=
        withdrawn_fail hr (by rw [hfailed]; rfl) (by rw [hfailed]; rfl) (by rw [hfailed])
      rw [cancel_table hget hc]
      rcases hst with hpending | hdone
      · exact .inl ⟨r, hr, hid, hown, hpending, hsum⟩
      · have hstatus : r.status = .failed := hdone
        refine .inr ⟨fun q hq hqid _ hpending => ?_, ?_⟩
        · rw [hsole q hq hqid, hstatus] at hpending
          cases hpending
        · have hnone : share u r = 0 := by simp [share, hstatus]
          exact hsum.trans (by rw [hnone, sub_zero])

theorem Ledger.within_withdraw {l : Ledger} {u : Int} (hw : Within u l) (supplierID : Int)
    (req : WithdrawRequest) (sms : Except RepoError Bool) (id : Int) (fault : Fault) :
    withdrawn (Settlements.withdraw l.table l.accounts l.now id supplierID req sms fault).1 u ≤
        getWithdrawableBalance l.accounts u ↔
      Covered u l (.withdraw supplierID req sms id fault) := by
  rcases withdraw_table l supplierID req sms id fault with ⟨row, hacc, hfault, hrows⟩ | ⟨hsame, hwhy⟩
  · have honly : ∀ q, l.Accepts supplierID req sms id q → q = row := fun q hq =>
      Except.ok.inj (hq.encoded.symm.trans hacc.encoded)
    rw [withdrawn_append hrows, hacc.share_row]
    by_cases hu : supplierID = u
    · rw [if_pos hu]
      exact ⟨fun h _ _ q hq => honly q hq ▸ h, fun h => h hu hfault row hacc⟩
    · rw [if_neg hu, add_zero]
      exact iff_of_true hw (fun heq => absurd heq hu)
  · rw [hsame]
    refine iff_of_true hw (fun _ hfault row hacc => ?_)
    rcases hwhy with hlost | hnone
    · exact absurd hlost hfault
    · exact absurd hacc (hnone row)

theorem Ledger.within_cancel {l : Ledger} {u : Int} (hw : Within u l) (supplierID id : Int) :
    withdrawn (Settlements.cancel l.table l.now supplierID id).1 u ≤
        getWithdrawableBalance l.accounts u ↔ Covered u l (.cancel supplierID id) := by
  rcases withdrawn_cancel l.table l.now supplierID id u with
    ⟨r, hr, hid, hown, hpending, hsum⟩ | ⟨hnone, hsum⟩
  · rw [hsum]
    by_cases hu : supplierID = u
    · have hshare : share u r = r.totalAmount := by simp [share, hown, hu, hpending]
      rw [hshare]
      constructor
      · intro h _ q hq hqid _ _
        rw [row_eq_of_id hq hr (hqid.trans hid.symm)]
        omega
      · intro h
        have hroom := h hu r hr hid (hown.trans hu) hpending
        omega
    · have hshare : share u r = 0 := by simp [share, hown, hu]
      rw [hshare, sub_zero]
      exact iff_of_true hw (fun heq => absurd heq hu)
  · rw [hsum]
    exact iff_of_true hw (fun hu q hq hqid hown hpending =>
      absurd hpending (hnone q hq hqid (hown.trans hu.symm)))

/-- A step leaves a covered supplier covered exactly when the step is. -/
theorem Ledger.within_step {l l' : Ledger} {a : Ledger.Action} {u : Int} (hw : Within u l)
    (hs : l.step a = some l') : Within u l' ↔ Covered u l a := by
  cases a with
  | tick elapsed =>
    cases Option.some.inj hs
    exact iff_of_true hw trivial
  | withdraw supplierID req sms id fault =>
    simp only [Ledger.step] at hs
    split at hs
    next => cases Option.some.inj hs; exact within_withdraw hw supplierID req sms id fault
    next => simp at hs
  | cancel supplierID id =>
    cases Option.some.inj hs
    exact within_cancel hw supplierID id
  | update settlement v =>
    simp only [Ledger.step] at hs
    split at hs
    next hadv =>
      cases Option.some.inj hs
      refine iff_of_true ?_ trivial
      show withdrawn (Settlements.update l.table settlement v l.now).1 u ≤ _
      rw [withdrawn_advance hadv]
      exact hw
    next => simp at hs

/-- In a run of one call after another, a supplier's settlements stay covered by the balance exactly
when they are covered at the start and each withdrawal fits into what the earlier ones have left. -/
theorem withdrawn_within_balance_iff (u : Int) (t : SettlementTable) (accounts : List AccountRow)
    (now : Time) (actions : List Ledger.Action) :
    Transition.Throughout Ledger.step (Within u) (Ledger.start t accounts now) actions ↔
      withdrawn t u ≤ getWithdrawableBalance accounts u ∧
        Transition.EachStep Ledger.step (Covered u) (Ledger.start t accounts now) actions := by
  have hrun : Within u (Ledger.start t accounts now) → (Transition.Throughout Ledger.step (Within u)
      (Ledger.start t accounts now) actions ↔
        Transition.EachStep Ledger.step (Covered u) (Ledger.start t accounts now) actions) := fun h0 =>
    Transition.throughout_iff_eachStep
      (fun _ _ _ hw hc hs => (Ledger.within_step hw hs).mpr hc) (fun _ hw => hw)
      (fun _ _ _ hw hc hs hw' => hc ((Ledger.within_step hw hs).mp hw')) h0 actions
  exact ⟨fun h => ⟨h.start, (hrun h.start).mp h⟩, fun ⟨h0, h⟩ => (hrun h0).mpr h⟩

/-- The first settlement of `sampleWithdraw`, on its way to being paid. -/
def samplePaid (status : SettlementStatus) : Settlement :=
  { newWithdrawal 1 sampleWithdraw 0 with id := 1, status := status }

/-- Once 60 out of 100 have been paid, the balance is still 100 and 60 are paid again. -/
theorem balance_paid_twice_counterexample :
    ∃ l, Transition.Reach Ledger.step Transition.anyStep
        (Ledger.start Table.empty sampleAccounts 0) l ∧
      withdrawn l.table 1 = 120000000 ∧ getWithdrawableBalance l.accounts 1 = 100000000 ∧
      ¬Within 1 l := by
  have hrun : (Transition.exec Ledger.step (Ledger.start Table.empty sampleAccounts 0)
      [.withdraw 1 sampleWithdraw (.ok true) 1 .none, .update (samplePaid .processing) 0,
        .update (samplePaid .completed) 1, .tick 1000000000,
        .withdraw 1 sampleWithdraw (.ok true) 2 .none]).map
        (fun l => (withdrawn l.table 1, getWithdrawableBalance l.accounts 1)) =
      some (120000000, 100000000) := by
    decide +kernel
  obtain ⟨l, hl, hsums⟩ := Option.map_eq_some_iff.mp hrun
  obtain ⟨hout, hbalance⟩ := Prod.mk.inj hsums
  refine ⟨l, Transition.reach_of_exec hl, hout, hbalance, fun hw => ?_⟩
  unfold Within at hw
  omega

end SupplyPlatform.Settlements
