import SupplyPlatform.SettlementLedger

namespace SupplyPlatform.Settlements

open Relational

/-- A state of the interleaved calls in which none is under way, seen as the ledger it stands for. -/
structure Serves (s : State) (l : Ledger) : Prop where
  table : s.table = l.table
  accounts : s.accounts = l.accounts
  now : s.now = l.now
  lastID : s.lastID ≤ l.lastID
  bounded : ∀ r ∈ s.table.rows, r.id ≤ s.lastID
  ready : ∀ n, s.call n = .idle ∨ ∃ result, s.call n = .done result
  locks : s.locks = []
  numbers : s.numbers = []

def Ledger.Action.isCall : Ledger.Action → Bool
  | .update _ _ => false
  | _ => true

theorem Serves.inside {s : State} {l : Ledger} (h : Serves s l) (n : Nat) :
    (s.call n).inside = none := by
  rcases h.ready n with hn | ⟨result, hn⟩ <;> rw [hn] <;> rfl

/-- Call `n` has been answered and nothing else is left of it. -/
theorem Serves.answer {s s' : State} {l : Ledger} (h : Serves s l) {n : Nat} {id : Int}
    {result : Except RepoError Settlement} (hcall : s'.call = (s.setCall n (.done result)).call)
    (haccounts : s'.accounts = s.accounts) (hnow : s'.now = s.now) (hid : s'.lastID ≤ id)
    (hb : ∀ r ∈ s'.table.rows, r.id ≤ s'.lastID) (hl : s'.locks = []) (hn : s'.numbers = []) :
    Serves s' { l with table := s'.table, lastID := id } := by
  refine ⟨rfl, haccounts.trans h.accounts, hnow.trans h.now, hid, hb, fun m => ?_, hl, hn⟩
  rw [hcall]
  by_cases hm : m = n
  · subst m
    exact .inr ⟨result, setCall_self _ _ _⟩
  · rw [call_set hm]
    exact h.ready m

theorem Serves.refuse {s : State} {l : Ledger} (h : Serves s l) {id : Int} (hid : l.lastID ≤ id)
    (n : Nat) (result : Except RepoError Settlement) :
    Serves (s.setCall n (.done result)) { l with table := s.table, lastID := id } := by
  refine h.answer (n := n) rfl rfl rfl ?_ h.bounded h.locks h.numbers
  exact le_trans h.lastID hid

/-- With no other transaction open, the locking SELECT sees every open row and finds none. -/
theorem Serves.lockOpen {s : State} {l : Ledger} (h : Serves s l) {n : Nat} {settlement : Settlement}
    (hclosed : hasPendingOrProcessingWithdraw s.table settlement.supplierID = false) :
    Transition.Reach step Alone (s.setCall n (.begin_ settlement)) (s.setCall n (.insert settlement)) := by
  have hbegin : step (s.setCall n (.begin_ settlement)) (.begin_ n) =
      some (s.setCall n (.lockOpen settlement)) := by
    simp [step]
  have hnone : s.table.rows.filter (fun r => openFor settlement.supplierID r &&
      lockable (s.setCall n (.lockOpen settlement)) n r) = [] := by
    rw [List.filter_eq_nil_iff]
    intro r hr
    have hr' : openFor settlement.supplierID r = false := by
      simpa using List.any_eq_false.mp hclosed r hr
    simp [hr']
  have hlock : step (s.setCall n (.lockOpen settlement)) (.lockOpen n []) =
      some (s.setCall n (.insert settlement)) := by
    have hrows : (s.setCall n (.lockOpen settlement)).table = s.table := rfl
    simp [step, hrows, hnone]
  have halone : Alone (s.setCall n (.lockOpen settlement)) (.lockOpen n []) := by
    intro settlement' _ m hm
    rw [call_set hm, h.inside m]
    simp
  exact ((Transition.Reach.refl _).next (a := .begin_ n) trivial hbegin).next halone hlock

/-- A fresh id leaves the settlement number as the only thing an INSERT can collide on. -/
theorem insert_eq_none_iff {t : SettlementTable} {row : SettlementRow}
    (hfresh : ∀ r ∈ t.rows, r.id < row.id) :
    t.insert row = none ↔ t.rows.any (fun r => r.settlementNo = row.settlementNo) := by
  have hid : ∀ r ∈ t.rows, r.id ≠ row.id := fun r hr => ne_of_lt (hfresh r hr)
  simp only [Table.insert, dite_eq_right_iff, reduceCtorEq, List.any_eq_true, decide_eq_true_eq]
  constructor
  · intro hnot
    by_contra hno
    exact hnot (fun q hq => ⟨hid q hq, fun heq => hno ⟨q, hq, heq⟩⟩)
  · rintro ⟨q, hq, heq⟩ hapart
    exact (hapart q hq).2 heq

theorem withdrawalRow_id {settlement : Settlement} {id : Int} {now : Time} {row : SettlementRow}
    (h : withdrawalRow settlement id now = .ok row) : row.id = id := by
  unfold withdrawalRow at h
  split at h
  next => cases Except.ok.inj h; rfl
  all_goals simp at h

/-- The COMMIT of call `n`, the only one under way. -/
theorem Serves.commit {s : State} {l : Ledger} (h : Serves s l) (n : Nat) (settlement : Settlement)
    {id : Int} {row : SettlementRow} {t : SettlementTable} (hinsert : s.table.insert row = some t)
    (hold : ∀ r ∈ s.table.rows, r.id ≤ id) (hnew : ∀ r ∈ t.rows, r.id ≤ id) (fault : Fault) :
    ∃ s', Transition.Reach step Alone
        ({ s with lastID := id, numbers := [(n, row.settlementNo)] }.setCall n
          (.commit settlement row)) s' ∧
      s'.call n = .done (commitTx s.table t (settlement.created row) fault).2 ∧
      Serves s' { l with table := (commitTx s.table t (settlement.created row) fault).1,
                         lastID := id } := by
  let s₂ := { s with lastID := id, numbers := [(n, row.settlementNo)] }.setCall n
    (.commit settlement row)
  have hstart : Transition.Reach step Alone s₂ s₂ := Transition.Reach.refl s₂
  have hcall : s₂.call n = .commit settlement row := setCall_self _ _ _
  have htable : s₂.table.insert row = some t := hinsert
  have hcommit : ∀ {s' : State}, step s₂ (.commit n fault) = some s' →
      Transition.Reach step Alone s₂ s' := fun hs =>
    hstart.next (a := Action.commit n fault) trivial hs
  have hfinish : ∀ t' result, (∀ r ∈ t'.rows, r.id ≤ id) →
      Serves (({ s₂ with table := t' }.endTx n).setCall n (.done result))
        { l with table := t', lastID := id } := by
    intro t' result hb
    have hdone : (({ s₂ with table := t' }.endTx n).setCall n (.done result)).call =
        (s.setCall n (.done result)).call := by simp [s₂, State.endTx, State.setCall]
    refine h.answer hdone rfl rfl le_rfl hb ?_ ?_
    · simp [s₂, State.endTx, State.setCall, h.locks]
    · simp [s₂, State.endTx, State.setCall]
  cases fault with
  | none =>
    have hs : step s₂ (.commit n .none) = some (({ s₂ with table := t }.endTx n).setCall n
        (.done (.ok (settlement.created row)))) := by simp only [step, hcall, htable]
    exact ⟨_, hcommit hs, setCall_self _ _ _, hfinish t _ hnew⟩
  | applied =>
    have hs : step s₂ (.commit n .applied) = some (({ s₂ with table := t }.endTx n).setCall n
        (.done (.error errCommit))) := by simp only [step, hcall, htable, errCommit]
    exact ⟨_, hcommit hs, setCall_self _ _ _, hfinish t _ hnew⟩
  | unapplied =>
    have hs : step s₂ (.commit n .unapplied) = some ((s₂.endTx n).setCall n
        (.done (.error errCommit))) := by simp only [step, hcall, errCommit]
    exact ⟨_, hcommit hs, setCall_self _ _ _, hfinish s.table _ hold⟩

/-- `CreateWithdrawTx` as a run of its statements, call `n` being the only one under way. -/
theorem Serves.createWithdrawTx {s : State} {l : Ledger} (h : Serves s l) (n : Nat)
    (settlement : Settlement) {id : Int} (hid : l.lastID < id) (fault : Fault)
    (hclosed : hasPendingOrProcessingWithdraw s.table settlement.supplierID = false) :
    ∃ s', Transition.Reach step Alone (s.setCall n (.begin_ settlement)) s' ∧
      s'.call n = .done (createWithdrawTx s.table settlement id s.now fault).2 ∧
      Serves s' { l with table := (createWithdrawTx s.table settlement id s.now fault).1,
                         lastID := id } := by
  have hopen := h.lockOpen (n := n) hclosed
  have hnone : s.table.rows.find? (openFor settlement.supplierID) = none := by
    rw [List.find?_eq_none]
    intro r hr
    simpa using List.any_eq_false.mp hclosed r hr
  have hlast : s.lastID < id := lt_of_le_of_lt h.lastID hid
  have hold : ∀ r ∈ s.table.rows, r.id < id := fun r hr => lt_of_le_of_lt (h.bounded r hr) hlast
  have hguard : (s.setCall n (.insert settlement)).lastID < id ∧
      ¬(s.setCall n (.insert settlement)).numbers.any (fun l => l.2 = settlement.settlementNo) :=
    ⟨hlast, by simp [State.setCall, h.numbers]⟩
  cases hrow : withdrawalRow settlement id s.now with
  | error e =>
    have hins : step (s.setCall n (.insert settlement)) (.insert n id) =
        some (s.setCall n (.done (.error (errCreate e)))) := by
      simp only [step, setCall_self, if_pos hguard]
      simp [State.endTx, State.setCall, hrow, h.locks, h.numbers]
    simp only [Settlements.createWithdrawTx, hnone, hrow]
    exact ⟨_, hopen.next (a := .insert n id) trivial hins, setCall_self _ _ _,
      h.refuse (le_of_lt hid) n _⟩
  | ok row =>
    have hfresh : ∀ r ∈ s.table.rows, r.id < row.id := fun r hr => withdrawalRow_id hrow ▸ hold r hr
    cases hinsert : s.table.insert row with
    | none =>
      have hany := (insert_eq_none_iff hfresh).mp hinsert
      have hins : step (s.setCall n (.insert settlement)) (.insert n id) =
          some ({ s with lastID := id }.setCall n (.done (.error (errCreate .uniqueViolation)))) := by
        simp only [step, setCall_self, if_pos hguard]
        simp only [State.endTx, State.setCall, hrow, hany, h.locks, h.numbers]
        simp
      simp only [Settlements.createWithdrawTx, hnone, hrow, hinsert]
      refine ⟨_, hopen.next (a := .insert n id) trivial hins, setCall_self _ _ _, ?_⟩
      refine h.answer (n := n) rfl rfl rfl le_rfl ?_ h.locks h.numbers
      exact fun r hr => le_of_lt (hold r hr)
    | some t =>
      have hany : ¬s.table.rows.any (fun r => r.settlementNo = row.settlementNo) := fun hany => by
        simp [(insert_eq_none_iff hfresh).mpr hany] at hinsert
      have hins : step (s.setCall n (.insert settlement)) (.insert n id) =
          some ({ s with lastID := id, numbers := [(n, row.settlementNo)] }.setCall n
            (.commit settlement row)) := by
        simp only [step, setCall_self, if_pos hguard]
        simp only [State.setCall, hrow, if_neg hany, h.numbers]
        simp
      have hnew : ∀ r ∈ t.rows, r.id ≤ id := by
        intro r hr
        rcases (Table.mem_of_insert hinsert).mp hr with hr | rfl
        · exact le_of_lt (hold r hr)
        · exact le_of_eq (withdrawalRow_id hrow)
      obtain ⟨s', hreach, hdone, hserves⟩ := h.commit n settlement hinsert
        (fun r hr => le_of_lt (hold r hr)) hnew fault
      simp only [Settlements.createWithdrawTx, hnone, hrow, hinsert]
      exact ⟨s', (hopen.next (a := Action.insert n id) trivial hins).trans hreach, hdone, hserves⟩

/-- `Withdraw` as a run of its statements. -/
theorem Serves.withdraw {s : State} {l : Ledger} (h : Serves s l) (n : Nat) (supplierID : Int)
    (req : WithdrawRequest) (sms : Except RepoError Bool) {id : Int} (hid : l.lastID < id)
    (fault : Fault) :
    ∃ s', Transition.Reach step Alone s s' ∧
      s'.call n =
        .done (Settlements.withdraw s.table s.accounts s.now id supplierID req sms fault).2 ∧
      Serves s' { l with table := (Settlements.withdraw s.table s.accounts s.now id supplierID req sms
                           fault).1,
                         lastID := id } := by
  have hrefuse : ∀ {err : RepoError}, Transition.Reach step Alone s (s.setCall n (.done (.error err))) →
      ∃ s', Transition.Reach step Alone s s' ∧ s'.call n = .done (.error err) ∧
        Serves s' { l with table := s.table, lastID := id } := fun hr =>
    ⟨_, hr, setCall_self _ _ _, h.refuse (le_of_lt hid) n _⟩
  have hcalled : step s (.withdraw n supplierID req sms) =
      some (s.setCall n (verified supplierID req sms)) := by
    rcases h.ready n with hn | ⟨result, hn⟩ <;> simp only [step, hn]
  have hstart : Transition.Reach step Alone s s := Transition.Reach.refl s
  have hverified := hstart.next (a := Action.withdraw n supplierID req sms) trivial hcalled
  unfold Settlements.withdraw
  cases sms with
  | error e => exact hrefuse hverified
  | ok valid =>
    cases valid with
    | false => exact hrefuse hverified
    | true =>
      have hpending := hverified.next (a := Action.hasPending n) trivial
        (u := s.setCall n (pendingChecked supplierID req
          (hasPendingOrProcessingWithdraw s.table supplierID))) (by simp [step, verified]; rfl)
      simp only
      split
      next hopen =>
        rw [hopen] at hpending
        exact hrefuse hpending
      next hopen =>
        have hclosed : hasPendingOrProcessingWithdraw s.table supplierID = false := by simpa using hopen
        rw [hclosed] at hpending
        split
        next hneg =>
          rw [show pendingChecked supplierID req false = _ from if_pos hneg] at hpending
          exact hrefuse hpending
        next hpos =>
          rw [show pendingChecked supplierID req false = _ from if_neg hpos] at hpending
          have hbalance := hpending.next (a := Action.balance n) trivial
            (u := s.setCall n (balanceChecked supplierID req
              (getWithdrawableBalance s.accounts supplierID) s.now)) (by simp [step]; rfl)
          split
          next hover =>
            rw [show balanceChecked supplierID req _ s.now = _ from if_pos hover] at hbalance
            exact hrefuse hbalance
          next hwithin =>
            rw [show balanceChecked supplierID req _ s.now = _ from if_neg hwithin] at hbalance
            obtain ⟨s', hreach, hdone, hserves⟩ :=
              h.createWithdrawTx n (newWithdrawal supplierID req s.now) hid fault hclosed
            exact ⟨s', hbalance.trans hreach, hdone, hserves⟩

/-- The UPDATE of `Cancel` and the read that follows it. -/
theorem Serves.update {s : State} {l : Ledger} (h : Serves s l) (n : Nat) (failed : Settlement)
    (v : Int) :
    ∃ s', Transition.Reach step Alone (s.setCall n (.update failed v)) s' ∧
      s'.call n = .done (updateAndRead s.table failed v s.now failed.supplierID failed.id).2 ∧
      Serves s' { l with table := (updateAndRead s.table failed v s.now failed.supplierID
                           failed.id).1 } := by
  unfold updateAndRead
  have hstart : Transition.Reach step Alone (s.setCall n (.update failed v))
      (s.setCall n (.update failed v)) := Transition.Reach.refl _
  cases hupd : Settlements.update s.table failed v s.now with
  | mk t result =>
    have hb : ∀ r ∈ t.rows, r.id ≤ s.lastID := by
      have ht : t = (Settlements.update s.table failed v s.now).1 := by rw [hupd]
      intro r hr
      rw [ht, rows_update] at hr
      obtain ⟨q, hq, rfl⟩ := List.mem_map.mp hr
      split
      · exact h.bounded q hq
      · exact h.bounded q hq
    have hfinish : ∀ answer, Serves ({ s with table := t }.setCall n (.done answer))
        { l with table := t } := fun answer =>
      h.answer (n := n) rfl rfl rfl h.lastID hb h.locks h.numbers
    cases result with
    | error e =>
      have hwritten : step (s.setCall n (.update failed v)) (.update n) =
          some ({ s with table := t }.setCall n (.done (.error e))) := by
        simp only [step, setCall_self]
        simp [State.setCall, hupd, h.locks]
      exact ⟨_, hstart.next (a := Action.update n) trivial hwritten, setCall_self _ _ _, hfinish _⟩
    | ok =>
      have hwritten : step (s.setCall n (.update failed v)) (.update n) =
          some ({ s with table := t }.setCall n (.reread failed.supplierID failed.id)) := by
        simp only [step, setCall_self]
        simp [State.setCall, hupd, h.locks]
      have hread : step ({ s with table := t }.setCall n (.reread failed.supplierID failed.id))
          (.reread n) = some ({ s with table := t }.setCall n
            (.done (getByID t failed.supplierID failed.id))) := by
        simp only [step, setCall_self]
        simp [State.setCall]
      exact ⟨_, (hstart.next (a := Action.update n) trivial hwritten).next
        (a := Action.reread n) trivial hread, setCall_self _ _ _, hfinish _⟩

/-- `Cancel` as a run of its statements. -/
theorem Serves.cancel {s : State} {l : Ledger} (h : Serves s l) (n : Nat) (supplierID id : Int) :
    ∃ s', Transition.Reach step Alone s s' ∧
      s'.call n = .done (Settlements.cancel s.table s.now supplierID id).2 ∧
      Serves s' { l with table := (Settlements.cancel s.table s.now supplierID id).1 } := by
  have hstart : Transition.Reach step Alone s s := Transition.Reach.refl s
  have hcancel : ∀ {s' : State}, step s (.cancel n supplierID id) = some s' →
      Transition.Reach step Alone s s' := fun hs =>
    hstart.next (a := Action.cancel n supplierID id) trivial hs
  unfold Settlements.cancel
  cases hget : getByID s.table supplierID id with
  | error e =>
    have hstep : step s (.cancel n supplierID id) = some (s.setCall n (.done (.error e))) := by
      rcases h.ready n with hn | ⟨result, hn⟩ <;> simp [step, hn, hget]
    exact ⟨_, hcancel hstep, setCall_self _ _ _, h.refuse le_rfl n _⟩
  | ok settlement =>
    cases hc : cancelled settlement s.now with
    | error e =>
      have hstep : step s (.cancel n supplierID id) = some (s.setCall n (.done (.error e))) := by
        rcases h.ready n with hn | ⟨result, hn⟩ <;> simp [step, hn, hget, hc]
      simp only [hc]
      exact ⟨_, hcancel hstep, setCall_self _ _ _, h.refuse le_rfl n _⟩
    | ok failed =>
      have hstep : step s (.cancel n supplierID id) =
          some (s.setCall n (.update failed settlement.version)) := by
        rcases h.ready n with hn | ⟨result, hn⟩ <;> simp [step, hn, hget, hc]
      simp only [hc]
      obtain ⟨r, _, hid, hown, hread⟩ := getByID_ok hget
      obtain ⟨hfailed, _⟩ := cancelled_ok hc
      have hsupplier : failed.supplierID = supplierID := by rw [hfailed, hread]; exact hown
      have htarget : failed.id = id := by rw [hfailed, hread]; exact hid
      obtain ⟨s', hreach, hout⟩ := h.update n failed settlement.version
      rw [hsupplier, htarget] at hout
      exact ⟨s', (hcancel hstep).trans hreach, hout⟩

/-- Calls made one after another are a run of the interleaved model, and one in which withdrawals
take turns. -/
theorem serial_run {l l' : Ledger} {actions : List Ledger.Action}
    (hrun : Transition.exec Ledger.step l actions = some l') (hcalls : ∀ a ∈ actions, a.isCall)
    {s : State} (h : Serves s l) :
    ∃ s', Transition.Reach step Alone s s' ∧ Serves s' l' := by
  induction actions generalizing l s with
  | nil =>
    cases Option.some.inj hrun
    exact ⟨s, Transition.Reach.refl s, h⟩
  | cons a actions ih =>
    obtain ⟨l₁, hstep, hrest⟩ := Option.bind_eq_some_iff.mp hrun
    have hone : ∃ s₁, Transition.Reach step Alone s s₁ ∧ Serves s₁ l₁ := by
      cases a with
      | tick elapsed =>
        cases Option.some.inj hstep
        refine ⟨{ s with now := s.now + elapsed }, (Transition.Reach.refl s).next
          (a := Action.tick elapsed) trivial rfl, ?_⟩
        exact ⟨h.table, h.accounts, congrArg (· + (elapsed : Time)) h.now, h.lastID, h.bounded,
          h.ready, h.locks, h.numbers⟩
      | withdraw supplierID req sms id fault =>
        simp only [Ledger.step] at hstep
        split at hstep
        next hid =>
          cases Option.some.inj hstep
          obtain ⟨s₁, hreach, _, hserves⟩ := h.withdraw 0 supplierID req sms hid fault
          rw [h.table, h.accounts, h.now] at hserves
          exact ⟨s₁, hreach, hserves⟩
        next => simp at hstep
      | cancel supplierID id =>
        cases Option.some.inj hstep
        obtain ⟨s₁, hreach, _, hserves⟩ := h.cancel 0 supplierID id
        rw [h.table, h.now] at hserves
        exact ⟨s₁, hreach, hserves⟩
      | update settlement v => exact absurd (hcalls _ List.mem_cons_self) (by simp [Ledger.Action.isCall])
    obtain ⟨s₁, hreach, hserves⟩ := hone
    obtain ⟨s', hreach', hserves'⟩ :=
      ih hrest (fun b hb => hcalls b (List.mem_cons_of_mem _ hb)) hserves
    exact ⟨s', hreach.trans hreach', hserves'⟩

theorem le_foldr_max {l : List Int} {x : Int} (hx : x ∈ l) : x ≤ l.foldr max 0 := by
  induction l with
  | nil => simp at hx
  | cons y l ih =>
    rcases List.mem_cons.mp hx with rfl | hx
    · exact le_max_left _ _
    · exact le_trans (ih hx) (le_max_right _ _)

theorem Serves.start (t : SettlementTable) (accounts : List AccountRow) (now : Time) :
    Serves (State.start t accounts now) (Ledger.start t accounts now) where
  table := rfl
  accounts := rfl
  now := rfl
  lastID := le_rfl
  bounded := fun _ hr => le_foldr_max (List.mem_map_of_mem hr)
  ready := fun _ => .inl rfl
  locks := rfl
  numbers := rfl

/-- Calls made one after another never leave a supplier with two open settlements. -/
theorem serial_one_open {t : SettlementTable} (h0 : OneOpen t) {accounts : List AccountRow} {now : Time}
    {actions : List Ledger.Action} {l : Ledger}
    (hrun : Transition.exec Ledger.step (Ledger.start t accounts now) actions = some l)
    (hcalls : ∀ a ∈ actions, a.isCall) : OneOpen l.table := by
  obtain ⟨s, hreach, hserves⟩ := serial_run hrun hcalls (Serves.start t accounts now)
  have hinv : Inv s :=
    hreach.invariant (Inv.start h0 accounts now) (fun _ _ _ hi ha hst => hi.step ha hst)
  exact hserves.table ▸ hinv.one

end SupplyPlatform.Settlements
