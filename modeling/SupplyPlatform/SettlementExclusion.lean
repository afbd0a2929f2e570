import SupplyPlatform.SettlementConcurrency

namespace SupplyPlatform.Settlements

open Relational

/-- Every supplier has at most one committed settlement that is pending or processing. -/
def OneOpen (t : SettlementTable) : Prop := ∀ u, t.rows.countP (openFor u) ≤ 1

/-- The supplier for whom a transaction is past its locking SELECT. -/
def Call.inside : Call → Option Int
  | .rollback supplierID _ => some supplierID
  | .insert s => some s.supplierID
  | .commit _ row => some row.userID
  | _ => none

/-- The supplier for whom a transaction has found the way clear. -/
def Call.entering : Call → Option Int
  | .insert s => some s.supplierID
  | .commit _ row => some row.userID
  | _ => none

/-- A locking SELECT runs only while no other transaction of the same supplier is past its own. -/
def Alone (s : State) : Action → Prop
  | .lockOpen n _ => ∀ settlement, s.call n = .lockOpen settlement →
      ∀ m, m ≠ n → (s.call m).inside ≠ some settlement.supplierID
  | _ => True

structure Inv (s : State) : Prop where
  one : OneOpen s.table
  sole : ∀ n m u, (s.call n).entering = some u → (s.call m).entering = some u → n = m
  clear : ∀ n u, (s.call n).entering = some u → ∀ r ∈ s.table.rows, openFor u r = false
  locks : ∀ l ∈ s.locks, ∃ u err, s.call l.1 = .rollback u err ∧
    ∃ r ∈ s.table.rows, r.id = l.2 ∧ r.userID = u
  failing : ∀ n settlement v, s.call n = .update settlement v → settlement.status = .failed

theorem row_eq_of_id {t : SettlementTable} {a b : SettlementRow} (ha : a ∈ t.rows) (hb : b ∈ t.rows)
    (h : a.id = b.id) : a = b :=
  Table.eq_of_not_apart ha hb (fun hap => hap.1 h)

theorem inside_of_entering {x : Call} {u : Int} (h : x.entering = some u) : x.inside = some u := by
  cases x <;> simp_all [Call.entering, Call.inside]

/-- A call that holds no lock goes on without finding the way clear anew. -/
theorem Inv.move {s : State} (h : Inv s) {n : Nat} {x : Call}
    (hx : ∀ u, x.entering = some u → (s.call n).entering = some u)
    (hu : ∀ settlement v, x = .update settlement v → settlement.status = .failed)
    (hfree : ∀ l ∈ s.locks, l.1 ≠ n) : Inv (s.setCall n x) := by
  have hold : ∀ m u, ((s.setCall n x).call m).entering = some u → (s.call m).entering = some u := by
    intro m u hm
    by_cases hmn : m = n
    · subst m
      exact hx u (by simpa [State.setCall] using hm)
    · rwa [call_set hmn] at hm
  refine ⟨h.one, fun m m' u hm hm' => h.sole m m' u (hold m u hm) (hold m' u hm'),
    fun m u hm => h.clear m u (hold m u hm), fun l hl => ?_, fun m settlement v hm => ?_⟩
  · obtain ⟨u, err, hcall, hrows⟩ := h.locks l hl
    exact ⟨u, err, by rw [call_set (hfree l hl)]; exact hcall, hrows⟩
  · by_cases hmn : m = n
    · subst m
      exact hu settlement v (by simpa [State.setCall] using hm)
    · exact h.failing m settlement v (by rwa [call_set hmn] at hm)

/-- The calls that have not found the way clear and are not about to update. -/
def Call.plain : Call → Prop
  | .insert _ => False
  | .commit _ _ => False
  | .update _ _ => False
  | _ => True

theorem verified_plain (supplierID : Int) (req : WithdrawRequest) (sms : Except RepoError Bool) :
    (verified supplierID req sms).plain := by
  unfold verified
  split <;> trivial

theorem pendingChecked_plain (supplierID : Int) (req : WithdrawRequest) (hasPending : Bool) :
    (pendingChecked supplierID req hasPending).plain := by
  unfold pendingChecked
  split
  · trivial
  · split <;> trivial

theorem balanceChecked_plain (supplierID : Int) (req : WithdrawRequest) (balance : Int) (now : Time) :
    (balanceChecked supplierID req balance now).plain := by
  unfold balanceChecked
  split <;> trivial

/-- The calls that hold locks are those about to roll back. -/
theorem Inv.lockless {s : State} (h : Inv s) {n : Nat} (hn : ∀ u err, s.call n ≠ .rollback u err) :
    ∀ l ∈ s.locks, l.1 ≠ n := by
  intro l hl heq
  obtain ⟨u, err, hcall, _⟩ := h.locks l hl
  exact hn u err (heq ▸ hcall)

theorem Inv.go {s : State} (h : Inv s) {n : Nat} (hn : ∀ u err, s.call n ≠ .rollback u err) {x : Call}
    (hx : x.plain) : Inv (s.setCall n x) := by
  refine h.move (fun u hu => ?_) (fun settlement v heq => ?_) (h.lockless hn)
  · cases x <;> simp_all [Call.plain, Call.entering]
  · subst x
    exact absurd hx id

/-- A transaction ends and its call is answered. -/
theorem Inv.finish {s : State} (h : Inv s) (n : Nat) (result : Except RepoError Settlement) :
    Inv ((s.endTx n).setCall n (.done result)) := by
  have hend : Inv (s.endTx n) :=
    ⟨h.one, h.sole, h.clear, fun l hl => h.locks l (List.mem_filter.mp hl).1, h.failing⟩
  refine hend.move (by simp [Call.entering]) (fun _ _ heq => by simp at heq) (fun l hl => ?_)
  simpa using (List.mem_filter.mp hl).2

/-- Nobody else is past the locking SELECT, so it sees every open row. -/
theorem Inv.sees_all {s : State} (h : Inv s) {n : Nat} {u : Int}
    (ha : ∀ m, m ≠ n → (s.call m).inside ≠ some u) {r : SettlementRow} (hr : r ∈ s.table.rows)
    (ho : openFor u r) : lockable s n r := by
  simp only [lockable, Bool.not_eq_true', List.any_eq_false, Bool.and_eq_true, decide_eq_true_eq]
  rintro l hl ⟨hln, hid⟩
  obtain ⟨u', err, hcall, q, hq, hqid, hown⟩ := h.locks l hl
  have hqr : q = r := row_eq_of_id hq hr (hqid.trans hid)
  rw [hqr] at hown
  have hu : r.userID = u := by
    simp only [openFor, Bool.and_eq_true, decide_eq_true_eq] at ho
    exact ho.1
  refine ha l.1 hln ?_
  rw [hcall, ← hu, hown]
  rfl

/-- The locking SELECT returns the open rows it can lock, and its call goes on to insert or to roll
back with the locks it has taken. -/
theorem step_lockOpen {s s' : State} {n : Nat} {rows : List SettlementRow}
    (hs : step s (.lockOpen n rows) = some s') :
    ∃ settlement, s.call n = .lockOpen settlement ∧
      (∀ r, r ∈ rows ↔ r ∈ s.table.rows ∧ openFor settlement.supplierID r ∧ lockable s n r) ∧
      ((rows = [] ∧ s' = s.setCall n (.insert settlement)) ∨
        ∃ existingID, s' = { s with locks := rows.map (fun r : SettlementRow => (n, r.id)) ++ s.locks }.setCall n
          (.rollback settlement.supplierID (errAlreadyOpen existingID))) := by
  simp only [step] at hs
  split at hs
  next settlement hn =>
    split at hs
    next hperm =>
      refine ⟨settlement, hn, fun r => ?_, ?_⟩
      · rw [hperm.mem_iff, List.mem_filter, Bool.and_eq_true]
      · split at hs
        next => cases Option.some.inj hs; exact .inl ⟨rfl, rfl⟩
        next existing rest => cases Option.some.inj hs; exact .inr ⟨existing.id, rfl⟩
    next => simp at hs
  next => simp at hs

/-- A transaction that is alone finds the way clear. -/
theorem Inv.enter {s : State} (h : Inv s) {n : Nat} {settlement : Settlement}
    (hn : s.call n = .lockOpen settlement)
    (halone : ∀ m, m ≠ n → (s.call m).inside ≠ some settlement.supplierID)
    (hnone : ∀ r ∈ s.table.rows, openFor settlement.supplierID r = false) :
    Inv (s.setCall n (.insert settlement)) := by
  have hfree := h.lockless (n := n) (by simp [hn])
  have hself : ((s.setCall n (.insert settlement)).call n).entering = some settlement.supplierID := by
    rw [setCall_self]
    rfl
  have hother : ∀ m, m ≠ n → ∀ u, ((s.setCall n (.insert settlement)).call m).entering = some u →
      (s.call m).entering = some u ∧ u ≠ settlement.supplierID := by
    intro m hm u he
    rw [call_set hm] at he
    refine ⟨he, fun heq => halone m hm ?_⟩
    rw [← heq]
    exact inside_of_entering he
  refine ⟨h.one, ?_, ?_, ?_, ?_⟩
  · intro m m' u hm hm'
    by_cases hmn : m = n <;> by_cases hmn' : m' = n
    · rw [hmn, hmn']
    · rw [hmn, hself] at hm
      exact absurd (Option.some.inj hm).symm (hother m' hmn' u hm').2
    · rw [hmn', hself] at hm'
      exact absurd (Option.some.inj hm').symm (hother m hmn u hm).2
    · exact h.sole m m' u (hother m hmn u hm).1 (hother m' hmn' u hm').1
  · intro m u hm
    by_cases hmn : m = n
    · rw [hmn, hself] at hm
      rw [← Option.some.inj hm]
      exact hnone
    · exact h.clear m u (hother m hmn u hm).1
  · intro l hl
    obtain ⟨u, err, hcall, hrows⟩ := h.locks l hl
    exact ⟨u, err, by rw [call_set (hfree l hl)]; exact hcall, hrows⟩
  · intro m settlement' v hm
    by_cases hmn : m = n
    · subst m
      simp at hm
    · exact h.failing m settlement' v (by rwa [call_set hmn] at hm)

/-- A transaction that has locked open rows of its supplier is about to roll back. -/
theorem Inv.block {s : State} (h : Inv s) {n : Nat} {u : Int} (err : RepoError)
    (hn : ∀ u err, s.call n ≠ .rollback u err) {rows : List SettlementRow}
    (hrows : ∀ r ∈ rows, r ∈ s.table.rows ∧ openFor u r) :
    Inv ({ s with locks := rows.map (fun r : SettlementRow => (n, r.id)) ++ s.locks }.setCall n
      (.rollback u err)) := by
  have hmoved := h.go hn (x := .rollback u err) trivial
  refine ⟨h.one, hmoved.sole, hmoved.clear, fun l hl => ?_, hmoved.failing⟩
  rcases List.mem_append.mp hl with hnew | hold
  · obtain ⟨r, hr, rfl⟩ := List.mem_map.mp hnew
    obtain ⟨hrt, hopen⟩ := hrows r hr
    simp only [openFor, Bool.and_eq_true, decide_eq_true_eq] at hopen
    exact ⟨u, err, setCall_self _ _ _, r, hrt, rfl, hopen.1⟩
  · exact hmoved.locks l hold

theorem Inv.lockOpen {s s' : State} (h : Inv s) {n : Nat} {rows : List SettlementRow}
    (ha : Alone s (.lockOpen n rows)) (hs : step s (.lockOpen n rows) = some s') : Inv s' := by
  obtain ⟨settlement, hn, hmem, ⟨rfl, rfl⟩ | ⟨existingID, rfl⟩⟩ := step_lockOpen hs
  · refine h.enter hn (ha settlement hn) (fun r hr => ?_)
    by_contra ho
    have hopen : openFor settlement.supplierID r = true := by simpa using ho
    exact List.not_mem_nil ((hmem r).mpr ⟨hr, hopen, h.sees_all (ha settlement hn) hr hopen⟩)
  · exact h.block _ (by simp [hn]) (fun r hr => ⟨((hmem r).mp hr).1, ((hmem r).mp hr).2.1⟩)

theorem withdrawalRow_ok {settlement : Settlement} {id : Int} {now : Time} {row : SettlementRow}
    (h : withdrawalRow settlement id now = .ok row) :
    row.userID = settlement.supplierID ∧ row.status = settlement.status ∧
      row.settlementNo = settlement.settlementNo ∧
      numeric206 settlement.totalAmount = .ok row.totalAmount := by
  unfold withdrawalRow at h
  split at h
  next total fee net htotal _ _ =>
    cases Except.ok.inj h
    exact ⟨rfl, rfl, rfl, htotal⟩
  all_goals simp at h

/-- The row of a committed withdrawal is its supplier's only open one. -/
theorem Inv.commit {s : State} (h : Inv s) {n : Nat} {settlement : Settlement} {row : SettlementRow}
    {t : SettlementTable} (hn : s.call n = .commit settlement row)
    (ht : s.table.insert row = some t) (result : Except RepoError Settlement) :
    Inv (({ s with table := t }.endTx n).setCall n (.done result)) := by
  obtain ⟨hrows, _⟩ := Table.rows_of_insert ht
  have henter : (s.call n).entering = some row.userID := by rw [hn]; rfl
  have hgone : ∀ m u, ((s.setCall n (.done result)).call m).entering = some u →
      (s.call m).entering = some u ∧ u ≠ row.userID := by
    intro m u hm
    by_cases hmn : m = n
    · subst m
      simp [State.setCall, Call.entering] at hm
    · have hold : (s.call m).entering = some u := by rwa [call_set hmn] at hm
      exact ⟨hold, fun heq => hmn (h.sole m n u hold (by rw [henter, heq]))⟩
  refine ⟨?_, fun m m' u hm hm' => h.sole m m' u (hgone m u hm).1 (hgone m' u hm').1, ?_, ?_, ?_⟩
  · intro u
    show t.rows.countP (openFor u) ≤ 1
    rw [hrows, List.countP_append]
    by_cases hu : u = row.userID
    · subst u
      have hzero : s.table.rows.countP (openFor row.userID) = 0 :=
        List.countP_eq_zero.mpr (fun r hr => by simp [h.clear n _ henter r hr])
      have hle : [row].countP (openFor row.userID) ≤ 1 := List.countP_le_length
      omega
    · have hnot : openFor u row = false := by simp [openFor, Ne.symm hu]
      have hone := h.one u
      simp only [List.countP_singleton, hnot, Bool.false_eq_true, if_false]
      omega
  · intro m u hm r hr
    obtain ⟨hold, hu⟩ := hgone m u hm
    have hr' : r ∈ s.table.rows ++ [row] := hrows ▸ hr
    rcases List.mem_append.mp hr' with hr' | hr'
    · exact h.clear m u hold r hr'
    · rw [List.mem_singleton.mp hr']
      simp [openFor, Ne.symm hu]
  · intro l hl
    obtain ⟨hl, hln⟩ := List.mem_filter.mp hl
    have hne : l.1 ≠ n := by simpa using hln
    obtain ⟨u, err, hcall, r, hr, hid, hown⟩ := h.locks l hl
    refine ⟨u, err, by rw [call_set hne]; exact hcall, r, ?_, hid, hown⟩
    show r ∈ t.rows
    rw [hrows]
    exact List.mem_append_left _ hr
  · intro m settlement' v hm
    by_cases hmn : m = n
    · subst m
      simp [State.setCall] at hm
    · exact h.failing m settlement' v (by rwa [call_set hmn] at hm)

/-- A cancelling update opens no settlement. -/
theorem openFor_updated {settlement : Settlement} {v : Int} {now : Time} {u : Int} {r : SettlementRow}
    (hst : settlement.status = .failed)
    (h : openFor u (if updates settlement v r then updatedRow settlement v now r else r)) :
    openFor u r := by
  split at h
  · simp [openFor, updatedRow, hst, isOpen] at h
  · exact h

theorem Inv.update {s : State} (h : Inv s) {settlement : Settlement} {v : Int}
    (hst : settlement.status = .failed) :
    Inv { s with table := (Settlements.update s.table settlement v s.now).1 } := by
  have hrows : (Settlements.update s.table settlement v s.now).1.rows = s.table.rows.map
      (fun r => if updates settlement v r then updatedRow settlement v s.now r else r) := rfl
  refine ⟨fun u => ?_, h.sole, fun n u hn q hq => ?_, fun l hl => ?_, h.failing⟩
  · refine le_trans ?_ (h.one u)
    rw [hrows, List.countP_map]
    exact List.countP_mono_left (fun r _ hr => openFor_updated hst hr)
  · have hq' : q ∈ s.table.rows.map _ := hrows ▸ hq
    obtain ⟨r, hr, rfl⟩ := List.mem_map.mp hq'
    by_contra ho
    have hopen := openFor_updated hst (by simpa using ho)
    simp [h.clear n u hn r hr] at hopen
  · obtain ⟨u, err, hcall, r, hr, hid, hown⟩ := h.locks l hl
    refine ⟨u, err, hcall, _, List.mem_map.mpr ⟨r, hr, rfl⟩, ?_, ?_⟩
    · split
      · exact hid
      · exact hid
    · split
      · exact hown
      · exact hown

theorem cancelled_ok {settlement failed : Settlement} {now : Time}
    (h : cancelled settlement now = .ok failed) :
    failed = { settlement with status := .failed, updatedAt := now } ∧
      (settlement.status = .pending ∨ settlement.status = .failed) := by
  unfold cancelled at h
  cases hst : settlement.status with
  | pending => simp only [hst] at h; exact ⟨(Except.ok.inj h).symm, .inl rfl⟩
  | processing => simp [hst] at h
  | completed => simp [hst] at h
  | failed => simp only [hst] at h; exact ⟨(Except.ok.inj h).symm, .inr rfl⟩

/-- `Cancel` reads and decides in one step; what it goes on to write is a failure. -/
theorem step_cancel {s s' : State} {n : Nat} {supplierID id : Int}
    (hs : step s (.cancel n supplierID id) = some s') :
    (∀ u err, s.call n ≠ .rollback u err) ∧ ((∃ err, s' = s.setCall n (.done (.error err))) ∨
      ∃ failed v, failed.status = .failed ∧ s' = s.setCall n (.update failed v)) := by
  have hfree : ∀ u err, s.call n ≠ .rollback u err := by
    intro u err hn
    simp [step, hn] at hs
  refine ⟨hfree, ?_⟩
  cases hget : getByID s.table supplierID id with
  | error e =>
    refine .inl ⟨e, ?_⟩
    cases hn : s.call n <;> simp [step, hn, hget] at hs <;> exact hs.symm
  | ok settlement =>
    cases hc : cancelled settlement s.now with
    | error e =>
      refine .inl ⟨e, ?_⟩
      cases hn : s.call n <;> simp [step, hn, hget, hc] at hs <;> exact hs.symm
    | ok failed =>
      refine .inr ⟨failed, settlement.version, congrArg Settlement.status (cancelled_ok hc).1, ?_⟩
      cases hn : s.call n <;> simp [step, hn, hget, hc] at hs <;> exact hs.symm

theorem Inv.insert {s s' : State} (h : Inv s) {n : Nat} {id : Int}
    (hs : Settlements.step s (.insert n id) = some s') : Inv s' := by
  simp only [Settlements.step] at hs
  split at hs
  next settlement hn =>
    split at hs
    next =>
      split at hs
      next => cases Option.some.inj hs; exact h.finish n _
      next row hrow =>
        split at hs
        next =>
          cases Option.some.inj hs
          exact Inv.finish (s := { s with lastID := id })
            ⟨h.one, h.sole, h.clear, h.locks, h.failing⟩ n _
        next =>
          cases Option.some.inj hs
          have hmoved := h.move (n := n) (x := .commit settlement row)
            (by simp [Call.entering, hn, (withdrawalRow_ok hrow).1])
            (fun _ _ heq => by simp at heq) (h.lockless (by simp [hn]))
          exact ⟨hmoved.one, hmoved.sole, hmoved.clear, hmoved.locks, hmoved.failing⟩
    next => simp at hs
  next => simp at hs

/-- The UPDATE of a `Cancel`, whether it finds its row or not. -/
theorem Inv.cancelUpdate {s s' : State} (h : Inv s) {n : Nat}
    (hs : Settlements.step s (.update n) = some s') : Inv s' := by
  simp only [Settlements.step] at hs
  split at hs
  next settlement v hn =>
    have hupd := h.update (v := v) (h.failing n settlement v hn)
    have hfree := h.lockless (n := n) (by simp [hn])
    split at hs
    next => simp at hs
    next =>
      split at hs
      next t heq =>
        cases Option.some.inj hs
        rw [heq] at hupd
        exact hupd.move (by simp [Call.entering]) (fun _ _ heq => by simp at heq) hfree
      next t e heq =>
        cases Option.some.inj hs
        rw [heq] at hupd
        exact hupd.move (by simp [Call.entering]) (fun _ _ heq => by simp at heq) hfree
  next => simp at hs

theorem Inv.step {s s' : State} {a : Action} (h : Inv s) (ha : Alone s a)
    (hs : Settlements.step s a = some s') : Inv s' := by
  cases a with
  | tick elapsed =>
    cases Option.some.inj hs
    exact ⟨h.one, h.sole, h.clear, h.locks, h.failing⟩
  | withdraw n supplierID req sms =>
    simp only [Settlements.step] at hs
    split at hs
    next hn => cases Option.some.inj hs; exact h.go (by simp [hn]) (verified_plain _ _ _)
    next hn => cases Option.some.inj hs; exact h.go (by simp [hn]) (verified_plain _ _ _)
    next => simp at hs
  | hasPending n =>
    simp only [Settlements.step] at hs
    split at hs
    next hn => cases Option.some.inj hs; exact h.go (by simp [hn]) (pendingChecked_plain _ _ _)
    next => simp at hs
  | balance n =>
    simp only [Settlements.step] at hs
    split at hs
    next hn => cases Option.some.inj hs; exact h.go (by simp [hn]) (balanceChecked_plain _ _ _ _)
    next => simp at hs
  | begin_ n =>
    simp only [Settlements.step] at hs
    split at hs
    next hn => cases Option.some.inj hs; exact h.go (by simp [hn]) trivial
    next => simp at hs
  | lockOpen n rows => exact h.lockOpen ha hs
  | rollback n =>
    simp only [Settlements.step] at hs
    split at hs
    next => cases Option.some.inj hs; exact h.finish n _
    next => simp at hs
  | insert n id => exact h.insert hs
  | commit n fault =>
    simp only [Settlements.step] at hs
    split at hs
    next settlement row hn =>
      split at hs
      next t ht => cases Option.some.inj hs; exact h.commit hn ht _
      next t ht => cases Option.some.inj hs; exact h.commit hn ht _
      next => cases Option.some.inj hs; exact h.finish n _
    next => simp at hs
  | cancel n supplierID id =>
    obtain ⟨hfree, ⟨err, rfl⟩ | ⟨failed, v, hst, rfl⟩⟩ := step_cancel hs
    · exact h.go hfree trivial
    · refine h.move (by simp [Call.entering]) (fun settlement v' heq => ?_) (h.lockless hfree)
      cases heq
      exact hst
  | update n => exact h.cancelUpdate hs
  | reread n =>
    simp only [Settlements.step] at hs
    split at hs
    next hn => cases Option.some.inj hs; exact h.go (by simp [hn]) trivial
    next => simp at hs
  | fail n err => cases Option.some.inj hs; exact h.finish n _

theorem Inv.start {t : SettlementTable} (h0 : OneOpen t) (accounts : List AccountRow) (now : Time) :
    Inv (State.start t accounts now) where
  one := h0
  sole := fun _ _ _ hn => by simp [State.start, Call.entering] at hn
  clear := fun _ _ hn => by simp [State.start, Call.entering] at hn
  locks := fun _ hl => absurd hl List.not_mem_nil
  failing := fun _ _ _ hn => by simp [State.start] at hn

/-- As long as the withdrawals of one supplier take turns from their locking SELECT to the end of
their transactions, no supplier ever has two open settlements. -/
theorem one_open_settlement {t : SettlementTable} (h0 : OneOpen t) {accounts : List AccountRow}
    {now : Time} {s : State}
    (hs : Transition.Reach step Alone (State.start t accounts now) s) : OneOpen s.table :=
  (hs.invariant (Inv.start h0 accounts now) (fun _ _ _ hi ha hst => hi.step ha hst)).one

def sampleAccounts : List AccountRow :=
  [{ userID := 1, status := .active, availableQuota := 100000000 }]

/-- A withdrawal of 60 out of 100. -/
def sampleWithdraw : WithdrawRequest :=
  { amount := 60, paymentMethod := .bank, paymentAccount := "6222", smsCode := "123456" }

theorem pendingChecked_sample :
    pendingChecked 1 sampleWithdraw false = .balance 1 sampleWithdraw :=
  if_neg (by decide)

theorem balanceChecked_sample :
    balanceChecked 1 sampleWithdraw (getWithdrawableBalance sampleAccounts 1) 0 =
      .begin_ (newWithdrawal 1 sampleWithdraw 0) :=
  if_neg (by decide +kernel)

theorem one_open_settlement_sample :
    ∃ s, Transition.Reach step Alone (State.start Table.empty sampleAccounts 0) s ∧
      s.table.rows.countP (openFor 1) = 1 ∧ OneOpen s.table := by
  let s₀ := State.start Table.empty sampleAccounts 0
  let s₁ := s₀.setCall 0 (.hasPending 1 sampleWithdraw)
  let s₂ := s₁.setCall 0 (.balance 1 sampleWithdraw)
  let s₃ := s₂.setCall 0 (.begin_ (newWithdrawal 1 sampleWithdraw 0))
  let s₄ := s₃.setCall 0 (.lockOpen (newWithdrawal 1 sampleWithdraw 0))
  let s₅ := s₄.setCall 0 (.insert (newWithdrawal 1 sampleWithdraw 0))
  have hverify : step s₀ (.withdraw 0 1 sampleWithdraw (.ok true)) = some s₁ := rfl
  have hpending : step s₁ (.hasPending 0) = some s₂ :=
    congrArg (fun c => some (s₁.setCall 0 c)) pendingChecked_sample
  have hbalance : step s₂ (.balance 0) = some s₃ :=
    congrArg (fun c => some (s₂.setCall 0 c)) balanceChecked_sample
  have hlock : step s₄ (.lockOpen 0 []) = some s₅ := rfl
  have halone : Alone s₄ (.lockOpen 0 []) := by
    intro settlement _ m hm
    simp [s₄, s₃, s₂, s₁, s₀, State.setCall, State.start, hm, Call.inside]
  have h₅ : Transition.Reach step Alone s₀ s₅ :=
    (((((Transition.Reach.refl s₀).next trivial hverify).next trivial hpending).next trivial
      hbalance).next (a := .begin_ 0) trivial rfl).next halone hlock
  have hrun : (Transition.exec step s₅ [.insert 0 1, .commit 0 .none]).map
      (fun s => s.table.rows.countP (openFor 1)) = some 1 := by
    decide +kernel
  obtain ⟨s, hs, hone⟩ := Option.map_eq_some_iff.mp hrun
  have hreach := h₅.trans (Transition.reach_of_exec_of hs (by
    intro s a ha
    rcases List.mem_cons.mp ha with rfl | ha
    · trivial
    · rw [List.mem_singleton.mp ha]
      trivial))
  exact ⟨s, hreach, hone, one_open_settlement (fun u => by simp [Table.empty]) hreach⟩

/-- Both withdrawals look for an open one before either has committed, a second apart so that their
numbers differ; neither sees the other and both commit. -/
theorem two_open_settlements_counterexample :
    ∃ s, Transition.Reach step Transition.anyStep (State.start Table.empty sampleAccounts 0) s ∧
      s.table.rows.countP (openFor 1) = 2 ∧ ¬OneOpen s.table := by
  have hrun : (Transition.exec step (State.start Table.empty sampleAccounts 0)
      [.withdraw 0 1 sampleWithdraw (.ok true), .withdraw 1 1 sampleWithdraw (.ok true),
        .hasPending 0, .hasPending 1, .balance 0, .tick 1000000000, .balance 1, .begin_ 0, .begin_ 1,
        .lockOpen 0 [], .lockOpen 1 [], .insert 0 1, .insert 1 2, .commit 0 .none,
        .commit 1 .none]).map (fun s => s.table.rows.countP (openFor 1)) = some 2 := by
    decide +kernel
  obtain ⟨s, hs, htwo⟩ := Option.map_eq_some_iff.mp hrun
  refine ⟨s, Transition.reach_of_exec hs, htwo, fun h => ?_⟩
  have hle := h 1
  omega

end SupplyPlatform.Settlements
