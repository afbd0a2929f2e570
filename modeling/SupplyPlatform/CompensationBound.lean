import SupplyPlatform.CompensationSerial

namespace SupplyPlatform.Compensation

open Relational

theorem scanAll_sole {r : CompensationRow} (h : decodable r) :
    scanAll [r] = .ok [decodeCompensation r] :=
  mapM_eq_ok (fun q hq => by
    rw [List.mem_singleton.mp hq]
    exact scanCompensation_of_decodable h)

/-- A batch call of which the only record is runnable. -/
theorem step_getByBatchID_sole {s : State} {r : CompensationRow} {p : Nat}
    (hrows : s.table.rows = [r]) (hidle : s.processor p = .idle) (hrun : Runnable r) :
    step s (.getByBatchID p r.batchID [r]) =
      some (s.setProcessor p (.running (.batch (startResult r.batchID 1)) (decodeCompensation r) []
        .executing)) := by
  have hread : ReadsBatch s.table r.batchID [r] := Table.answers_sole hrows (by simp)
  have htakes : unfinished (decodeCompensation r).status = true := hrun.1
  simp [step, hidle, hread, scanAll_sole hrun.2, State.loop, Call.takes, htakes]

/-- A round of the worker of which the only record is runnable. -/
theorem step_getPending_sole {s : State} {r : CompensationRow} {p : Nat}
    (hrows : s.table.rows = [r]) (hidle : s.processor p = .idle) (hrun : Runnable r) :
    step s (.getPending p [r]) =
      some (s.setProcessor p (.running .worker (decodeCompensation r) [] .executing)) := by
  have hread : ReadsPending s.table [r] := Table.answers_sole hrows hrun.1
  simp [step, hidle, hread, scanAll_sole hrun.2, State.loop, Call.takes]

theorem step_execute_running (s : State) (p : Nat) (call : Call) (comp : BatchCompensation)
    (rest : List BatchCompensation) (err : Option String) :
    step (s.setProcessor p (.running call comp rest .executing)) (.execute p err) =
      some ({ s with executed := (comp.id, err.isNone) :: s.executed }.setProcessor p
        (.running call comp rest (.executed err))) := by
  simp [step, State.setProcessor]

/-- `k` batch calls have read and executed the only record, and none has written it back. -/
structure Crowd (row : CompensationRow) (k : Nat) (s : State) : Prop where
  rows : s.table.rows = [row]
  idle : ∀ p, k ≤ p → s.processor p = .idle
  count : executions s row.id = k

theorem Crowd.join {row : CompensationRow} {k : Nat} {s : State} (h : Crowd row k s)
    (hrun : Runnable row) :
    ∃ s', Transition.Reach step (Failing row.id) s s' ∧ Crowd row (k + 1) s' := by
  have hread := step_getByBatchID_sole h.rows (h.idle k (Nat.le_refl k)) hrun
  have hstart : Transition.Reach step (Failing row.id) s s := Transition.Reach.refl s
  have hreach := hstart.next (by trivial) hread
  have hexec := step_execute_running s k (.batch (startResult row.batchID 1))
    (decodeCompensation row) [] (some "down")
  refine ⟨_, hreach.next (a := .execute k (some "down")) ?_ hexec, h.rows, ?_, ?_⟩
  · intro call comp rest _ _
    simp
  · intro p hp
    have hne : p ≠ k := by omega
    simpa [State.setProcessor, hne] using h.idle p (by omega)
  · have hid : (decodeCompensation row).id = row.id := rfl
    have hcount := h.count
    simp only [executions] at hcount
    simp [executions, State.setProcessor, hid, hcount]

theorem Crowd.grow {row : CompensationRow} {s : State} (h : Crowd row 0 s) (hrun : Runnable row)
    (k : Nat) : ∃ s', Transition.Reach step (Failing row.id) s s' ∧ Crowd row k s' := by
  induction k with
  | zero => exact ⟨s, Transition.Reach.refl s, h⟩
  | succ k ih =>
    obtain ⟨s₁, h₁, hc⟩ := ih
    obtain ⟨s₂, h₂, hc'⟩ := hc.join hrun
    exact ⟨s₂, h₁.trans h₂, hc'⟩

/-- `k` rounds of one loop have failed, and the only record is read again as if it were the first. -/
structure Round (i c m : Int) (k : Nat) (s : State) : Prop where
  row : ∃ r, s.table.rows = [r] ∧ r.id = i ∧ r.retryCount = c ∧ r.maxRetries = m ∧ Runnable r
  idle : ∀ p, s.processor p = .idle
  count : executions s i = k

theorem Round.again {i c m : Int} {k : Nat} {s : State} (h : Round i c m k s) (hm : c + 1 < m) :
    ∃ s', Transition.Reach step (fun s a => Failing i s a ∧ Serial s a) s s' ∧
      Round i c m (k + 1) s' := by
  obtain ⟨r, hrows, rfl, rfl, rfl, hrun⟩ := h.row
  have hread := step_getPending_sole hrows (h.idle 0) hrun
  have hstart : Transition.Reach step (fun s a => Failing r.id s a ∧ Serial s a) s s :=
    Transition.Reach.refl s
  have hreach := hstart.next (by exact ⟨trivial, h.idle⟩) hread
  have hexec := step_execute_running s 0 .worker (decodeCompensation r) [] (some "down")
  have hout : (decodeCompensation r).outcome (some "down") = .retry := by
    have hlt : ¬((decodeCompensation r).retried "down").retryCount ≥
        ((decodeCompensation r).retried "down").maxRetries := by
      show ¬(r.retryCount + 1 ≥ r.maxRetries)
      omega
    simp only [BatchCompensation.outcome, if_neg hlt]
  have hid : (decodeCompensation r).id = r.id := rfl
  have hsettle : step ({ s with executed := (r.id, false) :: s.executed }.setProcessor 0
        (.running .worker (decodeCompensation r) [] (.executed (some "down")))) (.settle 0 .none) =
      some ({ s with table := record s.table s.now .worker r.id .retry,
                     stats := .retry (decodeCompensation r).operationType :: s.stats,
                     executed := (r.id, false) :: s.executed }.setProcessor 0 .idle) := by
    simp [step, State.setProcessor, settled, hout, hid, Call.after, State.loop, Outcome.stat]
  have hfail : Failing r.id (s.setProcessor 0 (.running .worker (decodeCompensation r) []
      .executing)) (.execute 0 (some "down")) := by
    intro call comp rest _ _
    simp
  have hrun' := (hreach.next ⟨hfail, trivial⟩ hexec).next (by exact ⟨rfl, trivial⟩) hsettle
  refine ⟨_, hrun', ?_, ?_, ?_⟩
  · obtain ⟨set, hset, hrec⟩ := record_rows s.table s.now .worker r.id .retry
    refine ⟨set r, ?_, (hrec r).id, (hrec r).retryCount, (hrec r).maxRetries, ?_,
      (hrec r).decodable hrun.2⟩
    · simpa [State.setProcessor, hrows] using hset
    · rw [(hrec r).status]
      rfl
  · intro p
    by_cases hp : p = 0
    · subst p
      simp [State.setProcessor]
    · simpa [State.setProcessor, hp] using h.idle p
  · have hcount := h.count
    simp only [executions] at hcount
    simp [executions, State.setProcessor, hcount]

theorem Round.rounds {i c m : Int} {s : State} (h : Round i c m 0 s) (hm : c + 1 < m) (k : Nat) :
    ∃ s', Transition.Reach step (fun s a => Failing i s a ∧ Serial s a) s s' ∧
      Round i c m k s' := by
  induction k with
  | zero => exact ⟨s, Transition.Reach.refl s, h⟩
  | succ k ih =>
    obtain ⟨s₁, h₁, hr⟩ := ih
    obtain ⟨s₂, h₂, hr'⟩ := hr.again hm
    exact ⟨s₂, h₁.trans h₂, hr'⟩

theorem not_bound_of_count {i m : Int} {s : State} (h : executions s i = m.toNat + 1) :
    ¬RetryBound i m s := by
  intro hb
  have hle := hb.atMost
  rw [h] at hle
  omega

/-- The bound holds over all overlapping runs exactly for the records no loop can take up; over runs
of one loop at a time it holds also for a record whose next failure is its last. -/
theorem retryBound_iff {row : CompensationRow} (hm : 1 ≤ row.maxRetries) :
    ((∀ (t : CompensationTable) (now : Time) (s : State), row ∈ t.rows →
        Transition.Reach step (Failing row.id) (State.start t now) s →
          RetryBound row.id row.maxRetries s) ↔ ¬Runnable row) ∧
    ((∀ (t : CompensationTable) (now : Time) (s : State), row ∈ t.rows →
        Transition.Reach step (fun s a => Failing row.id s a ∧ Serial s a) (State.start t now) s →
          RetryBound row.id row.maxRetries s) ↔
      ¬Runnable row ∨ row.maxRetries ≤ row.retryCount + 1) := by
  have hignored : ¬Runnable row → ∀ (t : CompensationTable) (now : Time) (s : State), row ∈ t.rows →
      Transition.Reach step (Failing row.id) (State.start t now) s →
        RetryBound row.id row.maxRetries s := by
    intro hn t now s hr hs
    have h : Ignored row s :=
      hs.invariant (Ignored.start hr now) (fun _ _ _ hi _ hst => hi.step hn hst)
    exact h.bound hm
  let sole : CompensationTable := ⟨[row], List.pairwise_singleton _ _⟩
  refine ⟨⟨?_, hignored⟩, ?_, ?_⟩
  · intro hall hrun
    obtain ⟨s, hs, hc⟩ := Crowd.grow (s := State.start sole 0) ⟨rfl, fun _ _ => rfl, rfl⟩ hrun
      (row.maxRetries.toNat + 1)
    exact not_bound_of_count hc.count (hall sole 0 s (List.mem_singleton_self row) hs)
  · intro hall
    by_contra hn
    obtain ⟨hrun, hlt⟩ := not_or.mp hn
    have h0 : Round row.id row.retryCount row.maxRetries 0 (State.start sole 0) :=
      ⟨⟨row, rfl, rfl, rfl, rfl, not_not.mp hrun⟩, fun _ => rfl, rfl⟩
    obtain ⟨s, hs, hr⟩ := h0.rounds (by omega) (row.maxRetries.toNat + 1)
    exact not_bound_of_count hr.count (hall sole 0 s (List.mem_singleton_self row) hs)
  · rintro (hn | hlast) t now s hr hs
    · exact hignored hn t now s hr (hs.mono (fun _ _ h => h.1))
    · obtain ⟨p, h⟩ : ∃ p, LastTry row.id p s :=
        hs.invariant ⟨0, LastTry.start hr hlast now⟩
          (fun _ _ _ hi ha hst => LastTry.step hi ha.1 ha.2 hst)
      exact h.bound hm

theorem retryBound_iff_sample :
    (∀ (t : CompensationTable) (now : Time) (s : State), sampleRow 1 ∈ t.rows →
      Transition.Reach step (fun s a => Failing 1 s a ∧ Serial s a) (State.start t now) s →
        RetryBound 1 1 s) ∧
    ¬∀ (t : CompensationTable) (now : Time) (s : State), sampleRow 1 ∈ t.rows →
      Transition.Reach step (Failing 1) (State.start t now) s → RetryBound 1 1 s := by
  have h := @retryBound_iff (sampleRow 1) (by decide)
  exact ⟨h.2.mpr (Or.inr (by decide)), fun hall => h.1.mp hall ⟨by decide, by decide⟩⟩

/-- Three rounds of the worker alone, each a failure, under a limit of two. -/
theorem retried_past_max_counterexample :
    ∃ s, Transition.Reach step (fun s a => Failing 1 s a ∧ Serial s a)
        (State.start (sampleTable 2) 0) s ∧ executions s 1 = 3 ∧ ¬RetryBound 1 2 s := by
  have h0 : Round 1 0 2 0 (State.start (sampleTable 2) 0) :=
    ⟨⟨sampleRow 2, rfl, rfl, rfl, rfl, by decide, by decide⟩, fun _ => rfl, rfl⟩
  obtain ⟨s, hs, hr⟩ := h0.rounds (by decide) 3
  exact ⟨s, hs, hr.count, not_bound_of_count hr.count⟩

end SupplyPlatform.Compensation
