import SupplyPlatform.CompensationRetry

namespace SupplyPlatform.Compensation

open Relational

/-- How far the last try of a record is, seen from the only loop that may be running. -/
def Stage (i : Int) (s : State) (x : Processor) : Prop :=
  (executions s i = 0 ∧ x.flight ≠ some (i, false)) ∨
  (executions s i = 1 ∧ x.flight = some (i, false)) ∨
  (executions s i = 1 ∧ (∃ r ∈ s.table.rows, r.id = i ∧ r.status = .manualRequired) ∧
    ∀ c ∈ x.todo, c.id ≠ i)

/-- The next failure of the record is its last, and only loop `p` may be running. -/
structure LastTry (i : Int) (p : Nat) (s : State) : Prop where
  row : ∃ r ∈ s.table.rows, r.id = i ∧ r.maxRetries ≤ r.retryCount + 1
  others : ∀ q, q ≠ p → s.processor q = .idle
  copies : ∀ c ∈ (s.processor p).todo, c.id = i → c.maxRetries ≤ c.retryCount + 1
  nodup : ((s.processor p).todo.map (·.id)).Nodup
  failed : (s.processor p).flight ≠ some (i, true)
  stage : Stage i s (s.processor p)

theorem LastTry.put {i : Int} {p : Nat} {s : State} {x : Processor}
    (row : ∃ r ∈ s.table.rows, r.id = i ∧ r.maxRetries ≤ r.retryCount + 1)
    (others : ∀ q, q ≠ p → s.processor q = .idle)
    (copies : ∀ c ∈ x.todo, c.id = i → c.maxRetries ≤ c.retryCount + 1)
    (nodup : (x.todo.map (·.id)).Nodup) (failed : x.flight ≠ some (i, true))
    (stage : Stage i s x) : LastTry i p (s.setProcessor p x) := by
  have hp : (s.setProcessor p x).processor p = x := by simp [State.setProcessor]
  refine ⟨row, fun q hq => ?_, ?_, ?_, ?_, ?_⟩
  · simpa [State.setProcessor, hq] using others q hq
  · rwa [hp]
  · rwa [hp]
  · rwa [hp]
  · rw [hp]
    exact stage

theorem LastTry.read {i : Int} {p p' : Nat} {s : State} (h : LastTry i p s)
    (hidle : ∀ q, s.processor q = .idle) {call : Call} {rows : List CompensationRow}
    (hread : Reads s.table call rows) :
    LastTry i p' (s.loop p' call (rows.map decodeCompensation)) := by
  obtain ⟨row, hrow, rfl, hlast⟩ := h.row
  obtain ⟨returned, x, heq, htodo, hfl⟩ := loop_todo s p' call (rows.map decodeCompensation)
  rw [heq]
  refine LastTry.put ⟨row, hrow, rfl, hlast⟩ (fun q _ => hidle q) ?_ ?_ (by simp [hfl]) ?_
  · intro c hc hid
    rw [htodo] at hc
    obtain ⟨_, _, rfl⟩ := hread.todo_of_row hrow hc hid
    exact hlast
  · rw [htodo]
    refine List.Nodup.sublist (List.Sublist.map _ List.filter_sublist) ?_
    simpa [Function.comp_def, decodeCompensation] using hread.nodup
  · have hst := h.stage
    rw [hidle p] at hst
    rcases hst with ⟨hzero, _⟩ | ⟨_, hfl'⟩ | ⟨hone, ⟨r, hr, hid, hman⟩, _⟩
    · exact Or.inl ⟨hzero, by simp [hfl]⟩
    · simp [Processor.flight] at hfl'
    · refine Or.inr (Or.inr ⟨hone, ⟨r, hr, hid, hman⟩, fun c hc hid' => ?_⟩)
      rw [htodo] at hc
      obtain ⟨_, hunf, _⟩ := hread.todo_of_row hrow hc hid'
      have hrr := row_eq_of_id hr hrow hid
      subst r
      simp [hman, unfinished] at hunf

theorem LastTry.execute {i : Int} {p : Nat} {s : State} (h : LastTry i p s) {call : Call}
    {comp : BatchCompensation} {rest : List BatchCompensation} {err : Option String}
    (hp : s.processor p = .running call comp rest .executing) (herr : comp.id = i → err ≠ none) :
    LastTry i p ({ s with executed := (comp.id, err.isNone) :: s.executed }.setProcessor p
      (.running call comp rest (.executed err))) := by
  have hcopies := h.copies
  have hnodup := h.nodup
  have hst := h.stage
  rw [hp] at hcopies hnodup hst
  refine LastTry.put h.row h.others hcopies hnodup ?_ ?_
  · intro hfl
    obtain ⟨hid, hnone⟩ := Prod.mk.inj (Option.some.inj hfl)
    exact herr hid (Option.isNone_iff_eq_none.mp hnone)
  · by_cases hid : comp.id = i
    · have hzero : executions s i = 0 := by
        rcases hst with ⟨hzero, _⟩ | ⟨_, hfl⟩ | ⟨_, _, hfree⟩
        · exact hzero
        · simp [Processor.flight] at hfl
        · exact absurd hid (hfree comp List.mem_cons_self)
      refine Or.inr (Or.inl ⟨?_, ?_⟩)
      · simpa [executions, List.count_cons, hid] using hzero
      · have hsome : err.isNone = false := by
          simpa [Option.isSome_iff_ne_none] using herr hid
        simp [Processor.flight, hid, hsome]
    · have hsame : ∀ n, executions s i = n → executions
          ({ s with executed := (comp.id, err.isNone) :: s.executed }) i = n := by
        intro n hn
        simpa [executions, List.count_cons, hid] using hn
      rcases hst with ⟨hzero, _⟩ | ⟨_, hfl⟩ | ⟨hone, hman, hfree⟩
      · exact Or.inl ⟨hsame 0 hzero, fun hfl => hid (Prod.mk.inj (Option.some.inj hfl)).1⟩
      · simp [Processor.flight] at hfl
      · exact Or.inr (Or.inr ⟨hsame 1 hone, hman, hfree⟩)

/-- The row of another record keeps what a write leaves alone. -/
theorem record_other {t : CompensationTable} {now : Time} {call : Call} {i j : Int} {o : Outcome}
    {P : CompensationRow → Prop} (hne : i ≠ j) (h : ∃ r ∈ t.rows, r.id = i ∧ P r) :
    ∃ r ∈ (record t now call j o).rows, r.id = i ∧ P r := by
  obtain ⟨r, hr, hid, hp⟩ := h
  exact ⟨r, record_mem_of_ne hr (by rw [hid]; exact hne), hid, hp⟩

/-- Whichever record is written, the row keeps its tries. -/
theorem record_tries {t : CompensationTable} (now : Time) (call : Call) {i : Int} (j : Int) (o : Outcome)
    (h : ∃ r ∈ t.rows, r.id = i ∧ r.maxRetries ≤ r.retryCount + 1) :
    ∃ r ∈ (record t now call j o).rows, r.id = i ∧ r.maxRetries ≤ r.retryCount + 1 := by
  by_cases hij : i = j
  · subst j
    obtain ⟨r, hr, rfl, hlast⟩ := h
    obtain ⟨q, hq, hrec⟩ := record_mem_of_eq now call o hr
    exact ⟨q, hq, hrec.id, by rw [hrec.maxRetries, hrec.retryCount]; exact hlast⟩
  · exact record_other hij h

theorem outcome_last {comp : BatchCompensation} (msg : String)
    (h : comp.maxRetries ≤ comp.retryCount + 1) :
    (comp.outcome (some msg)).status = .manualRequired := by
  have hge : (comp.retried msg).retryCount ≥ (comp.retried msg).maxRetries := h
  simp only [BatchCompensation.outcome, if_pos hge, Outcome.status]

/-- A loop that has executed the record has done so for the only time. -/
theorem LastTry.executed_once {p : Nat} {s : State} {call : Call} {comp : BatchCompensation}
    {rest : List BatchCompensation} {msg : String} (h : LastTry comp.id p s)
    (hp : s.processor p = .running call comp rest (.executed (some msg))) :
    executions s comp.id = 1 := by
  have hst := h.stage
  rw [hp] at hst
  rcases hst with ⟨_, hfl⟩ | ⟨hone, _⟩ | ⟨_, _, hfree⟩
  · exact absurd rfl hfl
  · exact hone
  · exact absurd rfl (hfree comp List.mem_cons_self)

theorem LastTry.settle {i : Int} {p : Nat} {s : State} (h : LastTry i p s) {call : Call}
    {comp : BatchCompensation} {rest : List BatchCompensation} {err : Option String}
    (hp : s.processor p = .running call comp rest (.executed err)) :
    LastTry i p ((settled s call comp err .none).loop p
      (call.after (comp.outcome err) .none).1 rest) := by
  have hcopies := h.copies
  have hnodup := h.nodup
  have hst := h.stage
  have hfailed := h.failed
  rw [hp] at hcopies hnodup hst hfailed
  obtain ⟨hfresh, hrest⟩ := List.nodup_cons.mp (show (comp.id :: (rest.filter call.takes).map
    (·.id)).Nodup from hnodup)
  obtain ⟨returned, x, heq, htodo, hfl⟩ := loop_todo (settled s call comp err .none) p
    (call.after (comp.outcome err) .none).1 rest
  rw [after_takes] at htodo
  rw [heq]
  have htable : (settled s call comp err .none).table =
      record s.table s.now call comp.id (comp.outcome err) := by simp [settled]
  refine LastTry.put ?_ h.others ?_ (by rw [htodo]; exact hrest) (by simp [hfl]) ?_
  · rw [htable]
    exact record_tries s.now call comp.id (comp.outcome err) h.row
  · intro c hc
    rw [htodo] at hc
    exact hcopies c (List.mem_cons_of_mem _ hc)
  · by_cases hid : comp.id = i
    · subst i
      cases err with
      | none => exact absurd rfl hfailed
      | some msg =>
        obtain ⟨r, hr, hri, _⟩ := h.row
        obtain ⟨q, hq, hrec⟩ := record_mem_of_eq s.now call (comp.outcome (some msg)) hr
        have hout := outcome_last msg (hcopies comp List.mem_cons_self rfl)
        rw [hri] at hq
        refine Or.inr (Or.inr ⟨h.executed_once hp, ⟨q, ?_, hrec.id.trans hri, hrec.status.trans hout⟩, ?_⟩)
        · rw [htable]
          exact hq
        · intro c hc heq'
          rw [htodo] at hc
          exact hfresh (heq' ▸ List.mem_map_of_mem hc)
    · rcases hst with ⟨hzero, _⟩ | ⟨_, hfl'⟩ | ⟨hone, hman, hfree⟩
      · exact Or.inl ⟨hzero, by simp [hfl]⟩
      · exact absurd (Prod.mk.inj (Option.some.inj hfl')).1 hid
      · refine Or.inr (Or.inr ⟨hone, ?_, ?_⟩)
        · rw [htable]
          exact record_other (Ne.symm hid) hman
        · intro c hc
          rw [htodo] at hc
          exact hfree c (List.mem_cons_of_mem _ hc)

theorem LastTry.running {i : Int} {p q : Nat} {s : State} (h : LastTry i p s)
    (hq : s.processor q ≠ .idle) : q = p := by
  by_contra hne
  exact hq (h.others q hne)

theorem LastTry.step {i : Int} {s s' : State} {a : Action} (h : ∃ p, LastTry i p s)
    (hf : Failing i s a) (hser : Serial s a) (hs : Compensation.step s a = some s') :
    ∃ p, LastTry i p s' := by
  obtain ⟨p, h⟩ := h
  cases a with
  | tick elapsed =>
    cases Option.some.inj hs
    exact ⟨p, h.row, h.others, h.copies, h.nodup, h.failed, h.stage⟩
  | create id comp =>
    obtain ⟨t, new, rfl, hrows, _⟩ := step_create hs
    have hmem : ∀ r ∈ s.table.rows, r ∈ t.rows := fun r hr => hrows ▸ List.mem_append_left _ hr
    refine ⟨p, ?_, h.others, h.copies, h.nodup, h.failed, ?_⟩
    · obtain ⟨r, hr, hrest⟩ := h.row
      exact ⟨r, hmem r hr, hrest⟩
    · rcases h.stage with hz | ho | ⟨hone, ⟨r, hr, hman⟩, hfree⟩
      · exact Or.inl hz
      · exact Or.inr (Or.inl ho)
      · exact Or.inr (Or.inr ⟨hone, ⟨r, hmem r hr, hman⟩, hfree⟩)
  | getPending q rows =>
    obtain ⟨_, hread, ⟨_, rfl⟩ | ⟨_, rfl⟩⟩ := step_getPending hs
    · exact ⟨q, h.read hser hread.reads⟩
    · exact ⟨p, h⟩
  | getByBatchID q batchID rows =>
    obtain ⟨_, hread, ⟨_, rfl⟩ | ⟨_, rfl⟩⟩ := step_getByBatchID hs
    · exact ⟨q, h.read hser (hread.reads _)⟩
    · exact ⟨p, h⟩
  | execute q err =>
    obtain ⟨call, comp, rest, hq, rfl⟩ := step_execute hs
    have hqp := h.running (q := q) (by simp [hq])
    subst q
    exact ⟨p, h.execute hq (hf call comp rest hq)⟩
  | settle q fault =>
    obtain ⟨call, comp, rest, err, hq, rfl⟩ := step_settle hs
    have hqp := h.running (q := q) (by simp [hq])
    subst q
    have hnone : fault = .none := hf
    subst fault
    exact ⟨p, h.settle hq⟩
  | stop q =>
    cases Option.some.inj hs
    have hsame : (s.setProcessor q .idle).processor = s.processor := by
      simp only [State.setProcessor]
      rw [← (hf : s.processor q = .idle), Function.update_eq_self]
    refine ⟨p, h.row, fun q' hq' => ?_, ?_, ?_, ?_, ?_⟩
    · rw [hsame]; exact h.others q' hq'
    · rw [hsame]; exact h.copies
    · rw [hsame]; exact h.nodup
    · rw [hsame]; exact h.failed
    · rw [hsame]; exact h.stage

theorem LastTry.start {t : CompensationTable} {row : CompensationRow} (hr : row ∈ t.rows)
    (hlast : row.maxRetries ≤ row.retryCount + 1) (now : Time) :
    LastTry row.id 0 (State.start t now) where
  row := ⟨row, hr, rfl, hlast⟩
  others := fun _ _ => rfl
  copies := fun _ hc => absurd hc List.not_mem_nil
  nodup := List.nodup_nil
  failed := by simp [State.start, Processor.flight]
  stage := Or.inl ⟨rfl, by simp [State.start, Processor.flight]⟩

theorem LastTry.bound {i m : Int} {p : Nat} {s : State} (h : LastTry i p s) (hm : 1 ≤ m) :
    RetryBound i m s := by
  rcases h.stage with ⟨hzero, _⟩ | ⟨hone, hfl⟩ | ⟨hone, hman, _⟩
  · exact ⟨by rw [hzero]; omega, fun heq => by rw [hzero] at heq; omega⟩
  · exact ⟨by rw [hone]; omega, fun _ => Or.inl ⟨p, false, hfl⟩⟩
  · exact ⟨by rw [hone]; omega, fun _ => Or.inr hman⟩

end SupplyPlatform.Compensation
