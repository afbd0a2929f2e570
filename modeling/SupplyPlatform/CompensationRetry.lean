import SupplyPlatform.CompensationOnce

namespace SupplyPlatform.Compensation

open Relational

def executions (s : State) (i : Int) : Nat := (s.executed.map (·.1)).count i

/-- Runs in which the operation of one record always fails and the store calls succeed. -/
def Failing (i : Int) (s : State) : Action → Prop
  | .execute p err => ∀ call comp rest, s.processor p = .running call comp rest .executing →
      comp.id = i → err ≠ none
  | .settle _ fault => fault = .none
  | .stop p => s.processor p = .idle
  | _ => True

/-- Runs in which no loop starts while another one is running. -/
def Serial (s : State) : Action → Prop
  | .getPending _ _ => ∀ q, s.processor q = .idle
  | .getByBatchID _ _ _ => ∀ q, s.processor q = .idle
  | _ => True

/-- At most `m` executions, the `m`-th of which leaves the record to a human. -/
structure RetryBound (i m : Int) (s : State) : Prop where
  atMost : (executions s i : Int) ≤ m
  manual : (executions s i : Int) = m → (∃ p b, (s.processor p).flight = some (i, b)) ∨
    ∃ r ∈ s.table.rows, r.id = i ∧ r.status = .manualRequired

/-- A record some loop will execute once it reads it. -/
def Runnable (r : CompensationRow) : Prop := unfinished r.status ∧ decodable r

/-- The records a loop has still to handle, the one at its head first. -/
def Processor.todo : Processor → List BatchCompensation
  | .idle => []
  | .running call comp rest _ => comp :: rest.filter call.takes

@[simp] theorem after_takes (call : Call) (o : Outcome) (fault : Fault) :
    (call.after o fault).1.takes = call.takes := by
  cases call with
  | worker => rfl
  | batch result => cases fault <;> rfl

/-- What a loop leaves of a state: only its own processor and the results change. -/
theorem loop_todo (s : State) (p : Nat) (call : Call) (comps : List BatchCompensation) :
    ∃ returned x, s.loop p call comps = { s with returned := returned }.setProcessor p x ∧
      x.todo = comps.filter call.takes ∧ x.flight = none := by
  rcases loop_cases s p call comps with ⟨hnil, returned, heq⟩ | ⟨comp, rest, hf, _, heq⟩
  · exact ⟨returned, .idle, heq, hnil.symm, rfl⟩
  · exact ⟨s.returned, _, heq, hf.symm, rfl⟩

/-- A read of the table, by either query. -/
structure Reads (t : CompensationTable) (call : Call) (rows : List CompensationRow) : Prop where
  sound : ∀ r ∈ rows, r ∈ t.rows
  nodup : (rows.map (·.id)).Nodup
  taken : ∀ r ∈ rows, call.takes (decodeCompensation r) → unfinished r.status

theorem ReadsPending.reads {t : CompensationTable} {rows : List CompensationRow}
    (h : ReadsPending t rows) : Reads t .worker rows where
  sound := fun _ hr => (h.mem_iff.mp hr).1
  nodup := List.pairwise_map.mpr h.pairwise
  taken := fun _ hr _ => (h.mem_iff.mp hr).2

theorem ReadsBatch.reads {t : CompensationTable} {batchID : String} {rows : List CompensationRow}
    (h : ReadsBatch t batchID rows) (result : CompensationResult) : Reads t (.batch result) rows where
  sound := fun _ hr => (h.mem_iff.mp hr).1
  nodup := List.pairwise_map.mpr h.pairwise
  taken := fun _ _ ht => ht

/-- The records a loop takes from a read that includes no runnable copy of the row. -/
theorem Reads.todo_of_row {t : CompensationTable} {call : Call} {rows : List CompensationRow}
    (h : Reads t call rows) {row : CompensationRow} (hrow : row ∈ t.rows) {c : BatchCompensation}
    (hc : c ∈ (rows.map decodeCompensation).filter call.takes) (hid : c.id = row.id) :
    row ∈ rows ∧ unfinished row.status ∧ c = decodeCompensation row := by
  obtain ⟨hc, ht⟩ := List.mem_filter.mp hc
  obtain ⟨r, hr, rfl⟩ := List.mem_map.mp hc
  have heq := row_eq_of_id (h.sound r hr) hrow hid
  subst r
  exact ⟨hr, h.taken row hr ht, rfl⟩

/-- A record no loop has taken up: its row is as it was. -/
structure Ignored (row : CompensationRow) (s : State) : Prop where
  here : row ∈ s.table.rows
  free : ∀ p, ∀ c ∈ (s.processor p).todo, c.id ≠ row.id
  executed : executions s row.id = 0

theorem Ignored.put {row : CompensationRow} {s : State} (h : Ignored row s) {p : Nat} {x : Processor}
    (hx : ∀ c ∈ x.todo, c.id ≠ row.id) : Ignored row (s.setProcessor p x) := by
  refine ⟨h.here, fun q => ?_, h.executed⟩
  by_cases hqp : q = p
  · subst q
    simpa [State.setProcessor] using hx
  · simpa [State.setProcessor, hqp] using h.free q

theorem Ignored.loop {row : CompensationRow} {s : State} (h : Ignored row s) {p : Nat} {call : Call}
    {comps : List BatchCompensation} (hc : ∀ c ∈ comps.filter call.takes, c.id ≠ row.id) :
    Ignored row (s.loop p call comps) := by
  obtain ⟨returned, x, heq, htodo, _⟩ := loop_todo s p call comps
  rw [heq]
  refine Ignored.put ?_ (by rw [htodo]; exact hc)
  exact ⟨h.here, h.free, h.executed⟩

theorem Ignored.read {row : CompensationRow} {s : State} (h : Ignored row s) (hn : ¬Runnable row)
    {p : Nat} {call : Call} {rows : List CompensationRow} (hread : Reads s.table call rows)
    (hall : ∀ r ∈ rows, decodable r) : Ignored row (s.loop p call (rows.map decodeCompensation)) := by
  refine h.loop (fun c hc hid => ?_)
  obtain ⟨hr, hunf, _⟩ := hread.todo_of_row h.here hc hid
  exact hn ⟨hunf, hall row hr⟩

theorem Ignored.step {row : CompensationRow} {s s' : State} {a : Action} (h : Ignored row s)
    (hn : ¬Runnable row) (hs : Compensation.step s a = some s') : Ignored row s' := by
  cases a with
  | tick elapsed =>
    cases Option.some.inj hs
    exact ⟨h.here, h.free, h.executed⟩
  | create id comp =>
    obtain ⟨t, new, rfl, hrows, _⟩ := step_create hs
    exact ⟨hrows ▸ List.mem_append_left _ h.here, h.free, h.executed⟩
  | getPending p rows =>
    obtain ⟨_, hread, ⟨hall, rfl⟩ | ⟨_, rfl⟩⟩ := step_getPending hs
    · exact h.read hn hread.reads hall
    · exact h
  | getByBatchID p batchID rows =>
    obtain ⟨_, hread, ⟨hall, rfl⟩ | ⟨_, rfl⟩⟩ := step_getByBatchID hs
    · exact h.read hn (hread.reads _) hall
    · exact h
  | execute p err =>
    obtain ⟨call, comp, rest, hp, rfl⟩ := step_execute hs
    have hfree := h.free p
    rw [hp] at hfree
    have hne : comp.id ≠ row.id := hfree comp List.mem_cons_self
    refine Ignored.put ?_ hfree
    exact ⟨h.here, h.free, by simpa [executions, List.count_cons, hne] using h.executed⟩
  | settle p fault =>
    obtain ⟨call, comp, rest, err, hp, rfl⟩ := step_settle hs
    have hfree := h.free p
    rw [hp] at hfree
    have hsettled : Ignored row (settled s call comp err fault) := by
      refine ⟨?_, h.free, h.executed⟩
      simp only [settled]
      split
      · exact h.here
      · exact record_mem_of_ne h.here (hfree comp List.mem_cons_self).symm
    refine hsettled.loop ?_
    rw [after_takes]
    exact fun c hc => hfree c (List.mem_cons_of_mem _ hc)
  | stop p =>
    cases Option.some.inj hs
    exact h.put (fun c hc => absurd hc List.not_mem_nil)

theorem Ignored.start {t : CompensationTable} {row : CompensationRow} (hr : row ∈ t.rows)
    (now : Time) : Ignored row (State.start t now) :=
  ⟨hr, fun _ _ hc => absurd hc List.not_mem_nil, rfl⟩

theorem Ignored.bound {row : CompensationRow} {s : State} (h : Ignored row s) {m : Int}
    (hm : 1 ≤ m) : RetryBound row.id m s := by
  refine ⟨by rw [h.executed]; omega, fun heq => ?_⟩
  rw [h.executed] at heq
  omega

end SupplyPlatform.Compensation
