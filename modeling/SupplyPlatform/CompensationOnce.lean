import SupplyPlatform.CompensationStep

namespace SupplyPlatform.Compensation

open Relational

def Processor.comps : Processor → List BatchCompensation
  | .idle => []
  | .running _ comp rest _ => comp :: rest

/-- The record a loop has executed and not yet written back, and whether it succeeded. -/
def Processor.flight : Processor → Option (Int × Bool)
  | .running _ comp _ (.executed err) => some (comp.id, err.isNone)
  | _ => none

/-- No execution after a successful one, and no way out of `resolved`. -/
structure OnceOnly (s : State) : Prop where
  once : s.executed.Pairwise (fun newer older => older.2 = true → newer.1 ≠ older.1)
  kept : ∀ i ∈ s.resolved, ∃ r ∈ s.table.rows, r.id = i ∧ r.status = .resolved

/-- A record is executed only while its row is still unfinished and no other loop is about to write
it back, and a success is followed by a `Resolve` that takes effect. -/
def Fresh (s : State) : Action → Prop
  | .execute p _ => ∀ call comp rest, s.processor p = .running call comp rest .executing →
      (∀ r ∈ s.table.rows, r.id = comp.id → unfinished r.status) ∧
        ∀ q b, (s.processor q).flight ≠ some (comp.id, b)
  | .settle p fault => fault = .unapplied → ∀ i, (s.processor p).flight ≠ some (i, true)
  | .stop p => ∀ i, (s.processor p).flight ≠ some (i, true)
  | _ => True

structure Inv (s : State) : Prop where
  known : ∀ p, ∀ c ∈ (s.processor p).comps, ∃ r ∈ s.table.rows, r.id = c.id
  alone : ∀ p q i b b', (s.processor p).flight = some (i, b) →
    (s.processor q).flight = some (i, b') → p = q
  flown : ∀ p f, (s.processor p).flight = some f → f ∈ s.executed
  success : ∀ i, (i, true) ∈ s.executed → (∃ p, (s.processor p).flight = some (i, true)) ∨
    ((∃ r ∈ s.table.rows, r.id = i ∧ r.status = .resolved) ∧
      ∀ q b, (s.processor q).flight ≠ some (i, b))
  once : s.executed.Pairwise (fun newer older => older.2 = true → newer.1 ≠ older.1)
  resolved : ∀ i ∈ s.resolved, (i, true) ∈ s.executed ∧
    ∀ q b, (s.processor q).flight ≠ some (i, b)

theorem Inv.onceOnly {s : State} (h : Inv s) : OnceOnly s := by
  refine ⟨h.once, fun i hi => ?_⟩
  obtain ⟨hex, hfree⟩ := h.resolved i hi
  rcases h.success i hex with ⟨p, hp⟩ | ⟨hrow, _⟩
  · exact absurd hp (hfree p true)
  · exact hrow

theorem flight_put {s : State} {p : Nat} {x : Processor} (hx : x.flight = none) {q : Nat}
    {f : Int × Bool} (hq : ((s.setProcessor p x).processor q).flight = some f) :
    q ≠ p ∧ (s.processor q).flight = some f := by
  by_cases hqp : q = p
  · subst q
    simp [State.setProcessor, hx] at hq
  · exact ⟨hqp, by simpa [State.setProcessor, hqp] using hq⟩

theorem known_put {s : State} {t : CompensationTable} {p : Nat} {x : Processor}
    (h : ∀ q, ∀ c ∈ (s.processor q).comps, ∃ r ∈ t.rows, r.id = c.id)
    (hx : ∀ c ∈ x.comps, ∃ r ∈ t.rows, r.id = c.id) (q : Nat) :
    ∀ c ∈ ((s.setProcessor p x).processor q).comps, ∃ r ∈ t.rows, r.id = c.id := by
  by_cases hqp : q = p
  · subst q
    simpa [State.setProcessor] using hx
  · simpa [State.setProcessor, hqp] using h q

/-- A loop without a success to write back may move on. -/
theorem Inv.put {s : State} (h : Inv s) {p : Nat} {x : Processor} (hx : x.flight = none)
    (hold : ∀ i, (s.processor p).flight ≠ some (i, true))
    (hk : ∀ c ∈ x.comps, ∃ r ∈ s.table.rows, r.id = c.id) : Inv (s.setProcessor p x) where
  known := known_put h.known hk
  alone := fun q q' i b b' hq hq' =>
    h.alone q q' i b b' (flight_put hx hq).2 (flight_put hx hq').2
  flown := fun q f hq => h.flown q f (flight_put hx hq).2
  success := by
    intro i hi
    rcases h.success i hi with ⟨q, hq⟩ | ⟨hrow, hfree⟩
    · have hqp : q ≠ p := fun heq => hold i (heq ▸ hq)
      exact Or.inl ⟨q, by simpa [State.setProcessor, hqp] using hq⟩
    · exact Or.inr ⟨hrow, fun q b hq => hfree q b (flight_put hx hq).2⟩
  once := h.once
  resolved := fun i hi => (h.resolved i hi).imp_right
    (fun hfree q b hq => hfree q b (flight_put hx hq).2)

theorem record_known {t : CompensationTable} {now : Time} {call : Call} {i j : Int} {o : Outcome}
    (h : ∃ r ∈ t.rows, r.id = j) : ∃ r ∈ (record t now call i o).rows, r.id = j := by
  obtain ⟨r, hr, rfl⟩ := h
  by_cases hi : r.id = i
  · subst i
    obtain ⟨q, hq, hrec⟩ := record_mem_of_eq _ _ _ hr
    exact ⟨q, hq, hrec.id⟩
  · exact ⟨r, record_mem_of_ne hr hi, rfl⟩

/-- A write to a record that has not succeeded yet. -/
theorem Inv.write {s : State} (h : Inv s) {call : Call} {i : Int} {o : Outcome}
    (hno : (i, true) ∉ s.executed) (stats : List Stat) :
    Inv { s with table := record s.table s.now call i o, stats := stats } where
  known := fun p c hc => record_known (h.known p c hc)
  alone := h.alone
  flown := h.flown
  success := by
    intro j hj
    rcases h.success j hj with hfl | ⟨⟨r, hr, rfl, hst⟩, hfree⟩
    · exact Or.inl hfl
    · have hne : r.id ≠ i := by
        rintro rfl
        exact hno hj
      exact Or.inr ⟨⟨r, record_mem_of_ne hr hne, rfl, hst⟩, hfree⟩
  once := h.once
  resolved := h.resolved

/-- A success is written back. -/
theorem Inv.resolve {s : State} (h : Inv s) {p : Nat} {i : Int} {call : Call} {x : Processor}
    (hp : (s.processor p).flight = some (i, true)) (hrow : ∃ r ∈ s.table.rows, r.id = i)
    (hx : x.flight = none)
    (hk : ∀ c ∈ x.comps, ∃ r ∈ s.table.rows, r.id = c.id) (stats : List Stat) :
    Inv ({ s with table := record s.table s.now call i .resolved, stats := stats,
                  resolved := i :: s.resolved }.setProcessor p x) := by
  have hgone : ∀ q b, ((s.setProcessor p x).processor q).flight ≠ some (i, b) := by
    intro q b hq
    obtain ⟨hqp, hq⟩ := flight_put hx hq
    exact hqp (h.alone q p i b true hq hp)
  refine ⟨?_, ?_, fun q f hq => h.flown q f (flight_put hx hq).2, ?_, h.once, ?_⟩
  · exact known_put (fun q c hc => record_known (h.known q c hc)) (fun c hc => record_known (hk c hc))
  · exact fun q q' j b b' hq hq' =>
      h.alone q q' j b b' (flight_put hx hq).2 (flight_put hx hq').2
  · intro j hj
    by_cases hji : j = i
    · subst j
      obtain ⟨r, hr, rfl⟩ := hrow
      obtain ⟨q, hq, hrec⟩ := record_mem_of_eq _ _ _ hr
      exact Or.inr ⟨⟨q, hq, hrec.id, hrec.status⟩, hgone⟩
    · rcases h.success j hj with ⟨q, hq⟩ | ⟨⟨r, hr, rfl, hst⟩, hfree⟩
      · have hqp : q ≠ p := by
          rintro rfl
          rw [hp] at hq
          exact hji (by simpa using hq.symm)
        exact Or.inl ⟨q, by simpa [State.setProcessor, hqp] using hq⟩
      · exact Or.inr ⟨⟨r, record_mem_of_ne hr hji, rfl, hst⟩,
          fun q b hq => hfree q b (flight_put hx hq).2⟩
  · intro j hj
    rcases List.mem_cons.mp hj with rfl | hj
    · exact ⟨h.flown p _ hp, hgone⟩
    · exact (h.resolved j hj).imp_right (fun hfree q b hq => hfree q b (flight_put hx hq).2)

/-- A record is executed while its row is unfinished and nobody is about to write it back. -/
theorem Inv.execute {s : State} (h : Inv s) {p : Nat} {call : Call} {comp : BatchCompensation}
    {rest : List BatchCompensation} {err : Option String}
    (hp : s.processor p = .running call comp rest .executing)
    (hrow : ∀ r ∈ s.table.rows, r.id = comp.id → unfinished r.status)
    (hfree : ∀ q b, (s.processor q).flight ≠ some (comp.id, b)) :
    Inv ({ s with executed := (comp.id, err.isNone) :: s.executed }.setProcessor p
      (.running call comp rest (.executed err))) := by
  have hno : (comp.id, true) ∉ s.executed := by
    intro hex
    rcases h.success comp.id hex with ⟨q, hq⟩ | ⟨⟨r, hr, hid, hst⟩, _⟩
    · exact hfree q true hq
    · simpa [hst, unfinished] using hrow r hr hid
  have hflight : ∀ q f, ((s.setProcessor p (.running call comp rest (.executed err))).processor
      q).flight = some f → (q = p ∧ f = (comp.id, err.isNone)) ∨ (s.processor q).flight = some f := by
    intro q f hq
    by_cases hqp : q = p
    · subst q
      exact Or.inl ⟨rfl, by simpa [State.setProcessor, Processor.flight] using hq.symm⟩
    · exact Or.inr (by simpa [State.setProcessor, hqp] using hq)
  have hnone : (s.processor p).flight = none := by rw [hp]; rfl
  have hstill : ∀ j, j ≠ comp.id → (∀ q b, (s.processor q).flight ≠ some (j, b)) →
      ∀ q b, ((s.setProcessor p (.running call comp rest (.executed err))).processor q).flight ≠
        some (j, b) := by
    intro j hj hfree' q b hq
    rcases hflight q _ hq with ⟨_, heq⟩ | hq
    · exact hj (Prod.mk.inj heq).1
    · exact hfree' q b hq
  refine ⟨?_, ?_, ?_, ?_, ?_, ?_⟩
  · have hcomps := h.known p
    rw [hp] at hcomps
    exact known_put h.known hcomps
  · intro q q' i b b' hq hq'
    rcases hflight q _ hq with ⟨hqp, heq⟩ | hold <;>
      rcases hflight q' _ hq' with ⟨hqp', heq'⟩ | hold'
    · rw [hqp, hqp']
    · exact absurd ((Prod.mk.inj heq).1 ▸ hold') (hfree q' b')
    · exact absurd ((Prod.mk.inj heq').1 ▸ hold) (hfree q b)
    · exact h.alone q q' i b b' hold hold'
  · intro q f hq
    rcases hflight q _ hq with ⟨_, rfl⟩ | hq
    · exact List.mem_cons_self
    · exact List.mem_cons_of_mem _ (h.flown q f hq)
  · intro j hj
    rcases List.mem_cons.mp hj with heq | hj
    · refine Or.inl ⟨p, ?_⟩
      simp [State.setProcessor, Processor.flight, ← heq]
    · have hne : j ≠ comp.id := fun heq => hno (heq ▸ hj)
      rcases h.success j hj with ⟨q, hq⟩ | ⟨hres, hfree'⟩
      · have hqp : q ≠ p := by
          rintro rfl
          simp [hnone] at hq
        exact Or.inl ⟨q, by simpa [State.setProcessor, hqp] using hq⟩
      · exact Or.inr ⟨hres, hstill j hne hfree'⟩
  · refine List.pairwise_cons.mpr ⟨?_, h.once⟩
    rintro ⟨j, b⟩ hj hb heq
    exact hno (by simpa [show b = true from hb, show comp.id = j from heq] using hj)
  · intro j hj
    obtain ⟨hex, hfree'⟩ := h.resolved j hj
    have hne : j ≠ comp.id := fun heq => hno (heq ▸ hex)
    exact ⟨List.mem_cons_of_mem _ hex, hstill j hne hfree'⟩

theorem Inv.bookkeeping {s : State} (h : Inv s) (stats : List Stat)
    (returned : List CompensationResult) : Inv { s with stats := stats, returned := returned } :=
  ⟨h.known, h.alone, h.flown, h.success, h.once, h.resolved⟩

/-- A loop goes on with records of the table. -/
theorem Inv.loop {s : State} (h : Inv s) {p : Nat} {call : Call} {comps : List BatchCompensation}
    (hold : ∀ i, (s.processor p).flight ≠ some (i, true))
    (hk : ∀ c ∈ comps, ∃ r ∈ s.table.rows, r.id = c.id) : Inv (s.loop p call comps) := by
  rcases loop_cases s p call comps with ⟨_, returned, heq⟩ | ⟨comp, rest, _, hsub, heq⟩
  · rw [heq]
    exact (h.bookkeeping s.stats returned).put rfl hold (fun c hc => absurd hc List.not_mem_nil)
  · rw [heq]
    exact h.put rfl hold (fun c hc => hk c (hsub c hc))

theorem decoded_known {t : CompensationTable} {rows : List CompensationRow}
    (h : ∀ r ∈ rows, r ∈ t.rows) :
    ∀ c ∈ rows.map decodeCompensation, ∃ r ∈ t.rows, r.id = c.id := by
  intro c hc
  obtain ⟨r, hr, rfl⟩ := List.mem_map.mp hc
  exact ⟨r, h r hr, rfl⟩

/-- A record whose failure is about to be written back has not succeeded. -/
theorem Inv.not_succeeded {s : State} (h : Inv s) {p : Nat} {i : Int}
    (hp : (s.processor p).flight = some (i, false)) : (i, true) ∉ s.executed := by
  intro hex
  rcases h.success i hex with ⟨q, hq⟩ | ⟨_, hfree⟩
  · have hqp := h.alone q p i true false hq hp
    rw [hqp, hp] at hq
    simp at hq
  · exact hfree p false hp

theorem Inv.settle_success {s : State} (h : Inv s) {p : Nat} {call call' : Call}
    {comp : BatchCompensation} {rest : List BatchCompensation} {fault : Fault}
    (hp : s.processor p = .running call comp rest (.executed none)) (hf : fault ≠ .unapplied) :
    Inv ((settled s call comp none fault).loop p call' rest) := by
  have hflight : (s.processor p).flight = some (comp.id, true) := by rw [hp]; rfl
  have hcomps := h.known p
  rw [hp] at hcomps
  let stats := (settled s call comp none fault).stats
  have hsettled : settled s call comp none fault =
      { s with table := record s.table s.now call comp.id .resolved, stats := stats,
               resolved := comp.id :: s.resolved } := by
    simp [stats, settled, BatchCompensation.outcome, hf]
  rcases loop_cases (settled s call comp none fault) p call' rest with
    ⟨_, returned, heq⟩ | ⟨c, rest', _, hsub, heq⟩
  · rw [heq, hsettled]
    exact (h.bookkeeping s.stats returned).resolve hflight (hcomps comp List.mem_cons_self) rfl
      (fun c hc => absurd hc List.not_mem_nil) stats
  · rw [heq, hsettled]
    refine h.resolve hflight (hcomps comp List.mem_cons_self) rfl ?_ stats
    exact fun c' hc' => hcomps c' (List.mem_cons_of_mem _ (hsub c' hc'))

theorem Inv.settle_failure {s : State} (h : Inv s) {p : Nat} {call call' : Call}
    {comp : BatchCompensation} {rest : List BatchCompensation} {msg : String} {fault : Fault}
    (hp : s.processor p = .running call comp rest (.executed (some msg))) :
    Inv ((settled s call comp (some msg) fault).loop p call' rest) := by
  have hflight : (s.processor p).flight = some (comp.id, false) := by rw [hp]; rfl
  have hcomps := h.known p
  rw [hp] at hcomps
  have hout : comp.outcome (some msg) ≠ .resolved := by
    simp only [BatchCompensation.outcome]
    split <;> simp
  have hsettled : Inv (settled s call comp (some msg) fault) := by
    simp only [settled, hout, and_false, if_false]
    by_cases hf : fault = .unapplied
    · simp only [hf, if_true]
      exact h.bookkeeping _ _
    · simp only [hf, if_false]
      exact h.write (h.not_succeeded hflight) _
  refine hsettled.loop (fun i hi => ?_) (fun c hc => ?_)
  · have hi' : (s.processor p).flight = some (i, true) := hi
    rw [hflight] at hi'
    simp at hi'
  · have hrow := hcomps c (List.mem_cons_of_mem _ hc)
    simp only [settled]
    split
    · exact hrow
    · exact record_known hrow

theorem Inv.step {s s' : State} {a : Action} (h : Inv s) (ha : Fresh s a)
    (hs : Compensation.step s a = some s') : Inv s' := by
  have hidle : ∀ p, s.processor p = .idle → ∀ i, (s.processor p).flight ≠ some (i, true) := by
    intro p hp i hi
    simp [hp, Processor.flight] at hi
  cases a with
  | tick elapsed =>
    cases Option.some.inj hs
    exact ⟨h.known, h.alone, h.flown, h.success, h.once, h.resolved⟩
  | create id comp =>
    obtain ⟨t, row, rfl, hrows, _⟩ := step_create hs
    have hmem : ∀ r ∈ s.table.rows, r ∈ t.rows := fun r hr => hrows ▸ List.mem_append_left _ hr
    refine ⟨?_, h.alone, h.flown, ?_, h.once, h.resolved⟩
    · intro p c hc
      obtain ⟨r, hr, hid⟩ := h.known p c hc
      exact ⟨r, hmem r hr, hid⟩
    · intro i hi
      refine (h.success i hi).imp_right (fun hres => ⟨?_, hres.2⟩)
      obtain ⟨r, hr, hid⟩ := hres.1
      exact ⟨r, hmem r hr, hid⟩
  | getPending p rows =>
    obtain ⟨hp, hread, ⟨_, rfl⟩ | ⟨_, rfl⟩⟩ := step_getPending hs
    · exact h.loop (hidle p hp) (decoded_known (fun r hr => (hread.mem_iff.mp hr).1))
    · exact h
  | getByBatchID p batchID rows =>
    obtain ⟨hp, hread, ⟨_, rfl⟩ | ⟨_, rfl⟩⟩ := step_getByBatchID hs
    · exact h.loop (hidle p hp) (decoded_known (fun r hr => (hread.mem_iff.mp hr).1))
    · exact h
  | execute p err =>
    obtain ⟨call, comp, rest, hp, rfl⟩ := step_execute hs
    obtain ⟨hrow, hfree⟩ := ha call comp rest hp
    exact h.execute hp hrow hfree
  | settle p fault =>
    obtain ⟨call, comp, rest, err, hp, rfl⟩ := step_settle hs
    cases err with
    | none =>
      refine h.settle_success hp (fun hf => ha hf comp.id ?_)
      rw [hp]
      rfl
    | some msg => exact h.settle_failure hp
  | stop p =>
    cases Option.some.inj hs
    exact h.put rfl ha (fun c hc => absurd hc List.not_mem_nil)

theorem Inv.start (t : CompensationTable) (now : Time) : Inv (State.start t now) where
  known := fun _ _ hc => absurd hc List.not_mem_nil
  alone := fun _ _ _ _ _ hp => by simp [State.start, Processor.flight] at hp
  flown := fun _ _ hp => by simp [State.start, Processor.flight] at hp
  success := fun _ hi => absurd hi List.not_mem_nil
  once := List.Pairwise.nil
  resolved := fun _ hi => absurd hi List.not_mem_nil

/-- As long as no loop acts on a stale snapshot, a record that has succeeded is left alone. -/
theorem compensation_executed_once {t : CompensationTable} {now : Time} {s : State}
    (hs : Transition.Reach step Fresh (State.start t now) s) : OnceOnly s :=
  (hs.invariant (Inv.start t now) (fun _ _ _ hi ha hst => hi.step ha hst)).onceOnly

/-- A pending record with no notes of its own. -/
def sampleRow (maxRetries : Int) : CompensationRow :=
  { id := 1, batchID := "batch-1", operationType := "refund", itemIndex := 0, itemPayload := "{}",
    failureReason := some "timeout", status := .pending, retryCount := 0, maxRetries := maxRetries,
    resolvedAt := none, resolvedBy := none, resolutionNotes := some "", createdAt := 0,
    updatedAt := 0, createdBy := none, version := 1 }

def sampleTable (maxRetries : Int) : CompensationTable :=
  ⟨[sampleRow maxRetries], List.pairwise_singleton _ _⟩

/-- The worker and a batch call read the same pending record; the worker executes it and fails, then the
batch call executes its copy and resolves it. -/
theorem compensation_executed_once_sample :
    ∃ s, Transition.Reach step Fresh (State.start (sampleTable 3) 0) s ∧
      s.executed = [(1, true), (1, false)] ∧ s.resolved = [1] ∧ OnceOnly s := by
  have hstart : Transition.Reach step Fresh (State.start (sampleTable 3) 0)
      (State.start (sampleTable 3) 0) := Transition.Reach.refl _
  have hpending := hstart.next (a := .getPending 0 [sampleRow 3]) (by trivial) rfl
  have hbatch := hpending.next (a := .getByBatchID 1 "batch-1" [sampleRow 3]) (by trivial) rfl
  have hfailed := hbatch.next (a := .execute 0 (some "down")) (by
    intro call comp rest hp
    cases hp
    refine ⟨by decide, fun q b hq => ?_⟩
    rcases q with _ | _ | q <;> cases hq) rfl
  have hretrying := hfailed.next (a := .settle 0 .none) (by intro hf; cases hf) rfl
  have hexecuted := hretrying.next (a := .execute 1 none) (by
    intro call comp rest hp
    cases hp
    refine ⟨by decide, fun q b hq => ?_⟩
    rcases q with _ | _ | q <;> cases hq) rfl
  have hresolved := hexecuted.next (a := .settle 1 .none) (by intro hf; cases hf) rfl
  exact ⟨_, hresolved, rfl, rfl, compensation_executed_once hresolved⟩

/-- The worker and a batch call read the same pending record; the worker resolves it, the batch call
executes it again, fails, and puts it back to `retrying`. -/
theorem resolved_overwritten_counterexample :
    ∃ s, Transition.Reach step Transition.anyStep (State.start (sampleTable 3) 0) s ∧
      s.executed = [(1, false), (1, true)] ∧ s.resolved = [1] ∧
      s.table.rows.map (·.status) = [.retrying] ∧ ¬OnceOnly s := by
  obtain ⟨s, hs⟩ : ∃ s, Transition.exec step (State.start (sampleTable 3) 0)
      [.getPending 0 [sampleRow 3], .getByBatchID 1 "batch-1" [sampleRow 3], .execute 0 none,
        .settle 0 .none, .execute 1 (some "down"), .settle 1 .none] = some s := ⟨_, rfl⟩
  have hreach := Transition.reach_of_exec hs
  cases hs
  refine ⟨_, hreach, rfl, rfl, rfl, fun h => ?_⟩
  exact (List.pairwise_cons.mp h.once).1 (1, true) (by decide) rfl rfl

end SupplyPlatform.Compensation
