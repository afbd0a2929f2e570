import SupplyPlatform.OutboxInvariant

namespace SupplyPlatform.Outbox

open Relational Holding

/-- Every event that is neither completed nor dead-lettered is held or claimable again. -/
def Accounted (s : State) : Prop :=
  ∀ r ∈ s.outbox.rows, r.status ≠ .completed → r.status ≠ .deadLetter →
    (∃ w, r.eventID ∈ (s.worker w).held) ∨ r.status = .pending ∨ r.status = .failed

/-- The steps that leave no event behind. -/
def Clean (s : State) : Action → Prop
  | .create _ event => event.status ≠ .processing
  | .fetchAndLock _ ids => ∀ r ∈ s.outbox.rows, r.id ∈ ids → r.errorMessage ≠ none
  | .markCompleted _ fault => fault ≠ .unapplied
  | .handleFailure _ fault => fault ≠ .unapplied
  | .stop w => s.worker w = .idle
  | _ => True

theorem accounted_iff {s : State} :
    Accounted s ↔ ∀ r ∈ s.outbox.rows, r.status = .processing →
      ∃ w, r.eventID ∈ (s.worker w).held := by
  constructor
  · intro h r hr hst
    have hc := h r hr (by simp [hst]) (by simp [hst])
    simpa [hst] using hc
  · intro h r hr hc hd
    cases hst : r.status with
    | pending => exact Or.inr (Or.inl rfl)
    | processing => exact Or.inl (h r hr hst)
    | completed => exact absurd hst hc
    | failed => exact Or.inr (Or.inr rfl)
    | deadLetter => exact absurd hst hd

/-- A row nobody holds is stranded once it is in `processing`. -/
theorem not_accounted {s : State} {r : OutboxRow} (hr : r ∈ s.outbox.rows)
    (hst : r.status = .processing) (hfree : ∀ w, r.eventID ∉ (s.worker w).held) : ¬Accounted s := by
  intro h
  obtain ⟨w, hw⟩ := accounted_iff.mp h r hr hst
  exact hfree w hw

theorem complete_rows {s : State} {event : OutboxEvent} {fault : Fault} {q : OutboxRow}
    (hf : fault ≠ .unapplied) (hq : q ∈ (complete s event fault).outbox.rows) :
    (q ∈ s.outbox.rows ∧ ¬inProcessing event.eventID q) ∨ q.status = .completed := by
  have hmark : ∀ (t : OutboxTable) (res : Except RepoError Unit),
      markCompleted s.outbox s.now event.eventID = (t, res) → q ∈ t.rows →
      (q ∈ s.outbox.rows ∧ ¬inProcessing event.eventID q) ∨ q.status = .completed := by
    intro t res hm hq
    rcases markProcessing_mem hm hq with hsame | ⟨r, _, _, rfl⟩
    · exact Or.inl hsame
    · exact Or.inr (updateOutboxVersion_fields _ _).2.1
  unfold complete at hq
  split at hq
  next => exact absurd rfl hf
  next hm => exact hmark _ _ hm hq
  next hm => exact hmark _ _ hm hq
  next hm => exact hmark _ _ hm hq

theorem handleFailure_rows {s : State} {event : OutboxEvent} {msg : String} {fault : Fault}
    {q : OutboxRow} (hf : fault ≠ .unapplied)
    (hq : q ∈ (handleFailure s event msg fault).outbox.rows) :
    (q ∈ s.outbox.rows ∧ ¬inProcessing event.eventID q) ∨ q.status = .failed := by
  have hother : ∀ r : OutboxRow, r.eventID ≠ event.retried.eventID →
      ¬inProcessing event.eventID r := fun r hne hp => hne (inProcessing_iff.mp hp).1
  unfold handleFailure at hq
  dsimp only at hq
  split at hq
  · cases hm : moveToDeadLetter s.outbox s.deadLetter s.now event.retried msg with
    | error err =>
      have hgone := moveToDeadLetter_error hm
      cases fault <;> (simp only [hm] at hq; exact Or.inl ⟨hq, hother q (hgone q hq)⟩)
    | ok out =>
      obtain ⟨t, letters⟩ := out
      obtain ⟨_, _, _, rfl, _⟩ := moveToDeadLetter_ok hm
      cases fault with
      | unapplied => exact absurd rfl hf
      | none =>
        simp only [hm] at hq
        obtain ⟨hq, hne⟩ := mem_deleteEvent.mp hq
        exact Or.inl ⟨hq, hother q hne⟩
      | applied =>
        simp only [hm] at hq
        obtain ⟨hq, hne⟩ := mem_deleteEvent.mp hq
        exact Or.inl ⟨hq, hother q hne⟩
  · have hmark : ∀ (next : Option Time) (t : OutboxTable) (res : Except RepoError Unit),
        markFailed s.outbox event.retried.eventID msg next = (t, res) → q ∈ t.rows →
        (q ∈ s.outbox.rows ∧ ¬inProcessing event.eventID q) ∨ q.status = .failed := by
      intro next t res hm hq
      rcases markProcessing_mem hm hq with hsame | ⟨r, _, _, rfl⟩
      · exact Or.inl hsame
      · exact Or.inr (updateOutboxVersion_fields _ _).2.1
    split at hq
    next => exact absurd rfl hf
    next hm => exact hmark _ _ _ hm hq
    next hm => exact hmark _ _ _ hm hq

theorem handleFailure_unapplied (s : State) (event : OutboxEvent) (msg : String) :
    (handleFailure s event msg .unapplied).outbox = s.outbox := by
  unfold handleFailure
  dsimp only
  split
  · cases moveToDeadLetter s.outbox s.deadLetter s.now event.retried msg <;> rfl
  · rfl

@[simp] theorem complete_worker (s : State) (event : OutboxEvent) (fault : Fault) :
    (complete s event fault).worker = s.worker := by
  unfold complete
  split <;> rfl

@[simp] theorem handleFailure_worker (s : State) (event : OutboxEvent) (msg : String)
    (fault : Fault) : (handleFailure s event msg fault).worker = s.worker := by
  unfold handleFailure
  dsimp only
  split <;> split <;> rfl

/-- When a worker moves on, only the row of the event it leaves can lose its holder. -/
theorem held_after_loop {s : State} (h : Accounted s) {w : Nat} {event : OutboxEvent}
    {rest : List OutboxEvent} {phase : Phase} (hw : s.worker w = .running event rest phase)
    {r : OutboxRow} (hr : r ∈ s.outbox.rows) (hst : r.status = .processing)
    (hne : r.eventID ≠ event.eventID) :
    ∃ v, r.eventID ∈ ((s.setWorker w (Worker.loop rest)).worker v).held := by
  obtain ⟨v, hv⟩ := accounted_iff.mp h r hr hst
  refine ⟨v, ?_⟩
  by_cases hvw : v = w
  · subst v
    rw [hw] at hv
    have hmem : r.eventID ∈ rest.map (·.eventID) := (List.mem_cons.mp hv).resolve_left hne
    simpa [State.setWorker] using hmem
  · simpa [State.setWorker, hvw] using hv

/-- A worker that moves on after its call took effect leaves every other row accounted for. -/
theorem accounted_after_loop {s s' : State} (h : Accounted s) {w : Nat} {event : OutboxEvent}
    {rest : List OutboxEvent} {phase : Phase} (hw : s.worker w = .running event rest phase)
    (hworker : s'.worker = (s.setWorker w (Worker.loop rest)).worker)
    (hrows : ∀ q ∈ s'.outbox.rows, (q ∈ s.outbox.rows ∧ ¬inProcessing event.eventID q) ∨
      q.status ≠ .processing) : Accounted s' := by
  apply accounted_iff.mpr
  intro q hq hst
  rcases hrows q hq with ⟨hqs, hn⟩ | hne
  · have hid : q.eventID ≠ event.eventID := fun heq => hn (inProcessing_iff.mpr ⟨heq, hst⟩)
    obtain ⟨v, hv⟩ := held_after_loop h hw hqs hst hid
    exact ⟨v, by rw [hworker]; exact hv⟩
  · exact absurd hst hne

theorem held_after_publish {s : State} {w : Nat} {event : OutboxEvent} {rest : List OutboxEvent}
    {phase phase' : Phase} (hw : s.worker w = .running event rest phase) (v : Nat) :
    ((s.setWorker w (.running event rest phase')).worker v).held = (s.worker v).held := by
  by_cases hv : v = w
  · subst v
    simp [State.setWorker, hw, Worker.held]
  · simp [State.setWorker, hv]

theorem accounted_step {s s' : State} {a : Action} (h : Accounted s) (hc : Clean s a)
    (hs : step s a = some s') : Accounted s' := by
  cases a with
  | tick elapsed => cases Option.some.inj hs; exact h
  | create id event =>
    obtain ⟨_, row, t, _, hst, _, _, ht, rfl⟩ := step_create hs
    apply accounted_iff.mpr
    intro q hq hproc
    rcases (Table.mem_of_insert ht).mp hq with hq | rfl
    · exact accounted_iff.mp h q hq hproc
    · exact absurd (hst.symm.trans hproc) hc
  | fetchAndLock w ids =>
    obtain ⟨hidle, hcl, ⟨_, rfl⟩ | ⟨⟨r, hr, hi, hnone⟩, _⟩⟩ := step_fetchAndLock hs
    · apply accounted_iff.mpr
      intro q hq hproc
      have hq' : q ∈ (claim s.outbox ids).rows := hq
      obtain ⟨r, hr, hqe, _, _, hcase⟩ := mem_claim hq'
      rcases hcase with rfl | ⟨hi, _⟩
      · obtain ⟨v, hv⟩ := accounted_iff.mp h q hr hproc
        have hvw : v ≠ w := by
          intro heq
          rw [heq, hidle] at hv
          exact absurd hv List.not_mem_nil
        exact ⟨v, by simpa [State.setWorker, hvw] using hv⟩
      · refine ⟨w, ?_⟩
        have hm : claimedRow r ∈ returning (claim s.outbox ids) ids :=
          (mem_returning_claim hcl.sound).mpr ⟨r, hr, hi, rfl⟩
        simp only [State.setWorker, Function.update_self, held_loop, List.map_map]
        exact List.mem_map.mpr ⟨claimedRow r, hm, by rw [hqe, claimedRow_eq]; rfl⟩
    · exact absurd hnone (hc r hr hi)
  | publish w err =>
    obtain ⟨event, rest, phase, published, hw, rfl, _, _⟩ := step_publish hs
    intro r hr hcomp hdead
    rcases h r hr hcomp hdead with ⟨v, hv⟩ | hclaimable
    · refine Or.inl ⟨v, ?_⟩
      exact (held_after_publish hw v).symm ▸ hv
    · exact Or.inr hclaimable
  | markCompleted w fault =>
    obtain ⟨event, rest, hw, rfl⟩ := step_markCompleted hs
    refine accounted_after_loop h hw (by simp [State.setWorker]) ?_
    intro q hq
    exact (complete_rows hc hq).imp_right (fun hst => by simp [hst])
  | handleFailure w fault =>
    obtain ⟨event, rest, msg, hw, rfl⟩ := step_handleFailure hs
    refine accounted_after_loop h hw (by simp [State.setWorker]) ?_
    intro q hq
    exact (handleFailure_rows hc hq).imp_right (fun hst => by simp [hst])
  | deleteCompleted before =>
    cases Option.some.inj hs
    exact fun r hr => h r (Table.mem_delete.mp hr).1
  | stop w =>
    cases Option.some.inj hs
    have hsame : (s.setWorker w .idle).worker = s.worker := by
      simp only [State.setWorker]
      rw [← (hc : s.worker w = .idle), Function.update_eq_self]
    intro r hr
    rw [hsame]
    exact h r hr

/-- A worker that lets go of a row in `processing` without a write strands it. -/
theorem strands_of_release {s s' : State} (hi : Inv s) {w : Nat} {event : OutboxEvent}
    {rest : List OutboxEvent} {phase : Phase} (hw : s.worker w = .running event rest phase)
    (hrows : s'.outbox = s.outbox)
    (hfree : ∀ v, event.eventID ∉ (s'.worker v).held) : ¬Accounted s' := by
  have hheld : event.eventID ∈ (s.worker w).held := by rw [hw]; exact List.mem_cons_self
  obtain ⟨r, hr, hre, hst⟩ := hi.heldRow w _ hheld
  exact not_accounted (by rw [hrows]; exact hr) hst (fun v => by rw [hre]; exact hfree v)

theorem dirty_step_strands {s s' : State} {a : Action} (hi : Inv s) (hc : ¬Clean s a)
    (hs : step s a = some s') : ¬Accounted s' := by
  cases a with
  | tick elapsed => exact absurd trivial hc
  | create id event =>
    obtain ⟨hnew, row, t, hre, hst, _, _, ht, rfl⟩ := step_create hs
    have hproc : row.status = .processing := hst.trans (not_not.mp hc)
    refine not_accounted ((Table.mem_of_insert ht).mpr (Or.inr rfl)) hproc ?_
    intro v hv
    rw [hre] at hv
    obtain ⟨r, hr, hre', _⟩ := hi.heldRow v _ hv
    exact hnew (hre' ▸ hi.rowsCreated r hr)
  | fetchAndLock w ids =>
    obtain ⟨_, hcl, ⟨hall, _⟩ | ⟨⟨r, hr, hid, _⟩, rfl⟩⟩ := step_fetchAndLock hs
    · exact absurd hall hc
    · refine not_accounted (claimedRow_mem hr hid) (by rw [claimedRow_eq]) ?_
      intro v hv
      obtain ⟨r', hr', hre', hst⟩ := hi.heldRow v _ hv
      have heq := row_eq_of_eventID hr' hr (by rw [hre', claimedRow_eq])
      subst r'
      exact (mem_claim_of_processing hcl hr hst).1 hid
  | publish w err => exact absurd trivial hc
  | markCompleted w fault =>
    have hf : fault = .unapplied := not_not.mp hc
    subst fault
    obtain ⟨event, rest, hw, rfl⟩ := step_markCompleted hs
    exact strands_of_release hi hw rfl (hi.finished_free hw)
  | handleFailure w fault =>
    have hf : fault = .unapplied := not_not.mp hc
    subst fault
    obtain ⟨event, rest, msg, hw, rfl⟩ := step_handleFailure hs
    refine strands_of_release hi hw (handleFailure_unapplied s event msg) (fun v => ?_)
    simpa [State.setWorker] using hi.finished_free hw v
  | deleteCompleted before => exact absurd trivial hc
  | stop w =>
    cases Option.some.inj hs
    cases hw : s.worker w with
    | idle => exact absurd hw hc
    | running event rest phase =>
      refine strands_of_release hi hw rfl ?_
      intro v hv
      by_cases hvw : v = w
      · subst v
        simp [State.setWorker, Worker.held] at hv
      · have hv' : event.eventID ∈ (s.worker v).held := by simpa [State.setWorker, hvw] using hv
        exact hvw (hi.exclusive.once hv' (by rw [hw]; exact List.mem_cons_self))

/-- No event is ever stranded in a run exactly when the run starts with nothing in `processing` and
every step of it is clean. -/
theorem accounted_throughout_iff (t : OutboxTable) (now : Time) (actions : List Action) :
    Transition.Throughout step Accounted (State.start t now) actions ↔
      (∀ r ∈ t.rows, r.status ≠ .processing) ∧
        Transition.EachStep step Clean (State.start t now) actions := by
  have hrun : Accounted (State.start t now) →
      (Transition.Throughout step Accounted (State.start t now) actions ↔
        Transition.EachStep step Clean (State.start t now) actions) := by
    intro h0
    refine Transition.throughout_iff_eachStep (I := fun s => Inv s ∧ Accounted s) ?_ ?_ ?_ ?_ actions
    · exact fun s a s' hi hc hs => ⟨hi.1.step hs, accounted_step hi.2 hc hs⟩
    · exact fun s hi => hi.2
    · exact fun s a s' hi hc hs => dirty_step_strands hi.1 hc hs
    · exact ⟨Inv.start t now, h0⟩
  constructor
  · intro h
    refine ⟨fun r hr hst => ?_, (hrun h.start).mp h⟩
    exact not_accounted hr hst (fun w => List.not_mem_nil) h.start
  · rintro ⟨h0, h⟩
    exact (hrun (accounted_iff.mpr (fun r hr hst => absurd hst (h0 r hr)))).mpr h

theorem accounted_throughout_sample :
    Transition.Throughout step Accounted (State.start (sampleTable (some "")) 0)
      [.fetchAndLock 0 [1], .publish 0 none, .markCompleted 0 .none] := by
  refine (accounted_throughout_iff _ _ _).mpr ⟨by decide, ?_⟩
  refine fun s1 h1 => ⟨show ∀ r ∈ (sampleTable (some "")).rows, r.id ∈ [1] → r.errorMessage ≠ none
    by decide, fun s2 h2 => ⟨trivial, fun s3 h3 => ⟨?_, trivial⟩⟩⟩
  exact Fault.noConfusion

/-- A row fresh from `Create`, one fetch: the row is in `processing` and nobody holds it. -/
theorem stranded_fresh_event_counterexample :
    ∃ s, Transition.Reach step Transition.anyStep (State.start Table.empty 0) s ∧ ¬Accounted s := by
  obtain ⟨s, hs⟩ : ∃ s, Transition.exec step (State.start Table.empty 0)
      [.create 1 sampleEvent, .fetchAndLock 0 [1]] = some s := ⟨_, rfl⟩
  refine ⟨s, Transition.reach_of_exec hs, ?_⟩
  cases hs
  exact not_accounted (r := claimedRow (sampleRow none 5 (by decide))) (by decide) (by decide)
    (fun w => by simp [State.start, Worker.held])

end SupplyPlatform.Outbox
