import SupplyPlatform.BatchBufferInvariant

namespace SupplyPlatform.BatchBuffer

variable {ε Err : Type}

/-- No nil event is added, no `FlushNow` gets the mutex after eventCh has been closed, and eventCh is
not closed while a `FlushNow` drains it. -/
def SparesClosedChannel (s : State ε Err) : Action ε Err → Prop
  | .invoke (.add none) => False
  | .lock id => s.eventClosed = true → s.calls id ≠ some (.flushNow, .waiting)
  | .closeEvent _ => ∀ id, s.mu ≠ some (.call id .flushNow, .drain)
  | _ => True

def HolderStep : Action ε Err → Prop
  | .work => True
  | .handlerReturns _ => True
  | .errorHandlerReturns => True
  | _ => False

/-- No event is nil, and nobody drains the closed channel. -/
structure Sound (s : State ε Err) : Prop where
  called : ∀ id stage, s.calls id ≠ some (.add none, stage)
  adding : ∀ o, s.mu ≠ some (o, .add none)
  appending : ∀ o, s.mu ≠ some (o, .addEvent none)
  received : s.run ≠ .received none
  sent : none ∉ s.eventCh
  buffered : none ∉ s.buffer
  handed : ∀ batch ∈ s.handed, none ∉ batch
  drains : s.eventClosed = true → ∀ o, s.mu ≠ some (o, .drain)

theorem sound_start : Sound (State.start : State ε Err) := by
  constructor <;> simp [State.start]

section

variable {c : Setup} {s t : State ε Err} {a : Action ε Err}

theorem called_step (hinside : ∀ id op crit, s.mu = some (.call id op, crit) → s.calls id = some (op, .inside))
    (hok : SparesClosedChannel s a) (h : ∀ id stage, s.calls id ≠ some (.add none, stage))
    (hm : Moves c s a t) : ∀ id stage, t.calls id ≠ some (.add none, stage) := by
  cases hm <;> first | exact h | grind -linarith [State.setCall, SparesClosedChannel]

theorem adding_step (hcalled : ∀ id stage, s.calls id ≠ some (.add none, stage))
    (h : ∀ o, s.mu ≠ some (o, .add none)) (hm : Moves c s a t) : ∀ o, t.mu ≠ some (o, .add none) := by
  cases hm with
  | lock id op => cases op <;> grind -linarith [Op.entry]
  | _ => first | exact h | grind -linarith

theorem appending_step (hreceived : s.run ≠ .received none) (h : ∀ o, s.mu ≠ some (o, .addEvent none))
    (hm : Moves c s a t) : ∀ o, t.mu ≠ some (o, .addEvent none) := by
  cases hm with
  | lock id op => cases op <;> grind -linarith [Op.entry]
  | _ => first | exact h | grind -linarith

theorem received_step (hdone : s.eventClosed = true → s.run = .exited) (hsent : none ∉ s.eventCh)
    (h : s.run ≠ .received none) (hm : Moves c s a t) : t.run ≠ .received none := by
  cases hm <;> first | exact h | grind -linarith

theorem sent_step (hadding : ∀ o, s.mu ≠ some (o, .add none)) (h : none ∉ s.eventCh)
    (hm : Moves c s a t) : none ∉ t.eventCh := by
  cases hm <;> first | exact h | grind -linarith

theorem buffered_step (hs : Sound s) (hm : Moves c s a t) : none ∉ t.buffer := by
  obtain ⟨-, hadding, happending, -, hsent, hbuffered, -, hdrains⟩ := hs
  cases hm <;> first | exact hbuffered | grind -linarith

theorem handed_step (hbuffered : none ∉ s.buffer) (h : ∀ batch ∈ s.handed, none ∉ batch)
    (hm : Moves c s a t) : ∀ batch ∈ t.handed, none ∉ batch := by
  cases hm <;> first | exact h | grind -linarith

/-- Once the run loop has exited only a `FlushNow` could drain. -/
theorem drains_step (ho : Owned s) (hc : Closing s) (hok : SparesClosedChannel s a)
    (h : s.eventClosed = true → ∀ o, s.mu ≠ some (o, .drain)) (hm : Moves c s a t) :
    t.eventClosed = true → ∀ o, t.mu ≠ some (o, .drain) := by
  obtain ⟨hfits, hruns, -, -⟩ := ho
  have hfinish := hc.finish
  have hdone := hc.done
  clear hc
  cases hm with
  | lock id op => cases op <;> grind -linarith [State.setCall, Op.entry, SparesClosedChannel]
  | _ => first | exact h | grind -linarith [State.setCall, SparesClosedChannel, Fits]

end

theorem sound_step {c : Setup} {s t : State ε Err} {a : Action ε Err} (ho : Owned s) (hc : Closing s)
    (h : Sound s) (hok : SparesClosedChannel s a) (hm : Moves c s a t) : Sound t where
  called := called_step ho.inside hok h.called hm
  adding := adding_step h.called h.adding hm
  appending := appending_step h.received h.appending hm
  received := received_step hc.done h.sent h.received hm
  sent := sent_step h.adding h.sent hm
  buffered := buffered_step h hm
  handed := handed_step h.buffered h.handed hm
  drains := drains_step ho hc hok h.drains hm

/-- The steps the holder has before it, at most. -/
def Critical.effort (waiting : Nat) : Critical ε Err → Nat
  | .addEvent _ => 6
  | .add _ => 6
  | .drain => 6 + waiting
  | .doFlush => 5
  | .handling _ => 4
  | .recording _ _ => 3
  | .reporting _ => 2
  | .close => 2
  | .closing => 1
  | .leaving _ => 1

def State.effort (s : State ε Err) : Nat :=
  match s.mu with
  | some (_, crit) => crit.effort s.eventCh.length
  | none => 0

theorem effort_mono {n m : Nat} (crit : Critical ε Err) (h : n ≤ m) : crit.effort n ≤ crit.effort m := by
  cases crit with
  | drain => exact Nat.add_le_add_left h 6
  | _ => exact Nat.le_refl _

structure Sane (s : State ε Err) : Prop where
  owned : Owned s
  closing : Closing s
  sound : Sound s

theorem sane_step {c : Setup} {s t : State ε Err} {a : Action ε Err} (h : Sane s)
    (hok : SparesClosedChannel s a) (hstep : step c s a = some t) : Sane t := by
  have hm := moves_of_step hstep
  exact ⟨owned_step h.owned hm, closing_step h.owned h.closing hm,
    sound_step h.owned h.closing h.sound hok hm⟩

theorem holder_enabled {c : Setup} {s : State ε Err} (h : Sane s) {o : Owner ε} {crit : Critical ε Err}
    (hmu : s.mu = some (o, crit)) : Transition.Enabled (step c) HolderStep s := by
  cases crit with
  | handling events =>
    exact ⟨.handlerReturns none, _, trivial, by simp only [step, State.handlerReturns, hmu]; rfl⟩
  | reporting err =>
    exact ⟨.errorHandlerReturns, _, trivial, by simp only [step, State.errorHandlerReturns, hmu]; rfl⟩
  | closing =>
    obtain ⟨id, rfl⟩ := h.owned.fits _ _ hmu
    exact ⟨.work, _, trivial, by simp only [step, State.work, hmu]; rfl⟩
  | add event =>
    -- a send on the closed channel would panic, but then the buffer is closed too
    obtain ⟨t, ht⟩ : ∃ t, s.addLocked c o event = some t := by
      unfold State.addLocked
      split
      next => exact ⟨_, rfl⟩
      next hopen =>
        have hchan : s.eventClosed ≠ true := fun hchan =>
          hopen (h.closing.stopped (h.closing.exited (h.closing.done hchan)))
        rw [if_neg hchan]
        split
        next => exact ⟨_, rfl⟩
        next => exact ⟨_, rfl⟩
    exact ⟨.work, t, trivial, by simp only [step, State.work, hmu]; exact ht⟩
  | _ => exact ⟨.work, _, trivial, by simp only [step, State.work, hmu]; rfl⟩

/-- Only the holder's own steps change what it does, and each brings it nearer to releasing the mutex;
a call that releases it returns, unless it is the `Close` that closes. -/
theorem holder_moves {c : Setup} {s t : State ε Err} {a : Action ε Err} (h : Sane s) {o : Owner ε}
    {crit : Critical ε Err} (hmu : s.mu = some (o, crit)) (hm : Moves c s a t) :
    (¬HolderStep a ∧ t.mu = s.mu ∧ t.effort ≤ s.effort) ∨
    (HolderStep a ∧ (∃ next, t.mu = some (o, next)) ∧ t.effort < s.effort) ∨
    (HolderStep a ∧ t.mu = none ∧ ∀ id, o = .call id .flushNow →
      ∃ result, t.calls id = some (.flushNow, .returned result)) := by
  have hfits := h.owned.fits
  have hdrains := h.sound.drains
  cases hm with
  | receiveEvent event rest hrun hch =>
    -- the run loop may take an event from under a drain loop
    refine .inl ⟨id, rfl, ?_⟩
    simp only [State.effort, hmu]
    exact effort_mono crit (by simp [hch])
  | _ => grind -linarith [HolderStep, State.effort, Critical.effort, State.setCall, Fits]

section

open Transition

variable {c : Setup} {r : Run (step c) (@SparesClosedChannel ε Err)}

theorem sane_run (h0 : r.state 0 = State.start) (n : Nat) : Sane (r.state n) :=
  (r.reach n).invariant (h0 ▸ ⟨owned_start, closing_start, sound_start⟩)
    (fun _ _ _ h hok hstep => sane_step h hok hstep)

theorem holder_leaves (hholder : r.WeaklyFair HolderStep) {n : Nat} (h : Sane (r.state n)) {o : Owner ε}
    {crit : Critical ε Err} (hmu : (r.state n).mu = some (o, crit)) :
    ∃ m, n ≤ m ∧ (r.state m).mu = none ∧ ∀ id, o = .call id .flushNow →
      ∃ result, (r.state m).calls id = some (.flushNow, .returned result) := by
  refine Run.leads_to_of_rank hholder State.effort (P := fun s => Sane s ∧ ∃ crit, s.mu = some (o, crit))
    (Q := fun s => s.mu = none ∧ ∀ id, o = .call id .flushNow →
      ∃ result, s.calls id = some (.flushNow, .returned result)) ?_ ?_ ?_ n ⟨h, crit, hmu⟩
  · rintro s ⟨hs, crit, hmu⟩
    exact holder_enabled hs hmu
  · rintro s a t ⟨hs, crit, hmu⟩ hok hstep hA
    have ht := sane_step hs hok hstep
    obtain ⟨hnot, _⟩ | ⟨_, ⟨next, hnext⟩, hlt⟩ | ⟨_, hleft⟩ := holder_moves hs hmu (moves_of_step hstep)
    · exact absurd hA hnot
    · exact .inr ⟨⟨ht, next, hnext⟩, hlt⟩
    · exact .inl hleft
  · rintro s a t ⟨hs, crit, hmu⟩ hok hstep hA
    have ht := sane_step hs hok hstep
    obtain ⟨_, hsame, hle⟩ | ⟨hholds, _⟩ | ⟨hholds, _⟩ := holder_moves hs hmu (moves_of_step hstep)
    · exact .inr ⟨⟨ht, crit, hsame.trans hmu⟩, hle⟩
    · exact absurd hholds hA
    · exact absurd hholds hA

theorem waiting_moves {s t : State ε Err} {a : Action ε Err} (h : Sane s) {id : Nat} {op : Op ε}
    (hcall : s.calls id = some (op, .waiting)) (hm : Moves c s a t) :
    (a = .lock id ∧ t.mu = some (.call id op, op.entry)) ∨
      (a ≠ .lock id ∧ t.calls id = some (op, .waiting)) := by
  have hinside := h.owned.inside
  have hfresh := h.owned.fresh
  cases hm <;> grind -linarith [State.setCall]

theorem lock_enabled {s : State ε Err} {id : Nat} {op : Op ε} (hfree : s.mu = none)
    (hcall : s.calls id = some (op, .waiting)) : ∃ t, step c s (.lock id) = some t := by
  simp only [step, State.lock, hfree, hcall]
  exact ⟨_, rfl⟩

theorem flushNow_locks (h0 : r.state 0 = State.start) (hholder : r.WeaklyFair HolderStep) {id n : Nat}
    (hlock : r.StronglyFair (fun a => a = .lock id))
    (hcall : (r.state n).calls id = some (.flushNow, .waiting)) :
    ∃ m, n ≤ m ∧ ∃ crit, (r.state m).mu = some (.call id .flushNow, crit) := by
  refine Run.leads_to_of_recurring hlock
    (P := fun s => Sane s ∧ s.calls id = some (.flushNow, .waiting))
    (Q := fun s => ∃ crit, s.mu = some (.call id .flushNow, crit)) ?_ ?_ ?_ n ⟨sane_run h0 n, hcall⟩
  · rintro s a t ⟨hs, hcall⟩ hok hstep rfl
    obtain ⟨_, hmu⟩ | ⟨hne, _⟩ := waiting_moves hs hcall (moves_of_step hstep)
    · exact ⟨_, hmu⟩
    · exact absurd rfl hne
  · rintro s a t ⟨hs, hcall⟩ hok hstep hA
    obtain ⟨heq, _⟩ | ⟨_, hstill⟩ := waiting_moves hs hcall (moves_of_step hstep)
    · exact absurd heq hA
    · exact ⟨sane_step hs hok hstep, hstill⟩
  · rintro k ⟨hs, _⟩
    -- the mutex is free at some later time, and then the call can take it
    obtain ⟨m, hm, hfree⟩ : ∃ m, k ≤ m ∧ (r.state m).mu = none := by
      cases hmu : (r.state k).mu with
      | none => exact ⟨k, Nat.le_refl k, hmu⟩
      | some holder =>
        obtain ⟨m, hm, hfree, _⟩ := holder_leaves hholder hs hmu
        exact ⟨m, hm, hfree⟩
    refine ⟨m, hm, fun hwaits => ?_⟩
    obtain ⟨t, ht⟩ := lock_enabled (c := c) hfree hwaits.2
    exact ⟨.lock id, t, rfl, ht⟩

end

/-- In every fair run whose steps keep clear of the closed channel each `FlushNow` returns, and in each
of its states the flush handler has been given no nil event. -/
theorem flushes_return_without_nil (c : Setup) (r : Transition.Run (step c) (@SparesClosedChannel ε Err))
    (h0 : r.state 0 = State.start) (hholder : r.WeaklyFair HolderStep)
    (hlock : ∀ id, r.StronglyFair (fun a => a = .lock id)) :
    (∀ n id, (r.state n).calls id = some (.flushNow, .waiting) →
      ∃ m, n ≤ m ∧ ∃ result, (r.state m).calls id = some (.flushNow, .returned result)) ∧
    ∀ n, ∀ batch ∈ (r.state n).handed, none ∉ batch := by
  refine ⟨fun n id hcall => ?_, fun n => (sane_run h0 n).sound.handed⟩
  obtain ⟨k, hk, crit, hmu⟩ := flushNow_locks h0 hholder (hlock id) hcall
  obtain ⟨m, hm, _, hret⟩ := holder_leaves hholder (sane_run h0 k) hmu
  exact ⟨m, Nat.le_trans hk hm, hret id rfl⟩

theorem spares_of_never_closed {c : Setup} {s : State ε Err} {as : List (Action ε Err)}
    (hopen : s.eventClosed = false)
    (h : ∀ a ∈ as, a ≠ .invoke (.add none) ∧ ∀ id, a ≠ .closeEvent id) :
    Transition.EachStep (step c) SparesClosedChannel s as := by
  induction as generalizing s with
  | nil => trivial
  | cons a as ih =>
    intro t hstep
    obtain ⟨hadd, hclose⟩ := h a List.mem_cons_self
    have hm := moves_of_step hstep
    constructor
    · cases a with
      | invoke op =>
        cases op with
        | add event =>
          cases event with
          | none => exact absurd rfl hadd
          | some event => trivial
        | flushNow => trivial
        | close => trivial
      | lock id =>
        intro hchan
        rw [hopen] at hchan
        simp at hchan
      | closeEvent id => exact absurd rfl (hclose id)
      | _ => trivial
    · refine ih ?_ (fun b hb => h b (List.mem_cons_of_mem _ hb))
      cases hm with
      | closeEvent id => exact absurd rfl (hclose id)
      | _ => exact hopen

def quietSetup : Setup := { defaultBatchBufferConfig with flushHandler := true, flushErrorHandler := false }

/-- `Close` from its call to its return, on an empty buffer, and then a call of `FlushNow`. -/
def closeThenFlush : List (Action Nat String) :=
  [.invoke .close, .lock 0, .work, .work, .closeStop 0, .receiveStop, .runLock, .work, .work, .work,
   .closeDone, .receiveDone 0, .closeEvent 0, .invoke .flushNow]

def closedState : State Nat String :=
  (Transition.exec (step quietSetup) State.start closeThenFlush).getD State.start

/-- The same after the drain loop has received `k` nils. -/
def drainingState (k : Nat) : State Nat String :=
  { closedState.setCall 1 .flushNow .inside with
      mu := some (.call 1 .flushNow, .drain), buffer := List.replicate k none }

theorem draining_step (k : Nat) : step quietSetup (drainingState k) .work = some (drainingState (k + 1)) := by
  have hbuffer : List.replicate (k + 1) (none : Option Nat) = List.replicate k none ++ [none] :=
    List.replicate_succ'
  unfold drainingState
  rw [hbuffer]
  rfl

def drainingRun : Transition.Run (step quietSetup) (@Transition.anyStep (State Nat String) _) where
  state := drainingState
  act _ := some .work
  stays _ h := by simp at h
  moves k a h := by
    cases Option.some.inj h
    exact ⟨trivial, draining_step k⟩

theorem lock_closedState : step quietSetup closedState (.lock 1) = some (drainingRun.state 0) := rfl

def flushAfterClose : Transition.Run (step quietSetup) (@Transition.anyStep (State Nat String) _) :=
  Transition.Run.cons closedState (.lock 1) drainingRun trivial lock_closedState

theorem lock_not_enabled (k id : Nat) :
    ¬Transition.Enabled (step quietSetup) (fun a => a = .lock id) (drainingState k) := by
  rintro ⟨a, t, rfl, hstep⟩
  simp [step, State.lock, drainingState] at hstep

/-- `FlushNow` after `Close` has returned never returns, in a run that is fair to everyone; and a nil
event that is added reaches the handler. -/
theorem flush_after_close_never_returns :
    (∃ r : Transition.Run (step quietSetup) (@Transition.anyStep (State Nat String) _),
      r.state 0 = State.start ∧ r.WeaklyFair HolderStep ∧
      (∀ id, r.StronglyFair (fun a => a = .lock id)) ∧
      ∃ n, (r.state n).calls 1 = some (.flushNow, .waiting) ∧
        ∀ m, n ≤ m → ∀ result, (r.state m).calls 1 ≠ some (.flushNow, .returned result)) ∧
    ∃ s, Transition.exec (step quietSetup) State.start
        [.invoke (.add none), .lock 0, .work, .work, .tick, .runLock, .work, .work, .work] = some s ∧
      ∃ batch ∈ (s : State Nat String).handed, none ∈ batch := by
  constructor
  · have hexec : Transition.exec (step quietSetup) State.start closeThenFlush = some closedState := rfl
    have hok : Transition.EachStep (step quietSetup) Transition.anyStep State.start closeThenFlush :=
      Transition.eachStep_of_forall (fun _ _ _ => trivial)
    obtain ⟨r, h0, ⟨n, hn⟩, hweak, hstrong⟩ :=
      Transition.Run.exists_of_exec flushAfterClose closeThenFlush hexec hok
    refine ⟨r, h0, hweak _ ?_, fun id => hstrong _ ?_, n, ?_, fun m hm result => ?_⟩
    · have hfair : drainingRun.WeaklyFair HolderStep :=
        .of_taken (fun k => ⟨k, Nat.le_refl k, .work, rfl, trivial⟩)
      exact hfair.cons _ _
    · have hfair : drainingRun.StronglyFair (fun a => a = .lock id) :=
        .of_disabled 0 (fun m _ => lock_not_enabled m id)
      exact hfair.cons _ _
    · have hzero := hn 0
      rw [Nat.add_zero] at hzero
      rw [hzero]
      rfl
    · obtain ⟨k, rfl⟩ := Nat.exists_eq_add_of_le hm
      rw [hn k]
      cases k with
      | zero => exact fun h => by cases h
      | succ k => exact fun h => by cases h
  · exact ⟨_, rfl, [none], by decide, by decide⟩

def addThenFlush : List (Action Nat String) :=
  [.invoke (.add (some 7)), .lock 0, .work, .work, .invoke .flushNow]

def flushing : List (Action Nat String) :=
  [.lock 1, .work, .work, .work, .handlerReturns none, .work]

def flushCalled : State Nat String :=
  (Transition.exec (step quietSetup) State.start addThenFlush).getD State.start

def flushedState : State Nat String :=
  (Transition.exec (step quietSetup) flushCalled flushing).getD State.start

theorem flushedState_at_rest (A : Action Nat String → Prop)
    (hA : ∀ a, A a → a = .work ∨ (∃ err, a = .handlerReturns err) ∨ a = .errorHandlerReturns ∨
      ∃ id, a = .lock id) : ¬Transition.Enabled (step quietSetup) A flushedState := by
  rintro ⟨a, t, ha, hstep⟩
  rcases hA a ha with rfl | ⟨err, rfl⟩ | rfl | ⟨id, rfl⟩
  · cases hstep
  · cases err <;> cases hstep
  · cases hstep
  · rcases id with _ | _ | id
    · cases hstep
    · cases hstep
    · have hnone : flushedState.calls (id + 2) = none := rfl
      simp only [step, State.lock, hnone] at hstep
      split at hstep
      next heq => simp at heq
      next => simp at hstep

theorem flush_of_open_buffer_returns :
    ∃ r : Transition.Run (step quietSetup) (@SparesClosedChannel Nat String),
      r.state 0 = State.start ∧ r.WeaklyFair HolderStep ∧
      (∀ id, r.StronglyFair (fun a => a = .lock id)) ∧
      ∃ n, (r.state n).calls 1 = some (.flushNow, .waiting) ∧
        ∃ m, n ≤ m ∧ ∃ result, (r.state m).calls 1 = some (.flushNow, .returned result) := by
  have hspares : ∀ (s : State Nat String) (as : List (Action Nat String)), s.eventClosed = false →
      (∀ a ∈ as, a ≠ .invoke (.add none) ∧ ∀ id, a ≠ .closeEvent id) →
      Transition.EachStep (step quietSetup) SparesClosedChannel s as :=
    fun s as hopen h => spares_of_never_closed hopen h
  have hflush : Transition.exec (step quietSetup) flushCalled flushing = some flushedState := rfl
  obtain ⟨rest, hrest, _, hweak, hstrong⟩ := Transition.Run.exists_of_exec
    (Transition.Run.constant flushedState) flushing hflush
    (hspares flushCalled flushing rfl (by simp [flushing]))
  have hadd : Transition.exec (step quietSetup) State.start addThenFlush = some (rest.state 0) := by
    rw [hrest]
    rfl
  obtain ⟨r, h0, ⟨n, hn⟩, hweak', hstrong'⟩ := Transition.Run.exists_of_exec rest addThenFlush hadd
    (hspares State.start addThenFlush rfl (by simp [addThenFlush]))
  have hholder : r.WeaklyFair HolderStep := by
    refine hweak' _ (hweak _ (.of_disabled 0 (fun _ _ => flushedState_at_rest _ (fun a ha => ?_))))
    cases a <;> simp [HolderStep] at ha ⊢
  have hlock : ∀ id, r.StronglyFair (fun a => a = .lock id) := fun id =>
    hstrong' _ (hstrong _ (.of_disabled 0 (fun _ _ => flushedState_at_rest _ (fun a ha =>
      .inr (.inr (.inr ⟨id, ha⟩))))))
  have hcall : (r.state n).calls 1 = some (.flushNow, .waiting) := by
    have hzero := hn 0
    rw [Nat.add_zero, hrest] at hzero
    rw [hzero]
    rfl
  exact ⟨r, h0, hholder, hlock, n, hcall,
    (flushes_return_without_nil quietSetup r h0 hholder hlock).1 n 1 hcall⟩

end SupplyPlatform.BatchBuffer
