import SupplyPlatform.BatchBufferOrder

namespace SupplyPlatform.BatchBuffer

variable {ε Err : Type}

/-- Until `Close` is called every event taken in is on its way or has been handed over. -/
structure Keeps (s : State ε Err) : Prop where
  serves : Serves s
  pool : s.pool = ↑s.accepted + ↑(inFlight s.mu)

theorem keeps_start : Keeps (State.start : State ε Err) := ⟨serves_start, rfl⟩

section

variable {c : Setup} {s t : State ε Err} {a : Action ε Err}

theorem keeps_step (hset : c.flushHandler = true) (h : Keeps s) (ha : a ≠ .invoke .close)
    (hstep : step c s a = some t) : Keeps t := by
  have hm := moves_of_step hstep
  exact ⟨serves_step h.serves ha hm, running_step hset h.serves.owned h.pool h.serves.channel hm⟩

theorem handed_sublist (hm : Moves c s a t) : s.handed.flatten.Sublist t.handed.flatten := by
  cases hm with
  | hand o hmu =>
    rw [List.flatten_append]
    exact List.sublist_append_left _ _
  | _ => exact List.Sublist.refl _

theorem accepted_sublist (hm : Moves c s a t) : s.accepted.Sublist t.accepted := by
  rcases accepted_step hm with hsame | ⟨id, event, crit, result, -, hacc, -⟩
  · rw [hsame]
  · rw [hacc]
    exact List.sublist_append_left _ _

end

variable [DecidableEq ε]

/-- Where the `FlushNow` that began in `began` finds the channel empty, the run loop does not hold, of an
event accepted by then, what the buffer and the handler lack. -/
def MissesNothing (began s : State ε Err) : Action ε Err → Prop
  | .work => s.mu = some (.call began.nextCall .flushNow, .drain) → s.eventCh = [] →
      ∀ e ∈ s.run.carried, began.accepted.count e ≤ (s.handed.flatten ++ s.buffer).count e
  | _ => True

/-- What had been accepted when `FlushNow` began is collected once it has drained the channel, and
handed over once it has flushed. -/
structure Gathers (began s : State ε Err) : Prop where
  keeps : Keeps s
  since : began.accepted.Sublist s.accepted
  gathered : ∀ crit, s.mu = some (.call began.nextCall .flushNow, crit) → crit = .drain ∨
    (crit = .doFlush ∧ began.accepted.Subperm (s.handed.flatten ++ s.buffer)) ∨
    began.accepted.Subperm s.handed.flatten
  flushed : ∀ result, s.calls began.nextCall = some (.flushNow, .returned result) →
    began.accepted.Subperm s.handed.flatten

section

variable {c : Setup} {began s t : State ε Err} {a : Action ε Err}

omit [DecidableEq ε] in
theorem gathers_begin (h : Keeps began) (hset : c.flushHandler = true)
    (hbegin : step c began (.invoke .flushNow) = some s) : Gathers began s := by
  have hkeeps := keeps_step hset h (by simp) hbegin
  cases Option.some.inj hbegin
  refine ⟨hkeeps, List.Sublist.refl _, fun crit hmu => ?_, fun result hcall => ?_⟩
  · have hinside := h.serves.owned.inside _ _ _ hmu
    rw [h.serves.owned.fresh began.nextCall (Nat.le_refl _)] at hinside
    cases hinside
  · rw [State.calls_setCall, if_pos rfl] at hcall
    cases hcall

/-- With the channel empty an accepted event is in the buffer or handed over, if the run loop does not
hold it. -/
theorem subperm_of_drained (hk : Keeps s) (hsince : began.accepted.Sublist s.accepted)
    (hmu : s.mu = some (.call began.nextCall .flushNow, .drain)) (hch : s.eventCh = [])
    (hmiss : ∀ e ∈ s.run.carried, began.accepted.count e ≤ (s.handed.flatten ++ s.buffer).count e) :
    began.accepted.Subperm (s.handed.flatten ++ s.buffer) := by
  refine List.subperm_ext_iff.mpr (fun e _ => ?_)
  by_cases hheld : e ∈ s.run.carried
  · exact hmiss e hheld
  · have hpool := hk.pool
    rw [State.pool, hmu, hch] at hpool
    simp only [carried, inFlight, Multiset.coe_add, List.nil_append, List.append_nil] at hpool
    have hcount := (Multiset.coe_eq_coe.mp hpool).count_eq e
    have hnone : s.run.carried.count e = 0 := List.count_eq_zero.mpr hheld
    have hle : began.accepted.count e ≤ s.accepted.count e := hsince.count_le e
    simp only [List.count_append] at hcount ⊢
    omega

theorem gathered_step (hset : c.flushHandler = true) (h : Gathers began s) (hok : MissesNothing began s a)
    (hm : Moves c s a t) : ∀ crit, t.mu = some (.call began.nextCall .flushNow, crit) → crit = .drain ∨
      (crit = .doFlush ∧ began.accepted.Subperm (t.handed.flatten ++ t.buffer)) ∨
      began.accepted.Subperm t.handed.flatten := by
  have hfits := h.keeps.serves.owned.fits
  -- past its flush the call has handed everything over
  have hpast : ∀ (o : Owner ε) (crit next : Critical ε Err), s.mu = some (o, crit) → crit ≠ .drain →
      crit ≠ .doFlush → ∀ crit', some (o, next) = some (.call began.nextCall .flushNow, crit') →
      began.accepted.Subperm s.handed.flatten := by
    intro o crit next hmu hdrain hflush crit' heq
    obtain ⟨rfl, -⟩ := Prod.mk.inj (Option.some.inj heq)
    rcases h.gathered crit hmu with hcrit | ⟨hcrit, -⟩ | hdone
    · exact absurd hcrit hdrain
    · exact absurd hcrit hflush
    · exact hdone
  intro crit heq
  cases hm with
  | lock id op hmu hcall =>
    obtain ⟨ho, rfl⟩ := Prod.mk.inj (Option.some.inj heq)
    obtain ⟨-, rfl⟩ := Owner.call.inj ho
    exact .inl rfl
  | drained o hmu hch =>
    obtain ⟨rfl, rfl⟩ := Prod.mk.inj (Option.some.inj heq)
    have hall : began.accepted.Subperm (s.handed.flatten ++ s.buffer) :=
      subperm_of_drained h.keeps h.since hmu hch (hok hmu hch)
    exact .inr (.inl ⟨rfl, hall⟩)
  | flushNothing o hmu hbuf =>
    obtain ⟨rfl, rfl⟩ := Prod.mk.inj (Option.some.inj heq)
    rcases h.gathered _ hmu with hcrit | ⟨-, hall⟩ | hdone
    · cases hcrit
    · rw [hbuf, List.append_nil] at hall
      exact .inr (.inr hall)
    · exact .inr (.inr hdone)
  | hand o hmu =>
    obtain ⟨rfl, rfl⟩ := Prod.mk.inj (Option.some.inj heq)
    rw [List.flatten_append, List.flatten_singleton]
    rcases h.gathered _ hmu with hcrit | ⟨-, hall⟩ | hdone
    · cases hcrit
    · exact .inr (.inr hall)
    · exact .inr (.inr (hdone.trans (List.sublist_append_left _ _).subperm))
  | drop o hmu hnone =>
    rw [hset] at hnone
    cases hnone
  | drain o event rest hmu | drainClosed o hmu =>
    rw [hmu] at heq
    obtain ⟨-, rfl⟩ := Prod.mk.inj (Option.some.inj heq)
    exact .inl rfl
  | handled o events hmu => exact .inr (.inr (hpast o _ _ hmu (by simp) (by simp) crit heq))
  | handlerFails o events err hmu => exact .inr (.inr (hpast o _ _ hmu (by simp) (by simp) crit heq))
  | report o events err hmu => exact .inr (.inr (hpast o _ _ hmu (by simp) (by simp) crit heq))
  | unreported o events err hmu => exact .inr (.inr (hpast o _ _ hmu (by simp) (by simp) crit heq))
  | errorHandled o err hmu => exact .inr (.inr (hpast o _ _ hmu (by simp) (by simp) crit heq))
  | addEvent o event next hmu =>
    obtain rfl := hfits _ _ hmu
    cases heq
  | refuse o event hmu | send o event hmu | overflow o event next hmu =>
    obtain ⟨id, rfl⟩ := hfits _ _ hmu
    cases heq
  | closeAgain o hmu | closeFirst o hmu =>
    obtain ⟨id, rfl⟩ := hfits _ _ hmu
    cases heq
  | unlockClosing | unlockRun | unlockCall | runAdd | runFlush | runLast => cases heq
  | _ => exact h.gathered crit heq

omit [DecidableEq ε] in
theorem returned_cases (hm : Moves c s a t) {id : Nat} {op : Op ε} {result : Option (Failure Err)}
    (hret : t.calls id = some (op, .returned result)) : s.calls id = some (op, .returned result) ∨
      (∃ result', s.mu = some (.call id op, .leaving result')) ∨ s.calls id = some (op, .finish) := by
  cases hm <;> first | exact .inl hret | grind -linarith [State.setCall]

omit [DecidableEq ε] in
theorem returned_flush_step (h : Gathers began s) (hm : Moves c s a t) (result : Option (Failure Err))
    (hret : t.calls began.nextCall = some (.flushNow, .returned result)) :
    began.accepted.Subperm t.handed.flatten := by
  have hdone : began.accepted.Subperm s.handed.flatten := by
    rcases returned_cases hm hret with hbefore | ⟨result', hmu⟩ | hcall
    · exact h.flushed result hbefore
    · rcases h.gathered _ hmu with hcrit | ⟨hcrit, -⟩ | hdone
      · cases hcrit
      · cases hcrit
      · exact hdone
    · -- only `Close` comes that far
      have hclosing := h.keeps.serves.closing
      have hclosed := hclosing.stopped (hclosing.exited (hclosing.finish _ _ hcall))
      rw [h.keeps.serves.opened] at hclosed
      cases hclosed
  exact hdone.trans (handed_sublist hm).subperm

theorem gathers_step (hset : c.flushHandler = true) (h : Gathers began s) (ha : a ≠ .invoke .close)
    (hok : MissesNothing began s a) (hstep : step c s a = some t) : Gathers began t := by
  have hm := moves_of_step hstep
  exact ⟨keeps_step hset h.keeps ha hstep, h.since.trans (accepted_sublist hm), gathered_step hset h hok hm,
    returned_flush_step h hm⟩

end

/-- In every run of `Add`, `FlushNow`, ticks and the run loop, each `FlushNow` that finds the channel
empty only with no event in the run loop's hands that had been accepted when it began has, when it
returns, given the flush handler every event accepted by then, as often as it was accepted. -/
theorem flushNow_hands_over_what_was_accepted (c : Setup) (hset : c.flushHandler = true)
    (began s₁ s : State ε Err)
    (hbefore : Transition.Reach (step c) (fun _ a => a ≠ .invoke .close) State.start began)
    (hbegin : step c began (.invoke .flushNow) = some s₁)
    (hafter : Transition.Reach (step c) (fun s a => a ≠ .invoke .close ∧ MissesNothing began s a) s₁ s)
    (result : Option (Failure Err))
    (hret : s.calls began.nextCall = some (.flushNow, .returned result)) :
    began.accepted.Subperm s.handed.flatten := by
  have hkeeps := hbefore.invariant keeps_start (fun _ _ _ h ha hstep => keeps_step hset h ha hstep)
  have hgathers := hafter.invariant (gathers_begin hkeeps hset hbegin)
    (fun _ _ _ h ⟨ha, hok⟩ hstep => gathers_step hset h ha hok hstep)
  exact hgathers.flushed result hret

theorem missesNothing_of_idle {began s : State ε Err} {a : Action ε Err} (h : s.run.carried = []) :
    MissesNothing began s a := by
  cases a with
  | work =>
    intro _ _
    rw [h]
    intro e he
    cases he
  | _ => trivial

/-- A call of `Add` that returns, its event in the channel. -/
def addSeven : List (Action Nat String) := [.invoke (.add (some 7)), .lock 0, .work, .work]

def sevenAdded : State Nat String :=
  (Transition.exec (step sampleSetup) State.start addSeven).getD State.start

def sevenReceived : State Nat String := (step sampleSetup sevenAdded .receiveEvent).getD State.start

/-- A call of `FlushNow` begins. -/
def flushBegun (s : State Nat String) : State Nat String :=
  { s.setCall s.nextCall .flushNow .waiting with nextCall := s.nextCall + 1 }

/-- `FlushNow` from the mutex to its return, with one event in the channel. -/
def flushSeven : List (Action Nat String) :=
  [.lock 1, .work, .work, .work, .handlerReturns none, .work]

def sevenFlushed : State Nat String :=
  (Transition.exec (step sampleSetup) (flushBegun sevenAdded) flushSeven).getD State.start

theorem flush_hands_over_seven : sampleSetup.flushHandler = true ∧
    Transition.Reach (step sampleSetup) (fun _ a => a ≠ .invoke .close) State.start sevenAdded ∧
    sevenAdded.accepted = [some 7] ∧
    sevenFlushed.calls sevenAdded.nextCall = some (.flushNow, .returned none) ∧
    sevenAdded.accepted.Subperm sevenFlushed.handed.flatten := by
  have hrun : Transition.exec (step sampleSetup) State.start addSeven = some sevenAdded := rfl
  have hflush : Transition.exec (step sampleSetup) (flushBegun sevenAdded) flushSeven =
      some sevenFlushed := rfl
  have hbefore : Transition.Reach (step sampleSetup) (fun _ a => a ≠ .invoke .close) State.start sevenAdded :=
    Transition.reach_of_exec_of hrun (by simp [addSeven])
  have htest : Transition.testSteps (step sampleSetup)
      (fun s a => s.run.carried.length == 0 && a ≠ .invoke .close) (flushBegun sevenAdded) flushSeven =
        true := by
    decide
  have hsound : ∀ (s : State Nat String) (a : Action Nat String), True →
      (s.run.carried.length == 0 && a ≠ .invoke .close) = true →
      a ≠ .invoke .close ∧ MissesNothing sevenAdded s a := by
    intro s a _ h
    obtain ⟨hidle, ha⟩ := Bool.and_eq_true_iff.mp h
    exact ⟨of_decide_eq_true ha, missesNothing_of_idle (List.length_eq_zero_iff.mp (eq_of_beq hidle))⟩
  have hsteps := Transition.eachStep_of_test (fun _ _ _ _ _ => trivial) hsound trivial htest
  exact ⟨rfl, hbefore, rfl, rfl, flushNow_hands_over_what_was_accepted sampleSetup rfl sevenAdded
    (flushBegun sevenAdded) sevenFlushed hbefore rfl (hsteps.reach hflush) none rfl⟩

/-- `FlushNow` from the mutex to its return, with the channel and the buffer empty. -/
def flushMissed : List (Action Nat String) := [.lock 1, .work, .work, .work]

def sevenMissed : State Nat String :=
  (Transition.exec (step sampleSetup) (flushBegun sevenReceived) flushMissed).getD State.start

/-- `FlushNow` returns while the run loop holds the event it has received, which no handler was given. -/
theorem flush_misses_received_event :
    Transition.Reach (step sampleSetup)
      (fun _ a => a ≠ .invoke .close ∧ ∀ err, a ≠ .handlerReturns (some err)) State.start sevenReceived ∧
    step sampleSetup sevenReceived (.invoke .flushNow) = some (flushBegun sevenReceived) ∧
    Transition.Reach (step sampleSetup)
      (fun _ a => a ≠ .invoke .close ∧ ∀ err, a ≠ .handlerReturns (some err)) (flushBegun sevenReceived)
      sevenMissed ∧
    sevenMissed.calls sevenReceived.nextCall = some (.flushNow, .returned none) ∧
    sevenReceived.calls 0 = some (.add (some 7), .returned none) ∧ sevenReceived.accepted = [some 7] ∧
    sevenMissed.handed = [] ∧ ¬sevenReceived.accepted.Subperm sevenMissed.handed.flatten := by
  have hrun : Transition.exec (step sampleSetup) State.start (addSeven ++ [.receiveEvent]) =
      some sevenReceived := rfl
  have hflush : Transition.exec (step sampleSetup) (flushBegun sevenReceived) flushMissed =
      some sevenMissed := rfl
  refine ⟨Transition.reach_of_exec_of hrun (by simp [addSeven]), rfl,
    Transition.reach_of_exec_of hflush (by simp [flushMissed]), rfl, rfl, rfl, rfl, fun hsub => ?_⟩
  exact absurd hsub.length_le (by decide)

end SupplyPlatform.BatchBuffer
