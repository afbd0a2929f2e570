import SupplyPlatform.BatchBufferDelivery
import SupplyPlatform.Lib.Subsequences

namespace SupplyPlatform.BatchBuffer

variable {ε Err P : Type}

/-- `Close` has not been called, so nothing of it has happened. -/
structure Serves (s : State ε Err) : Prop where
  owned : Owned s
  closing : Closing s
  uncalled : ∀ id stage, s.calls id ≠ some (.close, stage)
  opened : s.closed = false
  channel : s.eventClosed = false

theorem serves_start : Serves (State.start : State ε Err) :=
  ⟨owned_start, closing_start, by simp [State.start], rfl, rfl⟩

section

variable {c : Setup} {s t : State ε Err} {a : Action ε Err}

theorem uncalled_step
    (hinside : ∀ id op crit, s.mu = some (.call id op, crit) → s.calls id = some (op, .inside))
    (h : ∀ id stage, s.calls id ≠ some (.close, stage)) (ha : a ≠ .invoke .close) (hm : Moves c s a t) :
    ∀ id stage, t.calls id ≠ some (.close, stage) := by
  cases hm <;> first | exact h | grind -linarith [State.setCall]

theorem opened_step (h : Serves s) (hm : Moves c s a t) : t.closed = false := by
  cases hm with
  | closeFirst o hmu =>
    obtain ⟨id, rfl⟩ := h.owned.fits _ _ hmu
    exact absurd (h.owned.inside id _ _ hmu) (h.uncalled id _)
  | _ => exact h.opened

theorem channel_step (h : Serves s) (hm : Moves c s a t) : t.eventClosed = false := by
  rcases eventClosed_step hm with hsame | ⟨-, -, ⟨id, op, hcall⟩, -⟩
  · rw [hsame]
    exact h.channel
  · have hclosed := h.closing.stopped (h.closing.exited (h.closing.finish id op hcall))
    rw [h.opened] at hclosed
    simp at hclosed

theorem serves_step (h : Serves s) (ha : a ≠ .invoke .close) (hm : Moves c s a t) : Serves t where
  owned := owned_step h.owned hm
  closing := closing_step h.owned h.closing hm
  uncalled := uncalled_step h.owned.inside h.uncalled ha hm
  opened := opened_step h hm
  channel := channel_step h hm

end

-- the producer of an event
variable [DecidableEq P] (who : Option ε → P)

/-- The event of a call of `Add` by the producer. -/
def addBy (p : P) : Option (Op ε × Stage Err) → Option (Option ε)
  | some (.add event, _) => if who event = p then some event else none
  | _ => none

/-- The events a producer has added, in the order of its calls, which are numbered as they come. -/
def State.addedBy (s : State ε Err) (p : P) : List (Option ε) :=
  (List.range s.nextCall).filterMap (fun id => addBy who p (s.calls id))

def ofProducer (p : P) (events : List (Option ε)) : List (Option ε) := events.filter (fun e => who e = p)

/-- The flush handler has been given each producer's events in the order they were added. -/
def InOrder (s : State ε Err) : Prop :=
  ∀ p, (ofProducer who p s.handed.flatten).Sublist (s.addedBy who p)

/-- `Close` is not called, and each producer makes its calls of `Add` one after another. -/
def InTurn (s : State ε Err) : Action ε Err → Prop
  | .invoke .close => False
  | .invoke (.add event) => ∀ id earlier stage, s.calls id = some (.add earlier, stage) →
      who earlier = who event → ∃ result, stage = .returned result
  | _ => True

/-- No other event of the same producer is on its way behind the one that goes into the buffer: `Add`
goes past the full channel and what the run loop holds, a drain past what the run loop holds. -/
def KeepsOrder (c : Setup) (s : State ε Err) : Action ε Err → Prop
  | .work => ∀ o,
    (∀ event, s.mu = some (o, .add event) → c.bufferSize ≤ s.eventCh.length →
      ∀ e ∈ s.run.carried ++ s.eventCh, who e = who event → e = event) ∧
    (∀ event rest, s.mu = some (o, .drain) → s.eventCh = event :: rest →
      ∀ e ∈ s.run.carried, who e = who event → e = event)
  | _ => True

theorem ofProducer_append (p : P) (xs ys : List (Option ε)) :
    ofProducer who p (xs ++ ys) = ofProducer who p xs ++ ofProducer who p ys :=
  List.filter_append xs ys

/-- A producer's events stay in order when an event moves past none of them but itself. -/
theorem ofProducer_move {event : Option ε} {xs : List (Option ε)}
    (h : ∀ e ∈ xs, who e = who event → e = event) (p : P) (before after : List (Option ε)) :
    ofProducer who p (before ++ event :: xs ++ after) =
      ofProducer who p (before ++ xs ++ event :: after) := by
  have hmove : ofProducer who p (event :: xs) = ofProducer who p (xs ++ [event]) := by
    refine Subsequences.filter_cons_eq_filter_concat (fun e he hevent hp => h e he ?_)
    exact (of_decide_eq_true hp).trans (of_decide_eq_true hevent).symm
  rw [ofProducer_append, ofProducer_append, hmove, ← List.singleton_append (l := after)]
  simp only [ofProducer_append, List.append_assoc]

/-- Each producer's events stand in line in the order they were taken in. -/
def Lined (s : State ε Err) : Prop :=
  ∀ p, (ofProducer who p s.line).Sublist (ofProducer who p (s.accepted ++ inFlight s.mu))

section

variable {c : Setup} {s t : State ε Err} {a : Action ε Err}

/-- `Add` appends to the buffer only when the channel is full. -/
theorem full_of_buffered {o : Owner ε} {event : Option ε} (hmu : s.mu = some (o, .add event))
    (hopen : s.closed = false) (hchan : s.eventClosed = false) (hstep : step c s .work = some t)
    (hbuf : t.buffer = s.buffer ++ [event]) : c.bufferSize ≤ s.eventCh.length := by
  by_contra hroom
  have hlt : s.eventCh.length < c.bufferSize := Nat.lt_of_not_le hroom
  simp only [step, State.work, hmu, State.addLocked, hopen, hchan, hlt, Bool.false_eq_true, if_false,
    if_true] at hstep
  cases Option.some.inj hstep
  simp at hbuf

theorem lined_step (hs : Serves s) (h : Lined who s) (hok : KeepsOrder who c s a)
    (hstep : step c s a = some t) : Lined who t := by
  intro p
  have hp : (ofProducer who p s.line).Sublist (ofProducer who p s.taken) := h p
  change (ofProducer who p t.line).Sublist (ofProducer who p t.taken)
  cases flows_step hs.owned hs.channel (moves_of_step hstep) with
  | still hline htaken =>
    rw [hline, htaken]
    exact hp
  | send event hline htaken =>
    rw [hline, htaken, ofProducer_append, ofProducer_append]
    exact hp.append (List.Sublist.refl _)
  | overflow o event ha hmu hopen hbuffer hbefore hline htaken =>
    subst ha
    have hfull := full_of_buffered hmu hopen hs.channel hstep hbuffer
    have hmove := ofProducer_move who ((hok o).1 event hmu hfull) p (s.handed.flatten ++ s.buffer) []
    rw [List.append_nil, ← hbefore, ← hline] at hmove
    rw [hmove, htaken, ofProducer_append, ofProducer_append]
    exact hp.append (List.Sublist.refl _)
  | drain o event rest ha hmu hch hbefore hline htaken =>
    subst ha
    have hmove := ofProducer_move who ((hok o).2 event rest hmu hch) p (s.handed.flatten ++ s.buffer) rest
    rw [← hbefore, ← hline] at hmove
    rw [hmove, htaken]
    exact hp
  | drop hset hline htaken =>
    rw [htaken]
    exact (List.Sublist.filter _ hline).trans hp

/-- A call of `Add` that has not returned is its producer's latest. -/
def Latest (s : State ε Err) : Prop :=
  ∀ id event stage other event' stage', s.calls id = some (.add event, stage) →
    s.calls other = some (.add event', stage') → who event' = who event →
    (∀ result, stage ≠ .returned result) → other ≤ id

omit [DecidableEq P] in
theorem latest_step (hs : Serves s) (h : Latest who s) (hok : InTurn who s a) (hm : Moves c s a t) :
    Latest who t := by
  obtain ⟨-, -, hinside, hfresh⟩ := hs.owned
  unfold Latest at *
  cases hm with
  | invoke op => cases op <;> grind -linarith [State.setCall, InTurn]
  | _ => first | exact h | grind -linarith [State.setCall]

/-- The event of a call of `Add` by the producer that has returned. -/
def returnedBy (p : P) : Option (Op ε × Stage Err) → Option (Option ε)
  | some (.add event, .returned _) => if who event = p then some event else none
  | _ => none

theorem returned_stays (hs : Serves s) (hm : Moves c s a t) {id : Nat} {op : Op ε}
    {result : Option (Failure Err)} (hcall : s.calls id = some (op, .returned result)) :
    t.calls id = some (op, .returned result) := by
  obtain ⟨-, -, hinside, hfresh⟩ := hs.owned
  cases hm <;> first | exact hcall | grind -linarith [State.setCall]

theorem nextCall_step (hm : Moves c s a t) : s.nextCall ≤ t.nextCall := by
  cases hm with
  | invoke op => exact Nat.le_succ _
  | _ => exact Nat.le_refl _

theorem accepted_step (hm : Moves c s a t) : t.accepted = s.accepted ∨
    ∃ id event crit result, s.mu = some (.call id (.add event), crit) ∧ t.accepted = s.accepted ++ [event] ∧
      t.calls id = some (.add event, .returned result) ∧ t.nextCall = s.nextCall := by
  cases hm with
  | unlockCall id op result hmu =>
    cases op with
    | add event =>
      cases Op.result (.add event) result with
      | none => 
        refine .inr ⟨id, event, _, none, hmu, rfl, ?_, rfl⟩
        exact (State.calls_setCall ..).trans (if_pos rfl)
      | some failure => exact .inl rfl
    | _ => exact .inl rfl
  | _ => exact .inl rfl

/-- No call after one of `Add` that is under way is a call of `Add` by the same producer. -/
theorem returnedBy_eq_none {id : Nat} {event : Option ε} (hlatest : Latest who s)
    (hcall : s.calls id = some (.add event, .inside)) {m : Nat} (hm : id ≤ m) :
    returnedBy who (who event) (s.calls m) = none := by
  unfold returnedBy
  split
  next later result hlater =>
    refine if_neg (fun hwho => ?_)
    have hle := hlatest id event .inside m later _ hcall hlater hwho (fun result h => by cases h)
    have heq : m = id := Nat.le_antisymm hle hm
    rw [heq, hcall] at hlater
    cases hlater
  next => rfl

/-- The events taken in are those of calls that have returned, in the order of the calls. -/
def Counted (s : State ε Err) : Prop := ∀ p, (ofProducer who p s.accepted).Sublist
  ((List.range s.nextCall).filterMap (fun id => returnedBy who p (s.calls id)))

theorem returnedBy_step (hs : Serves s) (hm : Moves c s a t) (p : P) (id : Nat) :
    returnedBy who p (s.calls id) = none ∨
      returnedBy who p (s.calls id) = returnedBy who p (t.calls id) := by
  cases hcall : s.calls id with
  | none => exact .inl rfl
  | some call =>
    obtain ⟨op, stage⟩ := call
    cases stage with
    | returned result => rw [returned_stays hs hm hcall]; exact .inr rfl
    | _ => cases op <;> exact .inl rfl

theorem Owned.lt_nextCall {id : Nat} {call : Op ε × Stage Err} (h : Owned s)
    (hcall : s.calls id = some call) : id < s.nextCall := by
  refine Nat.lt_of_not_le (fun hle => ?_)
  rw [h.fresh id hle] at hcall
  cases hcall

theorem counted_step (hs : Serves s) (hlatest : Latest who s) (h : Counted who s) (hm : Moves c s a t) :
    Counted who t := by
  intro p
  have hstay : ∀ id, returnedBy who p (s.calls id) = none ∨
      returnedBy who p (s.calls id) = returnedBy who p (t.calls id) := returnedBy_step who hs hm p
  have hmono : (ofProducer who p s.accepted).Sublist
      ((List.range t.nextCall).filterMap (fun id => returnedBy who p (t.calls id))) := by
    have hsame := Subsequences.filterMap_sublist_filterMap
      (fun id (_ : id ∈ List.range s.nextCall) => hstay id)
    have hlonger : (List.range s.nextCall).Sublist (List.range t.nextCall) :=
      List.range_sublist.mpr (nextCall_step hm)
    exact ((h p).trans hsame).trans (hlonger.filterMap _)
  rcases accepted_step hm with hsame | ⟨id, event, crit, result, hmu, hacc, hret, hnext⟩
  · rw [hsame]
    exact hmono
  · rw [hacc, ofProducer_append]
    by_cases hwho : who event = p
    · subst hwho
      have hinside := hs.owned.inside _ _ _ hmu
      have hevent : ofProducer who (who event) [event] = [event] := by simp [ofProducer]
      have hone : returnedBy who (who event) (t.calls id) = some event := by
        rw [hret]
        exact if_pos rfl
      have hlog := Subsequences.concat_sublist_filterMap_range (hs.owned.lt_nextCall hinside) hone
        (fun m _ => hstay m) (fun m hm => returnedBy_eq_none who hlatest hinside hm)
      rw [hevent, hnext]
      exact ((h _).append (List.Sublist.refl [event])).trans hlog
    · have hnone : ofProducer who p [event] = [] := by simp [ofProducer, hwho]
      rw [hnone, List.append_nil]
      exact hmono

structure Queued (s : State ε Err) : Prop where
  serves : Serves s
  lined : Lined who s
  latest : Latest who s
  counted : Counted who s

theorem queued_start : Queued who (State.start : State ε Err) :=
  ⟨serves_start, fun _ => List.Sublist.refl _, by simp [Latest, State.start], fun _ => List.Sublist.refl _⟩

theorem queued_step (h : Queued who s) (hturn : InTurn who s a) (hok : KeepsOrder who c s a)
    (hstep : step c s a = some t) : Queued who t := by
  have hm := moves_of_step hstep
  have hclose : a ≠ .invoke .close := by
    rintro rfl
    exact hturn
  exact ⟨serves_step h.serves hclose hm, lined_step who h.serves h.lined hok hstep,
    latest_step who h.serves h.latest hturn hm, counted_step who h.serves h.latest h.counted hm⟩

/-- What has been taken in has been added, one call of `Add` being under way or none. -/
theorem Queued.taken_sublist (h : Queued who s) (p : P) :
    (ofProducer who p (s.accepted ++ inFlight s.mu)).Sublist (s.addedBy who p) := by
  have hadded : ∀ id, returnedBy who p (s.calls id) = none ∨
      returnedBy who p (s.calls id) = addBy who p (s.calls id) := by
    intro id
    unfold returnedBy
    split
    next event result hcall => rw [hcall]; exact .inr rfl
    next => exact .inl rfl
  have hreturned : (ofProducer who p s.accepted).Sublist (s.addedBy who p) :=
    (h.counted p).trans (Subsequences.filterMap_sublist_filterMap (fun id _ => hadded id))
  rw [ofProducer_append]
  cases hmu : s.mu with
  | none => exact (List.append_nil _).symm ▸ hreturned
  | some holder =>
    obtain ⟨o, crit⟩ := holder
    cases o with
    | run last => exact (List.append_nil _).symm ▸ hreturned
    | call id op =>
      cases op with
      | flushNow => exact (List.append_nil _).symm ▸ hreturned
      | close => exact (List.append_nil _).symm ▸ hreturned
      | add event =>
        have hinside := h.serves.owned.inside _ _ _ hmu
        have hone : addBy who (who event) (s.calls id) = some event := by
          rw [hinside]
          exact if_pos rfl
        by_cases hwho : crit.admitted = true ∧ who event = p
        · obtain ⟨hadm, rfl⟩ := hwho
          have hlog := Subsequences.concat_sublist_filterMap_range (h.serves.owned.lt_nextCall hinside) hone
            (fun m _ => hadded m) (fun m hm => returnedBy_eq_none who h.latest hinside hm)
          have hevent :
              ofProducer who (who event) (inFlight (some (.call id (.add event), crit))) = [event] := by
            simp [inFlight, hadm, ofProducer]
          rw [hevent]
          exact ((h.counted _).append (List.Sublist.refl [event])).trans hlog
        · have hnone : ofProducer who p (inFlight (some (.call id (.add event), crit))) = [] := by
            cases hadm : crit.admitted with
            | false => simp [inFlight, hadm, ofProducer]
            | true =>
              have hne : who event ≠ p := fun heq => hwho ⟨hadm, heq⟩
              simp [inFlight, hadm, ofProducer, hne]
          rw [hnone, List.append_nil]
          exact hreturned

theorem Queued.inOrder (h : Queued who s) : InOrder who s := by
  intro p
  have hhanded : s.handed.flatten.Sublist s.line := by
    unfold State.line
    simp only [List.append_assoc]
    exact List.sublist_append_left _ _
  exact ((hhanded.filter _).trans (h.lined p)).trans (h.taken_sublist who p)

end

/-- In every run of `Add`, `FlushNow`, ticks and the run loop in which nothing passes an event of its own
producer on the way to the buffer, the flush handler is given each producer's events in the order of
that producer's calls. -/
theorem events_reach_handler_in_order (c : Setup) (s : State ε Err)
    (hreach : Transition.Reach (step c) (fun s a => InTurn who s a ∧ KeepsOrder who c s a) State.start s) :
    InOrder who s := by
  have h := hreach.invariant (queued_start who)
    (fun _ _ _ h ⟨hturn, hok⟩ hstep => queued_step who h hturn hok hstep)
  exact h.inOrder who

/-- Whether every call made so far has returned, if this is another call of `Add`. -/
def inTurnTest (s : State ε Err) : Action ε Err → Bool
  | .invoke .close => false
  | .invoke (.add _) => (List.range s.nextCall).all (fun id =>
    match s.calls id with
    | some (_, .returned _) => true
    | _ => false)
  | _ => true

/-- The run loop holds nothing and the channel has room. -/
def roomTest (c : Setup) (s : State ε Err) : Bool :=
  s.run.carried.length == 0 && s.eventCh.length < c.bufferSize

omit [DecidableEq P] in
theorem inTurn_of_test {s : State ε Err} {a : Action ε Err} (ho : Owned s) (h : inTurnTest s a = true) :
    InTurn who s a := by
  cases a with
  | invoke op =>
    cases op with
    | add event =>
      intro id earlier stage hcall _
      have htest := List.all_eq_true.mp h id (List.mem_range.mpr (ho.lt_nextCall hcall))
      rw [hcall] at htest
      cases stage with
      | returned result => exact ⟨result, rfl⟩
      | _ => cases htest
    | flushNow => trivial
    | close => cases h
  | _ => trivial

omit [DecidableEq P] in
theorem keepsOrder_of_test {c : Setup} {s : State ε Err} {a : Action ε Err} (h : roomTest c s = true) :
    KeepsOrder who c s a := by
  obtain ⟨hheld, hroom⟩ := Bool.and_eq_true_iff.mp h
  have hnone : s.run.carried = [] := List.length_eq_zero_iff.mp (eq_of_beq hheld)
  have hlt : s.eventCh.length < c.bufferSize := of_decide_eq_true hroom
  cases a with
  | work =>
    refine fun o => ⟨fun event _ hfull => ?_, fun event rest _ _ => ?_⟩
    · exact absurd hlt (Nat.not_lt.mpr hfull)
    · rw [hnone]
      intro e he
      cases he
  | _ => trivial

theorem owned_keeps (c : Setup) (s : State ε Err) (a : Action ε Err) (t : State ε Err) (h : Owned s)
    (hstep : step c s a = some t) : Owned t := owned_step h (moves_of_step hstep)

/-- Two calls of `Add`, one after the other. -/
def addTwo : List (Action Nat String) :=
  [.invoke (.add (some 1)), .lock 0, .work, .work, .invoke (.add (some 2)), .lock 1, .work, .work]

/-- `FlushNow` with both events in the channel. -/
def flushBoth : List (Action Nat String) :=
  addTwo ++ [.invoke .flushNow, .lock 2, .work, .work, .work, .work, .handlerReturns none, .work]

/-- `FlushNow` while the run loop holds the first event, and the next tick. -/
def flushSecond : List (Action Nat String) :=
  addTwo ++ [.receiveEvent, .invoke .flushNow, .lock 2, .work, .work, .work, .handlerReturns none, .work,
    .runLock, .work, .work, .tick, .runLock, .work, .work]

def soleProducer : Option Nat → Unit := fun _ => ()

theorem two_events_in_order : ∃ s : State Nat String,
    Transition.Reach (step sampleSetup)
      (fun s a => InTurn soleProducer s a ∧ KeepsOrder soleProducer sampleSetup s a) State.start s ∧
    s.handed = [[some 1, some 2]] ∧ s.addedBy soleProducer () = [some 1, some 2] ∧
    InOrder soleProducer s := by
  obtain ⟨s, hrun, hhanded, hadded⟩ : ∃ s,
      Transition.exec (step sampleSetup) State.start flushBoth = some s ∧
      s.handed = [[some 1, some 2]] ∧ s.addedBy soleProducer () = [some 1, some 2] := ⟨_, rfl, rfl, rfl⟩
  have htest : Transition.testSteps (step sampleSetup) (fun s a => inTurnTest s a && roomTest sampleSetup s)
      State.start flushBoth = true := by decide
  have hsteps := Transition.eachStep_of_test (owned_keeps sampleSetup) (fun s a ho h =>
    And.intro (inTurn_of_test soleProducer ho (Bool.and_eq_true_iff.mp h).1)
      (keepsOrder_of_test soleProducer (a := a) (Bool.and_eq_true_iff.mp h).2)) owned_start htest
  have hreach := hsteps.reach hrun
  exact ⟨s, hreach, hhanded, hadded, events_reach_handler_in_order soleProducer sampleSetup s hreach⟩

/-- The second event is handed over before the first, which the run loop held when `FlushNow` drained. -/
theorem second_event_overtakes_first : ∃ s : State Nat String,
    Transition.Reach (step sampleSetup) (InTurn soleProducer) State.start s ∧
    s.handed = [[some 2], [some 1]] ∧ s.addedBy soleProducer () = [some 1, some 2] ∧
    ¬InOrder soleProducer s := by
  obtain ⟨s, hrun, hhanded, hadded⟩ : ∃ s,
      Transition.exec (step sampleSetup) State.start flushSecond = some s ∧
      s.handed = [[some 2], [some 1]] ∧ s.addedBy soleProducer () = [some 1, some 2] := ⟨_, rfl, rfl, rfl⟩
  have htest : Transition.testSteps (step sampleSetup) inTurnTest State.start flushSecond = true := by
    decide
  have hsteps := Transition.eachStep_of_test (owned_keeps sampleSetup)
    (fun s a ho h => inTurn_of_test soleProducer ho h) owned_start htest
  refine ⟨s, hsteps.reach hrun, hhanded, hadded, fun horder => ?_⟩
  have hsub := horder ()
  rw [hhanded, hadded] at hsub
  revert hsub
  decide

end SupplyPlatform.BatchBuffer
