import SupplyPlatform.BatchBuffer

namespace SupplyPlatform.BatchBuffer

variable {ε Err : Type}

/-- Everything a step can do. -/
inductive Moves (c : Setup) (s : State ε Err) : Action ε Err → State ε Err → Prop
  | invoke (op : Op ε) :
    Moves c s (.invoke op) { s.setCall s.nextCall op .waiting with nextCall := s.nextCall + 1 }
  | lock (id : Nat) (op : Op ε) (hmu : s.mu = none) (hcall : s.calls id = some (op, .waiting)) :
    Moves c s (.lock id) { s.setCall id op .inside with mu := some (.call id op, op.entry) }
  | addEvent (o : Owner ε) (event : Option ε) (next : Critical ε Err)
      (hmu : s.mu = some (o, .addEvent event)) (hnext : next = .doFlush ∨ next = .leaving none) :
    Moves c s .work { s with buffer := s.buffer ++ [event], mu := some (o, next) }
  | refuse (o : Owner ε) (event : Option ε) (hmu : s.mu = some (o, .add event)) (hclosed : s.closed = true) :
    Moves c s .work { s with mu := some (o, .leaving (some .bufferClosed)) }
  | send (o : Owner ε) (event : Option ε) (hmu : s.mu = some (o, .add event)) (hopen : s.closed = false)
      (hchan : s.eventClosed = false) :
    Moves c s .work { s with eventCh := s.eventCh ++ [event], mu := some (o, .leaving none) }
  | overflow (o : Owner ε) (event : Option ε) (next : Critical ε Err) (hmu : s.mu = some (o, .add event))
      (hopen : s.closed = false) (hchan : s.eventClosed = false)
      (hnext : next = .doFlush ∨ next = .leaving none) :
    Moves c s .work { s with buffer := s.buffer ++ [event], mu := some (o, next) }
  | drain (o : Owner ε) (event : Option ε) (rest : List (Option ε)) (hmu : s.mu = some (o, .drain))
      (hch : s.eventCh = event :: rest) :
    Moves c s .work { s with eventCh := rest, buffer := s.buffer ++ [event] }
  | drainClosed (o : Owner ε) (hmu : s.mu = some (o, .drain)) (hch : s.eventCh = [])
      (hchan : s.eventClosed = true) :
    Moves c s .work { s with buffer := s.buffer ++ [none] }
  | drained (o : Owner ε) (hmu : s.mu = some (o, .drain)) (hch : s.eventCh = [])
      (hchan : s.eventClosed = false) :
    Moves c s .work { s with mu := some (o, .doFlush) }
  | flushNothing (o : Owner ε) (hmu : s.mu = some (o, .doFlush)) (hbuf : s.buffer = []) :
    Moves c s .work { s with mu := some (o, .leaving none) }
  | hand (o : Owner ε) (hmu : s.mu = some (o, .doFlush)) (hbuf : s.buffer ≠ [])
      (hset : c.flushHandler = true) :
    Moves c s .work
      { s with buffer := [], mu := some (o, .handling s.buffer), handed := s.handed ++ [s.buffer] }
  | drop (o : Owner ε) (hmu : s.mu = some (o, .doFlush)) (hset : c.flushHandler = false) :
    Moves c s .work { s with buffer := [], mu := some (o, .leaving none) }
  | handled (o : Owner ε) (events : List (Option ε)) (hmu : s.mu = some (o, .handling events)) :
    Moves c s (.handlerReturns none) { s with mu := some (o, .leaving none) }
  | handlerFails (o : Owner ε) (events : List (Option ε)) (err : Err)
      (hmu : s.mu = some (o, .handling events)) :
    Moves c s (.handlerReturns (some err))
      { s with mu := some (o, .recording err events), failed := s.failed ++ [(err, events)] }
  | report (o : Owner ε) (events : List (Option ε)) (err : Err)
      (hmu : s.mu = some (o, .recording err events)) (hset : c.flushErrorHandler = true) :
    Moves c s .work
      { s with lastFlushErr := some err, flushErrorCount := s.flushErrorCount + 1,
               mu := some (o, .reporting err), reported := s.reported ++ [(err, events)] }
  | unreported (o : Owner ε) (events : List (Option ε)) (err : Err)
      (hmu : s.mu = some (o, .recording err events)) (hset : c.flushErrorHandler = false) :
    Moves c s .work
      { s with lastFlushErr := some err, flushErrorCount := s.flushErrorCount + 1,
               mu := some (o, .leaving (some (.handler err))) }
  | errorHandled (o : Owner ε) (err : Err) (hmu : s.mu = some (o, .reporting err)) :
    Moves c s .errorHandlerReturns { s with mu := some (o, .leaving (some (.handler err))) }
  | closeAgain (o : Owner ε) (hmu : s.mu = some (o, .close)) (hclosed : s.closed = true) :
    Moves c s .work { s with mu := some (o, .leaving none) }
  | closeFirst (o : Owner ε) (hmu : s.mu = some (o, .close)) (hopen : s.closed = false) :
    Moves c s .work { s with closed := true, mu := some (o, .closing) }
  | unlockClosing (id : Nat) (op : Op ε) (hmu : s.mu = some (.call id op, .closing)) :
    Moves c s .work { s.setCall id op .stop with mu := none }
  | unlockRun (last : Bool) (result : Option (Failure Err)) (hmu : s.mu = some (.run last, .leaving result)) :
    Moves c s .work { s with mu := none, run := if last then .exiting else .select }
  | unlockCall (id : Nat) (op : Op ε) (result : Option (Failure Err))
      (hmu : s.mu = some (.call id op, .leaving result)) :
    Moves c s .work
      { s.setCall id op (.returned (op.result result)) with
          mu := none, accepted := s.acceptedAfter op (op.result result) }
  | closeStop (id : Nat) (op : Op ε) (hcall : s.calls id = some (op, .stop)) :
    Moves c s (.closeStop id) { s.setCall id op .wait with stopClosed := true }
  | receiveDone (id : Nat) (op : Op ε) (hcall : s.calls id = some (op, .wait)) (hrun : s.run = .exited) :
    Moves c s (.receiveDone id) (s.setCall id op .finish)
  | closeEvent (id : Nat) (op : Op ε) (hcall : s.calls id = some (op, .finish))
      (hchan : s.eventClosed = false) :
    Moves c s (.closeEvent id) { s.setCall id op (.returned none) with eventClosed := true }
  | receiveStop (hrun : s.run = .select) (hstop : s.stopClosed = true) :
    Moves c s .receiveStop { s with run := .stopping }
  | receiveEvent (event : Option ε) (rest : List (Option ε)) (hrun : s.run = .select)
      (hch : s.eventCh = event :: rest) :
    Moves c s .receiveEvent { s with eventCh := rest, run := .received event }
  | receiveClosed (hrun : s.run = .select) (hch : s.eventCh = []) (hchan : s.eventClosed = true) :
    Moves c s .receiveEvent { s with run := .received none }
  | tick (hrun : s.run = .select) : Moves c s .tick { s with run := .ticked }
  | runAdd (event : Option ε) (hmu : s.mu = none) (hrun : s.run = .received event) :
    Moves c s .runLock { s with mu := some (.run false, .addEvent event), run := .locked }
  | runFlush (hmu : s.mu = none) (hrun : s.run = .ticked) :
    Moves c s .runLock { s with mu := some (.run false, .drain), run := .locked }
  | runLast (hmu : s.mu = none) (hrun : s.run = .stopping) :
    Moves c s .runLock { s with mu := some (.run true, .drain), run := .locked }
  | closeDone (hrun : s.run = .exiting) : Moves c s .closeDone { s with run := .exited }

theorem receive_cases (s : State ε Err) :
    (∃ event rest, s.eventCh = event :: rest ∧
      s.receive = some (event, { s with eventCh := rest })) ∨
    (s.eventCh = [] ∧ s.eventClosed = true ∧ s.receive = some (none, s)) ∨
    (s.eventCh = [] ∧ s.eventClosed = false ∧ s.receive = none) := by
  unfold State.receive
  cases hch : s.eventCh with
  | cons event rest => exact .inl ⟨event, rest, rfl, rfl⟩
  | nil =>
    cases hchan : s.eventClosed with
    | true => exact .inr (.inl ⟨rfl, rfl, rfl⟩)
    | false => exact .inr (.inr ⟨rfl, rfl, rfl⟩)

theorem append_eq (c : Setup) (s : State ε Err) (o : Owner ε) (event : Option ε) :
    ∃ next : Critical ε Err, (next = .doFlush ∨ next = .leaving none) ∧
      s.append c o event = { s with buffer := s.buffer ++ [event], mu := some (o, next) } := by
  unfold State.append
  split
  next => exact ⟨_, .inl rfl, rfl⟩
  next => exact ⟨_, .inr rfl, rfl⟩

theorem moves_of_work {c : Setup} {s t : State ε Err} (h : s.work c = some t) : Moves c s .work t := by
  unfold State.work at h
  split at h
  next o event hmu =>
    cases Option.some.inj h
    obtain ⟨next, hnext, heq⟩ := append_eq c s o event
    rw [heq]
    exact .addEvent o event next hmu hnext
  next o event hmu =>
    unfold State.addLocked at h
    split at h
    next hclosed => cases Option.some.inj h; exact .refuse o event hmu hclosed
    next hopen =>
      split at h
      next => simp at h
      next hchan =>
        rw [Bool.not_eq_true] at hopen hchan
        split at h
        next => cases Option.some.inj h; exact .send o event hmu hopen hchan
        next =>
          cases Option.some.inj h
          obtain ⟨next, hnext, heq⟩ := append_eq c s o event
          rw [heq]
          exact .overflow o event next hmu hopen hchan hnext
  next o hmu =>
    cases Option.some.inj h
    unfold State.drainLocked
    obtain ⟨event, rest, hch, heq⟩ | ⟨hch, hchan, heq⟩ | ⟨hch, hchan, heq⟩ := receive_cases s
    · rw [heq]; exact .drain o event rest hmu hch
    · rw [heq]; exact .drainClosed o hmu hch hchan
    · rw [heq]; exact .drained o hmu hch hchan
  next o hmu =>
    cases Option.some.inj h
    unfold State.doFlushLocked
    split
    next hbuf => exact .flushNothing o hmu hbuf
    next hbuf =>
      split
      next hset => exact .hand o hmu hbuf hset
      next hset => exact .drop o hmu (by simpa using hset)
  next o err events hmu =>
    cases Option.some.inj h
    unfold State.recordFlushError
    split
    next hset => exact .report o events err hmu hset
    next hset => exact .unreported o events err hmu (by simpa using hset)
  next o hmu =>
    cases Option.some.inj h
    unfold State.closeLocked
    split
    next hclosed => exact .closeAgain o hmu hclosed
    next hopen => exact .closeFirst o hmu (by simpa using hopen)
  next id op hmu => cases Option.some.inj h; exact .unlockClosing id op hmu
  next o result hmu =>
    cases Option.some.inj h
    cases o with
    | run last => exact .unlockRun last result hmu
    | call id op => exact .unlockCall id op result hmu
  next => simp at h

theorem moves_of_step {c : Setup} {s t : State ε Err} {a : Action ε Err} (h : step c s a = some t) :
    Moves c s a t := by
  cases a with
  | invoke op => cases Option.some.inj h; exact .invoke op
  | lock id =>
    simp only [step, State.lock] at h
    split at h
    next op hmu hcall => cases Option.some.inj h; exact .lock id op hmu hcall
    next => simp at h
  | work => exact moves_of_work h
  | handlerReturns err =>
    simp only [step, State.handlerReturns] at h
    split at h
    next o events hmu => cases Option.some.inj h; exact .handled o events hmu
    next o events err hmu => cases Option.some.inj h; exact .handlerFails o events err hmu
    next => simp at h
  | errorHandlerReturns =>
    simp only [step, State.errorHandlerReturns] at h
    split at h
    next o err hmu => cases Option.some.inj h; exact .errorHandled o err hmu
    next => simp at h
  | closeStop id =>
    simp only [step, State.closeStop] at h
    split at h
    next op hcall =>
      split at h
      next => simp at h
      next => cases Option.some.inj h; exact .closeStop id op hcall
    next => simp at h
  | receiveDone id =>
    simp only [step, State.receiveDone] at h
    split at h
    next op hcall hrun => cases Option.some.inj h; exact .receiveDone id op hcall hrun
    next => simp at h
  | closeEvent id =>
    simp only [step, State.closeEvent] at h
    split at h
    next op hcall =>
      split at h
      next => simp at h
      next hchan => cases Option.some.inj h; exact .closeEvent id op hcall (by simpa using hchan)
    next => simp at h
  | receiveStop =>
    simp only [step, State.receiveStop] at h
    split at h
    next hrun =>
      split at h
      next hstop => cases Option.some.inj h; exact .receiveStop hrun hstop
      next => simp at h
    next => simp at h
  | receiveEvent =>
    simp only [step, State.receiveEvent] at h
    split at h
    next event s' hrun hreceive =>
      cases Option.some.inj h
      obtain ⟨event, rest, hch, heq⟩ | ⟨hch, hchan, heq⟩ | ⟨_, _, heq⟩ := receive_cases s
      · rw [heq] at hreceive
        cases Option.some.inj hreceive
        exact .receiveEvent event rest hrun hch
      · rw [heq] at hreceive
        cases Option.some.inj hreceive
        exact .receiveClosed hrun hch hchan
      · rw [heq] at hreceive
        simp at hreceive
    next => simp at h
  | tick =>
    simp only [step, State.tick] at h
    split at h
    next hrun => cases Option.some.inj h; exact .tick hrun
    next => simp at h
  | runLock =>
    simp only [step, State.runLock] at h
    split at h
    next event hmu hrun => cases Option.some.inj h; exact .runAdd event hmu hrun
    next hmu hrun => cases Option.some.inj h; exact .runFlush hmu hrun
    next hmu hrun => cases Option.some.inj h; exact .runLast hmu hrun
    next => simp at h
  | closeDone =>
    simp only [step, State.closeDone] at h
    split at h
    next hrun => cases Option.some.inj h; exact .closeDone hrun
    next => simp at h

end SupplyPlatform.BatchBuffer
