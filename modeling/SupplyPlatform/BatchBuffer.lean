import Mathlib.Logic.Function.Basic
import SupplyPlatform.Lib.Fair

namespace SupplyPlatform.BatchBuffer

structure BatchBufferConfig where
  batchSize : Nat
  bufferSize : Nat

def defaultBatchBufferConfig : BatchBufferConfig := ⟨50, 1000⟩

/-- A buffer's configuration and which of its handlers are not nil. -/
structure Setup extends BatchBufferConfig where
  flushHandler : Bool
  flushErrorHandler : Bool

section

-- events are pointers, `none` is nil; `Err` is whatever errors the flush handler returns
variable (ε Err : Type)

inductive Op
  | add (event : Option ε)
  | flushNow
  | close
  deriving DecidableEq

inductive Failure
  | bufferClosed
  | handler (err : Err)
  deriving DecidableEq

/-- How far a call has come: it waits for the mutex, holds it, or is past it. -/
inductive Stage
  | waiting
  | inside
  | stop
  | wait
  | finish
  | returned (result : Option (Failure Err))
  deriving DecidableEq

inductive Critical
  | addEvent (event : Option ε)
  | add (event : Option ε)
  | drain
  | doFlush
  | handling (events : List (Option ε))
  | recording (err : Err) (events : List (Option ε))
  | reporting (err : Err)
  | close
  | closing
  | leaving (result : Option (Failure Err))
  deriving DecidableEq

/-- The run loop, in its last flush or not, or a call. -/
inductive Owner
  | run (last : Bool)
  | call (id : Nat) (op : Op ε)
  deriving DecidableEq

inductive RunLoop
  | select
  | received (event : Option ε)
  | ticked
  | stopping
  | locked
  | exiting
  | exited
  deriving DecidableEq

/-- The buffer, its goroutines and what its handlers have been given. doneCh is closed once the run
loop has exited. -/
structure State where
  eventCh : List (Option ε)
  eventClosed : Bool
  stopClosed : Bool
  buffer : List (Option ε)
  closed : Bool
  mu : Option (Owner ε × Critical ε Err)
  lastFlushErr : Option Err
  flushErrorCount : Nat
  run : RunLoop ε
  calls : Nat → Option (Op ε × Stage Err)
  nextCall : Nat
  accepted : List (Option ε)
  handed : List (List (Option ε))
  failed : List (Err × List (Option ε))
  reported : List (Err × List (Option ε))

inductive Action
  | invoke (op : Op ε)
  | lock (id : Nat)
  | work
  | handlerReturns (err : Option Err)
  | errorHandlerReturns
  | closeStop (id : Nat)
  | receiveDone (id : Nat)
  | closeEvent (id : Nat)
  | receiveStop
  | receiveEvent
  | tick
  | runLock
  | closeDone
  deriving DecidableEq

end

variable {ε Err : Type}

def State.start : State ε Err :=
  { eventCh := [], eventClosed := false, stopClosed := false, buffer := [], closed := false, mu := none,
    lastFlushErr := none, flushErrorCount := 0, run := .select, calls := fun _ => none, nextCall := 0,
    accepted := [], handed := [], failed := [], reported := [] }

def Op.entry : Op ε → Critical ε Err
  | .add event => .add event
  | .flushNow => .drain
  | .close => .close

/-- What a call returns: `Add` drops the result of `doFlushLocked`. -/
def Op.result : Op ε → Option (Failure Err) → Option (Failure Err)
  | .add _, some .bufferClosed => some .bufferClosed
  | .add _, _ => none
  | .flushNow, result => result
  | .close, _ => none

namespace State

def setCall (s : State ε Err) (id : Nat) (op : Op ε) (stage : Stage Err) : State ε Err :=
  { s with calls := Function.update s.calls id (some (op, stage)) }

@[grind =] theorem calls_setCall (s : State ε Err) (id : Nat) (op : Op ε) (stage : Stage Err) (n : Nat) :
    (s.setCall id op stage).calls n = if n = id then some (op, stage) else s.calls n := by
  unfold setCall
  exact Function.update_apply ..

/-- Receiving from eventCh: the oldest event, nil once it is closed and empty, and nothing while it is
open and empty. -/
def receive (s : State ε Err) : Option (Option ε × State ε Err) :=
  match s.eventCh with
  | event :: rest => some (event, { s with eventCh := rest })
  | [] => if s.eventClosed then some (none, s) else none

/-- Appending an event to the buffer, and the test for a full batch. -/
def append (c : Setup) (s : State ε Err) (o : Owner ε) (event : Option ε) : State ε Err :=
  if c.batchSize ≤ (s.buffer ++ [event]).length then
    { s with buffer := s.buffer ++ [event], mu := some (o, .doFlush) }
  else { s with buffer := s.buffer ++ [event], mu := some (o, .leaving none) }

/-- `Add` with the mutex held. A send on a closed channel would panic. -/
def addLocked (c : Setup) (s : State ε Err) (o : Owner ε) (event : Option ε) : Option (State ε Err) :=
  if s.closed then some { s with mu := some (o, .leaving (some .bufferClosed)) }
  else if s.eventClosed then none
  else if s.eventCh.length < c.bufferSize then
    some { s with eventCh := s.eventCh ++ [event], mu := some (o, .leaving none) }
  else some (s.append c o event)

/-- The loop of `flush`: one receive, or on to `doFlushLocked`. -/
def drainLocked (s : State ε Err) (o : Owner ε) : State ε Err :=
  match s.receive with
  | some (event, s') => { s' with buffer := s'.buffer ++ [event] }
  | none => { s with mu := some (o, .doFlush) }

/-- `doFlushLocked`, up to the call of the handler. -/
def doFlushLocked (c : Setup) (s : State ε Err) (o : Owner ε) : State ε Err :=
  if s.buffer = [] then { s with mu := some (o, .leaving none) }
  else if c.flushHandler then
    { s with buffer := [], mu := some (o, .handling s.buffer), handed := s.handed ++ [s.buffer] }
  else { s with buffer := [], mu := some (o, .leaving none) }

/-- `recordFlushError`, up to the call of the error handler. -/
def recordFlushError (c : Setup) (s : State ε Err) (o : Owner ε) (err : Err) (events : List (Option ε)) :
    State ε Err :=
  if c.flushErrorHandler then
    { s with lastFlushErr := some err, flushErrorCount := s.flushErrorCount + 1,
             mu := some (o, .reporting err), reported := s.reported ++ [(err, events)] }
  else
    { s with lastFlushErr := some err, flushErrorCount := s.flushErrorCount + 1,
             mu := some (o, .leaving (some (.handler err))) }

/-- `Close` with the mutex held; a second `Close` returns at once. -/
def closeLocked (s : State ε Err) (o : Owner ε) : State ε Err :=
  if s.closed then { s with mu := some (o, .leaving none) }
  else { s with closed := true, mu := some (o, .closing) }

def acceptedAfter (s : State ε Err) : Op ε → Option (Failure Err) → List (Option ε)
  | .add event, none => s.accepted ++ [event]
  | _, _ => s.accepted

def unlock (s : State ε Err) (result : Option (Failure Err)) : Owner ε → State ε Err
  | .run last => { s with mu := none, run := if last then .exiting else .select }
  | .call id op =>
    { s.setCall id op (.returned (op.result result)) with
        mu := none, accepted := s.acceptedAfter op (op.result result) }

def work (c : Setup) (s : State ε Err) : Option (State ε Err) :=
  match s.mu with
  | some (o, .addEvent event) => some (s.append c o event)
  | some (o, .add event) => s.addLocked c o event
  | some (o, .drain) => some (s.drainLocked o)
  | some (o, .doFlush) => some (s.doFlushLocked c o)
  | some (o, .recording err events) => some (s.recordFlushError c o err events)
  | some (o, .close) => some (s.closeLocked o)
  | some (.call id op, .closing) => some { s.setCall id op .stop with mu := none }
  | some (o, .leaving result) => some (s.unlock result o)
  | _ => none

def handlerReturns (s : State ε Err) (err : Option Err) : Option (State ε Err) :=
  match s.mu, err with
  | some (o, .handling _), none => some { s with mu := some (o, .leaving none) }
  | some (o, .handling events), some err =>
    some { s with mu := some (o, .recording err events), failed := s.failed ++ [(err, events)] }
  | _, _ => none

def errorHandlerReturns (s : State ε Err) : Option (State ε Err) :=
  match s.mu with
  | some (o, .reporting err) => some { s with mu := some (o, .leaving (some (.handler err))) }
  | _ => none

def lock (s : State ε Err) (id : Nat) : Option (State ε Err) :=
  match s.mu, s.calls id with
  | none, some (op, .waiting) =>
    some { s.setCall id op .inside with mu := some (.call id op, op.entry) }
  | _, _ => none

/-- close(b.stopCh); closing it twice would panic. -/
def closeStop (s : State ε Err) (id : Nat) : Option (State ε Err) :=
  match s.calls id with
  | some (op, .stop) =>
    if s.stopClosed then none else some { s.setCall id op .wait with stopClosed := true }
  | _ => none

def receiveDone (s : State ε Err) (id : Nat) : Option (State ε Err) :=
  match s.calls id, s.run with
  | some (op, .wait), .exited => some (s.setCall id op .finish)
  | _, _ => none

/-- close(b.eventCh), and `Close` returns; closing it twice would panic. -/
def closeEvent (s : State ε Err) (id : Nat) : Option (State ε Err) :=
  match s.calls id with
  | some (op, .finish) =>
    if s.eventClosed then none
    else some { s.setCall id op (.returned none) with eventClosed := true }
  | _ => none

def receiveStop (s : State ε Err) : Option (State ε Err) :=
  match s.run with
  | .select => if s.stopClosed then some { s with run := .stopping } else none
  | _ => none

def receiveEvent (s : State ε Err) : Option (State ε Err) :=
  match s.run, s.receive with
  | .select, some (event, s') => some { s' with run := .received event }
  | _, _ => none

def tick (s : State ε Err) : Option (State ε Err) :=
  match s.run with
  | .select => some { s with run := .ticked }
  | _ => none

def runLock (s : State ε Err) : Option (State ε Err) :=
  match s.mu, s.run with
  | none, .received event => some { s with mu := some (.run false, .addEvent event), run := .locked }
  | none, .ticked => some { s with mu := some (.run false, .drain), run := .locked }
  | none, .stopping => some { s with mu := some (.run true, .drain), run := .locked }
  | _, _ => none

def closeDone (s : State ε Err) : Option (State ε Err) :=
  match s.run with
  | .exiting => some { s with run := .exited }
  | _ => none

end State

/-- One step of one of the goroutines; the ticker may fire at any time. -/
def step (c : Setup) (s : State ε Err) : Action ε Err → Option (State ε Err)
  | .invoke op => some { s.setCall s.nextCall op .waiting with nextCall := s.nextCall + 1 }
  | .lock id => s.lock id
  | .work => s.work c
  | .handlerReturns err => s.handlerReturns err
  | .errorHandlerReturns => s.errorHandlerReturns
  | .closeStop id => s.closeStop id
  | .receiveDone id => s.receiveDone id
  | .closeEvent id => s.closeEvent id
  | .receiveStop => s.receiveStop
  | .receiveEvent => s.receiveEvent
  | .tick => s.tick
  | .runLock => s.runLock
  | .closeDone => s.closeDone

end SupplyPlatform.BatchBuffer
