import SupplyPlatform.Lib.Runs
import SupplyPlatform.Lib.Exclusive
import SupplyPlatform.OutboxFetch

namespace SupplyPlatform.Outbox

open Relational

def defaultInitialBackoffSeconds : Int := 1

def defaultMaxBackoffSeconds : Int := 60

/-- The loop of `CalculateOutboxBackoff`, with the number of attempts still to count. -/
def backoffLoop (backoff : Int) : Nat → Int
  | 0 => backoff
  | attempts + 1 =>
    if backoff ≥ defaultMaxBackoffSeconds then defaultMaxBackoffSeconds
    else if backoff > defaultMaxBackoffSeconds / 2 then defaultMaxBackoffSeconds
    else backoffLoop (backoff * 2) attempts

def calculateOutboxBackoff (retryCount _maxRetries : Int) : Int :=
  let retryCount := if retryCount ≤ 0 then 1 else retryCount
  backoffLoop defaultInitialBackoffSeconds (retryCount - 1).toNat

/-- The calls of `messaging.OutboxStats`. -/
inductive Stat
  | success (eventType : String)
  | failure (reason : String)
  | retry (eventType : String)
  | dlq (eventType : String)
  deriving DecidableEq

/-- Where `process` stands with the event at the head of its batch: about to publish it, about to
mark it completed, or in `handleFailure` with the error of `Publish`. -/
inductive Phase
  | publishing
  | published
  | failed (publishErr : String)
  deriving DecidableEq

inductive Worker
  | idle
  | running (event : OutboxEvent) (rest : List OutboxEvent) (phase : Phase)
  deriving DecidableEq

/-- The loop of `process` over the events not yet handled. -/
def Worker.loop : List OutboxEvent → Worker
  | [] => .idle
  | event :: rest => .running event rest .publishing

def Worker.held : Worker → List String
  | .idle => []
  | .running event rest _ => event.eventID :: rest.map (·.eventID)

/-- The two tables, the workers, the clock, and a record of what has happened: the ids ever created,
the ids handed to `Publish`, those published, and those `MarkCompleted` has completed. -/
structure State where
  outbox : OutboxTable
  deadLetter : List DeadLetterRow
  worker : Nat → Worker
  now : Time
  stats : List Stat
  created : List String
  handed : List String
  published : List String
  marked : List String

inductive Action
  | tick (elapsed : Nat)
  | create (id : Int) (event : OutboxEvent)
  | fetchAndLock (w : Nat) (ids : List Int)
  | publish (w : Nat) (err : Option String)
  | markCompleted (w : Nat) (fault : Fault)
  | handleFailure (w : Nat) (fault : Fault)
  | deleteCompleted (before : Time)
  | stop (w : Nat)
  deriving DecidableEq

def batchSize : Int := 100

def State.setWorker (s : State) (w : Nat) (worker : Worker) : State :=
  { s with worker := Function.update s.worker w worker }

/-- `event.RetryCount++`, on the decoded copy only. -/
def OutboxEvent.retried (event : OutboxEvent) : OutboxEvent :=
  { event with retryCount := event.retryCount + 1 }

def handleFailure (s : State) (event : OutboxEvent) (publishErr : String) (fault : Fault) : State :=
  let event := event.retried
  if event.retryCount ≥ event.maxRetries then
    match fault, moveToDeadLetter s.outbox s.deadLetter s.now event publishErr with
    | .none, .ok (t, letters) =>
      { s with outbox := t, deadLetter := letters, stats := .dlq event.eventType :: s.stats }
    | .applied, .ok (t, letters) =>
      { s with outbox := t, deadLetter := letters,
               stats := .failure "move_to_dlq_failed" :: s.stats }
    | _, _ => { s with stats := .failure "move_to_dlq_failed" :: s.stats }
  else
    let backoffSeconds := calculateOutboxBackoff event.retryCount event.maxRetries
    let nextRetry := s.now + backoffSeconds * second
    match fault, markFailed s.outbox event.eventID publishErr (some nextRetry) with
    | .unapplied, _ => { s with stats := .failure "mark_failed_failed" :: s.stats }
    | .none, (t, .ok ()) => { s with outbox := t, stats := .retry event.eventType :: s.stats }
    | _, (t, _) => { s with outbox := t, stats := .failure "mark_failed_failed" :: s.stats }

/-- `process` after a successful `Publish`. -/
def complete (s : State) (event : OutboxEvent) (fault : Fault) : State :=
  match fault, markCompleted s.outbox s.now event.eventID with
  | .unapplied, _ => { s with stats := .failure "mark_completed_failed" :: s.stats }
  | .none, (t, .ok ()) =>
    { s with outbox := t, stats := .success event.eventType :: s.stats,
             marked := event.eventID :: s.marked }
  | _, (t, .ok ()) =>
    { s with outbox := t, stats := .failure "mark_completed_failed" :: s.stats,
             marked := event.eventID :: s.marked }
  | _, (t, .error _) =>
    { s with outbox := t, stats := .failure "mark_completed_failed" :: s.stats }

/-- One atomic step of the system; each event id is created once, and `stop` is a worker that ends
between two steps of `process` and may be started again. -/
def step (s : State) : Action → Option State
  | .tick elapsed => some { s with now := s.now + elapsed }
  | .create id event =>
    if event.eventID ∈ s.created then none
    else
      match create s.outbox id s.now event with
      | .ok (t, e) => some { s with outbox := t, created := e.eventID :: s.created }
      | .error _ => none
  | .fetchAndLock w ids =>
    if s.worker w = .idle ∧ Claims s.outbox s.now batchSize.toNat ids then
      match fetchAndLock s.outbox batchSize ids with
      | (t, .ok events) => some ({ s with outbox := t }.setWorker w (Worker.loop events))
      | (t, .error _) => some { s with outbox := t }
    else none
  | .publish w err =>
    match s.worker w with
    | .running event rest .publishing =>
      match err with
      | none =>
        some ({ s with handed := event.eventID :: s.handed,
                       published := event.eventID :: s.published }.setWorker w
          (.running event rest .published))
      | some publishErr =>
        some ({ s with handed := event.eventID :: s.handed }.setWorker w
          (.running event rest (.failed publishErr)))
    | _ => none
  | .markCompleted w fault =>
    match s.worker w with
    | .running event rest .published =>
      some ((complete s event fault).setWorker w (Worker.loop rest))
    | _ => none
  | .handleFailure w fault =>
    match s.worker w with
    | .running event rest (.failed publishErr) =>
      some ((handleFailure s event publishErr fault).setWorker w (Worker.loop rest))
    | _ => none
  | .deleteCompleted before => some { s with outbox := deleteCompleted s.outbox before }
  | .stop w => some (s.setWorker w .idle)

/-- The events whose row carries a processing time, which only `MarkCompleted` writes. -/
def processedIDs (t : OutboxTable) : List String :=
  (t.rows.filter (fun r => r.processedAt.isSome)).map (·.eventID)

/-- No worker has started; what the table says of the past is on record. -/
def State.start (t : OutboxTable) (now : Time) : State :=
  { outbox := t, deadLetter := [], worker := fun _ => .idle, now := now, stats := [],
    created := t.rows.map (·.eventID), handed := [], published := processedIDs t,
    marked := processedIDs t }

end SupplyPlatform.Outbox
