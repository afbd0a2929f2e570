import SupplyPlatform.Lib.Runs
import SupplyPlatform.Database

namespace SupplyPlatform.Compensation

open Relational

inductive CompensationStatus
  | pending
  | retrying
  | resolved
  | manualRequired
  | abandoned
  deriving DecidableEq

/-- A row of `supply_batch_compensation`. -/
structure CompensationRow where
  id : Int
  batchID : String
  operationType : String
  itemIndex : Int
  itemPayload : String
  failureReason : Option String
  status : CompensationStatus
  retryCount : Int
  maxRetries : Int
  resolvedAt : Option Time
  resolvedBy : Option Int
  resolutionNotes : Option String
  createdAt : Time
  updatedAt : Time
  createdBy : Option Int
  version : Int
  deriving DecidableEq

/-- The Go struct a row is decoded into. -/
structure BatchCompensation where
  id : Int
  batchID : String
  operationType : String
  itemIndex : Int
  itemPayload : String
  failureReason : String
  status : CompensationStatus
  retryCount : Int
  maxRetries : Int
  resolvedAt : Option Time
  resolvedBy : Option Int
  resolutionNotes : String
  createdAt : Time
  updatedAt : Time
  createdBy : Option Int
  version : Int
  deriving DecidableEq

def Apart (a b : CompensationRow) : Prop := a.id ≠ b.id

instance : DecidableRel Apart := fun a b => inferInstanceAs (Decidable (a.id ≠ b.id))

instance : Std.Symm Apart := ⟨fun _ _ h => Ne.symm h⟩

abbrev CompensationTable := Table CompensationRow Apart

def unfinished : CompensationStatus → Bool
  | .pending => true
  | .retrying => true
  | _ => false

/-- `Create`: `retry_count` takes its default 0, `resolution_notes` is NULL. -/
def create (t : CompensationTable) (id : Int) (now : Time) (comp : BatchCompensation) :
    Except DbError (CompensationTable × Int) :=
  let row : CompensationRow :=
    { id := id, batchID := comp.batchID, operationType := comp.operationType,
      itemIndex := comp.itemIndex, itemPayload := comp.itemPayload,
      failureReason := some comp.failureReason, status := .pending, retryCount := 0,
      maxRetries := comp.maxRetries, resolvedAt := none, resolvedBy := none,
      resolutionNotes := none, createdAt := now, updatedAt := now, createdBy := comp.createdBy,
      version := 1 }
  match t.insert row with
  | some t' => .ok (t', id)
  | none => .error .uniqueViolation

/-- `rows.Scan` of one row: `failure_reason` and `resolution_notes` go into Go strings. -/
def scanCompensation (r : CompensationRow) : Except DbError BatchCompensation := do
  let failureReason ← scan r.failureReason
  let resolutionNotes ← scan r.resolutionNotes
  return { id := r.id, batchID := r.batchID, operationType := r.operationType,
           itemIndex := r.itemIndex, itemPayload := r.itemPayload, failureReason := failureReason,
           status := r.status, retryCount := r.retryCount, maxRetries := r.maxRetries,
           resolvedAt := r.resolvedAt, resolvedBy := r.resolvedBy,
           resolutionNotes := resolutionNotes, createdAt := r.createdAt, updatedAt := r.updatedAt,
           createdBy := r.createdBy, version := r.version }

/-- The rows `GetByBatchID` may read, in an order it may read them. -/
def ReadsBatch (t : CompensationTable) (batchID : String) (rows : List CompensationRow) : Prop :=
  t.Answers (fun r => r.batchID = batchID) (·.itemIndex) rows

/-- The rows `GetPending` may read, in an order it may read them. -/
def ReadsPending (t : CompensationTable) (rows : List CompensationRow) : Prop :=
  t.Answers (fun r => unfinished r.status) (·.createdAt) rows

instance (t : CompensationTable) (batchID : String) (rows : List CompensationRow) :
    Decidable (ReadsBatch t batchID rows) :=
  inferInstanceAs (Decidable (t.Answers _ _ _))

instance (t : CompensationTable) (rows : List CompensationRow) : Decidable (ReadsPending t rows) :=
  inferInstanceAs (Decidable (t.Answers _ _ _))

/-- The decoding loop of `GetByBatchID` and `GetPending`. -/
def scanAll (rows : List CompensationRow) : Except DbError (List BatchCompensation) :=
  rows.mapM scanCompensation

/-- An UPDATE by id alone. -/
def updateByID (t : CompensationTable) (id : Int) (set : CompensationRow → CompensationRow)
    (keys : ∀ r, (set r).id = r.id) : CompensationTable :=
  t.update (fun r => if r.id = id then set r else r) (by
    have hkey : ∀ r, (if r.id = id then set r else r).id = r.id := by
      intro r
      split
      · exact keys r
      · rfl
    intro a b h
    unfold Apart
    rw [hkey a, hkey b]
    exact h)

def updateStatus (t : CompensationTable) (now : Time) (id : Int) (status : CompensationStatus) :
    CompensationTable :=
  updateByID t id
    (fun r => { r with status := status, updatedAt := now, version := r.version + 1 })
    (fun _ => rfl)

def resolve (t : CompensationTable) (now : Time) (id resolvedBy : Int) (notes : String) :
    CompensationTable :=
  updateByID t id
    (fun r => { r with status := .resolved, resolvedAt := some now, resolvedBy := some resolvedBy,
                       resolutionNotes := some notes, updatedAt := now,
                       version := r.version + 1 })
    (fun _ => rfl)

/-- `COALESCE(failure_reason || '; ', '') || reason`. -/
def appendReason (failureReason : Option String) (reason : String) : String :=
  (failureReason.map (· ++ "; ")).getD "" ++ reason

def markManualRequired (t : CompensationTable) (now : Time) (id : Int) (reason : String) :
    CompensationTable :=
  updateByID t id
    (fun r => { r with status := .manualRequired,
                       failureReason := some (appendReason r.failureReason reason),
                       updatedAt := now, version := r.version + 1 })
    (fun _ => rfl)

structure CompensationResult where
  batchID : String
  totalItems : Nat
  successCount : Nat
  retryCount : Nat
  manualCount : Nat
  failedCount : Nat
  deriving DecidableEq

inductive Stat
  | retry (operationType : String)
  | resolved (operationType : String)
  | manual (operationType : String)
  deriving DecidableEq

/-- The two loops: `processPendingCompensations`, and `ProcessBatchCompensations` with the result it
is building. -/
inductive Call
  | worker
  | batch (result : CompensationResult)
  deriving DecidableEq

/-- The batch loop skips what its snapshot says is finished; the worker's query has done so. -/
def Call.takes : Call → BatchCompensation → Bool
  | .worker, _ => true
  | .batch _, comp => unfinished comp.status

def Call.notes : Call → String
  | .worker => "worker_auto_resolved"
  | .batch _ => "auto_resolved"

/-- Where a loop stands with the record at its head: about to call `Execute`, or with its result. -/
inductive Phase
  | executing
  | executed (err : Option String)
  deriving DecidableEq

inductive Processor
  | idle
  | running (call : Call) (comp : BatchCompensation) (rest : List BatchCompensation) (phase : Phase)
  deriving DecidableEq

/-- The retry rule both loops share. -/
inductive Outcome
  | resolved
  | retry
  | manual (reason : String)
  deriving DecidableEq

/-- `comp.RetryCount++` and `comp.FailureReason = err.Error()`, on the decoded copy only. -/
def BatchCompensation.retried (comp : BatchCompensation) (err : String) : BatchCompensation :=
  { comp with retryCount := comp.retryCount + 1, failureReason := err }

def BatchCompensation.outcome (comp : BatchCompensation) : Option String → Outcome
  | none => .resolved
  | some err =>
    if (comp.retried err).retryCount ≥ (comp.retried err).maxRetries then .manual err else .retry

/-- The store call an outcome leads to. -/
def record (t : CompensationTable) (now : Time) (call : Call) (id : Int) :
    Outcome → CompensationTable
  | .resolved => resolve t now id 0 call.notes
  | .retry => updateStatus t now id .retrying
  | .manual reason => markManualRequired t now id reason

def Outcome.stat (operationType : String) : Outcome → Stat
  | .resolved => .resolved operationType
  | .retry => .retry operationType
  | .manual _ => .manual operationType

def CompensationResult.count (result : CompensationResult) : Outcome → CompensationResult
  | .resolved => { result with successCount := result.successCount + 1 }
  | .retry => { result with retryCount := result.retryCount + 1 }
  | .manual _ => { result with manualCount := result.manualCount + 1 }

/-- After the store call: the batch loop counts a failed call and moves on, the worker logs it and
records its statistic all the same. -/
def Call.after (call : Call) (outcome : Outcome) (fault : Fault) : Call × Bool :=
  match call, fault with
  | .worker, _ => (.worker, true)
  | .batch result, .none => (.batch (result.count outcome), true)
  | .batch result, _ => (.batch { result with failedCount := result.failedCount + 1 }, false)

/-- The table, the running loops, the clock, and a record of what has happened: the results
returned, the operations executed, newest first, with their success, and the ids resolved. -/
structure State where
  table : CompensationTable
  processor : Nat → Processor
  now : Time
  stats : List Stat
  returned : List CompensationResult
  executed : List (Int × Bool)
  resolved : List Int

inductive Action
  | tick (elapsed : Nat)
  | create (id : Int) (comp : BatchCompensation)
  | getPending (p : Nat) (rows : List CompensationRow)
  | getByBatchID (p : Nat) (batchID : String) (rows : List CompensationRow)
  | execute (p : Nat) (err : Option String)
  | settle (p : Nat) (fault : Fault)
  | stop (p : Nat)
  deriving DecidableEq

def State.setProcessor (s : State) (p : Nat) (x : Processor) : State :=
  { s with processor := Function.update s.processor p x }

/-- The head of the loop with the records not yet handled. -/
def State.loop (s : State) (p : Nat) (call : Call) (comps : List BatchCompensation) : State :=
  match comps.dropWhile (fun comp => !call.takes comp), call with
  | comp :: rest, _ => s.setProcessor p (.running call comp rest .executing)
  | [], .worker => s.setProcessor p .idle
  | [], .batch result => { s with returned := result :: s.returned }.setProcessor p .idle

/-- The result a batch call starts from. -/
def startResult (batchID : String) (totalItems : Nat) : CompensationResult :=
  { batchID := batchID, totalItems := totalItems, successCount := 0, retryCount := 0,
    manualCount := 0, failedCount := 0 }

/-- The store call after `Execute`, and the counters. -/
def settled (s : State) (call : Call) (comp : BatchCompensation) (err : Option String)
    (fault : Fault) : State :=
  let outcome := comp.outcome err
  { s with
    table := if fault = .unapplied then s.table else record s.table s.now call comp.id outcome,
    stats := if (call.after outcome fault).2 then outcome.stat comp.operationType :: s.stats
      else s.stats,
    resolved := if fault ≠ .unapplied ∧ outcome = .resolved then comp.id :: s.resolved
      else s.resolved }

/-- One atomic step: a statement of the store, an `Execute`, or a loop that ends between two of
them. -/
def step (s : State) : Action → Option State
  | .tick elapsed => some { s with now := s.now + elapsed }
  | .create id comp =>
    match create s.table id s.now comp with
    | .ok (t, _) => some { s with table := t }
    | .error _ => none
  | .getPending p rows =>
    if s.processor p = .idle ∧ ReadsPending s.table rows then
      match scanAll rows with
      | .ok comps => some (s.loop p .worker comps)
      | .error _ => some s
    else none
  | .getByBatchID p batchID rows =>
    if s.processor p = .idle ∧ ReadsBatch s.table batchID rows then
      match scanAll rows with
      | .ok comps => some (s.loop p (.batch (startResult batchID comps.length)) comps)
      | .error _ => some s
    else none
  | .execute p err =>
    match s.processor p with
    | .running call comp rest .executing =>
      some ({ s with executed := (comp.id, err.isNone) :: s.executed }.setProcessor p
        (.running call comp rest (.executed err)))
    | _ => none
  | .settle p fault =>
    match s.processor p with
    | .running call comp rest (.executed err) =>
      some ((settled s call comp err fault).loop p (call.after (comp.outcome err) fault).1 rest)
    | _ => none
  | .stop p => some (s.setProcessor p .idle)

def State.start (t : CompensationTable) (now : Time) : State :=
  { table := t, processor := fun _ => .idle, now := now, stats := [], returned := [],
    executed := [], resolved := [] }

end SupplyPlatform.Compensation
