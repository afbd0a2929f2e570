import SupplyPlatform.Database

namespace SupplyPlatform.Outbox

open Relational

inductive OutboxStatus
  | pending
  | processing
  | completed
  | failed
  | deadLetter
  deriving DecidableEq

/-- A row of `supply_outbox`; `retryValid` is the CHECK `valid_retry_count`. -/
structure OutboxRow where
  id : Int
  aggregateType : String
  aggregateID : String
  eventType : String
  eventID : String
  payload : String
  status : OutboxStatus
  retryCount : Int
  maxRetries : Int
  errorMessage : Option String
  createdAt : Time
  processedAt : Option Time
  nextRetryAt : Option Time
  version : Int
  retryValid : 0 ≤ retryCount ∧ retryCount ≤ maxRetries
  deriving DecidableEq

/-- The Go struct a row is decoded into. -/
structure OutboxEvent where
  id : Int
  aggregateType : String
  aggregateID : String
  eventType : String
  eventID : String
  payload : String
  status : OutboxStatus
  retryCount : Int
  maxRetries : Int
  errorMessage : String
  createdAt : Time
  processedAt : Option Time
  nextRetryAt : Option Time
  version : Int
  deriving DecidableEq

/-- A row of `supply_outbox_dead_letter`, as `MoveToDeadLetter` writes it. -/
structure DeadLetterRow where
  originalEventID : String
  originalAggregateType : String
  originalAggregateID : String
  eventType : String
  payload : String
  errorMessage : String
  retryCount : Int
  firstFailedAt : Time
  deadLetterAt : Time
  deriving DecidableEq

/-- PRIMARY KEY (id) and UNIQUE (event_id). -/
def Apart (a b : OutboxRow) : Prop := a.id ≠ b.id ∧ a.eventID ≠ b.eventID

instance : DecidableRel Apart := fun a b =>
  inferInstanceAs (Decidable (a.id ≠ b.id ∧ a.eventID ≠ b.eventID))

instance : Std.Symm Apart := ⟨fun _ _ h => ⟨h.1.symm, h.2.symm⟩⟩

abbrev OutboxTable := Table OutboxRow Apart

/-- `trigger_outbox_version`, run before every UPDATE of a row. -/
def updateOutboxVersion (old new : OutboxRow) : OutboxRow :=
  if old.status ≠ new.status then { new with version := old.version + 1 } else new

/-- UPDATE supply_outbox SET .. WHERE .., with the trigger; `set` writes no key column. -/
def updateWhere (t : OutboxTable) (where_ : OutboxRow → Bool) (set : OutboxRow → OutboxRow)
    (keys : ∀ r, (set r).id = r.id ∧ (set r).eventID = r.eventID) : OutboxTable :=
  t.update (fun r => if where_ r then updateOutboxVersion r (set r) else r) (by
    have hkey : ∀ r, (if where_ r then updateOutboxVersion r (set r) else r).id = r.id ∧
        (if where_ r then updateOutboxVersion r (set r) else r).eventID = r.eventID := by
      intro r
      split
      · unfold updateOutboxVersion
        split <;> simp [keys r]
      · simp
    intro a b h
    unfold Apart
    rw [(hkey a).1, (hkey a).2, (hkey b).1, (hkey b).2]
    exact h)

/-- `Create`: the columns not listed by the INSERT take their defaults, NULL for `error_message`,
`processed_at` and `next_retry_at`. -/
def create (t : OutboxTable) (id : Int) (now : Time) (event : OutboxEvent) :
    Except RepoError (OutboxTable × OutboxEvent) :=
  if h : 0 ≤ event.retryCount ∧ event.retryCount ≤ event.maxRetries then
    let row : OutboxRow :=
      { id := id, aggregateType := event.aggregateType, aggregateID := event.aggregateID,
        eventType := event.eventType, eventID := event.eventID, payload := event.payload,
        status := event.status, retryCount := event.retryCount, maxRetries := event.maxRetries,
        errorMessage := none, createdAt := now, processedAt := none, nextRetryAt := none,
        version := 0, retryValid := h }
    match t.insert row with
    | some t' => .ok (t', { event with id := id, createdAt := now })
    | none => .error (.wrap "failed to create outbox event" .uniqueViolation)
  else .error (.wrap "failed to create outbox event" .checkViolation)

/-- The WHERE clause of the claiming subquery. -/
def claimable (now : Time) (r : OutboxRow) : Bool :=
  (r.status = .pending || r.status = .failed) &&
    (match r.nextRetryAt with
      | none => true
      | some t => t ≤ now)

/-- The answers PostgreSQL may give to `ORDER BY created_at ASC LIMIT n FOR UPDATE SKIP LOCKED`
when no row is locked: rows with equal `created_at`, and the rows of RETURNING, in any order. -/
def Claims (t : OutboxTable) (now : Time) (limit : Nat) (ids : List Int) : Prop :=
  ids.Nodup ∧ ids.length ≤ limit ∧
  (∀ i ∈ ids, ∃ r ∈ t.rows, r.id = i ∧ claimable now r) ∧
  (∀ r ∈ t.rows, claimable now r → r.id ∉ ids →
    ids.length = limit ∧ ∀ q ∈ t.rows, q.id ∈ ids → q.createdAt ≤ r.createdAt)

instance (t : OutboxTable) (now : Time) (limit : Nat) (ids : List Int) :
    Decidable (Claims t now limit ids) :=
  inferInstanceAs (Decidable (_ ∧ _ ∧ _ ∧ _))

/-- `rows.Scan` of one returned row: `error_message` goes into a Go string. -/
def scanEvent (r : OutboxRow) : Except DbError OutboxEvent := do
  let errorMessage ← scan r.errorMessage
  return { id := r.id, aggregateType := r.aggregateType, aggregateID := r.aggregateID,
           eventType := r.eventType, eventID := r.eventID, payload := r.payload,
           status := r.status, retryCount := r.retryCount, maxRetries := r.maxRetries,
           errorMessage := errorMessage, createdAt := r.createdAt, processedAt := r.processedAt,
           nextRetryAt := r.nextRetryAt, version := r.version }

/-- The UPDATE of `FetchAndLock`. -/
def claim (t : OutboxTable) (ids : List Int) : OutboxTable :=
  updateWhere t (fun r => r.id ∈ ids)
    (fun r => { r with status := .processing, version := r.version + 1 }) (fun _ => ⟨rfl, rfl⟩)

/-- The rows RETURNING hands to the client. -/
def returning (t : OutboxTable) (ids : List Int) : List OutboxRow :=
  ids.filterMap (fun i => t.rows.find? (fun r => r.id = i))

/-- `FetchAndLock`, where `ids` is the subquery's answer. The UPDATE has committed before the first
row is decoded. A negative LIMIT fails the statement, which pgx reports through `rows.Err()` only. -/
def fetchAndLock (t : OutboxTable) (limit : Int) (ids : List Int) :
    OutboxTable × Except RepoError (List OutboxEvent) :=
  if limit < 0 then (t, .ok [])
  else
    let t' := claim t ids
    match (returning t' ids).mapM scanEvent with
    | .ok events => (t', .ok events)
    | .error e => (t', .error (.wrap "failed to scan outbox event" e))

def notProcessing : RepoError := .message "event not found or not in processing status"

/-- The WHERE clause of `MarkCompleted` and `MarkFailed`. -/
def inProcessing (eventID : String) (r : OutboxRow) : Bool :=
  r.eventID = eventID && r.status = .processing

/-- An UPDATE by event id of the rows in `processing`, and the check of `RowsAffected`. -/
def markProcessing (t : OutboxTable) (eventID : String) (set : OutboxRow → OutboxRow)
    (keys : ∀ r, (set r).id = r.id ∧ (set r).eventID = r.eventID) :
    OutboxTable × Except RepoError Unit :=
  (updateWhere t (inProcessing eventID) set keys,
    if t.rows.any (inProcessing eventID) then .ok () else .error notProcessing)

def markCompleted (t : OutboxTable) (now : Time) (eventID : String) :
    OutboxTable × Except RepoError Unit :=
  markProcessing t eventID
    (fun r => { r with status := .completed, processedAt := some now, version := r.version + 1 })
    (fun _ => ⟨rfl, rfl⟩)

def markFailed (t : OutboxTable) (eventID errorMsg : String) (nextRetryAt : Option Time) :
    OutboxTable × Except RepoError Unit :=
  markProcessing t eventID
    (fun r => { r with status := .failed, errorMessage := some errorMsg,
                       nextRetryAt := nextRetryAt, version := r.version + 1 })
    (fun _ => ⟨rfl, rfl⟩)

/-- `MoveToDeadLetter`, one transaction. The dead letter takes `retry_count` from the stored row,
not from the event it is called with. -/
def moveToDeadLetter (t : OutboxTable) (letters : List DeadLetterRow) (now : Time)
    (event : OutboxEvent) (errorMsg : String) :
    Except RepoError (OutboxTable × List DeadLetterRow) :=
  match t.rows.find? (fun r => r.eventID = event.eventID) with
  | none => .error (.wrap "failed to get original event" .noRows)
  | some original =>
    .ok (t.delete (fun r => r.eventID = event.eventID),
      letters ++ [{ originalEventID := original.eventID,
                    originalAggregateType := original.aggregateType,
                    originalAggregateID := original.aggregateID,
                    eventType := original.eventType, payload := original.payload,
                    errorMessage := errorMsg, retryCount := original.retryCount,
                    firstFailedAt := original.createdAt, deadLetterAt := now }])

/-- `DeleteCompleted`: a NULL `processed_at` compares as unknown and keeps the row. -/
def deleteCompleted (t : OutboxTable) (before : Time) : OutboxTable :=
  t.delete (fun r => r.status = .completed &&
    (match r.processedAt with
      | none => false
      | some p => p < before))

end SupplyPlatform.Outbox
