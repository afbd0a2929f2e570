import SupplyPlatform.AuditIdempotency
import SupplyPlatform.AuditQuery
import SupplyPlatform.Lib.Strings

namespace SupplyPlatform.Audit

open Settlements (zeroTime)

variable {V : Type}

/-- What storing one event reads and meets: the clock, a UUID should one be needed, the error of
`json.Marshal` with its context, and what PostgreSQL says to the INSERT. -/
structure EmitReading where
  now : Time
  later : Time
  eventID : String
  marshalError : Option String
  insertError : Option String

def errDuplicateIdempotencyKey : String := "duplicate idempotency key"

namespace PostgresAuditRepository

/-- The row `Emit` inserts. -/
def stored (r : EmitReading) (event : AuditEvent V) : AuditEvent V :=
  let timestamp := if event.timestamp = zeroTime then r.now else event.timestamp
  ({ event with
    eventID := if event.eventID = "" then r.eventID else event.eventID
    timestamp := timestamp
    timestampMs := unixMilli timestamp
    createdAt := r.later } : AuditEvent V).row

/-- How a failing `Emit` reports it, if it fails. -/
def failure (r : EmitReading) : Option String :=
  match r.marshalError with
  | some text => some text
  | none =>
    r.insertError.map (fun text =>
      if Strings.contains text "idempotency_key" && Strings.contains text "unique" then
        errDuplicateIdempotencyKey
      else "failed to emit audit event: " ++ text)

def emit (rows : List (AuditEvent V)) (r : EmitReading) (event : AuditEvent V) :
    Except String (List (AuditEvent V)) :=
  match failure r with
  | some text => .error text
  | none => .ok (rows ++ [stored r event])

/-- The rows a batch leaves, and the error at which its loop has stopped. -/
def emitBatch (rows : List (AuditEvent V)) (r : Nat → EmitReading) :
    List (AuditEvent V) → List (AuditEvent V) × Option String
  | [] => (rows, none)
  | event :: events =>
    match emit rows (r 0) event with
    | .ok rows => emitBatch rows (fun n => r (n + 1)) events
    | .error text => (rows, some text)

end PostgresAuditRepository

namespace DatabaseAuditService

/-- `EmitBatch` of the service over the repository. -/
def emitBatch (rows : List (AuditEvent V)) (r : Nat → EmitReading) (events : List (AuditEvent V)) :
    List (AuditEvent V) × Option String :=
  if events.length = 0 then (rows, none)
  else if events.any (fun event => event.eventName = "") then
    (rows, some "invalid input: event name is required")
  else PostgresAuditRepository.emitBatch rows r events

/-- What `CreateEventsBatch` makes of the answer of the store. -/
def reported (n : Nat) : List (AuditEvent V) × Option String →
    List (AuditEvent V) × CreateEventsBatchResult × Option String
  | (rows, some text) => (rows, ⟨0, n, [text]⟩, some text)
  | (rows, none) => (rows, ⟨n, 0, []⟩, none)

/-- `CreateEventsBatch` over the database: the rows it leaves, its result and its error. `none` is the
panic on a nil event. -/
def createEventsBatch (rows : List (AuditEvent V)) (r : Nat → EmitReading)
    (events : List (Option (AuditEvent V))) (now : Time) (eventIDs : Nat → String) :
    Option (List (AuditEvent V) × CreateEventsBatchResult × Option String) :=
  if events.length = 0 then some (rows, ⟨0, 0, []⟩, none)
  else
    match batchDefaults now eventIDs events with
    | none => none
    | some events => some (reported events.length (emitBatch rows r events))

end DatabaseAuditService

/-- The rows that a number of events are stored as. -/
def storedAll (r : Nat → EmitReading) : List (AuditEvent V) → List (AuditEvent V)
  | [] => []
  | event :: events =>
    PostgresAuditRepository.stored (r 0) event :: storedAll (fun n => r (n + 1)) events

/-- The events with the defaults that the batch gives them. -/
def withDefaultsAll (now : Time) (eventIDs : Nat → String) : List (AuditEvent V) → List (AuditEvent V)
  | [] => []
  | event :: events =>
    event.withDefaults ⟨now, eventIDs 0⟩ :: withDefaultsAll now (fun n => eventIDs (n + 1)) events

theorem length_storedAll (r : Nat → EmitReading) (events : List (AuditEvent V)) :
    (storedAll r events).length = events.length := by
  induction events generalizing r with
  | nil => rfl
  | cons event events ih => rw [storedAll, List.length_cons, List.length_cons, ih]

theorem length_withDefaultsAll (now : Time) (eventIDs : Nat → String) (events : List (AuditEvent V)) :
    (withDefaultsAll now eventIDs events).length = events.length := by
  induction events generalizing eventIDs with
  | nil => rfl
  | cons event events ih => rw [withDefaultsAll, List.length_cons, List.length_cons, ih]

theorem batchDefaults_some (now : Time) (eventIDs : Nat → String) (events : List (AuditEvent V)) :
    batchDefaults now eventIDs (events.map some) = some (withDefaultsAll now eventIDs events) := by
  induction events generalizing eventIDs with
  | nil => rfl
  | cons event events ih => rw [List.map_cons, batchDefaults, ih, withDefaultsAll, Option.map_some]

theorem any_unnamed_withDefaultsAll (now : Time) (eventIDs : Nat → String) (events : List (AuditEvent V)) :
    (withDefaultsAll now eventIDs events).any (fun event => event.eventName = "") =
      events.any (fun event => event.eventName = "") := by
  induction events generalizing eventIDs with
  | nil => rfl
  | cons event events ih =>
    rw [withDefaultsAll, List.any_cons, List.any_cons, ih]
    rfl

section Loop

open PostgresAuditRepository

variable {rows : List (AuditEvent V)} {r : Nat → EmitReading} {events : List (AuditEvent V)}

theorem emitBatch_of_ok (hok : ∀ i < events.length, failure (r i) = none) :
    emitBatch rows r events = (rows ++ storedAll r events, none) := by
  induction events generalizing rows r with
  | nil => rw [storedAll, List.append_nil, PostgresAuditRepository.emitBatch]
  | cons event events ih =>
    have hfirst : failure (r 0) = none := hok 0 (Nat.zero_lt_succ _)
    have hrest : emitBatch (rows ++ [stored (r 0) event]) (fun n => r (n + 1)) events =
        (rows ++ [stored (r 0) event] ++ storedAll (fun n => r (n + 1)) events, none) :=
      ih (fun i hi => hok (i + 1) (Nat.succ_lt_succ hi))
    simp only [PostgresAuditRepository.emitBatch, emit, hfirst, storedAll]
    rw [hrest, List.append_assoc, List.singleton_append]

/-- The loop stops at the first event that fails, with those before it stored. -/
theorem emitBatch_of_fails {n : Nat} {text : String} (hn : n < events.length)
    (hok : ∀ i < n, failure (r i) = none) (hfails : failure (r n) = some text) :
    emitBatch rows r events = (rows ++ (storedAll r events).take n, some text) := by
  induction events generalizing rows r n with
  | nil => cases hn
  | cons event events ih =>
    cases n with
    | zero =>
      simp only [PostgresAuditRepository.emitBatch, emit, hfails, List.take_zero, List.append_nil]
    | succ n =>
      have hfirst : failure (r 0) = none := hok 0 (Nat.zero_lt_succ _)
      have hrest : emitBatch (rows ++ [stored (r 0) event]) (fun n => r (n + 1)) events =
          (rows ++ [stored (r 0) event] ++ (storedAll (fun n => r (n + 1)) events).take n, some text) :=
        ih (Nat.lt_of_succ_lt_succ hn) (fun i hi => hok (i + 1) (Nat.succ_lt_succ hi)) hfails
      simp only [PostgresAuditRepository.emitBatch, emit, hfirst, storedAll, List.take_succ_cons]
      rw [hrest, List.append_assoc, List.singleton_append]

end Loop

/-- A batch is stored as a whole or not at all, and the counts it reports are of what was stored. -/
structure CountsStored (r : Nat → EmitReading) (rows rows' events : List (AuditEvent V))
    (result : CreateEventsBatchResult) (error : Option String) : Prop where
  whole : (rows' = rows ++ storedAll r events ∧ result.successCount = events.length ∧ error = none) ∨
    (rows' = rows ∧ result.failCount = events.length ∧ ∃ text, error = some text ∧ result.errors = [text])
  succeeded : rows'.length = rows.length + result.successCount
  failed : result.successCount + result.failCount = events.length

section

open PostgresAuditRepository

variable {rows : List (AuditEvent V)} {r : Nat → EmitReading} {events : List (AuditEvent V)}

theorem createEventsBatch_nil (now : Time) (eventIDs : Nat → String) :
    DatabaseAuditService.createEventsBatch rows r [] now eventIDs = some (rows, ⟨0, 0, []⟩, none) := rfl

theorem createEventsBatch_unnamed {now : Time} {eventIDs : Nat → String} {event : AuditEvent V}
    (hmem : event ∈ events) (hname : event.eventName = "") :
    DatabaseAuditService.createEventsBatch rows r (events.map some) now eventIDs =
      some (rows, ⟨0, events.length, ["invalid input: event name is required"]⟩,
        some "invalid input: event name is required") := by
  have hpos : events.length ≠ 0 := Nat.ne_of_gt (List.length_pos_of_mem hmem)
  have hany : events.any (fun event => event.eventName = "") = true :=
    List.any_eq_true.mpr ⟨event, hmem, by simpa using hname⟩
  unfold DatabaseAuditService.createEventsBatch DatabaseAuditService.emitBatch
  rw [List.length_map, if_neg hpos, batchDefaults_some]
  simp only [length_withDefaultsAll, if_neg hpos, any_unnamed_withDefaultsAll, hany, if_true]
  rfl

theorem createEventsBatch_named {now : Time} {eventIDs : Nat → String} (hne : events ≠ [])
    (hnamed : ∀ event ∈ events, event.eventName ≠ "") :
    DatabaseAuditService.createEventsBatch rows r (events.map some) now eventIDs =
      some (DatabaseAuditService.reported events.length
        (emitBatch rows r (withDefaultsAll now eventIDs events))) := by
  have hpos : events.length ≠ 0 := fun h => hne (List.length_eq_zero_iff.mp h)
  have hany : events.any (fun event => event.eventName = "") = false := by
    refine List.any_eq_false.mpr (fun event hmem => ?_)
    simpa using hnamed event hmem
  unfold DatabaseAuditService.createEventsBatch DatabaseAuditService.emitBatch
  rw [List.length_map, if_neg hpos, batchDefaults_some]
  simp only [length_withDefaultsAll, if_neg hpos, any_unnamed_withDefaultsAll, hany]
  rfl

theorem countsStored_of_nothing (text : String) :
    CountsStored r rows rows events ⟨0, events.length, [text]⟩ (some text) :=
  ⟨.inr ⟨rfl, rfl, text, rfl, rfl⟩, rfl, Nat.zero_add _⟩

theorem countsStored_of_empty : CountsStored r rows rows [] ⟨0, 0, []⟩ none :=
  ⟨.inl ⟨(List.append_nil rows).symm, rfl, rfl⟩, rfl, rfl⟩

/-- A batch that stops in the middle has stored what came before, and reports that nothing was. -/
theorem countsStored_stopped_iff {n : Nat} {text : String} (hn : n < events.length) :
    CountsStored r rows (rows ++ (storedAll r events).take n) events ⟨0, events.length, [text]⟩ (some text) ↔
      n = 0 := by
  constructor
  · intro h
    have hlen := h.succeeded
    rw [List.length_append, List.length_take, length_storedAll] at hlen
    simp only at hlen
    omega
  · rintro rfl
    rw [List.take_zero, List.append_nil]
    exact countsStored_of_nothing text

theorem countsStored_of_ok :
    CountsStored r rows (rows ++ storedAll r events) events ⟨events.length, 0, []⟩ none :=
  ⟨.inl ⟨rfl, rfl, rfl⟩, by rw [List.length_append, length_storedAll], rfl⟩

/-- Exactly the batches are counted right of which the first event cannot be stored, or every one can, or
that are turned down because an event has no name. -/
theorem batch_counts_stored_iff (rows : List (AuditEvent V)) (r : Nat → EmitReading)
    (events : List (AuditEvent V)) (now : Time) (eventIDs : Nat → String) :
    (∃ rows' result error,
      DatabaseAuditService.createEventsBatch rows r (events.map some) now eventIDs =
          some (rows', result, error) ∧
        CountsStored r rows rows' (withDefaultsAll now eventIDs events) result error) ↔
      ((∃ event ∈ events, event.eventName = "") ∨ (∀ i < events.length, failure (r i) = none) ∨
        failure (r 0) ≠ none) := by
  have hlen := length_withDefaultsAll now eventIDs events
  by_cases hunnamed : ∃ event ∈ events, event.eventName = ""
  · obtain ⟨event, hmem, hname⟩ := hunnamed
    have hanswer : DatabaseAuditService.createEventsBatch rows r (events.map some) now eventIDs = _ :=
      createEventsBatch_unnamed hmem hname
    rw [← hlen] at hanswer
    exact iff_of_true ⟨_, _, _, hanswer, countsStored_of_nothing _⟩ (.inl ⟨event, hmem, hname⟩)
  have hnamed : ∀ event ∈ events, event.eventName ≠ "" :=
    fun event hmem hname => hunnamed ⟨event, hmem, hname⟩
  by_cases hne : events = []
  · subst hne
    exact iff_of_true ⟨_, _, _, createEventsBatch_nil now eventIDs, countsStored_of_empty⟩
      (.inr (.inl (fun i hi => absurd hi (Nat.not_lt_zero i))))
  rw [createEventsBatch_named hne hnamed, ← hlen]
  by_cases hok : ∀ i < (withDefaultsAll now eventIDs events).length, failure (r i) = none
  · rw [emitBatch_of_ok hok]
    exact iff_of_true ⟨_, _, _, rfl, countsStored_of_ok⟩ (.inr (.inl hok))
  · have hsome : ∃ i, i < (withDefaultsAll now eventIDs events).length ∧ failure (r i) ≠ none := by
      by_contra hnone
      exact hok (fun i hi => not_not.mp (fun hfails => hnone ⟨i, hi, hfails⟩))
    -- the first of them
    obtain ⟨hn, hfails⟩ := Nat.find_spec hsome
    obtain ⟨text, htext⟩ := Option.ne_none_iff_exists'.mp hfails
    have hbefore : ∀ i < Nat.find hsome, failure (r i) = none := by
      intro i hi
      exact not_not.mp (fun hfails => Nat.find_min hsome hi ⟨Nat.lt_trans hi hn, hfails⟩)
    rw [emitBatch_of_fails hn hbefore htext]
    constructor
    · rintro ⟨rows', result, error, hanswer, hcounts⟩
      cases Option.some.inj hanswer
      have hzero := (countsStored_stopped_iff hn).mp hcounts
      rw [hzero] at hfails
      exact .inr (.inr hfails)
    · intro hcondition
      have hzero : Nat.find hsome = 0 := by
        rcases hcondition with hname | hall | hfirst
        · exact absurd hname hunnamed
        · exact absurd hall hok
        · by_contra hpos
          exact hfirst (hbefore 0 (Nat.pos_of_ne_zero hpos))
      exact ⟨_, _, _, rfl, (countsStored_stopped_iff hn).mpr hzero⟩

def unstorable : EmitReading := ⟨3, 4, "e", none, some "connection reset by peer"⟩

def storable : EmitReading := ⟨3, 4, "e", none, none⟩

/-- The second of two events fails: one row is stored, and the report is that both have failed. -/
theorem stored_row_reported_failed :
    ¬∀ (rows : List (AuditEvent String)) (r : Nat → EmitReading) (events : List (AuditEvent String))
      (now : Time) (eventIDs : Nat → String), ∃ rows' result error,
      DatabaseAuditService.createEventsBatch rows r (events.map some) now eventIDs =
          some (rows', result, error) ∧
        CountsStored r rows rows' (withDefaultsAll now eventIDs events) result error := by
  intro h
  obtain ⟨rows', result, error, hanswer, hcounts⟩ := h []
    (fun i => if i = 1 then unstorable else storable) [sampleEvent "", sampleEvent ""] 2 (fun _ => "e")
  cases Option.some.inj hanswer
  exact absurd hcounts.succeeded (by decide)

end

end SupplyPlatform.Audit
