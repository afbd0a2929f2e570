import SupplyPlatform.AuditStore
import SupplyPlatform.Lib.Maps
import SupplyPlatform.Lib.Runs

namespace SupplyPlatform.Audit

open Settlements (zeroTime)
open Transition

structure CreateEventResult where
  eventID : String
  statusCode : Nat
  status : String
  originalCreatedAt : Option Time
  errorCode : String
  errorMessage : String
  deriving DecidableEq

structure CreateEventsBatchResult where
  successCount : Nat
  failCount : Nat
  errors : List String
  deriving DecidableEq

/-- How a call ends; a panic is the caller's to recover, after the deferred unlock. -/
inductive Outcome
  | event (result : Except RepoError CreateEventResult)
  | batch (result : CreateEventsBatchResult)
  | panicked

section

variable (V : Type)

inductive Call
  | waiting (event : AuditEvent V)
  | holding (event : AuditEvent V)
  | checked (event : AuditEvent V)
  | direct (event : AuditEvent V)
  | batch (events : List (AuditEvent V))
  | returned (outcome : Outcome)

/-- The service over its store. `stored` is all the store has been given, in order. -/
structure State where
  store : InMemoryAuditStore V
  idempotencyMu : Option Nat
  calls : Nat → Option (Call V)
  nextCall : Nat
  stored : List (AuditEvent V)

inductive Action
  | createEvent (event : Option (AuditEvent V)) (r : Reading)
  | lock (id : Nat)
  | lookup (id : Nat)
  | emit (id : Nat) (r : Reading)
  | createEventsBatch (events : List (Option (AuditEvent V))) (now : Time) (eventIDs : Nat → String)
  | emitBatch (id : Nat) (r : Nat → Reading)

end

variable {V : Type}

def unixMilli (t : Time) : Int := t / 1000000

def AuditEvent.withDefaults (event : AuditEvent V) (r : Reading) : AuditEvent V :=
  let timestamp := if event.timestamp = zeroTime then r.now else event.timestamp
  { event with
    timestamp := timestamp
    timestampMs := if event.timestampMs = 0 then unixMilli timestamp else event.timestampMs
    eventID := if event.eventID = "" then r.eventID else event.eventID }

/-- The loop of `CreateEventsBatch` over its events; `none` is the panic on a nil event. -/
def batchDefaults (now : Time) (eventIDs : Nat → String) :
    List (Option (AuditEvent V)) → Option (List (AuditEvent V))
  | [] => some []
  | none :: _ => none
  | some event :: events =>
    (batchDefaults now (fun n => eventIDs (n + 1)) events).map
      (fun rest => event.withDefaults ⟨now, eventIDs 0⟩ :: rest)

section

-- `==` of two interface values; `none` is the panic on values that cannot be compared
variable (same : V → V → Option Bool)

/-- The loop over the first map, in the order it is visited, which Go leaves open. -/
def extensionsAgree (b : List (String × V)) : List (String × V) → Option Bool
  | [] => some true
  | (k, v1) :: rest =>
    match b.lookup k with
    | none => some false
    | some v2 =>
      match same v1 v2 with
      | none => none
      | some true => extensionsAgree b rest
      | some false => some false

def compareExtensions (a b : List (String × V)) : Option Bool :=
  if a.length ≠ b.length then some false else extensionsAgree same b a

def isSamePayload (a b : AuditEvent V) : Option Bool :=
  if a.eventName ≠ b.eventName then some false
  else if a.eventCategory ≠ b.eventCategory then some false
  else if a.operatorID ≠ b.operatorID then some false
  else if a.tenantID ≠ b.tenantID then some false
  else if a.objectType ≠ b.objectType then some false
  else if a.objectID ≠ b.objectID then some false
  else if a.action ≠ b.action then some false
  else if a.actionDetail ≠ b.actionDetail then some false
  else if a.credentialType ≠ b.credentialType then some false
  else if a.sourceType ≠ b.sourceType then some false
  else if a.sourceIP ≠ b.sourceIP then some false
  else if a.success ≠ b.success then some false
  else if a.resultCode ≠ b.resultCode then some false
  else if a.resultMessage ≠ b.resultMessage then some false
  else compareExtensions same a.extensions b.extensions

def replay (existing event : AuditEvent V) : Outcome :=
  match isSamePayload same existing event with
  | none => .panicked
  | some true => .event (.ok ⟨existing.eventID, 200, "duplicate", some existing.createdAt, "", ""⟩)
  | some false =>
    .event (.ok ⟨"", 409, "conflict", none, "IDEMPOTENCY_PAYLOAD_MISMATCH",
      "Idempotency key reused with different payload"⟩)

end

def created (event : AuditEvent V) : Outcome :=
  .event (.ok ⟨event.eventID, 201, "created", none, "", ""⟩)

/-- `CreateEvent` up to its first shared access. -/
def createEvent (event : Option (AuditEvent V)) (r : Reading) : Call V :=
  match event with
  | none => .returned (.event (.error errInvalidInput))
  | some event =>
    if event.eventName = "" then .returned (.event (.error errMissingEventName))
    else
      let event := event.withDefaults r
      if event.idempotencyKey ≠ "" then .waiting event else .direct event

/-- `CreateEventsBatch` up to its call of `EmitBatch`. -/
def createEventsBatch (events : List (Option (AuditEvent V))) (now : Time)
    (eventIDs : Nat → String) : Call V :=
  if events.length = 0 then .returned (.batch ⟨0, 0, []⟩)
  else
    match batchDefaults now eventIDs events with
    | none => .returned .panicked
    | some events => .batch events

namespace State

def start : State V := ⟨.new, none, fun _ => none, 0, []⟩

def invoke (s : State V) (call : Call V) : State V :=
  { s with calls := Function.update s.calls s.nextCall (some call), nextCall := s.nextCall + 1 }

def setCall (s : State V) (id : Nat) (call : Call V) : State V :=
  { s with calls := Function.update s.calls id (some call) }

def unlockReturning (s : State V) (id : Nat) (outcome : Outcome) : State V :=
  { s.setCall id (.returned outcome) with idempotencyMu := none }

def emit (s : State V) (capacity : Nat) (r : Reading) (event : AuditEvent V) : State V :=
  { s with store := s.store.emit capacity r event, stored := s.stored ++ [event.stamp r] }

def emitBatch (s : State V) (capacity : Nat) (r : Nat → Reading) (events : List (AuditEvent V)) :
    State V :=
  { s with
    store := s.store.emitBatch capacity r events
    stored := s.stored ++ stampAll r events }

end State

def step (capacity : Nat) (same : V → V → Option Bool) (s : State V) : Action V → Option (State V)
  | .createEvent event r => some (s.invoke (createEvent event r))
  | .lock id =>
    match s.calls id, s.idempotencyMu with
    | some (.waiting event), none =>
      some { s.setCall id (.holding event) with idempotencyMu := some id }
    | _, _ => none
  | .lookup id =>
    match s.calls id with
    | some (.holding event) =>
      match s.store.getByIdempotencyKey event.idempotencyKey with
      | .ok existing => some (s.unlockReturning id (replay same existing event))
      | .error _ => some (s.setCall id (.checked event))
    | _ => none
  | .emit id r =>
    match s.calls id with
    | some (.checked event) => some ((s.emit capacity r event).unlockReturning id (created (event.stamp r)))
    | some (.direct event) => some ((s.emit capacity r event).setCall id (.returned (created (event.stamp r))))
    | _ => none
  | .createEventsBatch events now eventIDs => some (s.invoke (createEventsBatch events now eventIDs))
  | .emitBatch id r =>
    match s.calls id with
    | some (.batch events) =>
      some ((s.emitBatch capacity r events).setCall id (.returned (.batch ⟨events.length, 0, []⟩)))
    | _ => none

/-- A batch none of whose keys repeats, was stored before, or is that of a `CreateEvent` which has
looked its key up and not stored its event yet. -/
structure FreshBatch (s : State V) (events : List (AuditEvent V)) : Prop where
  nodup : (keysOf events).Nodup
  unstored : ∀ key ∈ keysOf events, key ∉ keysOf s.stored
  unchecked : ∀ key ∈ keysOf events, ∀ id event,
    s.calls id = some (.checked event) → event.idempotencyKey ≠ key

def StoresFreshKeys (s : State V) : Action V → Prop
  | .emitBatch id _ => ∀ events, s.calls id = some (.batch events) → FreshBatch s events
  | _ => True

def KeepsKeysUnique (s : State V) : Prop :=
  ∀ key, key ≠ "" →
    (s.store.events.filter (fun event => event.idempotencyKey = key)).length ≤ 1 ∧
    s.store.getByIdempotencyKey key =
      match firstUnder key s.stored with
      | some event => .ok event
      | none => .error errEventNotFound

/-- What a call under way relies on: whoever is past the lock holds it, and a key that was looked up
in vain is still not stored. -/
def CallOk (mu : Option Nat) (stored : List (AuditEvent V)) (id : Nat) : Call V → Prop
  | .waiting event => event.idempotencyKey ≠ ""
  | .holding event => event.idempotencyKey ≠ "" ∧ mu = some id
  | .checked event => mu = some id ∧ event.idempotencyKey ∉ keysOf stored
  | .direct event => event.idempotencyKey = ""
  | _ => True

structure Invariant (s : State V) : Prop where
  indexed : Indexed s.store s.stored
  calls : ∀ id call, s.calls id = some call → CallOk s.idempotencyMu s.stored id call

theorem CallOk.frame {mu mu' : Option Nat} {stored stored' : List (AuditEvent V)} {id : Nat}
    {call : Call V} (h : CallOk mu stored id call) (hmu : mu = some id → mu' = some id)
    (hstored : ∀ event, call = .checked event →
      event.idempotencyKey ∈ keysOf stored' → event.idempotencyKey ∈ keysOf stored) :
    CallOk mu' stored' id call := by
  cases call with
  | waiting event => exact h
  | holding event => exact ⟨h.1, hmu h.2⟩
  | checked event => exact ⟨hmu h.1, fun hmem => h.2 (hstored event rfl hmem)⟩
  | direct event => exact h
  | batch events => trivial
  | returned outcome => trivial

theorem callOk_createEvent (mu : Option Nat) (stored : List (AuditEvent V)) (id : Nat)
    (event : Option (AuditEvent V)) (r : Reading) :
    CallOk mu stored id (createEvent event r) := by
  cases event with
  | none => trivial
  | some event =>
    unfold createEvent
    dsimp only
    split
    next => trivial
    next =>
      split
      next hkey => exact hkey
      next hkey => exact not_not.mp hkey

theorem callOk_createEventsBatch (mu : Option Nat) (stored : List (AuditEvent V)) (id : Nat)
    (events : List (Option (AuditEvent V))) (now : Time) (eventIDs : Nat → String) :
    CallOk mu stored id (createEventsBatch events now eventIDs) := by
  unfold createEventsBatch
  split
  next => trivial
  next => split <;> trivial

theorem callOk_update {calls : Nat → Option (Call V)} {mu : Option Nat}
    {stored : List (AuditEvent V)} {id : Nat} {call : Call V} (hnew : CallOk mu stored id call)
    (hold : ∀ other call, other ≠ id → calls other = some call → CallOk mu stored other call) :
    ∀ other call', Function.update calls id (some call) other = some call' →
      CallOk mu stored other call' := by
  intro other call' h
  rcases Maps.update_some_cases h with ⟨rfl, rfl⟩ | ⟨hne, h⟩
  · exact hnew
  · exact hold other call' hne h

namespace Invariant

theorem start : Invariant (State.start (V := V)) := ⟨Indexed.new, by intro id call h; cases h⟩

theorem invoke {s : State V} (h : Invariant s) {call : Call V}
    (hcall : CallOk s.idempotencyMu s.stored s.nextCall call) : Invariant (s.invoke call) :=
  ⟨h.indexed, callOk_update hcall (fun other call _ => h.calls other call)⟩

theorem lock {s : State V} (h : Invariant s) (hmu : s.idempotencyMu = none) {id : Nat}
    {event : AuditEvent V} (hkey : event.idempotencyKey ≠ "") :
    Invariant { s.setCall id (.holding event) with idempotencyMu := some id } := by
  refine ⟨h.indexed, callOk_update ⟨hkey, rfl⟩ ?_⟩
  intro other call _ hcall
  refine (h.calls other call hcall).frame ?_ (fun _ _ hmem => hmem)
  rw [hmu]
  exact fun hnone => nomatch hnone

theorem setCall {s : State V} (h : Invariant s) {id : Nat} {call : Call V}
    (hcall : CallOk s.idempotencyMu s.stored id call) : Invariant (s.setCall id call) :=
  ⟨h.indexed, callOk_update hcall (fun other call _ => h.calls other call)⟩

/-- A call returns, having stored events or not. What it stored is under no key another call has
looked up in vain, and the lock is still its holder's or has been left by this call. -/
theorem returning {s t : State V} (h : Invariant s) (hindexed : Indexed t.store t.stored) {id : Nat}
    {outcome : Outcome} (hcalls : t.calls = Function.update s.calls id (some (.returned outcome)))
    (hmu : ∀ other, other ≠ id → s.idempotencyMu = some other → t.idempotencyMu = some other)
    (hkeys : ∀ other event, other ≠ id → s.calls other = some (.checked event) →
      event.idempotencyKey ∈ keysOf t.stored → event.idempotencyKey ∈ keysOf s.stored) :
    Invariant t := by
  refine ⟨hindexed, ?_⟩
  rw [hcalls]
  have hnew : CallOk t.idempotencyMu t.stored id (.returned outcome) := trivial
  apply callOk_update hnew
  intro other call hne hcall
  apply (h.calls other call hcall).frame (hmu other hne)
  intro event heq
  subst heq
  exact hkeys other event hne hcall

theorem holder_leaves {s : State V} {id : Nat} (hmu : s.idempotencyMu = some id)
    {mu : Option Nat} :
    ∀ other, other ≠ id → s.idempotencyMu = some other → mu = some other := by
  intro other hne hother
  rw [hmu] at hother
  exact absurd (Option.some.inj hother).symm hne

theorem unlockReturning {s : State V} (h : Invariant s) {id : Nat}
    (hmu : s.idempotencyMu = some id) (outcome : Outcome) :
    Invariant (s.unlockReturning id outcome) :=
  h.returning h.indexed rfl (holder_leaves hmu) (fun _ _ _ _ hmem => hmem)

/-- The `Emit` of a call that has found its key free: no other call is past its lookup. -/
theorem emit_checked {s : State V} (h : Invariant s) {id : Nat} {event : AuditEvent V}
    (hcall : s.calls id = some (.checked event)) (capacity : Nat) (r : Reading) (outcome : Outcome) :
    Invariant ((s.emit capacity r event).unlockReturning id outcome) := by
  obtain ⟨hmu, hfresh⟩ := h.calls id _ hcall
  refine h.returning (h.indexed.emit capacity r hfresh) rfl (holder_leaves hmu) ?_
  intro other event' hne hother _
  obtain ⟨hother', -⟩ := h.calls other _ hother
  rw [hmu] at hother'
  exact absurd (Option.some.inj hother').symm hne

theorem emit_direct {s : State V} (h : Invariant s) {id : Nat} {event : AuditEvent V}
    (hcall : s.calls id = some (.direct event)) (capacity : Nat) (r : Reading) (outcome : Outcome) :
    Invariant ((s.emit capacity r event).setCall id (.returned outcome)) := by
  have hempty : event.idempotencyKey = "" := h.calls id _ hcall
  have hfresh : event.idempotencyKey ∉ keysOf s.stored :=
    fun hmem => (mem_keysOf.mp hmem).1 hempty
  refine h.returning (h.indexed.emit capacity r hfresh) rfl (fun _ _ hmu => hmu) ?_
  intro other event' _ _ hmem
  change _ ∈ keysOf (s.stored ++ [event.stamp r]) at hmem
  rw [keysOf_append, keysOf_singleton, AuditEvent.stamp_idempotencyKey, if_pos hempty,
    List.append_nil] at hmem
  exact hmem

theorem emitBatch {s : State V} (h : Invariant s) {events : List (AuditEvent V)}
    (hfresh : FreshBatch s events) (id capacity : Nat) (r : Nat → Reading) (outcome : Outcome) :
    Invariant ((s.emitBatch capacity r events).setCall id (.returned outcome)) := by
  refine h.returning (h.indexed.emitBatch capacity r hfresh.nodup hfresh.unstored) rfl (fun _ _ hmu => hmu) ?_
  intro other event _ hother hmem
  change _ ∈ keysOf (s.stored ++ stampAll r events) at hmem
  rw [keysOf_append, keysOf_stampAll] at hmem
  rcases List.mem_append.mp hmem with hold | hnew
  · exact hold
  · exact absurd rfl (hfresh.unchecked _ hnew other event hother)

/-- The lookup: an event under the key ends the call; without one the key is free, and stays so
while this call holds the lock. -/
theorem lookup {capacity : Nat} {same : V → V → Option Bool} {s t : State V} (h : Invariant s) {id : Nat}
    (hstep : Audit.step capacity same s (.lookup id) = some t) : Invariant t := by
  unfold Audit.step at hstep
  dsimp only at hstep
  split at hstep
  next event hcall =>
    obtain ⟨hkey, hmu⟩ := h.calls id _ hcall
    unfold InMemoryAuditStore.getByIdempotencyKey at hstep
    rw [h.indexed.index _ hkey] at hstep
    cases hfirst : firstUnder event.idempotencyKey s.stored with
    | some existing =>
      rw [hfirst] at hstep
      cases Option.some.inj hstep
      exact h.unlockReturning hmu _
    | none =>
      rw [hfirst] at hstep
      cases Option.some.inj hstep
      exact h.setCall ⟨hmu, (firstUnder_eq_none hkey).mp hfirst⟩
  next => cases hstep

theorem step {capacity : Nat} {same : V → V → Option Bool} {s t : State V} {a : Action V} (h : Invariant s)
    (hok : StoresFreshKeys s a) (hstep : Audit.step capacity same s a = some t) : Invariant t := by
  cases a with
  | createEvent event r =>
    cases Option.some.inj hstep
    exact h.invoke (callOk_createEvent _ _ _ event r)
  | lock id =>
    unfold Audit.step at hstep
    dsimp only at hstep
    split at hstep
    next event hcall hmu =>
      cases Option.some.inj hstep
      exact h.lock hmu (h.calls id _ hcall)
    next => cases hstep
  | lookup id => exact h.lookup hstep
  | emit id r =>
    unfold Audit.step at hstep
    dsimp only at hstep
    split at hstep
    next event hcall =>
      cases Option.some.inj hstep
      exact h.emit_checked hcall capacity r _
    next event hcall =>
      cases Option.some.inj hstep
      exact h.emit_direct hcall capacity r _
    next => cases hstep
  | createEventsBatch events now eventIDs =>
    cases Option.some.inj hstep
    exact h.invoke (callOk_createEventsBatch _ _ _ events now eventIDs)
  | emitBatch id r =>
    unfold Audit.step at hstep
    dsimp only at hstep
    split at hstep
    next events hcall =>
      cases Option.some.inj hstep
      exact h.emitBatch (hok events hcall) id capacity r _
    next => cases hstep

theorem keepsKeysUnique {s : State V} (h : Invariant s) : KeepsKeysUnique s := by
  intro key hkey
  constructor
  · have hle := (h.indexed.sublist.filter (fun event => event.idempotencyKey = key)).length_le
    exact hle.trans (length_filter_key_le hkey h.indexed.nodup)
  · have hindex := h.indexed.index key hkey
    unfold InMemoryAuditStore.getByIdempotencyKey
    cases hfirst : firstUnder key s.stored <;> simp only [hindex, hfirst]

end Invariant

theorem keys_are_unique_of_fresh_batches (capacity : Nat) (same : V → V → Option Bool)
    {s : State V} (hreach : Reach (step capacity same) StoresFreshKeys State.start s) : KeepsKeysUnique s := by
  have hinv : Invariant s :=
    hreach.invariant Invariant.start (fun _ _ _ h hok hstep => h.step hok hstep)
  exact hinv.keepsKeysUnique

def sampleEvent (key : String) : AuditEvent String :=
  { eventID := "", eventName := "CRED-EXPOSE", eventCategory := "CRED", eventSubCategory := "EXPOSE",
    timestamp := 5, timestampMs := 0, idempotencyKey := key, operatorID := 1, tenantID := 7,
    objectType := "account", objectID := 3, action := "create", actionDetail := "",
    credentialType := "platform_token", sourceType := "api", sourceIP := "10.0.0.1", targetDirect := false,
    resultCode := "SEC_CRED_EXPOSED", resultMessage := "", success := true, extensions := [],
    createdAt := zeroTime }

def sampleSame (a b : String) : Option Bool := some (a == b)

def sampleState (actions : List (Action String)) : State String :=
  (exec (step maxEvents sampleSame) State.start actions).getD State.start

theorem exec_sampleState {actions : List (Action String)}
    (h : (exec (step maxEvents sampleSame) State.start actions).isSome = true) :
    exec (step maxEvents sampleSame) State.start actions = some (sampleState actions) := by
  unfold sampleState
  obtain ⟨s, hs⟩ := Option.isSome_iff_exists.mp h
  rw [hs]
  rfl

def createThenBatch (key : String) : List (Action String) :=
  [.createEvent (some (sampleEvent "k")) ⟨10, "e0"⟩, .lock 0, .lookup 0, .emit 0 ⟨11, "e1"⟩,
    .createEventsBatch [some (sampleEvent key)] 12 (fun _ => "e2")]

theorem createThenBatch_storesFreshKeys (key : String) :
    ∀ s, ∀ a ∈ createThenBatch key, StoresFreshKeys s a := by
  intro s a ha
  simp only [createThenBatch, List.mem_cons, List.not_mem_nil, or_false] at ha
  rcases ha with rfl | rfl | rfl | rfl | rfl <;> trivial

theorem fresh_batch_after_create :
    ∃ s : State String, Reach (step maxEvents sampleSame) StoresFreshKeys State.start s ∧
      s.store.events.length = 2 ∧ KeepsKeysUnique s := by
  have hexec : exec (step maxEvents sampleSame) State.start (createThenBatch "m") =
      some (sampleState (createThenBatch "m")) := exec_sampleState rfl
  have hcalls := reach_of_exec_of hexec (createThenBatch_storesFreshKeys "m")
  have hinv : Invariant (sampleState (createThenBatch "m")) :=
    hcalls.invariant Invariant.start (fun _ _ _ h hok hstep => h.step hok hstep)
  have hfresh : StoresFreshKeys (sampleState (createThenBatch "m"))
      (.emitBatch 1 (fun _ => ⟨13, "e3"⟩)) := by
    intro events hevents
    cases Option.some.inj hevents
    refine ⟨by decide, by decide, ?_⟩
    -- nobody holds the lock here, so no call is past its lookup
    intro key _ id event hid
    exact nomatch (hinv.calls id _ hid).1
  have hreach := hcalls.next hfresh rfl
  exact ⟨_, hreach, rfl, keys_are_unique_of_fresh_batches maxEvents sampleSame hreach⟩

theorem batch_stores_key_again :
    ¬∀ s : State String, Reach (step maxEvents sampleSame) anyStep State.start s → KeepsKeysUnique s := by
  intro h
  have hexec : exec (step maxEvents sampleSame) State.start
      (createThenBatch "k" ++ [.emitBatch 1 (fun _ => ⟨13, "e3"⟩)]) =
      some (sampleState (createThenBatch "k" ++ [.emitBatch 1 (fun _ => ⟨13, "e3"⟩)])) :=
    exec_sampleState rfl
  exact absurd (h _ (reach_of_exec hexec) "k" (by decide)).1 (by decide)

end SupplyPlatform.Audit
