import Mathlib.Logic.Function.Basic
import SupplyPlatform.Settlement

namespace SupplyPlatform.Audit

open Settlements (zeroTime)

/-- An audit event; `V` is the type of the values its extensions hold. -/
structure AuditEvent (V : Type) where
  eventID : String
  eventName : String
  eventCategory : String
  eventSubCategory : String
  timestamp : Time
  timestampMs : Int
  idempotencyKey : String
  operatorID : Int
  tenantID : Int
  objectType : String
  objectID : Int
  action : String
  actionDetail : String
  credentialType : String
  sourceType : String
  sourceIP : String
  targetDirect : Bool
  resultCode : String
  resultMessage : String
  success : Bool
  -- the entries of the map, one for each key
  extensions : List (String × V)
  createdAt : Time
  deriving DecidableEq

structure EventFilter where
  tenantID : Int
  category : String
  eventName : String
  objectType : String
  objectID : Int
  startTime : Time
  endTime : Time
  success : Option Bool
  limit : Int
  offset : Int
  deriving DecidableEq

def errInvalidInput : RepoError := .message "invalid input: event is nil"

def errMissingEventName : RepoError := .message "invalid input: event name is required"

def errEventNotFound : RepoError := .message "event not found"

/-- `MaxEvents`, the capacity the store is compiled with; its methods are written for any. -/
def maxEvents : Nat := 100000

structure InMemoryAuditStore (V : Type) where
  events : List (AuditEvent V)
  idempotencyKeys : String → Option (AuditEvent V)

/-- What storing an event reads besides it: the clock, and a UUID should one be needed. -/
structure Reading where
  now : Time
  eventID : String

variable {V : Type}

def AuditEvent.stamp (event : AuditEvent V) (r : Reading) : AuditEvent V :=
  { event with
    eventID := if event.eventID = "" then r.eventID else event.eventID
    createdAt := r.now }

namespace InMemoryAuditStore

def new : InMemoryAuditStore V := ⟨[], fun _ => none⟩

/-- The slice that stays is the last `removeCount` events, not all but the oldest `removeCount`. -/
def cleanupOldEventsLocked (s : InMemoryAuditStore V) (capacity : Nat) (removeCount : Int) :
    InMemoryAuditStore V :=
  let removeCount := if removeCount ≤ 0 then (capacity : Int) / 10 else removeCount
  let removeCount :=
    if removeCount ≥ s.events.length then (s.events.length : Int) - 1 else removeCount
  let remaining := (s.events.length : Int) - removeCount
  { s with events := s.events.drop remaining.toNat }

def emit (s : InMemoryAuditStore V) (capacity : Nat) (r : Reading) (event : AuditEvent V) :
    InMemoryAuditStore V :=
  let s := if s.events.length ≥ capacity then s.cleanupOldEventsLocked capacity (capacity / 10) else s
  let event := event.stamp r
  { events := s.events ++ [event]
    idempotencyKeys :=
      if event.idempotencyKey ≠ "" then
        Function.update s.idempotencyKeys event.idempotencyKey (some event)
      else s.idempotencyKeys }

/-- The loop of `EmitBatch` does with each event what `Emit` does with one. -/
def emitBatch (s : InMemoryAuditStore V) (capacity : Nat) (r : Nat → Reading) :
    List (AuditEvent V) → InMemoryAuditStore V
  | [] => s
  | event :: events =>
    (s.emit capacity (r 0) event).emitBatch capacity (fun n => r (n + 1)) events

def getByIdempotencyKey (s : InMemoryAuditStore V) (key : String) :
    Except RepoError (AuditEvent V) :=
  match s.idempotencyKeys key with
  | some event => .ok event
  | none => .error errEventNotFound

/-- The tests of the loop of `Query`; an event that fails none of them is kept. -/
def matchesFilter (filter : EventFilter) (e : AuditEvent V) : Bool :=
  !(filter.tenantID > 0 && e.tenantID != filter.tenantID) &&
  !(filter.category != "" && e.eventCategory != filter.category) &&
  !(filter.eventName != "" && e.eventName != filter.eventName) &&
  !(filter.objectType != "" && e.objectType != filter.objectType) &&
  !(filter.objectID > 0 && e.objectID != filter.objectID) &&
  !(filter.startTime != zeroTime && e.timestamp < filter.startTime) &&
  !(filter.endTime != zeroTime && e.timestamp > filter.endTime) &&
  !(match filter.success with
    | some success => e.success != success
    | none => false)

def selectEvents (s : InMemoryAuditStore V) (filter : EventFilter) : List (AuditEvent V) :=
  s.events.filter (matchesFilter filter)

def query (s : InMemoryAuditStore V) (filter : EventFilter) : List (AuditEvent V) × Int :=
  let result := s.selectEvents filter
  let total : Int := result.length
  if filter.offset > 0 ∧ filter.offset ≥ result.length then ([], total)
  else
    let result := if filter.offset > 0 then result.drop filter.offset.toNat else result
    if filter.limit > 0 ∧ filter.limit < result.length then (result.take filter.limit.toNat, total)
    else (result, total)

end InMemoryAuditStore

@[simp] theorem AuditEvent.stamp_idempotencyKey (event : AuditEvent V) (r : Reading) :
    (event.stamp r).idempotencyKey = event.idempotencyKey := rfl

namespace InMemoryAuditStore

theorem emit_events (s : InMemoryAuditStore V) (capacity : Nat) (r : Reading)
    (event : AuditEvent V) :
    ∃ n, (s.emit capacity r event).events = s.events.drop n ++ [event.stamp r] := by
  unfold emit
  split
  next => exact ⟨_, rfl⟩
  next => exact ⟨0, rfl⟩

theorem emit_idempotencyKeys (s : InMemoryAuditStore V) (capacity : Nat) (r : Reading)
    (event : AuditEvent V) {key : String} (hkey : key ≠ "") :
    (s.emit capacity r event).idempotencyKeys key =
      if event.idempotencyKey = key then some (event.stamp r) else s.idempotencyKeys key := by
  -- cleaning leaves the index alone
  have hkept : (if s.events.length ≥ capacity then
      s.cleanupOldEventsLocked capacity (capacity / 10) else s).idempotencyKeys = s.idempotencyKeys := by
    split <;> rfl
  show (if event.idempotencyKey ≠ "" then _ else _ : String → Option (AuditEvent V)) key = _
  rw [hkept]
  by_cases heq : event.idempotencyKey = key
  · subst heq
    rw [if_pos hkey, if_pos rfl]
    exact Function.update_self _ _ _
  · rw [if_neg heq]
    split
    next => exact Function.update_of_ne (Ne.symm heq) _ _
    next => rfl

end InMemoryAuditStore

def stampAll (r : Nat → Reading) : List (AuditEvent V) → List (AuditEvent V)
  | [] => []
  | event :: events => event.stamp (r 0) :: stampAll (fun n => r (n + 1)) events

def firstUnder (key : String) (stored : List (AuditEvent V)) : Option (AuditEvent V) :=
  stored.find? (fun event => event.idempotencyKey = key)

/-- The non-empty keys of a list of events. -/
def keysOf (events : List (AuditEvent V)) : List String :=
  (events.map AuditEvent.idempotencyKey).filter (fun key => key ≠ "")

theorem mem_keysOf {events : List (AuditEvent V)} {key : String} :
    key ∈ keysOf events ↔ key ≠ "" ∧ ∃ event ∈ events, event.idempotencyKey = key := by
  simp [keysOf, and_comm]

theorem keysOf_append (events events' : List (AuditEvent V)) :
    keysOf (events ++ events') = keysOf events ++ keysOf events' := by
  simp [keysOf]

theorem keysOf_singleton (event : AuditEvent V) :
    keysOf [event] = if event.idempotencyKey = "" then [] else [event.idempotencyKey] := by
  by_cases h : event.idempotencyKey = "" <;> simp [keysOf, h]

theorem keysOf_cons (event : AuditEvent V) (events : List (AuditEvent V)) :
    keysOf (event :: events) = keysOf [event] ++ keysOf events :=
  keysOf_append [event] events

theorem keysOf_stampAll (r : Nat → Reading) (events : List (AuditEvent V)) :
    keysOf (stampAll r events) = keysOf events := by
  induction events generalizing r with
  | nil => rfl
  | cons event events ih =>
    rw [stampAll, keysOf_cons, keysOf_cons event, ih, keysOf_singleton, keysOf_singleton,
      AuditEvent.stamp_idempotencyKey]

theorem firstUnder_append_singleton (key : String) (stored : List (AuditEvent V))
    (event : AuditEvent V) :
    firstUnder key (stored ++ [event]) =
      (firstUnder key stored).or (if event.idempotencyKey = key then some event else none) := by
  by_cases h : event.idempotencyKey = key <;> simp [firstUnder, List.find?_append, h]

theorem firstUnder_eq_none {key : String} (hkey : key ≠ "") {stored : List (AuditEvent V)} :
    firstUnder key stored = none ↔ key ∉ keysOf stored := by
  simp only [firstUnder, List.find?_eq_none, decide_eq_true_eq, mem_keysOf]
  constructor
  · rintro h ⟨-, event, hmem, heq⟩
    exact h event hmem heq
  · intro h event hmem heq
    exact h ⟨hkey, event, hmem, heq⟩

theorem length_filter_key_le {events : List (AuditEvent V)} {key : String} (hkey : key ≠ "")
    (h : (keysOf events).Nodup) :
    (events.filter (fun event => event.idempotencyKey = key)).length ≤ 1 := by
  have hcount : (keysOf events).count key =
      (events.filter (fun event => event.idempotencyKey = key)).length := by
    induction events with
    | nil => rfl
    | cons event events ih =>
      rw [keysOf_cons] at h
      rw [keysOf_cons, List.count_append, ih (List.nodup_append.mp h).2.1, keysOf_singleton]
      by_cases he : event.idempotencyKey = key
      · rw [he, if_neg hkey, List.filter_cons_of_pos (by simpa using he)]
        simp [Nat.add_comm]
      · rw [List.filter_cons_of_neg (by simpa using he)]
        have hzero : List.count key
            (if event.idempotencyKey = "" then [] else [event.idempotencyKey]) = 0 := by
          split
          next => rfl
          next => exact List.count_eq_zero.mpr (by simpa using fun h => he h.symm)
        omega
  rw [← hcount]
  exact List.nodup_iff_count.mp h key

/-- A store against all that has been stored in it: cleaning drops events but no index entry, no key
has been stored twice, and the index has for each key the first event under it. -/
structure Indexed (s : InMemoryAuditStore V) (stored : List (AuditEvent V)) : Prop where
  sublist : s.events.Sublist stored
  nodup : (keysOf stored).Nodup
  index : ∀ key, key ≠ "" → s.idempotencyKeys key = firstUnder key stored

namespace Indexed

theorem new : Indexed (InMemoryAuditStore.new (V := V)) [] where
  sublist := List.Sublist.refl _
  nodup := List.nodup_nil
  index := fun _ _ => rfl

theorem emit {s : InMemoryAuditStore V} {stored : List (AuditEvent V)} (h : Indexed s stored)
    (capacity : Nat) (r : Reading) {event : AuditEvent V}
    (hfresh : event.idempotencyKey ∉ keysOf stored) :
    Indexed (s.emit capacity r event) (stored ++ [event.stamp r]) := by
  constructor
  · obtain ⟨n, hn⟩ := s.emit_events capacity r event
    rw [hn]
    exact ((List.drop_sublist n _).trans h.sublist).append (List.Sublist.refl _)
  · rw [keysOf_append, keysOf_singleton, AuditEvent.stamp_idempotencyKey]
    split
    next => simpa using h.nodup
    next =>
      refine List.nodup_append.mpr ⟨h.nodup, List.pairwise_singleton _ _, ?_⟩
      intro key hkey other hother heq
      rw [List.mem_singleton.mp hother] at heq
      exact hfresh (heq ▸ hkey)
  · intro key hkey
    rw [s.emit_idempotencyKeys capacity r event hkey, h.index key hkey, firstUnder_append_singleton,
      AuditEvent.stamp_idempotencyKey]
    split
    next heq =>
      rw [(firstUnder_eq_none hkey).mpr (heq ▸ hfresh)]
      rfl
    next => exact (Option.or_none).symm

theorem emitBatch {s : InMemoryAuditStore V} {stored : List (AuditEvent V)} (h : Indexed s stored)
    (capacity : Nat) (r : Nat → Reading) {events : List (AuditEvent V)}
    (hnodup : (keysOf events).Nodup)
    (hfresh : ∀ key ∈ keysOf events, key ∉ keysOf stored) :
    Indexed (s.emitBatch capacity r events) (stored ++ stampAll r events) := by
  induction events generalizing s stored r with
  | nil =>
    rw [stampAll, List.append_nil]
    exact h
  | cons event events ih =>
    rw [keysOf_cons] at hnodup hfresh
    obtain ⟨-, htail, hdisjoint⟩ := List.nodup_append.mp hnodup
    have hhead : event.idempotencyKey ∉ keysOf stored := by
      by_cases hempty : event.idempotencyKey = ""
      · intro hmem
        exact (mem_keysOf.mp hmem).1 hempty
      · refine hfresh _ (List.mem_append_left _ ?_)
        rw [keysOf_singleton, if_neg hempty]
        exact List.mem_singleton_self _
    have hrest : ∀ key ∈ keysOf events, key ∉ keysOf (stored ++ [event.stamp (r 0)]) := by
      intro key hkey hmem
      rw [keysOf_append] at hmem
      rcases List.mem_append.mp hmem with hold | hnew
      · exact hfresh key (List.mem_append_right _ hkey) hold
      · rw [keysOf_singleton] at hnew
        rw [keysOf_singleton] at hdisjoint
        exact hdisjoint key hnew key hkey rfl
    have hall := ih (h.emit capacity (r 0) hhead) (fun n => r (n + 1)) htail hrest
    rw [List.append_assoc] at hall
    exact hall

end Indexed

end SupplyPlatform.Audit
