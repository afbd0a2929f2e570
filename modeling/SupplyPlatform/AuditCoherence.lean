import SupplyPlatform.AuditRetention

namespace SupplyPlatform.Audit

open Transition InMemoryAuditStore

variable {V : Type}

def InMemoryAuditStore.getByEventID (s : InMemoryAuditStore V) (eventID : String) :
    Except RepoError (AuditEvent V) :=
  match s.events.find? (fun event => event.eventID = eventID) with
  | some event => .ok event
  | none => .error errEventNotFound

/-- `GetEventByID` of the service. -/
def getEventByID (s : InMemoryAuditStore V) (eventID : String) : Except RepoError (AuditEvent V) :=
  if eventID = "" then .error errInvalidInput else s.getByEventID eventID

/-- The index and the list of events are of the same events. -/
def Coherent (s : InMemoryAuditStore V) : Prop :=
  ∀ key, key ≠ "" → ∀ event,
    s.getByIdempotencyKey key = .ok event ↔ event ∈ s.events ∧ event.idempotencyKey = key

/-- What a step answers with 201 or 200 can be looked up by its id. -/
def AnswersHeld (s t : State V) : Prop :=
  ∀ id result, t.calls id = some (.returned (.event (.ok result))) →
    s.calls id ≠ some (.returned (.event (.ok result))) →
    result.statusCode = 201 ∨ result.statusCode = 200 →
    ∃ event, getEventByID t.store result.eventID = .ok event ∧ event.eventID = result.eventID

def KeepsIndexes (capacity : Nat) (same : V → V → Option Bool) (s : State V) (a : Action V) : Prop :=
  ∀ t, step capacity same s a = some t → Coherent t.store ∧ AnswersHeld s t

/-- The steps of `CreateEvent`; the ids it generates are those of UUIDs. -/
def OfCreateEvent : Action V → Prop
  | .createEvent _ r => r.eventID ≠ ""
  | .lock _ => True
  | .lookup _ => True
  | .emit _ _ => True
  | .createEventsBatch _ _ _ => False
  | .emitBatch _ _ => False

/-- None of the events that the store evicts has an idempotency key. -/
def EvictsNoKey (capacity : Nat) (s : State V) : Action V → Prop
  | .emit _ _ => ∀ event ∈ s.store.events.take (s.store.evictions capacity), event.idempotencyKey = ""
  | _ => True

/-- A call of `CreateEvent` has its event under an id. -/
def HasID : Call V → Prop
  | .waiting event => event.eventID ≠ ""
  | .holding event => event.eventID ≠ ""
  | .checked event => event.eventID ≠ ""
  | .direct event => event.eventID ≠ ""
  | .batch _ => False
  | .returned _ => True

structure Identified (s : State V) : Prop where
  invariant : Invariant s
  stored : ∀ event ∈ s.stored, event.eventID ≠ ""
  calls : ∀ id call, s.calls id = some call → HasID call

theorem getByIdempotencyKey_eq_ok {s : InMemoryAuditStore V} {key : String} {event : AuditEvent V} :
    s.getByIdempotencyKey key = .ok event ↔ s.idempotencyKeys key = some event := by
  unfold getByIdempotencyKey
  cases s.idempotencyKeys key <;> simp

theorem getEventByID_of_mem {s : InMemoryAuditStore V} {event : AuditEvent V} (hmem : event ∈ s.events)
    (hid : event.eventID ≠ "") :
    ∃ found, getEventByID s event.eventID = .ok found ∧ found.eventID = event.eventID := by
  unfold getEventByID InMemoryAuditStore.getByEventID
  rw [if_neg hid]
  cases hfind : s.events.find? (fun e => e.eventID = event.eventID) with
  | some found => exact ⟨found, rfl, by simpa using List.find?_some hfind⟩
  | none =>
    have hnone := List.find?_eq_none.mp hfind event hmem
    simp at hnone

theorem withDefaults_eventID {event : AuditEvent V} {r : Reading} (hr : r.eventID ≠ "") :
    (event.withDefaults r).eventID ≠ "" := by
  unfold AuditEvent.withDefaults
  dsimp only
  by_cases h : event.eventID = ""
  · rw [if_pos h]
    exact hr
  · rw [if_neg h]
    exact h

theorem stamp_eventID {event : AuditEvent V} (h : event.eventID ≠ "") (r : Reading) :
    (event.stamp r).eventID = event.eventID :=
  if_neg h

theorem hasID_createEvent {event : Option (AuditEvent V)} {r : Reading} (hr : r.eventID ≠ "") :
    HasID (createEvent event r) := by
  cases event with
  | none => trivial
  | some event =>
    unfold createEvent
    dsimp only
    split
    next => trivial
    next => split <;> exact withDefaults_eventID hr

theorem hasID_update {calls : Nat → Option (Call V)} {id : Nat} {call : Call V} (hnew : HasID call)
    (hold : ∀ other call, calls other = some call → HasID call) :
    ∀ other call', Function.update calls id (some call) other = some call' → HasID call' := by
  intro other call' h
  rcases Maps.update_some_cases h with ⟨-, rfl⟩ | ⟨-, h⟩
  · exact hnew
  · exact hold other call' h

/-- Only the call that a step is of can have been answered by it. -/
theorem answersHeld_update {s t : State V} {id : Nat} {call : Call V}
    (hcalls : t.calls = Function.update s.calls id (some call))
    (hnew : ∀ result, call = .returned (.event (.ok result)) →
      result.statusCode = 201 ∨ result.statusCode = 200 →
      ∃ event, getEventByID t.store result.eventID = .ok event ∧ event.eventID = result.eventID) :
    AnswersHeld s t := by
  intro other result hother hbefore hstatus
  rw [hcalls] at hother
  rcases Maps.update_some_cases hother with ⟨-, heq⟩ | ⟨-, hsame⟩
  · exact hnew result heq.symm hstatus
  · exact absurd hsame hbefore

/-- What storing an event under a free key does to a coherent store: it stays so if and only if no event
is evicted that has a key. -/
theorem coherent_emit_iff {s : InMemoryAuditStore V} {stored : List (AuditEvent V)}
    (hindexed : Indexed s stored) (h : Coherent s) {capacity : Nat} (hten : 10 ≤ capacity) (r : Reading)
    {event : AuditEvent V}
    (hfresh : event.idempotencyKey ∉ keysOf stored) :
    Coherent (s.emit capacity r event) ↔
      ∀ old ∈ s.events.take (s.evictions capacity), old.idempotencyKey = "" := by
  have hunique : (keysOf s.events).Nodup := by
    refine List.Nodup.sublist ?_ hindexed.nodup
    exact (hindexed.sublist.map _).filter _
  have hsplit := List.take_append_drop (s.evictions capacity) s.events
  constructor
  · intro hafter old hold
    by_contra hkey
    have hmem : old ∈ s.events := List.mem_of_mem_take hold
    have hother : event.idempotencyKey ≠ old.idempotencyKey := by
      intro heq
      exact hfresh (mem_keysOf.mpr ⟨heq ▸ hkey, old, hindexed.sublist.subset hmem, heq.symm⟩)
    -- the index still has the event
    have hindex := getByIdempotencyKey_eq_ok.mp ((h _ hkey old).mpr ⟨hmem, rfl⟩)
    have hlookup : (s.emit capacity r event).getByIdempotencyKey old.idempotencyKey = .ok old := by
      rw [getByIdempotencyKey_eq_ok, s.emit_idempotencyKeys capacity r event hkey, if_neg hother, hindex]
    obtain ⟨hheld, -⟩ := (hafter _ hkey old).mp hlookup
    rw [s.emit_events_eq hten] at hheld
    rcases List.mem_append.mp hheld with hkept | hnew
    · rw [← hsplit, keysOf_append] at hunique
      have hdisjoint := (List.nodup_append.mp hunique).2.2
      exact hdisjoint old.idempotencyKey (mem_keysOf.mpr ⟨hkey, old, hold, rfl⟩) old.idempotencyKey
        (mem_keysOf.mpr ⟨hkey, old, hkept, rfl⟩) rfl
    · rw [List.mem_singleton.mp hnew] at hother
      exact hother rfl
  · intro hevicted key hkey found
    rw [getByIdempotencyKey_eq_ok, s.emit_idempotencyKeys capacity r event hkey, s.emit_events_eq hten,
      List.mem_append, List.mem_singleton]
    have hkept : (found ∈ s.events.drop (s.evictions capacity) ∧ found.idempotencyKey = key) ↔
        (found ∈ s.events ∧ found.idempotencyKey = key) := by
      refine and_congr_left (fun hfound => ⟨List.mem_of_mem_drop, fun hmem => ?_⟩)
      rw [← hsplit] at hmem
      rcases List.mem_append.mp hmem with hgone | hstays
      · exact absurd (hfound.symm.trans (hevicted found hgone)) hkey
      · exact hstays
    rw [or_and_right, hkept, ← h key hkey found, getByIdempotencyKey_eq_ok]
    by_cases heq : event.idempotencyKey = key
    · have hnone : s.idempotencyKeys key = none := by
        rw [hindexed.index key hkey]
        exact (firstUnder_eq_none hkey).mpr (heq ▸ hfresh)
      rw [if_pos heq, hnone]
      constructor
      · intro hfound
        cases hfound
        exact .inr ⟨rfl, heq⟩
      · rintro (hold | ⟨rfl, -⟩)
        · cases hold
        · rfl
    · rw [if_neg heq]
      refine ⟨fun hold => .inl hold, ?_⟩
      rintro (hold | ⟨rfl, hnew⟩)
      · exact hold
      · exact absurd hnew heq

theorem replay_answers {same : V → V → Option Bool} {existing event : AuditEvent V}
    {result : CreateEventResult} (h : replay same existing event = .event (.ok result))
    (hstatus : result.statusCode = 201 ∨ result.statusCode = 200) : result.eventID = existing.eventID := by
  unfold replay at h
  rcases hsame : isSamePayload same existing event with _ | _ | _
  · rw [hsame] at h
    cases h
  · rw [hsame] at h
    cases h
    simp at hstatus
  · rw [hsame] at h
    cases h
    rfl

/-- A step that leaves the store alone, which may be the answer to a replay. -/
structure Leaves (s t : State V) (a : Action V) : Prop where
  store : t.store = s.store
  stored : t.stored = s.stored
  action : ∀ id r, a ≠ .emit id r
  call : ∃ id call, t.calls = Function.update s.calls id (some call) ∧ HasID call ∧
    ∀ result, call = .returned (.event (.ok result)) → result.statusCode = 201 ∨ result.statusCode = 200 →
      ∃ key existing, key ≠ "" ∧ s.store.getByIdempotencyKey key = .ok existing ∧
        result.eventID = existing.eventID

/-- A step that stores an event, under a key that is free if it has one. -/
structure Stores (capacity : Nat) (s t : State V) (a : Action V) (event : AuditEvent V) (r : Reading)
    (id : Nat) : Prop where
  action : a = .emit id r
  identified : event.eventID ≠ ""
  fresh : event.idempotencyKey ∉ keysOf s.stored
  store : t.store = s.store.emit capacity r event
  stored : t.stored = s.stored ++ [event.stamp r]
  call : t.calls = Function.update s.calls id (some (.returned (created (event.stamp r))))

theorem step_cases {capacity : Nat} {same : V → V → Option Bool} {s t : State V} {a : Action V}
    (h : Identified s) (ha : OfCreateEvent a) (hstep : Audit.step capacity same s a = some t) :
    Leaves s t a ∨ ∃ event r id, Stores capacity s t a event r id := by
  cases a with
  | createEvent event r =>
    cases Option.some.inj hstep
    refine .inl ⟨rfl, rfl, nofun, s.nextCall, createEvent event r, rfl, hasID_createEvent ha, ?_⟩
    intro result hresult
    unfold createEvent at hresult
    split at hresult
    next => cases hresult
    next =>
      dsimp only at hresult
      split at hresult
      next => cases hresult
      next => split at hresult <;> cases hresult
  | lock id =>
    unfold Audit.step at hstep
    dsimp only at hstep
    split at hstep
    next event hcall hmu =>
      cases Option.some.inj hstep
      have hid : event.eventID ≠ "" := h.calls id _ hcall
      exact .inl ⟨rfl, rfl, nofun, id, .holding event, rfl, hid, nofun⟩
    next => cases hstep
  | lookup id =>
    unfold Audit.step at hstep
    dsimp only at hstep
    split at hstep
    next event hcall =>
      have hkey : event.idempotencyKey ≠ "" := (h.invariant.calls id _ hcall).1
      cases hfound : s.store.getByIdempotencyKey event.idempotencyKey with
      | ok existing =>
        rw [hfound] at hstep
        cases Option.some.inj hstep
        refine .inl ⟨rfl, rfl, nofun, id, _, rfl, trivial, fun result hresult hstatus => ?_⟩
        exact ⟨_, existing, hkey, hfound, replay_answers (Call.returned.inj hresult) hstatus⟩
      | error e =>
        rw [hfound] at hstep
        cases Option.some.inj hstep
        have hid : event.eventID ≠ "" := h.calls id _ hcall
        exact .inl ⟨rfl, rfl, nofun, id, .checked event, rfl, hid, nofun⟩
    next => cases hstep
  | emit id r =>
    unfold Audit.step at hstep
    dsimp only at hstep
    split at hstep
    next event hcall =>
      cases Option.some.inj hstep
      exact .inr ⟨event, r, id, rfl, h.calls id _ hcall, (h.invariant.calls id _ hcall).2, rfl, rfl, rfl⟩
    next event hcall =>
      cases Option.some.inj hstep
      have hempty : event.idempotencyKey = "" := h.invariant.calls id _ hcall
      have hfree : event.idempotencyKey ∉ keysOf s.stored := fun hmem => (mem_keysOf.mp hmem).1 hempty
      exact .inr ⟨event, r, id, rfl, h.calls id _ hcall, hfree, rfl, rfl, rfl⟩
    next => cases hstep
  | createEventsBatch events now eventIDs => exact absurd ha id
  | emitBatch id r => exact absurd ha (fun h => h)

theorem storesFreshKeys_of_createEvent {s : State V} {a : Action V} (ha : OfCreateEvent a) :
    StoresFreshKeys s a := by
  cases a with
  | emitBatch id r => exact absurd ha (fun h => h)
  | _ => trivial

namespace Identified

theorem start : Identified (State.start (V := V)) :=
  ⟨Invariant.start, by simp [State.start], by intro id call h; cases h⟩

theorem step {capacity : Nat} {same : V → V → Option Bool} {s t : State V} {a : Action V} (h : Identified s)
    (ha : OfCreateEvent a) (hstep : Audit.step capacity same s a = some t) : Identified t := by
  have hinvariant := h.invariant.step (storesFreshKeys_of_createEvent ha) hstep
  rcases step_cases h ha hstep with hleaves | ⟨event, r, id, hstores⟩
  · obtain ⟨id, call, hcalls, hid, -⟩ := hleaves.call
    refine ⟨hinvariant, ?_, ?_⟩
    · rw [hleaves.stored]
      exact h.stored
    · rw [hcalls]
      exact hasID_update hid h.calls
  · refine ⟨hinvariant, ?_, ?_⟩
    · rw [hstores.stored]
      intro old hold
      rcases List.mem_append.mp hold with hold | hnew
      · exact h.stored old hold
      · rw [List.mem_singleton.mp hnew, stamp_eventID hstores.identified]
        exact hstores.identified
    · rw [hstores.call]
      exact hasID_update trivial h.calls

end Identified

/-- From a coherent state a step keeps the indexes together exactly when it evicts no event with a key. -/
theorem keepsIndexes_iff {capacity : Nat} (hten : 10 ≤ capacity) {same : V → V → Option Bool} {s t : State V}
    {a : Action V} (h : Identified s) (hcoherent : Coherent s.store) (ha : OfCreateEvent a)
    (hstep : Audit.step capacity same s a = some t) :
    KeepsIndexes capacity same s a ↔ EvictsNoKey capacity s a := by
  have heach : KeepsIndexes capacity same s a ↔ Coherent t.store ∧ AnswersHeld s t := by
    constructor
    · exact fun hkeeps => hkeeps t hstep
    · intro hboth u hu
      cases Option.some.inj (hstep.symm.trans hu)
      exact hboth
  rw [heach]
  rcases step_cases h ha hstep with hleaves | ⟨event, r, id, hstores⟩
  · have hcondition : EvictsNoKey capacity s a := by
      cases a with
      | emit id r => exact absurd rfl (hleaves.action id r)
      | _ => trivial
    obtain ⟨id, call, hcalls, -, hreplay⟩ := hleaves.call
    refine iff_of_true ⟨hleaves.store ▸ hcoherent, answersHeld_update hcalls ?_⟩ hcondition
    intro result hresult hstatus
    obtain ⟨key, existing, hkey, hfound, hid⟩ := hreplay result hresult hstatus
    have hmem := ((hcoherent key hkey existing).mp hfound).1
    rw [hid, hleaves.store]
    exact getEventByID_of_mem hmem (h.stored existing (h.invariant.indexed.sublist.subset hmem))
  · have hanswers : AnswersHeld s t := by
      refine answersHeld_update hstores.call (fun result hresult _ => ?_)
      cases hresult
      rw [hstores.store]
      have hmem : event.stamp r ∈ (s.store.emit capacity r event).events := by
        rw [InMemoryAuditStore.emit_events_eq _ hten]
        exact List.mem_append_right _ (List.mem_singleton_self _)
      have hid : (event.stamp r).eventID ≠ "" := by
        rw [stamp_eventID hstores.identified]
        exact hstores.identified
      exact getEventByID_of_mem hmem hid
    rw [and_iff_left hanswers, hstores.store, hstores.action]
    exact coherent_emit_iff h.invariant.indexed hcoherent hten r hstores.fresh

/-- Storing `n` events without a key, one after the other, from the call `id` on. -/
def fill (id : Nat) : Nat → List (Action String)
  | 0 => []
  | n + 1 => .createEvent (some (sampleEvent "")) ⟨10, "e"⟩ :: .emit id ⟨11, "e"⟩ :: fill (id + 1) n

theorem fill_ofCreateEvent (id n : Nat) : ∀ a ∈ fill id n, OfCreateEvent a := by
  induction n generalizing id with
  | zero => simp [fill]
  | succ n ih =>
    intro a ha
    rcases List.mem_cons.mp ha with rfl | ha
    · simp [OfCreateEvent]
    · rcases List.mem_cons.mp ha with rfl | ha
      · trivial
      · exact ih (id + 1) a ha

def unkeyed : AuditEvent String := (sampleEvent "").withDefaults ⟨10, "e"⟩

def filled (capacity : Nat) (s : State String) : State String :=
  ((s.invoke (.direct unkeyed)).emit capacity ⟨11, "e"⟩ unkeyed).setCall s.nextCall
    (.returned (created (unkeyed.stamp ⟨11, "e"⟩)))

theorem exec_createEvent_emit (capacity : Nat) (same : String → String → Option Bool) (s : State String)
    (as : List (Action String)) :
    exec (step capacity same) s
        (.createEvent (some (sampleEvent "")) ⟨10, "e"⟩ :: .emit s.nextCall ⟨11, "e"⟩ :: as) =
      exec (step capacity same) (filled capacity s) as := by
  have hcreate : createEvent (some (sampleEvent "")) ⟨10, "e"⟩ = .direct unkeyed := rfl
  have hcall : (s.invoke (.direct unkeyed)).calls s.nextCall = some (.direct unkeyed) :=
    Function.update_self _ _ _
  simp only [exec, step, hcreate, Option.bind_some, hcall]
  rfl

/-- A store fills up with events that have no key, behind those it has. -/
theorem exec_fill {capacity n : Nat} (hten : 10 ≤ capacity) (same : String → String → Option Bool)
    {s : State String} (hroom : s.store.events.length + n ≤ capacity) :
    ∃ t, exec (step capacity same) s (fill s.nextCall n) = some t ∧ s.store.events <+: t.store.events ∧
      t.store.events.length = s.store.events.length + n ∧ t.nextCall = s.nextCall + n := by
  induction n generalizing s with
  | zero => exact ⟨s, rfl, List.prefix_refl _, rfl, rfl⟩
  | succ n ih =>
    have hlt : s.store.events.length < capacity := by omega
    have hevents : (filled capacity s).store.events = s.store.events ++ [unkeyed.stamp ⟨11, "e"⟩] := by
      have hemit := s.store.emit_events_eq hten ⟨11, "e"⟩ unkeyed
      rw [evictions_of_lt hlt, List.drop_zero] at hemit
      exact hemit
    have hlength : (filled capacity s).store.events.length = s.store.events.length + 1 := by
      rw [hevents, List.length_append, List.length_singleton]
    obtain ⟨t, hrun, hprefix, htotal, hnext⟩ := ih (s := filled capacity s) (by omega)
    refine ⟨t, ?_, ?_, by omega, ?_⟩
    · rw [fill, exec_createEvent_emit]
      exact hrun
    · rw [hevents] at hprefix
      exact (List.prefix_append _ _).trans hprefix
    · have hone : (filled capacity s).nextCall = s.nextCall + 1 := rfl
      omega

/-- In a run of `CreateEvent` the two indexes stay together, and what is answered is held, exactly as long
as no event that has an idempotency key is evicted. -/
theorem indexes_agree_iff_no_key_evicted {capacity : Nat} (hten : 10 ≤ capacity) (same : V → V → Option Bool)
    (as : List (Action V)) (has : ∀ a ∈ as, OfCreateEvent a) :
    EachStep (step capacity same) (KeepsIndexes capacity same) State.start as ↔
      EachStep (step capacity same) (EvictsNoKey capacity) State.start as := by
  have hstart : Coherent (State.start (V := V)).store := by
    intro key _ event
    exact iff_of_false nofun (fun h => nomatch h.1)
  refine eachStep_congr_of (I := fun s => Identified s ∧ Coherent s.store) ?_ ?_ ⟨Identified.start, hstart⟩ has
  · intro s a t h ha hok hstep
    exact ⟨h.1.step ha hstep, ((keepsIndexes_iff hten h.1 h.2 ha hstep).mpr hok t hstep).1⟩
  · exact fun s a t h ha hstep => keepsIndexes_iff hten h.1 h.2 ha hstep

def createKeyed : List (Action String) :=
  [.createEvent (some (sampleEvent "k")) ⟨10, "e0"⟩, .lock 0, .lookup 0, .emit 0 ⟨11, "e1"⟩]

theorem createKeyed_ofCreateEvent : ∀ a ∈ createKeyed, OfCreateEvent a := by
  simp [createKeyed, OfCreateEvent]

theorem indexes_agree_after_create :
    EachStep (step maxEvents sampleSame) (KeepsIndexes maxEvents sampleSame) State.start createKeyed := by
  refine (indexes_agree_iff_no_key_evicted (by decide) sampleSame _ createKeyed_ofCreateEvent).mpr ?_
  intro s hs
  cases Option.some.inj hs
  refine ⟨trivial, fun s hs => ?_⟩
  cases Option.some.inj hs
  refine ⟨trivial, fun s hs => ?_⟩
  cases Option.some.inj hs
  refine ⟨trivial, fun s hs => ⟨?_, trivial⟩⟩
  intro event hevent
  rw [evictions_of_lt (by decide)] at hevent
  cases hevent

/-- A full store drops its oldest event before it takes another. -/
theorem mem_evicted_of_full {s : InMemoryAuditStore V} {capacity : Nat} (hten : 10 ≤ capacity)
    (hfull : capacity ≤ s.events.length) {event : AuditEvent V} {more : List (AuditEvent V)}
    (hfirst : s.events = event :: more) : event ∈ s.events.take (s.evictions capacity) := by
  have hpos : 0 < s.evictions capacity := by
    rw [evictions_of_full hfull]
    omega
  obtain ⟨m, hm⟩ := Nat.exists_eq_succ_of_ne_zero (Nat.ne_of_gt hpos)
  rw [hfirst, hm, Nat.succ_eq_add_one, List.take_succ_cons]
  exact List.mem_cons_self

def keyed : AuditEvent String := ((sampleEvent "k").withDefaults ⟨10, "e0"⟩).stamp ⟨11, "e1"⟩

/-- A run that fills the store up, first with an event that has a key. -/
theorem exists_full_run : ∃ as t more, (∀ a ∈ as, OfCreateEvent a) ∧
    exec (step maxEvents sampleSame) State.start as = some t ∧
    t.store.events = keyed :: more ∧ maxEvents ≤ t.store.events.length := by
  have hkeyed : exec (step maxEvents sampleSame) State.start createKeyed = some (sampleState createKeyed) :=
    exec_sampleState rfl
  have hone : (sampleState createKeyed).store.events.length = 1 := rfl
  obtain ⟨n, hn⟩ : ∃ n, n + 1 = maxEvents := ⟨99999, rfl⟩
  have hroom : (sampleState createKeyed).store.events.length + n ≤ maxEvents := by omega
  obtain ⟨t, hfill, ⟨more, hmore⟩, hlength, -⟩ := exec_fill (by decide) sampleSame hroom
  refine ⟨createKeyed ++ fill (sampleState createKeyed).nextCall n, t, more, ?_, ?_, hmore.symm, by omega⟩
  · intro a ha
    rcases List.mem_append.mp ha with ha | ha
    · exact createKeyed_ofCreateEvent a ha
    · exact fill_ofCreateEvent _ n a ha
  · rw [exec_append, hkeyed]
    exact hfill

/-- The event under a key is the oldest of a full store, and one more event evicts it. -/
theorem evicted_event_still_indexed :
    ¬∀ as : List (Action String), (∀ a ∈ as, OfCreateEvent a) →
      EachStep (step maxEvents sampleSame) (KeepsIndexes maxEvents sampleSame) State.start as := by
  intro h
  have hten : 10 ≤ maxEvents := by decide
  obtain ⟨as, t, more, has, hrun, hfirst, hfull⟩ := exists_full_run
  have hlast : ∀ a ∈ fill t.nextCall 1, OfCreateEvent a := fill_ofCreateEvent t.nextCall 1
  have hall : ∀ a ∈ as ++ fill t.nextCall 1, OfCreateEvent a := fun a ha =>
    (List.mem_append.mp ha).elim (has a) (hlast a)
  have hcreate : step maxEvents sampleSame t (.createEvent (some (sampleEvent "")) ⟨10, "e"⟩) =
      some (t.invoke (.direct unkeyed)) := rfl
  have hcall : (t.invoke (.direct unkeyed)).calls t.nextCall = some (.direct unkeyed) :=
    Function.update_self _ _ _
  have hemit : step maxEvents sampleSame (t.invoke (.direct unkeyed)) (.emit t.nextCall ⟨11, "e"⟩) =
      some (filled maxEvents t) := by
    simp only [step, hcall]
    rfl
  have hevicting : exec (step maxEvents sampleSame) State.start
      (as ++ [.createEvent (some (sampleEvent "")) ⟨10, "e"⟩]) = some (t.invoke (.direct unkeyed)) := by
    rw [exec_append, hrun]
    exact hcreate
  have hsteps := eachStep_iff_split.mp (h _ hall)
  have hcoherent := (hsteps _ _ [.emit t.nextCall ⟨11, "e"⟩] t _ rfl hrun hcreate _ hcreate).1
  have hreach : Reach (step maxEvents sampleSame) (fun _ a => OfCreateEvent a) State.start
      (t.invoke (.direct unkeyed)) :=
    (reach_of_exec_of hrun (fun _ a ha => has a ha)).tail ⟨_, hlast _ List.mem_cons_self, hcreate⟩
  have hidentified := hreach.invariant Identified.start (fun _ _ _ hi ha hs => hi.step ha hs)
  have hkeeps := hsteps _ _ [] _ _ (by simp [fill]) hevicting hemit
  have hof : OfCreateEvent (.emit t.nextCall ⟨11, "e"⟩ : Action String) := trivial
  have hevicts := (keepsIndexes_iff hten hidentified hcoherent hof hemit).mp hkeeps
  have hgone := hevicts keyed (mem_evicted_of_full hten hfull hfirst)
  exact absurd hgone (by decide)

end SupplyPlatform.Audit
