import Mathlib.Data.List.Infix
import SupplyPlatform.AuditIdempotency

namespace SupplyPlatform.Audit

variable {V : Type}

/-- A call that stores events, with what each of them reads. -/
inductive Submission (V : Type)
  | emit (r : Reading) (event : AuditEvent V)
  | emitBatch (r : Nat → Reading) (events : List (AuditEvent V))

def withReadings (r : Nat → Reading) : List (AuditEvent V) → List (Reading × AuditEvent V)
  | [] => []
  | event :: events => (r 0, event) :: withReadings (fun n => r (n + 1)) events

/-- The events a call stores, one after the other. -/
def Submission.emissions : Submission V → List (Reading × AuditEvent V)
  | .emit r event => [(r, event)]
  | .emitBatch r events => withReadings r events

/-- The events as they are emitted: with their id and the time of storing. -/
def stamped (emissions : List (Reading × AuditEvent V)) : List (AuditEvent V) :=
  emissions.map (fun p => p.2.stamp p.1)

namespace InMemoryAuditStore

def submit (s : InMemoryAuditStore V) (capacity : Nat) : Submission V → InMemoryAuditStore V
  | .emit r event => s.emit capacity r event
  | .emitBatch r events => s.emitBatch capacity r events

/-- The store after a number of events. -/
def emitAll (capacity : Nat) (emissions : List (Reading × AuditEvent V)) : InMemoryAuditStore V :=
  emissions.foldl (fun s p => s.emit capacity p.1 p.2) new

theorem emitBatch_eq_foldl (s : InMemoryAuditStore V) (capacity : Nat) (r : Nat → Reading)
    (events : List (AuditEvent V)) :
    s.emitBatch capacity r events = (withReadings r events).foldl (fun s p => s.emit capacity p.1 p.2) s := by
  induction events generalizing s r with
  | nil => rfl
  | cons event events ih => exact ih (s.emit capacity (r 0) event) (fun n => r (n + 1))

/-- A run of calls stores the events of all of them one by one. -/
theorem submit_run (capacity : Nat) (subs : List (Submission V)) :
    subs.foldl (fun s sub => s.submit capacity sub) new =
      emitAll capacity (subs.flatMap Submission.emissions) := by
  induction subs using List.reverseRecOn with
  | nil => rfl
  | append_singleton subs sub ih =>
    rw [List.foldl_append, List.flatMap_append, emitAll, List.foldl_append, ih, List.flatMap_singleton]
    cases sub with
    | emit r event => rfl
    | emitBatch r events => exact emitBatch_eq_foldl _ capacity r events

/-- What cleaning leaves of a full store: as many of the last events as were to be removed. -/
theorem cleanup_events (s : InMemoryAuditStore V) {capacity : Nat} (hten : 10 ≤ capacity)
    (hfull : capacity ≤ s.events.length) :
    (s.cleanupOldEventsLocked capacity (capacity / 10)).events =
      s.events.drop (s.events.length - capacity / 10) := by
  unfold cleanupOldEventsLocked
  have hpositive : ¬((capacity : Int) / 10 ≤ 0) := by omega
  have hfewer : ¬((capacity : Int) / 10 ≥ s.events.length) := by omega
  simp only [if_neg hpositive, if_neg hfewer]
  congr 1
  omega

/-- How many of the oldest events the next event costs the store. -/
def evictions (s : InMemoryAuditStore V) (capacity : Nat) : Nat :=
  if capacity ≤ s.events.length then s.events.length - capacity / 10 else 0

theorem emit_events_eq (s : InMemoryAuditStore V) {capacity : Nat} (hten : 10 ≤ capacity) (r : Reading)
    (event : AuditEvent V) :
    (s.emit capacity r event).events = s.events.drop (s.evictions capacity) ++ [event.stamp r] := by
  unfold emit evictions
  by_cases hfull : capacity ≤ s.events.length
  · rw [if_pos hfull, if_pos hfull, ← s.cleanup_events hten hfull]
  · rw [if_neg hfull, if_neg hfull, List.drop_zero]

theorem evictions_of_full {s : InMemoryAuditStore V} {capacity : Nat} (hfull : capacity ≤ s.events.length) :
    s.evictions capacity = s.events.length - capacity / 10 :=
  if_pos hfull

theorem evictions_of_lt {s : InMemoryAuditStore V} {capacity : Nat} (hlt : s.events.length < capacity) :
    s.evictions capacity = 0 :=
  if_neg (Nat.not_le.mpr hlt)

end InMemoryAuditStore

open InMemoryAuditStore

/-- What a store of bounded size is to have of the events emitted to it: the last ones, and no less
than nine tenths of its capacity of them once there have been that many. -/
structure Retains (capacity : Nat) (s : InMemoryAuditStore V) (emitted : List (AuditEvent V)) : Prop where
  suffix : s.events <:+ emitted
  bounded : s.events.length ≤ capacity
  recent : 9 * capacity ≤ 10 * emitted.length → 9 * capacity ≤ 10 * s.events.length

/-- At every point of a run of calls, also within a batch, the store retains what it is to have, and
the next event costs it the oldest tenth when it is full and nothing otherwise. -/
structure RetainsThroughout (capacity : Nat) (subs : List (Submission V)) : Prop where
  retains : ∀ before after, subs.flatMap Submission.emissions = before ++ after →
    Retains capacity (emitAll capacity before) (stamped before)
  evicts : ∀ before r event after, subs.flatMap Submission.emissions = before ++ (r, event) :: after →
    ((emitAll capacity before).emit capacity r event).events =
      (emitAll capacity before).events.drop
        (if (emitAll capacity before).events.length = capacity then capacity / 10 else 0) ++ [event.stamp r]
  answered : ∀ before after, subs = before ++ after →
    Retains capacity (before.foldl (fun s sub => s.submit capacity sub) new)
      (stamped (before.flatMap Submission.emissions))

theorem stamped_append (before after : List (Reading × AuditEvent V)) :
    stamped (before ++ after) = stamped before ++ stamped after :=
  List.map_append

theorem length_stamped (emissions : List (Reading × AuditEvent V)) :
    (stamped emissions).length = emissions.length :=
  List.length_map _

theorem emitAll_append_singleton (capacity : Nat) (before : List (Reading × AuditEvent V)) (r : Reading)
    (event : AuditEvent V) :
    emitAll capacity (before ++ [(r, event)]) = (emitAll capacity before).emit capacity r event :=
  List.foldl_append

/-- Whatever is evicted, the store has the last of the events, and never more than it has room for. -/
theorem emitAll_suffix_bounded {capacity : Nat} (hten : 10 ≤ capacity)
    (emissions : List (Reading × AuditEvent V)) :
    (emitAll capacity emissions).events <:+ stamped emissions ∧
      (emitAll capacity emissions).events.length ≤ capacity := by
  induction emissions using List.reverseRecOn with
  | nil => exact ⟨List.suffix_refl _, Nat.zero_le _⟩
  | append_singleton before p ih =>
    obtain ⟨hsuffix, hbound⟩ := ih
    rw [emitAll_append_singleton, stamped_append, emit_events_eq _ hten]
    refine ⟨List.suffix_append_self_iff.mpr ((List.drop_suffix _ _).trans hsuffix), ?_⟩
    rw [List.length_append, List.length_drop, List.length_singleton]
    by_cases hlt : (emitAll capacity before).events.length < capacity
    · omega
    · rw [evictions_of_full (Nat.not_lt.mp hlt)]
      omega

/-- Nothing is lost before the store is full. -/
theorem emitAll_of_le {capacity : Nat} (hten : 10 ≤ capacity) {emissions : List (Reading × AuditEvent V)}
    (hle : emissions.length ≤ capacity) : (emitAll capacity emissions).events = stamped emissions := by
  induction emissions using List.reverseRecOn with
  | nil => rfl
  | append_singleton before p ih =>
    rw [List.length_append, List.length_singleton] at hle
    have hbefore := ih (by omega)
    have hlt : (emitAll capacity before).events.length < capacity := by
      rw [hbefore, length_stamped]
      omega
    rw [emitAll_append_singleton, emit_events_eq _ hten, evictions_of_lt hlt, hbefore, stamped_append]
    rfl

/-- The first event that finds the store full leaves too few: the tenth that was to go is what stays. -/
theorem not_retains_of_full {capacity : Nat} (hten : 10 ≤ capacity) {before : List (Reading × AuditEvent V)}
    (hlen : before.length = capacity) (r : Reading) (event : AuditEvent V) :
    ¬Retains capacity (emitAll capacity (before ++ [(r, event)])) (stamped (before ++ [(r, event)])) := by
  intro h
  have hevents := emitAll_of_le hten (le_of_eq hlen)
  have hfull : (emitAll capacity before).events.length = capacity := by
    rw [hevents, length_stamped, hlen]
  have hkept := h.recent (by rw [length_stamped, List.length_append, List.length_singleton]; omega)
  rw [emitAll_append_singleton, emit_events_eq _ hten, evictions_of_full (le_of_eq hfull.symm),
    List.length_append, List.length_drop, List.length_singleton, hfull] at hkept
  omega

/-- The store is what its capacity is for as long as it has never had to evict, and not after. -/
theorem retains_iff_never_full {capacity : Nat} (hten : 10 ≤ capacity) (subs : List (Submission V)) :
    RetainsThroughout capacity subs ↔ (subs.flatMap Submission.emissions).length ≤ capacity := by
  constructor
  · intro h
    by_contra hmore
    have hlt : capacity < (subs.flatMap Submission.emissions).length := by omega
    have hsplit := List.take_append_drop capacity (subs.flatMap Submission.emissions)
    rw [List.drop_eq_getElem_cons hlt] at hsplit
    have hretains := h.retains (List.take capacity _ ++ [(subs.flatMap Submission.emissions)[capacity]]) _
      (by rw [List.append_assoc]; exact hsplit.symm)
    have hlen : (List.take capacity (subs.flatMap Submission.emissions)).length = capacity := by
      rw [List.length_take]
      omega
    exact not_retains_of_full hten hlen _ _ hretains
  · intro hle
    have hretains : ∀ before after, subs.flatMap Submission.emissions = before ++ after →
        Retains capacity (emitAll capacity before) (stamped before) := by
      intro before after hsplit
      have hbefore : before.length ≤ capacity := by
        rw [hsplit, List.length_append] at hle
        omega
      obtain ⟨hsuffix, hbound⟩ := emitAll_suffix_bounded hten before
      refine ⟨hsuffix, hbound, fun hmany => ?_⟩
      rw [emitAll_of_le hten hbefore]
      exact hmany
    refine ⟨hretains, ?_, ?_⟩
    · intro before r event after hsplit
      have hbefore : before.length < capacity := by
        rw [hsplit, List.length_append, List.length_cons] at hle
        omega
      have hlt : (emitAll capacity before).events.length < capacity := by
        rw [emitAll_of_le hten (le_of_lt hbefore), length_stamped]
        exact hbefore
      rw [emit_events_eq _ hten, evictions_of_lt hlt, if_neg (by omega)]
    · intro before after hsplit
      rw [submit_run]
      exact hretains _ (after.flatMap Submission.emissions) (by rw [hsplit, List.flatMap_append])

theorem retains_of_ten :
    RetainsThroughout 10 [Submission.emitBatch (fun _ => ⟨3, "e"⟩) (List.replicate 10 (sampleEvent ""))] :=
  (retains_iff_never_full (le_refl 10) _).mpr (by decide)

theorem eleventh_event_evicts_nine :
    ¬∀ capacity, 10 ≤ capacity → ∀ subs : List (Submission String), RetainsThroughout capacity subs := by
  intro h
  have heleven := h 10 (le_refl 10) [.emitBatch (fun _ => ⟨3, "e"⟩) (List.replicate 11 (sampleEvent ""))]
  exact not_retains_of_full (le_refl 10) (by decide) ⟨3, "e"⟩ (sampleEvent "")
    (heleven.retains (List.replicate 10 (⟨3, "e"⟩, sampleEvent "") ++ [(⟨3, "e"⟩, sampleEvent "")]) [] rfl)

end SupplyPlatform.Audit
