import SupplyPlatform.OutboxOwnership

namespace SupplyPlatform.Outbox

open Relational

/-- Runs in which `Publish` of one event always fails and the repository statements succeed. -/
def Failing (e : String) (s : State) : Action → Prop
  | .publish w err =>
    ∀ event rest phase, s.worker w = .running event rest phase → event.eventID = e → err ≠ none
  | .markCompleted _ fault => fault = .none
  | .handleFailure _ fault => fault = .none
  | .stop w => s.worker w = .idle
  | _ => True

/-- At most `m` attempts, the `m`-th of which ends in the dead letter table with their number. -/
structure RetryContract (e : String) (m : Int) (s : State) : Prop where
  atMost : (s.handed.count e : Int) ≤ m
  buried : (s.handed.count e : Int) = m → (∃ w, e ∈ (s.worker w).held) ∨ DeadLettered s e
  counted : ∀ d ∈ s.deadLetter, d.originalEventID = e → d.retryCount = s.handed.count e

/-- The event has not been seen by any worker, and its row cannot be decoded. -/
structure Unseen (e : String) (s : State) : Prop where
  free : ∀ w, e ∉ (s.worker w).held
  null : ∀ r ∈ s.outbox.rows, r.eventID = e → r.errorMessage = none
  handed : e ∉ s.handed
  letters : ∀ d ∈ s.deadLetter, d.originalEventID ≠ e

theorem Unseen.setWorker {e : String} {s : State} (h : Unseen e s) {w : Nat} {x : Worker}
    (hx : e ∉ x.held) : Unseen e (s.setWorker w x) := by
  refine ⟨fun v => ?_, h.null, h.handed, h.letters⟩
  by_cases hv : v = w
  · subst v
    simpa [State.setWorker] using hx
  · simpa [State.setWorker, hv] using h.free v

theorem markProcessing_null {t t' : OutboxTable} {e e' : String} {set : OutboxRow → OutboxRow}
    {keys : ∀ r, (set r).id = r.id ∧ (set r).eventID = r.eventID} {res : Except RepoError Unit}
    (hm : markProcessing t e' set keys = (t', res)) (hne : e ≠ e')
    (h : ∀ r ∈ t.rows, r.eventID = e → r.errorMessage = none) :
    ∀ r ∈ t'.rows, r.eventID = e → r.errorMessage = none := by
  intro q hq hqe
  rcases markProcessing_mem hm hq with ⟨hq, _⟩ | ⟨r, _, hp, rfl⟩
  · exact h q hq hqe
  · rw [(updateOutboxVersion_fields _ _).1, (keys r).2, (inProcessing_iff.mp hp).1] at hqe
    exact absurd hqe.symm hne

theorem Unseen.complete {e : String} {s : State} (h : Unseen e s) {event : OutboxEvent}
    {fault : Fault} (hne : e ≠ event.eventID) : Unseen e (complete s event fault) := by
  unfold Outbox.complete
  split
  next => exact ⟨h.free, h.null, h.handed, h.letters⟩
  next hm => exact ⟨h.free, markProcessing_null hm hne h.null, h.handed, h.letters⟩
  next hm => exact ⟨h.free, markProcessing_null hm hne h.null, h.handed, h.letters⟩
  next hm => exact ⟨h.free, markProcessing_null hm hne h.null, h.handed, h.letters⟩

theorem Unseen.bury {e : String} {s : State} (h : Unseen e s) {event : OutboxEvent} {msg : String}
    {t : OutboxTable} {letters : List DeadLetterRow} (hne : e ≠ event.eventID)
    (hm : moveToDeadLetter s.outbox s.deadLetter s.now event msg = .ok (t, letters))
    (stats : List Stat) : Unseen e { s with outbox := t, deadLetter := letters, stats := stats } := by
  obtain ⟨_, _, _, rfl, d, rfl, hde, _⟩ := moveToDeadLetter_ok hm
  refine ⟨h.free, fun r hr => h.null r (mem_deleteEvent.mp hr).1, h.handed, ?_⟩
  intro d' hd'
  rcases List.mem_append.mp hd' with hd' | hd'
  · exact h.letters d' hd'
  · rw [List.mem_singleton.mp hd', hde]
    exact hne.symm

theorem Unseen.handleFailure {e : String} {s : State} (h : Unseen e s) {event : OutboxEvent}
    {msg : String} {fault : Fault} (hne : e ≠ event.eventID) :
    Unseen e (handleFailure s event msg fault) := by
  unfold Outbox.handleFailure
  dsimp only
  split
  · split
    next hm => exact h.bury hne hm _
    next hm => exact h.bury hne hm _
    next => exact ⟨h.free, h.null, h.handed, h.letters⟩
  · split
    next => exact ⟨h.free, h.null, h.handed, h.letters⟩
    next hm => exact ⟨h.free, markProcessing_null hm hne h.null, h.handed, h.letters⟩
    next hm => exact ⟨h.free, markProcessing_null hm hne h.null, h.handed, h.letters⟩

/-- The head of a batch is not the unseen event, and neither is anything behind it. -/
theorem Unseen.head {e : String} {s : State} (h : Unseen e s) {w : Nat} {event : OutboxEvent}
    {rest : List OutboxEvent} {phase : Phase} (hw : s.worker w = .running event rest phase) :
    e ≠ event.eventID ∧ e ∉ rest.map (·.eventID) := by
  have hf := h.free w
  rw [hw] at hf
  exact not_or.mp (fun hor => hf (List.mem_cons.mpr hor))

theorem Unseen.claim {e : String} {s : State} (h : Unseen e s) (ids : List Int) :
    Unseen e { s with outbox := claim s.outbox ids } := by
  refine ⟨h.free, ?_, h.handed, h.letters⟩
  intro q hq hqe
  obtain ⟨r, hr, hre, _, hmsg, _⟩ := mem_claim hq
  rw [hmsg]
  exact h.null r hr (hre ▸ hqe)

theorem Unseen.step {e : String} {s s' : State} {a : Action} (h : Unseen e s)
    (hs : Outbox.step s a = some s') : Unseen e s' := by
  cases a with
  | tick elapsed =>
    cases Option.some.inj hs
    exact ⟨h.free, h.null, h.handed, h.letters⟩
  | create id event =>
    obtain ⟨_, row, t, _, _, hnull, _, ht, rfl⟩ := step_create hs
    refine ⟨h.free, fun q hq hqe => ?_, h.handed, h.letters⟩
    rcases (Table.mem_of_insert ht).mp hq with hq | rfl
    · exact h.null q hq hqe
    · exact hnull
  | fetchAndLock w ids =>
    obtain ⟨_, hc, ⟨hall, rfl⟩ | ⟨_, rfl⟩⟩ := step_fetchAndLock hs
    · refine (h.claim ids).setWorker ?_
      intro he
      rw [held_loop, List.map_map] at he
      obtain ⟨q, hq, hqe⟩ := List.mem_map.mp he
      obtain ⟨r, hr, hi, rfl⟩ := (mem_returning_claim hc.sound).mp hq
      have hre : r.eventID = e := by simpa [decodeEvent, claimedRow_eq] using hqe
      exact hall r hr hi (h.null r hr hre)
    · exact h.claim ids
  | publish w err =>
    obtain ⟨event, rest, phase, published, hw, rfl, _, _⟩ := step_publish hs
    obtain ⟨hne, hrest⟩ := h.head hw
    have hheld : e ∉ (Worker.running event rest phase).held := fun he =>
      (List.mem_cons.mp he).elim hne hrest
    have hhanded : e ∉ event.eventID :: s.handed := fun he =>
      (List.mem_cons.mp he).elim hne h.handed
    refine Unseen.setWorker ?_ hheld
    exact ⟨h.free, h.null, hhanded, h.letters⟩
  | markCompleted w fault =>
    obtain ⟨event, rest, hw, rfl⟩ := step_markCompleted hs
    obtain ⟨hne, hrest⟩ := h.head hw
    exact (h.complete hne).setWorker (by rw [held_loop]; exact hrest)
  | handleFailure w fault =>
    obtain ⟨event, rest, msg, hw, rfl⟩ := step_handleFailure hs
    obtain ⟨hne, hrest⟩ := h.head hw
    exact (h.handleFailure hne).setWorker (by rw [held_loop]; exact hrest)
  | deleteCompleted before =>
    cases Option.some.inj hs
    exact ⟨h.free, fun r hr => h.null r (Table.mem_delete.mp hr).1, h.handed, h.letters⟩
  | stop w =>
    cases Option.some.inj hs
    exact h.setWorker List.not_mem_nil

theorem Unseen.start {t : OutboxTable} {row : OutboxRow} (hr : row ∈ t.rows)
    (hnull : row.errorMessage = none) (now : Time) : Unseen row.eventID (State.start t now) where
  free := fun _ => List.not_mem_nil
  null := by
    intro r hr' he
    rw [row_eq_of_eventID hr' hr he]
    exact hnull
  handed := List.not_mem_nil
  letters := fun _ hd => absurd hd List.not_mem_nil

theorem Unseen.contract {e : String} {s : State} (h : Unseen e s) {m : Int} (hm : 1 ≤ m) :
    RetryContract e m s := by
  have hzero : s.handed.count e = 0 := List.count_eq_zero.mpr h.handed
  refine ⟨by rw [hzero]; omega, fun heq => ?_, fun d hd hde => absurd hde (h.letters d hd)⟩
  rw [hzero] at heq
  omega

/-- The only row is claimable but for its retry time, it can be decoded, and no worker is busy;
`k` attempts have been made. -/
structure Ready (e : String) (m : Int) (k : Nat) (s : State) : Prop where
  row : ∃ r, s.outbox.rows = [r] ∧ r.eventID = e ∧ r.maxRetries = m ∧ r.retryCount = 0 ∧
    r.errorMessage ≠ none ∧ (r.status = .pending ∨ r.status = .failed)
  idle : ∀ w, s.worker w = .idle
  handed : s.handed = List.replicate k e
  letters : s.deadLetter = []

/-- Worker 0 has failed to publish the only row, for the `k`-th time. -/
structure Attempted (e : String) (m : Int) (k : Nat) (s : State) : Prop where
  row : ∃ r, s.outbox.rows = [r] ∧ r.eventID = e ∧ r.maxRetries = m ∧ r.retryCount = 0 ∧
    r.errorMessage ≠ none ∧ r.status = .processing
  busy : ∃ event, s.worker 0 = .running event [] (.failed "down") ∧ event.eventID = e ∧
    event.maxRetries = m ∧ event.retryCount = 0
  idle : ∀ w, w ≠ 0 → s.worker w = .idle
  handed : s.handed = List.replicate k e
  letters : s.deadLetter = []

theorem claims_sole {t : OutboxTable} {r : OutboxRow} {now : Time} {limit : Nat}
    (hrows : t.rows = [r]) (hlimit : 1 ≤ limit) (hc : claimable now r) : Claims t now limit [r.id] := by
  refine ⟨List.nodup_singleton _, hlimit, ?_, ?_⟩
  · intro i hi
    exact ⟨r, by simp [hrows], (List.mem_singleton.mp hi).symm, hc⟩
  · intro q hq _ hni
    rw [hrows] at hq
    exact absurd (List.mem_singleton.mp hq ▸ List.mem_singleton_self _) hni

theorem step_fetchAndLock_sole {s : State} {r : OutboxRow} (hrows : s.outbox.rows = [r])
    (hidle : s.worker 0 = .idle) (hc : claimable s.now r) (hmsg : r.errorMessage ≠ none) :
    step s (.fetchAndLock 0 [r.id]) =
      some ({ s with outbox := claim s.outbox [r.id] }.setWorker 0
        (.running (decodeEvent (claimedRow r)) [] .publishing)) := by
  have hr : r ∈ s.outbox.rows := by simp [hrows]
  have hclaims : Claims s.outbox s.now batchSize.toNat [r.id] := claims_sole hrows (by decide) hc
  have hall : ∀ q ∈ s.outbox.rows, q.id ∈ [r.id] → q.errorMessage ≠ none := by
    intro q hq _
    rw [hrows] at hq
    rw [List.mem_singleton.mp hq]
    exact hmsg
  have hret : returning (claim s.outbox [r.id]) [r.id] = [claimedRow r] := by
    simp only [returning, List.filterMap_cons, find_claimed hr (List.mem_singleton_self _),
      List.filterMap_nil]
  simp only [step, hidle, hclaims, and_self, if_true,
    fetchAndLock_ok (show 0 ≤ batchSize by decide) hclaims.sound hall, hret, List.map_cons,
    List.map_nil, Worker.loop]

theorem claimable_later {r : OutboxRow} (hst : r.status = .pending ∨ r.status = .failed)
    (now : Time) : ∃ n : Nat, claimable (now + n) r := by
  have hstatus : (r.status = .pending || r.status = .failed) = true := by
    rcases hst with hst | hst <;> simp [hst]
  cases hn : r.nextRetryAt with
  | none => exact ⟨0, by simp [claimable, hn, hstatus]⟩
  | some t =>
    refine ⟨(t - now).toNat, ?_⟩
    have hle : t ≤ now + ((t - now).toNat : Int) :=
      Int.le_add_of_sub_left_le (Int.self_le_toNat (t - now))
    simpa [claimable, hn, hstatus] using hle

/-- Waiting for the retry time, a fetch and a failed `Publish`. -/
theorem Ready.attempt {e : String} {m : Int} {k : Nat} {s : State} (h : Ready e m k s) :
    ∃ s', Transition.Reach step (Failing e) s s' ∧ Attempted e m (k + 1) s' := by
  obtain ⟨r, hrows, hre, hmax, hcount, hmsg, hst⟩ := h.row
  obtain ⟨n, hn⟩ := claimable_later hst s.now
  have htick : step s (.tick n) = some { s with now := s.now + n } := rfl
  have hfetch := step_fetchAndLock_sole (s := { s with now := s.now + n }) hrows (h.idle 0) hn hmsg
  refine ⟨_, (((Transition.Reach.refl s).next trivial htick).next trivial hfetch).next
    (a := .publish 0 (some "down")) ?_ rfl, ?_⟩
  · intro event rest phase _ _
    simp
  · refine ⟨⟨claimedRow r, ?_⟩, ⟨decodeEvent (claimedRow r), ?_⟩, ?_, ?_, h.letters⟩
    · simp [State.setWorker, hrows, claimedRow_eq, hre, hmax, hcount, hmsg]
    · simp [State.setWorker, claimedRow_eq, decodeEvent, hre, hmax, hcount]
    · intro w hw
      simpa [State.setWorker, hw] using h.idle w
    · simp [State.setWorker, decodeEvent, claimedRow_eq, hre, h.handed, List.replicate_succ]

theorem markFailed_sole {t : OutboxTable} {r : OutboxRow} (msg : String) (next : Option Time)
    (hrows : t.rows = [r]) (hst : r.status = .processing) :
    ∃ t' q, markFailed t r.eventID msg next = (t', .ok ()) ∧ t'.rows = [q] ∧
      q.eventID = r.eventID ∧ q.maxRetries = r.maxRetries ∧ q.retryCount = r.retryCount ∧
      q.errorMessage = some msg ∧ q.status = .failed := by
  have hp : inProcessing r.eventID r = true := inProcessing_iff.mpr ⟨rfl, hst⟩
  let new : OutboxRow :=
    { r with status := .failed, errorMessage := some msg, nextRetryAt := next,
             version := r.version + 1 }
  refine ⟨_, updateOutboxVersion r new, Prod.ext rfl (if_pos ?_), ?_, ?_⟩
  · simp [hrows, hp]
  · simp [markFailed, markProcessing, updateWhere, hrows, hp, new]
  · simp [updateOutboxVersion_fields, new]

/-- `retry_count` stays 0 in the table, so a second attempt is never the last one. -/
theorem Attempted.retry {e : String} {m : Int} {k : Nat} {s : State} (h : Attempted e m k s)
    (hm : 2 ≤ m) : ∃ s', Transition.Reach step (Failing e) s s' ∧ Ready e m k s' := by
  obtain ⟨r, hrows, hre, hmax, hcount, hmsg, hst⟩ := h.row
  obtain ⟨event, hw, hee, hemax, hecount⟩ := h.busy
  have hlt : ¬(event.retried.retryCount ≥ event.retried.maxRetries) := by
    simp only [OutboxEvent.retried, hemax, hecount]
    omega
  have hstep : step s (.handleFailure 0 .none) =
      some ((handleFailure s event "down" .none).setWorker 0 .idle) := by
    simp only [step, hw, Worker.loop]
  refine ⟨_, (Transition.Reach.refl s).next (a := .handleFailure 0 .none) rfl hstep, ?_⟩
  have hid : event.retried.eventID = r.eventID := hee.trans hre.symm
  obtain ⟨t', q, hmark, hrows', hid', hmax', hcount', hmsg', hst'⟩ :=
    markFailed_sole "down" (some (s.now +
      calculateOutboxBackoff event.retried.retryCount event.retried.maxRetries * second)) hrows hst
  simp only [handleFailure, hlt, if_false, hid, hmark]
  refine ⟨⟨q, hrows', hid'.trans hre, hmax'.trans hmax, hcount'.trans hcount, by simp [hmsg'],
    Or.inr hst'⟩, ?_, h.handed, h.letters⟩
  intro w
  by_cases hw0 : w = 0
  · subst w
    simp [State.setWorker]
  · simpa [State.setWorker, hw0] using h.idle w hw0

/-- With a limit of one the first failure is the last, and its dead letter counts no attempt. -/
theorem Attempted.bury {e : String} {s : State} (h : Attempted e 1 1 s) :
    ∃ s', Transition.Reach step (Failing e) s s' ∧ ¬RetryContract e 1 s' := by
  obtain ⟨r, hrows, hre, hmax, hcount, hmsg, hst⟩ := h.row
  obtain ⟨event, hw, hee, hemax, hecount⟩ := h.busy
  have hge : event.retried.retryCount ≥ event.retried.maxRetries := by
    simp only [OutboxEvent.retried, hemax, hecount]
    omega
  have hid : event.retried.eventID = e := hee
  have hstep : step s (.handleFailure 0 .none) =
      some ((handleFailure s event "down" .none).setWorker 0 .idle) := by
    simp only [step, hw, Worker.loop]
  refine ⟨_, (Transition.Reach.refl s).next (a := .handleFailure 0 .none) rfl hstep, ?_⟩
  intro hc
  have hmove : moveToDeadLetter s.outbox s.deadLetter s.now event.retried "down" =
      .ok (s.outbox.delete (fun q => q.eventID = e),
        [{ originalEventID := r.eventID, originalAggregateType := r.aggregateType,
           originalAggregateID := r.aggregateID, eventType := r.eventType, payload := r.payload,
           errorMessage := "down", retryCount := r.retryCount, firstFailedAt := r.createdAt,
           deadLetterAt := s.now }]) := by
    simp [moveToDeadLetter, hrows, hid, hre, h.letters]
  have hcounted := hc.counted
  simp [handleFailure, hge, hmove, State.setWorker, hre, h.handed, hcount] at hcounted

theorem Ready.rounds {e : String} {m : Int} {s : State} (h : Ready e m 0 s) (hm : 2 ≤ m) (k : Nat) :
    ∃ s', Transition.Reach step (Failing e) s s' ∧ Ready e m k s' := by
  induction k with
  | zero => exact ⟨s, Transition.Reach.refl s, h⟩
  | succ k ih =>
    obtain ⟨s₁, h₁, hr⟩ := ih
    obtain ⟨s₂, h₂, ha⟩ := hr.attempt
    obtain ⟨s₃, h₃, hr'⟩ := ha.retry hm
    exact ⟨s₃, (h₁.trans h₂).trans h₃, hr'⟩

/-- Once an event can be decoded, it outlives every limit of two or more and is buried uncounted
under a limit of one. -/
theorem Ready.breaks {e : String} {m : Int} {s : State} (h : Ready e m 0 s) (hm : 1 ≤ m) :
    ∃ s', Transition.Reach step (Failing e) s s' ∧ ¬RetryContract e m s' := by
  by_cases hm1 : m = 1
  · subst m
    obtain ⟨s₁, h₁, ha⟩ := h.attempt
    obtain ⟨s₂, h₂, hb⟩ := ha.bury
    exact ⟨s₂, h₁.trans h₂, hb⟩
  · obtain ⟨s', hs, hr⟩ := h.rounds (by omega) (m.toNat + 1)
    refine ⟨s', hs, fun hc => ?_⟩
    have hle := hc.atMost
    rw [hr.handed, List.count_replicate_self] at hle
    omega

theorem Ready.start {row : OutboxRow} (hst : row.status = .pending) (hcount : row.retryCount = 0)
    (hmsg : row.errorMessage ≠ none) (now : Time) :
    Ready row.eventID row.maxRetries 0
      (State.start ⟨[row], List.pairwise_singleton _ _⟩ now) where
  row := ⟨row, rfl, rfl, rfl, hcount, hmsg, Or.inl hst⟩
  idle := fun _ => rfl
  handed := rfl
  letters := rfl

/-- The retry contract holds of a pending event exactly when its row has a NULL `error_message`,
that is when no worker can ever decode it and hand it to `Publish`. -/
theorem retryContract_iff_undecodable {row : OutboxRow} (hst : row.status = .pending)
    (hcount : row.retryCount = 0) (hmax : 1 ≤ row.maxRetries) :
    (∀ (t : OutboxTable) (now : Time) (s : State), row ∈ t.rows →
      Transition.Reach step (Failing row.eventID) (State.start t now) s →
        RetryContract row.eventID row.maxRetries s) ↔ row.errorMessage = none := by
  constructor
  · intro hall
    by_contra hmsg
    obtain ⟨s, hs, hb⟩ := (Ready.start hst hcount hmsg 0).breaks hmax
    exact hb (hall _ 0 s (List.mem_singleton_self row) hs)
  · intro hnull t now s hr hs
    have hunseen : Unseen row.eventID s :=
      hs.invariant (Unseen.start hr hnull now) (fun _ _ _ hi _ hst => hi.step hst)
    exact hunseen.contract hmax

theorem retryContract_iff_undecodable_sample :
    ¬∀ (t : OutboxTable) (now : Time) (s : State), sampleRow (some "") 5 (by decide) ∈ t.rows →
      Transition.Reach step (Failing "evt-1") (State.start t now) s → RetryContract "evt-1" 5 s := by
  have h := @retryContract_iff_undecodable (sampleRow (some "") 5 (by decide)) rfl rfl (by decide)
  exact fun hall => absurd (h.mp hall) (by decide)

/-- Three attempts under a limit of two. -/
theorem retried_past_limit_counterexample :
    ∃ s, Transition.Reach step (Failing "evt-1")
        (State.start ⟨[sampleRow (some "") 2 (by decide)], List.pairwise_singleton _ _⟩ 0) s ∧
      s.handed.count "evt-1" = 3 ∧ s.deadLetter = [] ∧ ¬RetryContract "evt-1" 2 s := by
  have h0 := @Ready.start (sampleRow (some "") 2 (by decide)) rfl rfl (by decide) 0
  obtain ⟨s, hs, hr⟩ := h0.rounds (by decide) 3
  have hthree : s.handed.count "evt-1" = 3 := by
    rw [hr.handed]
    exact List.count_replicate_self
  refine ⟨s, hs, hthree, hr.letters, fun hc => ?_⟩
  have hle := hc.atMost
  rw [hthree] at hle
  omega

end SupplyPlatform.Outbox
