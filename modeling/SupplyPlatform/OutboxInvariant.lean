import SupplyPlatform.OutboxMarks
import SupplyPlatform.OutboxStep

namespace SupplyPlatform.Outbox

open Relational Holding

/-- What every step keeps: ownership is exclusive and of rows in `processing`, the two tables are
disjoint, and a row with a processing time has been published and marked. -/
structure Inv (s : State) : Prop where
  exclusive : Exclusive (fun w => (s.worker w).held)
  heldRow : ∀ w e, e ∈ (s.worker w).held →
    ∃ r ∈ s.outbox.rows, r.eventID = e ∧ r.status = .processing
  lettersNodup : (s.deadLetter.map (·.originalEventID)).Nodup
  lettersGone : ∀ d ∈ s.deadLetter, ∀ r ∈ s.outbox.rows, r.eventID ≠ d.originalEventID
  rowsCreated : ∀ r ∈ s.outbox.rows, r.eventID ∈ s.created
  lettersCreated : ∀ d ∈ s.deadLetter, d.originalEventID ∈ s.created
  publishedHead : ∀ w event rest, s.worker w = .running event rest .published →
    event.eventID ∈ s.published
  processed : ∀ r ∈ s.outbox.rows, r.processedAt ≠ none →
    r.eventID ∈ s.published ∧ r.eventID ∈ s.marked

@[simp] theorem held_loop (events : List OutboxEvent) :
    (Worker.loop events).held = events.map (·.eventID) := by
  cases events <;> rfl

theorem held_setWorker (s : State) (w : Nat) (x : Worker) :
    (fun v => ((s.setWorker w x).worker v).held) =
      Function.update (fun v => (s.worker v).held) w x.held := by
  funext v
  by_cases hv : v = w
  · subst v; simp [State.setWorker]
  · simp [State.setWorker, hv]

theorem loop_ne_published (events : List OutboxEvent) (event : OutboxEvent)
    (rest : List OutboxEvent) : Worker.loop events ≠ .running event rest .published := by
  cases events <;> simp [Worker.loop]

/-- A worker may move on to a part of what it holds. -/
theorem Inv.release {s : State} (h : Inv s) {w : Nat} {x : Worker}
    (hs : x.held.Sublist (s.worker w).held)
    (hp : ∀ event rest, x = .running event rest .published → event.eventID ∈ s.published) :
    Inv (s.setWorker w x) where
  exclusive := by
    rw [held_setWorker]
    exact h.exclusive.release hs
  heldRow := by
    intro v e he
    by_cases hv : v = w
    · subst v
      exact h.heldRow w e (hs.subset (by simpa [State.setWorker] using he))
    · exact h.heldRow v e (by simpa [State.setWorker, hv] using he)
  lettersNodup := h.lettersNodup
  lettersGone := h.lettersGone
  rowsCreated := h.rowsCreated
  lettersCreated := h.lettersCreated
  publishedHead := by
    intro v event rest hr
    by_cases hv : v = w
    · subst v
      exact hp event rest (by simpa [State.setWorker] using hr)
    · exact h.publishedHead v event rest (by simpa [State.setWorker, hv] using hr)
  processed := h.processed

/-- The event a worker has just finished with is held by nobody once it moves on. -/
theorem Inv.finished_free {s : State} (h : Inv s) {w : Nat} {event : OutboxEvent}
    {rest : List OutboxEvent} {phase : Phase} (hw : s.worker w = .running event rest phase)
    (v : Nat) : event.eventID ∉ ((s.setWorker w (Worker.loop rest)).worker v).held := by
  have hheld : (s.worker w).held = event.eventID :: rest.map (·.eventID) := by rw [hw]; rfl
  intro he
  by_cases hv : v = w
  · subst v
    have hn := h.exclusive.nodup w
    rw [hheld] at hn
    have hmem : event.eventID ∈ rest.map (·.eventID) := by simpa [State.setWorker] using he
    exact (List.nodup_cons.mp hn).1 hmem
  · have hmem : event.eventID ∈ (s.worker v).held := by simpa [State.setWorker, hv] using he
    exact hv (h.exclusive.once hmem (by rw [hheld]; simp))

/-- A mark of an event nobody holds. -/
theorem Inv.mark {s : State} (h : Inv s) {e : String} {set : OutboxRow → OutboxRow}
    {keys : ∀ r, (set r).id = r.id ∧ (set r).eventID = r.eventID} {marked : List String}
    (hfree : ∀ w, e ∉ (s.worker w).held) (hmarked : s.marked ⊆ marked)
    (hset : ∀ r ∈ s.outbox.rows, inProcessing e r → (set r).processedAt ≠ none →
      e ∈ s.published ∧ e ∈ marked) (stats : List Stat) :
    Inv { s with outbox := updateWhere s.outbox (inProcessing e) set keys, stats := stats,
                 marked := marked } where
  exclusive := h.exclusive
  heldRow := by
    intro w e' he'
    obtain ⟨r, hr, hre, hst⟩ := h.heldRow w e' he'
    have hne : r.eventID ≠ e := by
      intro heq
      exact hfree w (heq ▸ hre ▸ he')
    exact ⟨r, mem_mark_of_ne keys hr hne, hre, hst⟩
  lettersNodup := h.lettersNodup
  lettersGone := by
    intro d hd q hq
    obtain ⟨r, hr, hqe, _⟩ := mem_mark keys hq
    rw [hqe]
    exact h.lettersGone d hd r hr
  rowsCreated := by
    intro q hq
    obtain ⟨r, hr, hqe, _⟩ := mem_mark keys hq
    rw [hqe]
    exact h.rowsCreated r hr
  lettersCreated := h.lettersCreated
  publishedHead := h.publishedHead
  processed := by
    intro q hq hp
    obtain ⟨r, hr, hqe, hcase⟩ := mem_mark keys hq
    rw [hqe]
    rcases hcase with ⟨_, rfl⟩ | ⟨hre, rfl⟩
    · exact (h.processed q hr hp).imp_right (fun hm => hmarked hm)
    · rw [(updateOutboxVersion_fields _ _).2.2.1] at hp
      have hout := hset r hr hre hp
      rwa [← (inProcessing_iff.mp hre).1] at hout

/-- A move to the dead letter table of an event nobody holds. -/
theorem Inv.bury {s : State} (h : Inv s) {event : OutboxEvent} {msg : String} {t : OutboxTable}
    {letters : List DeadLetterRow} (hfree : ∀ w, event.eventID ∉ (s.worker w).held)
    (hm : moveToDeadLetter s.outbox s.deadLetter s.now event msg = .ok (t, letters))
    (stats : List Stat) :
    Inv { s with outbox := t, deadLetter := letters, stats := stats } := by
  obtain ⟨original, horig, hoe, rfl, d, rfl, hde, _⟩ := moveToDeadLetter_ok hm
  have hnew : ∀ d' ∈ s.deadLetter, d'.originalEventID ≠ event.eventID := by
    intro d' hd' heq
    exact h.lettersGone d' hd' original horig (hoe.trans heq.symm)
  refine ⟨h.exclusive, ?_, ?_, ?_, ?_, ?_, h.publishedHead, ?_⟩
  · intro w e he
    obtain ⟨r, hr, hre, hst⟩ := h.heldRow w e he
    have hne : r.eventID ≠ event.eventID := by
      intro heq
      exact hfree w (heq ▸ hre ▸ he)
    exact ⟨r, mem_deleteEvent.mpr ⟨hr, hne⟩, hre, hst⟩
  · simp only [List.map_append, List.map_cons, List.map_nil, hde]
    refine List.Nodup.append h.lettersNodup (List.nodup_singleton _) ?_
    intro e he he'
    obtain ⟨d', hd', rfl⟩ := List.mem_map.mp he
    exact hnew d' hd' (List.mem_singleton.mp he')
  · intro d' hd' r hr
    obtain ⟨hr, hne⟩ := mem_deleteEvent.mp hr
    rcases List.mem_append.mp hd' with hd' | hd'
    · exact h.lettersGone d' hd' r hr
    · rw [List.mem_singleton.mp hd', hde]
      exact hne
  · exact fun r hr => h.rowsCreated r (mem_deleteEvent.mp hr).1
  · intro d' hd'
    rcases List.mem_append.mp hd' with hd' | hd'
    · exact h.lettersCreated d' hd'
    · rw [List.mem_singleton.mp hd', hde, ← hoe]
      exact h.rowsCreated original horig
  · exact fun r hr => h.processed r (mem_deleteEvent.mp hr).1

theorem Inv.withStats {s : State} (h : Inv s) (stats : List Stat) : Inv { s with stats := stats } :=
  ⟨h.exclusive, h.heldRow, h.lettersNodup, h.lettersGone, h.rowsCreated, h.lettersCreated,
    h.publishedHead, h.processed⟩

theorem Inv.complete {s : State} (h : Inv s) {event : OutboxEvent} {fault : Fault}
    (hfree : ∀ w, event.eventID ∉ (s.worker w).held) (hp : event.eventID ∈ s.published) :
    Inv (complete s event fault) := by
  unfold Outbox.complete
  split
  next => exact h.withStats _
  next t hm =>
    obtain ⟨rfl, _⟩ := markProcessing_cases hm
    exact h.mark hfree (List.subset_cons_self _ _)
      (fun _ _ _ _ => ⟨hp, List.mem_cons_self⟩) _
  next t _ hm =>
    obtain ⟨rfl, _⟩ := markProcessing_cases hm
    exact h.mark hfree (List.subset_cons_self _ _)
      (fun _ _ _ _ => ⟨hp, List.mem_cons_self⟩) _
  next t e _ hm =>
    obtain ⟨rfl, hcase⟩ := markProcessing_cases hm
    have hnone := (hcase.resolve_left (fun hok => by simp at hok)).2
    exact h.mark hfree (fun _ hx => hx) (fun r hr hre _ => absurd hre (hnone r hr)) _

theorem Inv.handleFailure {s : State} (h : Inv s) {event : OutboxEvent} {msg : String}
    {fault : Fault} (hfree : ∀ w, event.eventID ∉ (s.worker w).held) :
    Inv (handleFailure s event msg fault) := by
  have hmark : ∀ (next : Option Time) (t : OutboxTable) (res : Except RepoError Unit)
      (stats : List Stat), markFailed s.outbox event.eventID msg next = (t, res) →
      Inv { s with outbox := t, stats := stats } := by
    intro next t res stats hm
    obtain ⟨rfl, _⟩ := markProcessing_cases hm
    refine h.mark hfree (fun _ hx => hx) ?_ stats
    intro r hr hre hp
    rw [← (inProcessing_iff.mp hre).1]
    exact h.processed r hr hp
  unfold Outbox.handleFailure
  dsimp only
  split
  · split
    next t letters hm => exact h.bury hfree hm _
    next t letters hm => exact h.bury hfree hm _
    next => exact h.withStats _
  · split
    next => exact h.withStats _
    next t hm => exact hmark _ _ _ _ hm
    next t _ _ _ hm => exact hmark _ _ _ _ hm

theorem Inv.create {s s' : State} (h : Inv s) {id : Int} {event : OutboxEvent}
    (hs : Outbox.step s (.create id event) = some s') : Inv s' := by
  obtain ⟨hnew, row, t, hid, _, _, hnone, ht, rfl⟩ := step_create hs
  have hmem := fun q => Table.mem_of_insert (q := q) ht
  refine ⟨h.exclusive, ?_, h.lettersNodup, ?_, ?_, ?_, h.publishedHead, ?_⟩
  · intro w e he
    obtain ⟨r, hr, hre⟩ := h.heldRow w e he
    exact ⟨r, (hmem r).mpr (Or.inl hr), hre⟩
  · intro d hd r hr
    rcases (hmem r).mp hr with hr | rfl
    · exact h.lettersGone d hd r hr
    · intro heq
      rw [hid] at heq
      exact hnew (heq ▸ h.lettersCreated d hd)
  · intro r hr
    rcases (hmem r).mp hr with hr | rfl
    · exact List.mem_cons_of_mem _ (h.rowsCreated r hr)
    · rw [hid]
      exact List.mem_cons_self
  · exact fun d hd => List.mem_cons_of_mem _ (h.lettersCreated d hd)
  · intro r hr hp
    rcases (hmem r).mp hr with hr | rfl
    · exact h.processed r hr hp
    · exact absurd hnone hp

/-- The claimed rows, decoded or not, were held by nobody and stay apart from what is held. -/
theorem Inv.claim {s : State} (h : Inv s) {limit : Nat} {ids : List Int}
    (hc : Claims s.outbox s.now limit ids) : Inv { s with outbox := claim s.outbox ids } where
  exclusive := h.exclusive
  heldRow := by
    intro w e he
    obtain ⟨r, hr, hre, hst⟩ := h.heldRow w e he
    exact ⟨r, (mem_claim_of_processing hc hr hst).2, hre, hst⟩
  lettersNodup := h.lettersNodup
  lettersGone := by
    intro d hd q hq
    obtain ⟨r, hr, hqe, _⟩ := mem_claim hq
    rw [hqe]
    exact h.lettersGone d hd r hr
  rowsCreated := by
    intro q hq
    obtain ⟨r, hr, hqe, _⟩ := mem_claim hq
    rw [hqe]
    exact h.rowsCreated r hr
  lettersCreated := h.lettersCreated
  publishedHead := h.publishedHead
  processed := by
    intro q hq hp
    obtain ⟨r, hr, hqe, hqp, _⟩ := mem_claim hq
    rw [hqe]
    exact h.processed r hr (hqp ▸ hp)

theorem returned_nodup {t : OutboxTable} {ids : List Int} (hn : ids.Nodup)
    (hsound : ∀ i ∈ ids, ∃ r ∈ t.rows, r.id = i) :
    ((returning (claim t ids) ids).map (·.eventID)).Nodup := by
  have hids := returning_claim_ids ids (fun i hi => ⟨hi, hsound i hi⟩)
  have hrows : ∀ q ∈ returning (claim t ids) ids, q ∈ (claim t ids).rows := by
    intro q hq
    obtain ⟨r, hr, hi, rfl⟩ := (mem_returning_claim hsound).mp hq
    exact claimedRow_mem hr hi
  have hnodup : (returning (claim t ids) ids).Nodup := by
    rw [← hids] at hn
    exact List.Nodup.of_map _ hn
  refine List.Nodup.map_on ?_ hnodup
  intro a ha b hb hab
  exact row_eq_of_eventID (hrows a ha) (hrows b hb) hab

theorem Inv.fetched {s : State} (h : Inv s) {w limit : Nat} {ids : List Int}
    (hc : Claims s.outbox s.now limit ids) :
    Inv ({ s with outbox := Outbox.claim s.outbox ids }.setWorker w
      (Worker.loop ((returning (Outbox.claim s.outbox ids) ids).map decodeEvent))) := by
  have hclaim := h.claim hc
  have hheld : (Worker.loop ((returning (Outbox.claim s.outbox ids) ids).map decodeEvent)).held =
      (returning (Outbox.claim s.outbox ids) ids).map (·.eventID) := by
    simp [Function.comp_def, decodeEvent]
  have hrow : ∀ e ∈ (returning (Outbox.claim s.outbox ids) ids).map (·.eventID),
      ∃ r ∈ s.outbox.rows, r.id ∈ ids ∧ r.eventID = e ∧ claimedRow r ∈ (Outbox.claim s.outbox ids).rows := by
    intro e he
    obtain ⟨q, hq, rfl⟩ := List.mem_map.mp he
    obtain ⟨r, hr, hi, rfl⟩ := (mem_returning_claim hc.sound).mp hq
    exact ⟨r, hr, hi, by rw [claimedRow_eq], claimedRow_mem hr hi⟩
  refine ⟨?_, ?_, h.lettersNodup, hclaim.lettersGone, hclaim.rowsCreated, h.lettersCreated, ?_,
    hclaim.processed⟩
  · rw [held_setWorker, hheld]
    refine h.exclusive.take (returned_nodup hc.1 hc.sound) ?_
    intro e he v _ hv
    obtain ⟨r, hr, hi, hre, _⟩ := hrow e he
    obtain ⟨r', hr', hre', hst⟩ := h.heldRow v e hv
    have heq := row_eq_of_eventID hr' hr (hre'.trans hre.symm)
    subst r'
    exact (mem_claim_of_processing hc hr hst).1 hi
  · intro v e he
    by_cases hv : v = w
    · subst v
      have he' : e ∈ (returning (Outbox.claim s.outbox ids) ids).map (·.eventID) := by
        rw [← hheld]
        simpa [State.setWorker] using he
      obtain ⟨r, _, _, hre, hm⟩ := hrow e he'
      exact ⟨claimedRow r, hm, by rw [claimedRow_eq]; exact hre, by rw [claimedRow_eq]⟩
    · exact hclaim.heldRow v e (by simpa [State.setWorker, hv] using he)
  · intro v event rest hr
    by_cases hv : v = w
    · subst v
      exact absurd (by simpa [State.setWorker] using hr) (loop_ne_published _ event rest)
    · exact h.publishedHead v event rest (by simpa [State.setWorker, hv] using hr)

theorem Inv.log {s : State} (h : Inv s) {handed published : List String}
    (hp : s.published ⊆ published) : Inv { s with handed := handed, published := published } :=
  ⟨h.exclusive, h.heldRow, h.lettersNodup, h.lettersGone, h.rowsCreated, h.lettersCreated,
    fun w event rest hr => hp (h.publishedHead w event rest hr),
    fun r hr hq => (h.processed r hr hq).imp_left (fun hm => hp hm)⟩

theorem complete_setWorker (s : State) (event : OutboxEvent) (fault : Fault) (w : Nat) (x : Worker) :
    (complete s event fault).setWorker w x = complete (s.setWorker w x) event fault := by
  simp only [complete, State.setWorker]
  split <;> rfl

theorem handleFailure_setWorker (s : State) (event : OutboxEvent) (msg : String) (fault : Fault)
    (w : Nat) (x : Worker) :
    (handleFailure s event msg fault).setWorker w x =
      handleFailure (s.setWorker w x) event msg fault := by
  simp only [handleFailure, State.setWorker]
  split <;> split <;> rfl

theorem held_loop_sublist {s : State} {w : Nat} {event : OutboxEvent} {rest : List OutboxEvent}
    {phase : Phase} (hw : s.worker w = .running event rest phase) :
    (Worker.loop rest).held.Sublist (s.worker w).held := by
  rw [hw, held_loop]
  exact List.sublist_cons_self _ _

theorem Inv.step {s s' : State} {a : Action} (h : Inv s) (hs : Outbox.step s a = some s') :
    Inv s' := by
  cases a with
  | tick elapsed =>
    cases Option.some.inj hs
    exact ⟨h.exclusive, h.heldRow, h.lettersNodup, h.lettersGone, h.rowsCreated, h.lettersCreated,
      h.publishedHead, h.processed⟩
  | create id event => exact h.create hs
  | fetchAndLock w ids =>
    obtain ⟨_, hc, ⟨_, rfl⟩ | ⟨_, rfl⟩⟩ := step_fetchAndLock hs
    · exact h.fetched hc
    · exact h.claim hc
  | publish w err =>
    obtain ⟨event, rest, phase, published, hw, rfl, hsub, hmem⟩ := step_publish hs
    have hheld : (Worker.running event rest phase).held.Sublist (s.worker w).held := by
      rw [hw]
      exact List.Sublist.refl _
    refine (h.log hsub).release hheld (fun event' rest' heq => ?_)
    cases heq
    exact hmem rfl
  | markCompleted w fault =>
    obtain ⟨event, rest, hw, rfl⟩ := step_markCompleted hs
    rw [complete_setWorker]
    have hp := h.publishedHead w event rest hw
    exact (h.release (held_loop_sublist hw) (fun e r heq => absurd heq (loop_ne_published _ e r))).complete
      (h.finished_free hw) hp
  | handleFailure w fault =>
    obtain ⟨event, rest, msg, hw, rfl⟩ := step_handleFailure hs
    rw [handleFailure_setWorker]
    exact (h.release (held_loop_sublist hw)
      (fun e r heq => absurd heq (loop_ne_published _ e r))).handleFailure (h.finished_free hw)
  | deleteCompleted before =>
    cases Option.some.inj hs
    refine ⟨h.exclusive, ?_, h.lettersNodup, ?_, ?_, h.lettersCreated, h.publishedHead, ?_⟩
    · intro w e he
      obtain ⟨r, hr, hre, hst⟩ := h.heldRow w e he
      exact ⟨r, Table.mem_delete.mpr ⟨hr, by simp [hst]⟩, hre, hst⟩
    · exact fun d hd r hr => h.lettersGone d hd r (Table.mem_delete.mp hr).1
    · exact fun r hr => h.rowsCreated r (Table.mem_delete.mp hr).1
    · exact fun r hr => h.processed r (Table.mem_delete.mp hr).1
  | stop w =>
    cases Option.some.inj hs
    exact h.release (List.nil_sublist _) (fun _ _ heq => by simp at heq)

theorem Inv.start (t : OutboxTable) (now : Time) : Inv (State.start t now) where
  exclusive := exclusive_nil
  heldRow := fun _ _ he => absurd he List.not_mem_nil
  lettersNodup := List.nodup_nil
  lettersGone := fun _ hd => absurd hd List.not_mem_nil
  rowsCreated := fun r hr => List.mem_map.mpr ⟨r, hr, rfl⟩
  lettersCreated := fun _ hd => absurd hd List.not_mem_nil
  publishedHead := fun _ _ _ hr => by simp [State.start] at hr
  processed := by
    intro r hr hp
    have hm : r.eventID ∈ processedIDs t :=
      List.mem_map.mpr ⟨r, List.mem_filter.mpr ⟨hr, Option.isSome_iff_ne_none.mpr hp⟩, rfl⟩
    exact ⟨hm, hm⟩

end SupplyPlatform.Outbox
