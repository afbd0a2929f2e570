import SupplyPlatform.OutboxRunner

namespace SupplyPlatform.Outbox

open Relational

attribute [local simp] step

variable {s s' : State} {w : Nat}

/-- The row a creating step inserts. -/
theorem step_create {id : Int} {event : OutboxEvent} (hs : step s (.create id event) = some s') :
    event.eventID ∉ s.created ∧ ∃ (row : OutboxRow) (t : OutboxTable),
      row.eventID = event.eventID ∧ row.status = event.status ∧ row.errorMessage = none ∧
      row.processedAt = none ∧ s.outbox.insert row = some t ∧
      s' = { s with outbox := t, created := event.eventID :: s.created } := by
  simp only [step, create] at hs
  split at hs
  next => simp at hs
  next hnew =>
    split at hs
    next t e hc =>
      cases Option.some.inj hs
      split at hc
      next =>
        split at hc
        next t' ht =>
          simp only [Except.ok.injEq, Prod.mk.injEq] at hc
          obtain ⟨rfl, rfl⟩ := hc
          exact ⟨hnew, _, t', rfl, rfl, rfl, rfl, ht, rfl⟩
        next => simp at hc
      next => simp at hc
    next => simp at hs

/-- What a claiming step does: the rows are claimed, and the worker gets the whole batch or nothing. -/
theorem step_fetchAndLock {ids : List Int} (h : step s (.fetchAndLock w ids) = some s') :
    s.worker w = .idle ∧ Claims s.outbox s.now batchSize.toNat ids ∧
      (((∀ r ∈ s.outbox.rows, r.id ∈ ids → r.errorMessage ≠ none) ∧
          s' = { s with outbox := claim s.outbox ids }.setWorker w
            (Worker.loop ((returning (claim s.outbox ids) ids).map decodeEvent))) ∨
        ((∃ r ∈ s.outbox.rows, r.id ∈ ids ∧ r.errorMessage = none) ∧
          s' = { s with outbox := claim s.outbox ids })) := by
  simp only [step] at h
  split at h
  next hc =>
    refine ⟨hc.1, hc.2, ?_⟩
    by_cases hall : ∀ r ∈ s.outbox.rows, r.id ∈ ids → r.errorMessage ≠ none
    · rw [fetchAndLock_ok (show 0 ≤ batchSize by decide) hc.2.sound hall] at h
      exact Or.inl ⟨hall, (Option.some.inj h).symm⟩
    · push Not at hall
      obtain ⟨r, hr, hi, hnone⟩ := hall
      obtain ⟨e, he⟩ := fetchAndLock_error (show 0 ≤ batchSize by decide) hc.2.sound hr hi hnone
      rw [he] at h
      exact Or.inr ⟨⟨r, hr, hi, hnone⟩, (Option.some.inj h).symm⟩
  next => simp at h

/-- The event at the head of the batch is handed over, and its worker stays with it. -/
theorem step_publish {err : Option String} (hs : step s (.publish w err) = some s') :
    ∃ event rest phase published, s.worker w = .running event rest .publishing ∧
      s' = { s with handed := event.eventID :: s.handed, published := published }.setWorker w
        (.running event rest phase) ∧ s.published ⊆ published ∧
      (phase = .published → event.eventID ∈ published) := by
  simp only [step] at hs
  split at hs
  next event rest hw =>
    cases err with
    | none =>
      exact ⟨event, rest, .published, _, hw, (Option.some.inj hs).symm, List.subset_cons_self _ _,
        fun _ => List.mem_cons_self⟩
    | some msg =>
      exact ⟨event, rest, .failed msg, s.published, hw, (Option.some.inj hs).symm, fun _ h => h,
        fun h => by simp at h⟩
  next => simp at hs

theorem step_markCompleted {fault : Fault} (hs : step s (.markCompleted w fault) = some s') :
    ∃ event rest, s.worker w = .running event rest .published ∧
      s' = (complete s event fault).setWorker w (Worker.loop rest) := by
  simp only [step] at hs
  split at hs
  next event rest hw => exact ⟨event, rest, hw, (Option.some.inj hs).symm⟩
  next => simp at hs

theorem step_handleFailure {fault : Fault} (hs : step s (.handleFailure w fault) = some s') :
    ∃ event rest msg, s.worker w = .running event rest (.failed msg) ∧
      s' = (handleFailure s event msg fault).setWorker w (Worker.loop rest) := by
  simp only [step] at hs
  split at hs
  next event rest msg hw => exact ⟨event, rest, msg, hw, (Option.some.inj hs).symm⟩
  next => simp at hs

end SupplyPlatform.Outbox
