import SupplyPlatform.OutboxFetch

namespace SupplyPlatform.Outbox

open Relational

theorem mem_updateWhere {t : OutboxTable} {p : OutboxRow → Bool} {set : OutboxRow → OutboxRow}
    {keys : ∀ r, (set r).id = r.id ∧ (set r).eventID = r.eventID} {q : OutboxRow} :
    q ∈ (updateWhere t p set keys).rows ↔
      ∃ r ∈ t.rows, (if p r then updateOutboxVersion r (set r) else r) = q := by
  simp [updateWhere]

theorem updateOutboxVersion_fields (old new : OutboxRow) :
    (updateOutboxVersion old new).eventID = new.eventID ∧
    (updateOutboxVersion old new).status = new.status ∧
    (updateOutboxVersion old new).processedAt = new.processedAt ∧
    (updateOutboxVersion old new).errorMessage = new.errorMessage ∧
    (updateOutboxVersion old new).retryCount = new.retryCount ∧
    (updateOutboxVersion old new).maxRetries = new.maxRetries := by
  unfold updateOutboxVersion
  split <;> exact ⟨rfl, rfl, rfl, rfl, rfl, rfl⟩

/-- What a mark leaves: the marked row rewritten, every row with another event id untouched. -/
theorem mem_mark {t : OutboxTable} {e : String} {set : OutboxRow → OutboxRow}
    (keys : ∀ r, (set r).id = r.id ∧ (set r).eventID = r.eventID) {q : OutboxRow}
    (hq : q ∈ (updateWhere t (inProcessing e) set keys).rows) :
    ∃ r ∈ t.rows, q.eventID = r.eventID ∧
      ((¬inProcessing e r ∧ q = r) ∨ (inProcessing e r ∧ q = updateOutboxVersion r (set r))) := by
  obtain ⟨r, hr, rfl⟩ := mem_updateWhere.mp hq
  by_cases hp : inProcessing e r = true
  · simp only [hp, if_true]
    exact ⟨r, hr, (updateOutboxVersion_fields _ _).1.trans (keys r).2, Or.inr ⟨hp, rfl⟩⟩
  · simp only [hp, if_false, Bool.false_eq_true]
    exact ⟨r, hr, rfl, Or.inl ⟨hp, rfl⟩⟩

theorem inProcessing_iff {e : String} {r : OutboxRow} :
    inProcessing e r ↔ r.eventID = e ∧ r.status = .processing := by
  simp [inProcessing]

theorem mem_mark_of_ne {t : OutboxTable} {e : String} {set : OutboxRow → OutboxRow}
    (keys : ∀ r, (set r).id = r.id ∧ (set r).eventID = r.eventID) {r : OutboxRow}
    (hr : r ∈ t.rows) (hne : r.eventID ≠ e) : r ∈ (updateWhere t (inProcessing e) set keys).rows :=
  mem_updateWhere.mpr ⟨r, hr, by simp [inProcessing, hne]⟩

theorem markProcessing_cases {t t' : OutboxTable} {e : String} {set : OutboxRow → OutboxRow}
    {keys : ∀ r, (set r).id = r.id ∧ (set r).eventID = r.eventID} {res : Except RepoError Unit}
    (h : markProcessing t e set keys = (t', res)) :
    t' = updateWhere t (inProcessing e) set keys ∧
      ((res = .ok () ∧ ∃ r ∈ t.rows, inProcessing e r) ∨
        (res = .error notProcessing ∧ ∀ r ∈ t.rows, ¬inProcessing e r)) := by
  obtain ⟨rfl, rfl⟩ := Prod.mk.inj h
  refine ⟨rfl, ?_⟩
  by_cases hany : t.rows.any (inProcessing e) = true
  · exact Or.inl ⟨if_pos hany, by simpa using hany⟩
  · exact Or.inr ⟨if_neg hany, by simpa using hany⟩

theorem markProcessing_mem {t t' : OutboxTable} {e : String} {set : OutboxRow → OutboxRow}
    {keys : ∀ r, (set r).id = r.id ∧ (set r).eventID = r.eventID} {res : Except RepoError Unit}
    {q : OutboxRow} (h : markProcessing t e set keys = (t', res)) (hq : q ∈ t'.rows) :
    (q ∈ t.rows ∧ ¬inProcessing e q) ∨
      ∃ r ∈ t.rows, inProcessing e r ∧ q = updateOutboxVersion r (set r) := by
  obtain ⟨rfl, _⟩ := markProcessing_cases h
  obtain ⟨r, hr, _, ⟨hn, rfl⟩ | ⟨hp, rfl⟩⟩ := mem_mark keys hq
  · exact Or.inl ⟨hr, hn⟩
  · exact Or.inr ⟨r, hr, hp, rfl⟩

theorem moveToDeadLetter_error {t : OutboxTable} {letters : List DeadLetterRow} {now : Time}
    {event : OutboxEvent} {msg : String} {err : RepoError}
    (h : moveToDeadLetter t letters now event msg = .error err) :
    ∀ r ∈ t.rows, r.eventID ≠ event.eventID := by
  unfold moveToDeadLetter at h
  split at h
  next hf => simpa using hf
  next => simp at h

theorem moveToDeadLetter_ok {t t' : OutboxTable} {letters letters' : List DeadLetterRow}
    {now : Time} {event : OutboxEvent} {msg : String}
    (h : moveToDeadLetter t letters now event msg = .ok (t', letters')) :
    ∃ original ∈ t.rows, original.eventID = event.eventID ∧
      t' = t.delete (fun r => r.eventID = event.eventID) ∧
      ∃ d, letters' = letters ++ [d] ∧ d.originalEventID = event.eventID ∧
        d.retryCount = original.retryCount := by
  unfold moveToDeadLetter at h
  split at h
  next => simp at h
  next original hf =>
    have hid : original.eventID = event.eventID := by simpa using List.find?_some hf
    simp only [Except.ok.injEq, Prod.mk.injEq] at h
    obtain ⟨rfl, rfl⟩ := h
    exact ⟨original, List.mem_of_find?_eq_some hf, hid, rfl, _, rfl, hid, rfl⟩

theorem mem_deleteEvent {t : OutboxTable} {e : String} {q : OutboxRow} :
    q ∈ (t.delete (fun r => r.eventID = e)).rows ↔ q ∈ t.rows ∧ q.eventID ≠ e := by
  simp

theorem mem_claim {t : OutboxTable} {ids : List Int} {q : OutboxRow}
    (hq : q ∈ (claim t ids).rows) :
    ∃ r ∈ t.rows, q.eventID = r.eventID ∧ q.processedAt = r.processedAt ∧
      q.errorMessage = r.errorMessage ∧ (q = r ∨ (r.id ∈ ids ∧ q.status = .processing)) := by
  rw [claim_rows] at hq
  obtain ⟨r, hr, rfl⟩ := List.mem_map.mp hq
  by_cases hi : r.id ∈ ids
  · simp only [hi, if_true, claimedRow_eq]
    exact ⟨r, hr, rfl, rfl, rfl, Or.inr ⟨hi, trivial⟩⟩
  · simp only [hi, if_false]
    exact ⟨r, hr, rfl, rfl, rfl, Or.inl rfl⟩

/-- A row in `processing` is not claimable and stays as it is. -/
theorem mem_claim_of_processing {t : OutboxTable} {now : Time} {limit : Nat} {ids : List Int}
    (hc : Claims t now limit ids) {r : OutboxRow} (hr : r ∈ t.rows) (hs : r.status = .processing) :
    r.id ∉ ids ∧ r ∈ (claim t ids).rows := by
  have hni : r.id ∉ ids := by
    intro hi
    obtain ⟨r', hr', hid, hcl⟩ := hc.2.2.1 r.id hi
    have heq := row_eq_of_id hr' hr hid
    subst r'
    rcases claimable_status hcl with h | h <;> simp [h] at hs
  refine ⟨hni, ?_⟩
  rw [claim_rows]
  exact List.mem_map.mpr ⟨r, hr, if_neg hni⟩

end SupplyPlatform.Outbox
