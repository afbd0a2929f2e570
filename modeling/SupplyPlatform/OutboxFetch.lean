import SupplyPlatform.OutboxRepository

namespace SupplyPlatform.Outbox

open Relational

/-- A row as the UPDATE of `FetchAndLock` leaves it. -/
def claimedRow (r : OutboxRow) : OutboxRow :=
  updateOutboxVersion r { r with status := .processing, version := r.version + 1 }

theorem claimedRow_eq (r : OutboxRow) :
    claimedRow r = { r with status := .processing, version := r.version + 1 } := by
  unfold claimedRow updateOutboxVersion
  split <;> rfl

@[simp] theorem claim_rows (t : OutboxTable) (ids : List Int) :
    (claim t ids).rows = t.rows.map (fun r => if r.id ∈ ids then claimedRow r else r) := by
  simp [claim, updateWhere, claimedRow]

theorem row_eq_of_id {t : OutboxTable} {a b : OutboxRow} (ha : a ∈ t.rows) (hb : b ∈ t.rows)
    (h : a.id = b.id) : a = b :=
  Table.eq_of_not_apart ha hb (fun hap => hap.1 h)

theorem row_eq_of_eventID {t : OutboxTable} {a b : OutboxRow} (ha : a ∈ t.rows) (hb : b ∈ t.rows)
    (h : a.eventID = b.eventID) : a = b :=
  Table.eq_of_not_apart ha hb (fun hap => hap.2 h)

theorem claimedRow_mem {t : OutboxTable} {ids : List Int} {r : OutboxRow} (hr : r ∈ t.rows)
    (hi : r.id ∈ ids) : claimedRow r ∈ (claim t ids).rows := by
  rw [claim_rows]
  exact List.mem_map.mpr ⟨r, hr, if_pos hi⟩

/-- Looking a claimed id up after the UPDATE finds its claimed row. -/
theorem find_claimed {t : OutboxTable} {ids : List Int} {r : OutboxRow} (hr : r ∈ t.rows)
    (hi : r.id ∈ ids) :
    (claim t ids).rows.find? (fun q => q.id = r.id) = some (claimedRow r) := by
  have hm := claimedRow_mem hr hi
  have hid : (claimedRow r).id = r.id := by rw [claimedRow_eq]
  refine find?_eq_of_unique hm (by simpa using hid) ?_
  intro q hq hqi
  exact row_eq_of_id hq hm (by simpa [hid] using hqi)

theorem returning_claim_ids {t : OutboxTable} {ids : List Int} (sub : List Int)
    (hsub : ∀ i ∈ sub, i ∈ ids ∧ ∃ r ∈ t.rows, r.id = i) :
    (returning (claim t ids) sub).map (·.id) = sub := by
  induction sub with
  | nil => rfl
  | cons i sub ih =>
    obtain ⟨hi, r, hr, rfl⟩ := hsub i (by simp)
    have htail := ih (fun j hj => hsub j (List.mem_cons_of_mem _ hj))
    have hid : (claimedRow r).id = r.id := by rw [claimedRow_eq]
    simp only [returning, List.filterMap_cons, find_claimed hr hi, List.map_cons, hid] at htail ⊢
    rw [htail]

/-- RETURNING hands out the claimed rows and no other. -/
theorem mem_returning_claim {t : OutboxTable} {ids : List Int} {q : OutboxRow}
    (hsound : ∀ i ∈ ids, ∃ r ∈ t.rows, r.id = i) :
    q ∈ returning (claim t ids) ids ↔ ∃ r ∈ t.rows, r.id ∈ ids ∧ claimedRow r = q := by
  simp only [returning, List.mem_filterMap]
  constructor
  · rintro ⟨i, hi, hf⟩
    obtain ⟨r, hr, rfl⟩ := hsound i hi
    rw [find_claimed hr hi] at hf
    exact ⟨r, hr, hi, Option.some.inj hf⟩
  · rintro ⟨r, hr, hi, rfl⟩
    exact ⟨r.id, hi, find_claimed hr hi⟩

/-- An event carries the column values of a row. -/
def Decodes (e : OutboxEvent) (r : OutboxRow) : Prop :=
  r.id = e.id ∧ r.aggregateType = e.aggregateType ∧ r.aggregateID = e.aggregateID ∧
  r.eventType = e.eventType ∧ r.eventID = e.eventID ∧ r.payload = e.payload ∧
  r.status = e.status ∧ r.retryCount = e.retryCount ∧ r.maxRetries = e.maxRetries ∧
  r.errorMessage = some e.errorMessage ∧ r.createdAt = e.createdAt ∧
  r.processedAt = e.processedAt ∧ r.nextRetryAt = e.nextRetryAt ∧ r.version = e.version

theorem scanEvent_ok_iff {r : OutboxRow} {e : OutboxEvent} :
    scanEvent r = .ok e ↔ Decodes e r := by
  cases hm : r.errorMessage with
  | none => simp [scanEvent, scan, hm, Decodes, bind, Except.bind]
  | some m =>
    cases e
    simp [scanEvent, scan, hm, Decodes, bind, Except.bind, pure, Except.pure]

/-- The event a row decodes to when its `error_message` is not NULL. -/
def decodeEvent (r : OutboxRow) : OutboxEvent :=
  { id := r.id, aggregateType := r.aggregateType, aggregateID := r.aggregateID,
    eventType := r.eventType, eventID := r.eventID, payload := r.payload, status := r.status,
    retryCount := r.retryCount, maxRetries := r.maxRetries,
    errorMessage := r.errorMessage.getD "", createdAt := r.createdAt,
    processedAt := r.processedAt, nextRetryAt := r.nextRetryAt, version := r.version }

theorem scanEvent_of_some {r : OutboxRow} (h : r.errorMessage ≠ none) :
    scanEvent r = .ok (decodeEvent r) := by
  obtain ⟨m, hm⟩ := Option.ne_none_iff_exists'.mp h
  simp [scanEvent, scan, hm, decodeEvent, bind, Except.bind, pure, Except.pure]

theorem scanEvent_of_none {r : OutboxRow} (h : r.errorMessage = none) :
    scanEvent r = .error .scanNull := by
  simp [scanEvent, scan, h, bind, Except.bind]

theorem claimedRow_errorMessage (r : OutboxRow) : (claimedRow r).errorMessage = r.errorMessage := by
  rw [claimedRow_eq]

/-- No NULL among the claimed rows: the batch is the claimed rows, in the order of RETURNING. -/
theorem fetchAndLock_ok {t : OutboxTable} {limit : Int} {ids : List Int} (hl : 0 ≤ limit)
    (hsound : ∀ i ∈ ids, ∃ r ∈ t.rows, r.id = i)
    (hsome : ∀ r ∈ t.rows, r.id ∈ ids → r.errorMessage ≠ none) :
    fetchAndLock t limit ids =
      (claim t ids, .ok ((returning (claim t ids) ids).map decodeEvent)) := by
  have hscan : ∀ q ∈ returning (claim t ids) ids, scanEvent q = .ok (decodeEvent q) := by
    intro q hq
    obtain ⟨r, hr, hi, rfl⟩ := (mem_returning_claim hsound).mp hq
    exact scanEvent_of_some (by rw [claimedRow_errorMessage]; exact hsome r hr hi)
  simp only [fetchAndLock, show ¬limit < 0 by omega, if_false, mapM_eq_ok hscan]

/-- A NULL among the claimed rows: the rows are claimed all the same, and the caller gets an error. -/
theorem fetchAndLock_error {t : OutboxTable} {limit : Int} {ids : List Int} {r : OutboxRow}
    (hl : 0 ≤ limit) (hsound : ∀ i ∈ ids, ∃ r ∈ t.rows, r.id = i)
    (hr : r ∈ t.rows) (hi : r.id ∈ ids) (hnone : r.errorMessage = none) :
    ∃ e, fetchAndLock t limit ids = (claim t ids, .error e) := by
  have hm : claimedRow r ∈ returning (claim t ids) ids :=
    (mem_returning_claim hsound).mpr ⟨r, hr, hi, rfl⟩
  obtain ⟨e, he⟩ := mapM_eq_error hm
    (scanEvent_of_none (by rw [claimedRow_errorMessage]; exact hnone))
  exact ⟨.wrap "failed to scan outbox event" e,
    by simp only [fetchAndLock, show ¬limit < 0 by omega, if_false, he]⟩

theorem decoded_ids {t : OutboxTable} {ids : List Int}
    (hsound : ∀ i ∈ ids, ∃ r ∈ t.rows, r.id = i) :
    ((returning (claim t ids) ids).map decodeEvent).map (·.id) = ids := by
  have h := returning_claim_ids ids (fun i hi => ⟨hi, hsound i hi⟩)
  simpa [Function.comp_def, decodeEvent] using h

/-- The row with this id was moved to `processing`. -/
def Moved (t t' : OutboxTable) (i : Int) : Prop :=
  (∃ r ∈ t.rows, r.id = i ∧ r.status ≠ .processing) ∧
    ∃ r ∈ t'.rows, r.id = i ∧ r.status = .processing

/-- An error leaves every status as it was; otherwise the events are the moved rows as stored. -/
def FetchContract (t : OutboxTable) (limit : Int) (ids : List Int) : Prop :=
  match fetchAndLock t limit ids with
  | (t', .error _) =>
    t'.rows.map (fun r => (r.id, r.status)) = t.rows.map (fun r => (r.id, r.status))
  | (t', .ok events) =>
    (events.map (·.id)).Nodup ∧ (∀ i, i ∈ events.map (·.id) ↔ Moved t t' i) ∧
      ∀ e ∈ events, ∃ r ∈ t'.rows, Decodes e r

theorem claimable_status {now : Time} {r : OutboxRow} (h : claimable now r) :
    r.status = .pending ∨ r.status = .failed := by
  simp only [claimable, Bool.and_eq_true, Bool.or_eq_true, decide_eq_true_eq] at h
  exact h.1

theorem moved_claim_iff {t : OutboxTable} {now : Time} {limit : Nat} {ids : List Int}
    (h : Claims t now limit ids) (i : Int) : Moved t (claim t ids) i ↔ i ∈ ids := by
  constructor
  · rintro ⟨⟨r, hr, hri, hst⟩, q, hq, hqi, hproc⟩
    rw [claim_rows] at hq
    obtain ⟨r', hr', rfl⟩ := List.mem_map.mp hq
    by_cases hm : r'.id ∈ ids
    · simp only [hm, if_true, claimedRow_eq] at hqi
      exact hqi ▸ hm
    · simp only [hm, if_false] at hqi hproc
      have heq := row_eq_of_id hr' hr (hqi.trans hri.symm)
      exact absurd (heq ▸ hproc) hst
  · intro hi
    obtain ⟨r, hr, rfl, hc⟩ := h.2.2.1 i hi
    have hst := claimable_status hc
    refine ⟨⟨r, hr, rfl, ?_⟩, claimedRow r, claimedRow_mem hr hi, ?_, ?_⟩
    · rcases hst with hst | hst <;> simp [hst]
    · rw [claimedRow_eq]
    · rw [claimedRow_eq]

theorem claim_changes_status {t : OutboxTable} {now : Time} {limit : Nat} {ids : List Int}
    (h : Claims t now limit ids) {r : OutboxRow} (hr : r ∈ t.rows) (hi : r.id ∈ ids) :
    (claim t ids).rows.map (fun r => (r.id, r.status)) ≠ t.rows.map (fun r => (r.id, r.status)) := by
  intro heq
  have hmem : (r.id, OutboxStatus.processing) ∈ t.rows.map (fun r => (r.id, r.status)) := by
    rw [← heq]
    exact List.mem_map.mpr ⟨claimedRow r, claimedRow_mem hr hi, by rw [claimedRow_eq]⟩
  obtain ⟨q, hq, hqe⟩ := List.mem_map.mp hmem
  obtain ⟨hqi, hqs⟩ := Prod.mk.inj hqe
  have hqr := row_eq_of_id hq hr hqi
  subst q
  obtain ⟨r', hr', hid, hc⟩ := h.2.2.1 r.id hi
  have hrr := row_eq_of_id hr' hr hid
  subst r'
  rcases claimable_status hc with hst | hst <;> simp [hst] at hqs

theorem Claims.sound {t : OutboxTable} {now : Time} {limit : Nat} {ids : List Int}
    (h : Claims t now limit ids) : ∀ i ∈ ids, ∃ r ∈ t.rows, r.id = i := by
  intro i hi
  obtain ⟨r, hr, hid, _⟩ := h.2.2.1 i hi
  exact ⟨r, hr, hid⟩

theorem not_fetchContract_of_null {t : OutboxTable} {now : Time} {limit : Int} {ids : List Int}
    {r : OutboxRow} (h : Claims t now limit.toNat ids) (hr : r ∈ t.rows) (hi : r.id ∈ ids)
    (hnone : r.errorMessage = none) : ¬FetchContract t limit ids := by
  intro hc
  have hpos : 0 < ids.length := List.length_pos_of_mem hi
  have hlen := h.2.1
  obtain ⟨e, he⟩ := fetchAndLock_error (show 0 ≤ limit by omega) h.sound hr hi hnone
  simp only [FetchContract, he] at hc
  exact claim_changes_status h hr hi hc

theorem fetchContract_of_some {t : OutboxTable} {now : Time} {limit : Int} {ids : List Int}
    (h : Claims t now limit.toNat ids) (hl : 0 ≤ limit)
    (hsome : ∀ r ∈ t.rows, r.id ∈ ids → r.errorMessage ≠ none) : FetchContract t limit ids := by
  simp only [FetchContract, fetchAndLock_ok hl h.sound hsome]
  refine ⟨?_, ?_, ?_⟩
  · rw [decoded_ids h.sound]
    exact h.1
  · intro i
    rw [decoded_ids h.sound, moved_claim_iff h i]
  · intro e he
    obtain ⟨q, hq, rfl⟩ := List.mem_map.mp he
    obtain ⟨r, hr, hi, rfl⟩ := (mem_returning_claim h.sound).mp hq
    refine ⟨claimedRow r, claimedRow_mem hr hi, scanEvent_ok_iff.mp (scanEvent_of_some ?_)⟩
    rw [claimedRow_errorMessage]
    exact hsome r hr hi

theorem fetchContract_of_negative {t : OutboxTable} {now : Time} {limit : Int} {ids : List Int}
    (h : Claims t now limit.toNat ids) (hl : limit < 0) : FetchContract t limit ids := by
  have hlen := h.2.1
  have hnil : ids = [] := List.length_eq_zero_iff.mp (by omega)
  subst ids
  have hmoved := moved_claim_iff h
  have hsame : claim t [] = t := by cases t; simp [claim, updateWhere, Table.update]
  rw [hsame] at hmoved
  simp [FetchContract, fetchAndLock, hl, hmoved]

/-- `FetchAndLock` keeps its contract exactly when no row it claims has a NULL `error_message`. -/
theorem fetchAndLock_contract_iff {t : OutboxTable} {now : Time} {limit : Int} {ids : List Int}
    (h : Claims t now limit.toNat ids) :
    FetchContract t limit ids ↔ ∀ r ∈ t.rows, r.id ∈ ids → r.errorMessage ≠ none := by
  constructor
  · intro hc r hr hi hnone
    exact not_fetchContract_of_null h hr hi hnone hc
  · intro hsome
    by_cases hl : limit < 0
    · exact fetchContract_of_negative h hl
    · exact fetchContract_of_some h (by omega) hsome

/-- A pending row whose `error_message` is the given column value. -/
def sampleRow (errorMessage : Option String) (maxRetries : Int) (h : 0 ≤ maxRetries) : OutboxRow :=
  { id := 1, aggregateType := "account", aggregateID := "acc-1", eventType := "created",
    eventID := "evt-1", payload := "{}", status := .pending, retryCount := 0,
    maxRetries := maxRetries, errorMessage := errorMessage, createdAt := 0, processedAt := none,
    nextRetryAt := none, version := 0, retryValid := ⟨Int.le_refl 0, h⟩ }

def sampleEvent : OutboxEvent := decodeEvent (sampleRow none 5 (by decide))

def sampleTable (errorMessage : Option String) : OutboxTable :=
  ⟨[sampleRow errorMessage 5 (by decide)], List.pairwise_singleton _ _⟩

theorem fetchAndLock_contract_sample :
    Claims (sampleTable (some "")) 0 (100 : Int).toNat [1] ∧
      FetchContract (sampleTable (some "")) 100 [1] := by
  have h : Claims (sampleTable (some "")) 0 (100 : Int).toNat [1] := by decide
  exact ⟨h, (fetchAndLock_contract_iff h).mpr (by decide)⟩

/-- A row fresh from `Create` is claimed and then refused by the decoder. -/
theorem fetchAndLock_fresh_row_counterexample :
    ∃ t e, create Table.empty 1 0 sampleEvent = .ok (t, e) ∧
      Claims t 0 (100 : Int).toNat [1] ∧ ¬FetchContract t 100 [1] := by
  have h : Claims (sampleTable none) 0 (100 : Int).toNat [1] := by decide
  refine ⟨sampleTable none, { sampleEvent with id := 1, createdAt := 0 }, by rfl, h, ?_⟩
  exact not_fetchContract_of_null h (List.mem_singleton.mpr rfl) (by decide) rfl

end SupplyPlatform.Outbox
