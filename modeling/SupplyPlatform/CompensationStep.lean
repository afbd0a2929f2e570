import SupplyPlatform.Compensation

namespace SupplyPlatform.Compensation

open Relational

theorem row_eq_of_id {t : CompensationTable} {a b : CompensationRow} (ha : a ∈ t.rows)
    (hb : b ∈ t.rows) (h : a.id = b.id) : a = b :=
  Table.eq_of_not_apart ha hb (fun hap => hap h)

def decodable (r : CompensationRow) : Bool := r.failureReason.isSome && r.resolutionNotes.isSome

/-- The record a decodable row is read as. -/
def decodeCompensation (r : CompensationRow) : BatchCompensation :=
  { id := r.id, batchID := r.batchID, operationType := r.operationType, itemIndex := r.itemIndex,
    itemPayload := r.itemPayload, failureReason := r.failureReason.getD "", status := r.status,
    retryCount := r.retryCount, maxRetries := r.maxRetries, resolvedAt := r.resolvedAt,
    resolvedBy := r.resolvedBy, resolutionNotes := r.resolutionNotes.getD "",
    createdAt := r.createdAt, updatedAt := r.updatedAt, createdBy := r.createdBy,
    version := r.version }

theorem scanCompensation_of_decodable {r : CompensationRow} (h : decodable r) :
    scanCompensation r = .ok (decodeCompensation r) := by
  simp only [decodable, Bool.and_eq_true] at h
  obtain ⟨reason, hreason⟩ := Option.isSome_iff_exists.mp h.1
  obtain ⟨notes, hnotes⟩ := Option.isSome_iff_exists.mp h.2
  simp [scanCompensation, scan, hreason, hnotes, decodeCompensation, bind, Except.bind, pure,
    Except.pure]

theorem scanCompensation_of_not_decodable {r : CompensationRow} (h : ¬decodable r) :
    scanCompensation r = .error .scanNull := by
  cases hreason : r.failureReason with
  | none => simp [scanCompensation, scan, hreason, bind, Except.bind]
  | some reason =>
    cases hnotes : r.resolutionNotes with
    | none => simp [scanCompensation, scan, hreason, hnotes, bind, Except.bind]
    | some notes => simp [decodable, hreason, hnotes] at h

/-- A query reads all its rows, or it reads nothing for one that cannot be decoded. -/
theorem scanAll_cases (rows : List CompensationRow) :
    ((∀ r ∈ rows, decodable r) ∧ scanAll rows = .ok (rows.map decodeCompensation)) ∨
      ((∃ r ∈ rows, ¬decodable r) ∧ ∃ e, scanAll rows = .error e) := by
  by_cases hall : ∀ r ∈ rows, decodable r
  · exact Or.inl ⟨hall, mapM_eq_ok (fun r hr => scanCompensation_of_decodable (hall r hr))⟩
  · push Not at hall
    obtain ⟨r, hr, hn⟩ := hall
    exact Or.inr ⟨⟨r, hr, by simpa using hn⟩,
      mapM_eq_error hr (scanCompensation_of_not_decodable (by simpa using hn))⟩

theorem step_getPending {s s' : State} {p : Nat} {rows : List CompensationRow}
    (hs : step s (.getPending p rows) = some s') :
    s.processor p = .idle ∧ ReadsPending s.table rows ∧
      (((∀ r ∈ rows, decodable r) ∧ s' = s.loop p .worker (rows.map decodeCompensation)) ∨
        ((∃ r ∈ rows, ¬decodable r) ∧ s' = s)) := by
  simp only [step] at hs
  split at hs
  next hc =>
    refine ⟨hc.1, hc.2, ?_⟩
    rcases scanAll_cases rows with ⟨hall, hscan⟩ | ⟨hnull, e, hscan⟩
    · rw [hscan] at hs
      exact Or.inl ⟨hall, (Option.some.inj hs).symm⟩
    · rw [hscan] at hs
      exact Or.inr ⟨hnull, (Option.some.inj hs).symm⟩
  next => simp at hs

theorem step_getByBatchID {s s' : State} {p : Nat} {batchID : String}
    {rows : List CompensationRow} (hs : step s (.getByBatchID p batchID rows) = some s') :
    s.processor p = .idle ∧ ReadsBatch s.table batchID rows ∧
      (((∀ r ∈ rows, decodable r) ∧
          s' = s.loop p (.batch (startResult batchID rows.length)) (rows.map decodeCompensation)) ∨
        ((∃ r ∈ rows, ¬decodable r) ∧ s' = s)) := by
  simp only [step] at hs
  split at hs
  next hc =>
    refine ⟨hc.1, hc.2, ?_⟩
    rcases scanAll_cases rows with ⟨hall, hscan⟩ | ⟨hnull, e, hscan⟩
    · rw [hscan] at hs
      refine Or.inl ⟨hall, ?_⟩
      simpa using (Option.some.inj hs).symm
    · rw [hscan] at hs
      exact Or.inr ⟨hnull, (Option.some.inj hs).symm⟩
  next => simp at hs

theorem step_create {s s' : State} {id : Int} {comp : BatchCompensation}
    (hs : step s (.create id comp) = some s') :
    ∃ (t : CompensationTable) (row : CompensationRow), s' = { s with table := t } ∧
      t.rows = s.table.rows ++ [row] ∧ (∀ r ∈ s.table.rows, r.id ≠ row.id) ∧ ¬decodable row := by
  simp only [step, create] at hs
  split at hs
  next t id' hc =>
    split at hc
    next t' ht =>
      simp only [Except.ok.injEq, Prod.mk.injEq] at hc
      obtain ⟨rfl, rfl⟩ := hc
      obtain ⟨hrows, hnew⟩ := Table.rows_of_insert ht
      exact ⟨t', _, (Option.some.inj hs).symm, hrows, hnew, by simp [decodable]⟩
    next => simp at hc
  next => simp at hs

theorem step_execute {s s' : State} {p : Nat} {err : Option String}
    (hs : step s (.execute p err) = some s') :
    ∃ call comp rest, s.processor p = .running call comp rest .executing ∧
      s' = { s with executed := (comp.id, err.isNone) :: s.executed }.setProcessor p
        (.running call comp rest (.executed err)) := by
  simp only [step] at hs
  split at hs
  next call comp rest hp => exact ⟨call, comp, rest, hp, (Option.some.inj hs).symm⟩
  next => simp at hs

theorem step_settle {s s' : State} {p : Nat} {fault : Fault}
    (hs : step s (.settle p fault) = some s') :
    ∃ call comp rest err, s.processor p = .running call comp rest (.executed err) ∧
      s' = (settled s call comp err fault).loop p (call.after (comp.outcome err) fault).1 rest := by
  simp only [step] at hs
  split at hs
  next call comp rest err hp => exact ⟨call, comp, rest, err, hp, (Option.some.inj hs).symm⟩
  next => simp at hs

/-- The loop ends, or goes on with the first record it takes. -/
theorem loop_cases (s : State) (p : Nat) (call : Call) (comps : List BatchCompensation) :
    (comps.filter call.takes = [] ∧
        ∃ returned, s.loop p call comps = { s with returned := returned }.setProcessor p .idle) ∨
      ∃ comp rest, comps.filter call.takes = comp :: rest.filter call.takes ∧
        (∀ c ∈ comp :: rest, c ∈ comps) ∧
        s.loop p call comps = s.setProcessor p (.running call comp rest .executing) := by
  induction comps with
  | nil =>
    refine Or.inl ⟨rfl, ?_⟩
    cases call with
    | worker => exact ⟨s.returned, rfl⟩
    | batch result => exact ⟨result :: s.returned, rfl⟩
  | cons c comps ih =>
    by_cases ht : call.takes c = true
    · refine Or.inr ⟨c, comps, List.filter_cons_of_pos ht, fun _ hc => hc, ?_⟩
      simp [State.loop, ht]
    · have hskip : s.loop p call (c :: comps) = s.loop p call comps := by
        simp [State.loop, ht]
      rw [hskip, List.filter_cons_of_neg ht]
      rcases ih with hnil | ⟨comp, rest, hf, hsub, hl⟩
      · exact Or.inl hnil
      · exact Or.inr ⟨comp, rest, hf, fun x hx => List.mem_cons_of_mem _ (hsub x hx), hl⟩

def Outcome.status : Outcome → CompensationStatus
  | .resolved => .resolved
  | .retry => .retrying
  | .manual _ => .manualRequired

/-- What the store call of an outcome does to a row; no call writes `retry_count`. -/
structure Recorded (o : Outcome) (r q : CompensationRow) : Prop where
  id : q.id = r.id
  batchID : q.batchID = r.batchID
  status : q.status = o.status
  retryCount : q.retryCount = r.retryCount
  maxRetries : q.maxRetries = r.maxRetries
  decodable : decodable r → decodable q

theorem record_rows (t : CompensationTable) (now : Time) (call : Call) (i : Int) (o : Outcome) :
    ∃ set : CompensationRow → CompensationRow,
      (record t now call i o).rows = t.rows.map (fun r => if r.id = i then set r else r) ∧
        ∀ r, Recorded o r (set r) := by
  cases o with
  | resolved =>
    refine ⟨_, rfl, fun r => ⟨rfl, rfl, rfl, rfl, rfl, fun h => ?_⟩⟩
    simp only [decodable, Bool.and_eq_true] at h ⊢
    exact ⟨h.1, rfl⟩
  | retry => exact ⟨_, rfl, fun r => ⟨rfl, rfl, rfl, rfl, rfl, id⟩⟩
  | manual reason =>
    refine ⟨_, rfl, fun r => ⟨rfl, rfl, rfl, rfl, rfl, fun h => ?_⟩⟩
    simp only [decodable, Bool.and_eq_true] at h ⊢
    exact ⟨rfl, h.2⟩

theorem record_mem_of_ne {t : CompensationTable} {now : Time} {call : Call} {i : Int} {o : Outcome}
    {r : CompensationRow} (hr : r ∈ t.rows) (hi : r.id ≠ i) : r ∈ (record t now call i o).rows := by
  obtain ⟨set, hrows, _⟩ := record_rows t now call i o
  rw [hrows]
  exact List.mem_map.mpr ⟨r, hr, if_neg hi⟩

theorem record_mem_of_eq {t : CompensationTable} (now : Time) (call : Call) (o : Outcome)
    {r : CompensationRow} (hr : r ∈ t.rows) :
    ∃ q ∈ (record t now call r.id o).rows, Recorded o r q := by
  obtain ⟨set, hrows, hset⟩ := record_rows t now call r.id o
  rw [hrows]
  exact ⟨set r, List.mem_map.mpr ⟨r, hr, if_pos rfl⟩, hset r⟩

end SupplyPlatform.Compensation
