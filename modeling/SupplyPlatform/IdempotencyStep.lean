import SupplyPlatform.IdempotencyMiddleware

namespace SupplyPlatform.Idempotency

open Relational

attribute [local simp] step

variable {J : Type} {env : Env J} {config : IdempotencyConfig} {key : IdempotencyKey}
  {s s' : State J} {n : Nat}

@[simp] theorem fillRecord_id (env : Env J) (req : Request) (record : IdempotencyRecord J) :
    (fillRecord env req record).id = record.id := by
  unfold fillRecord
  split <;> rfl

@[simp] theorem setPhase_self (s : State J) (n : Nat) (x : Phase J) : (s.setPhase n x).phase n = x := by
  simp [State.setPhase]

/-- A request is answered at once, or let in under the key. -/
theorem step_arrive {req : Request} {readErr : Option String}
    (hs : step env config key s (.arrive n req readErr) = some s') :
    (∃ answer, s' = s.setPhase n (.done answer)) ∨
      extractIdempotencyKey req = .ok key ∧ s' = s.setPhase n (.arrived req) := by
  have hfree : s.phase n = .idle ∨ ∃ answer, s.phase n = .done answer := by
    cases hn : s.phase n <;> simp_all [step]
  cases hkey : extractIdempotencyKey req with
  | error msg =>
    refine .inl ⟨.error 400 "IDEMPOTENCY_KEY_INVALID" (.message msg), ?_⟩
    rcases hfree with hn | ⟨_, hn⟩ <;> simpa [step, hn, hkey] using hs.symm
  | ok k =>
    cases readErr with
    | some msg =>
      refine .inl ⟨.error 400 "BODY_READ_ERROR" (.message msg), ?_⟩
      rcases hfree with hn | ⟨_, hn⟩ <;> simpa [step, hn, hkey] using hs.symm
    | none =>
      have hout : k = key ∧ s.setPhase n (.arrived req) = s' := by
        rcases hfree with hn | ⟨_, hn⟩ <;> simpa [step, hn, hkey] using hs
      exact .inr ⟨by rw [hout.1], hout.2.symm⟩

theorem step_getByKey {lost : Bool} (hs : step env config key s (.getByKey n lost) = some s') :
    ∃ req found, s.phase n = .arrived req ∧
      s' = s.setPhase n (check env config s.now req found) := by
  simp only [step] at hs
  split at hs
  next req hn => exact ⟨req, _, hn, (Option.some.inj hs).symm⟩
  next => simp at hs

/-- The upsert gives its request the record, or the request goes on to look for another's. -/
theorem step_upsert {id : Int} {fault : Fault}
    (hs : step env config key s (.upsert n id fault) = some s') :
    ∃ req, s.phase n = .checked req ∧ ((∃ err, s' = s.setPhase n (.refused req err)) ∨
      ∃ t record x, fault ≠ .unapplied ∧ upsert s.table s.now key config.ttl id = .ok (t, record) ∧
        s' = { s with table := t, lastID := id }.setPhase n x ∧
        (x = .refused req .connection ∨ x = .locked req (fillRecord env req record) (some s.now))) := by
  simp only [step] at hs
  split at hs
  next req hn =>
    refine ⟨req, hn, ?_⟩
    split at hs
    next =>
      split at hs
      next => exact .inl ⟨_, (Option.some.inj hs).symm⟩
      next t record hup =>
        exact .inr ⟨t, record, _, by simp, hup, (Option.some.inj hs).symm, .inr rfl⟩
      next t record hup =>
        exact .inr ⟨t, record, _, by simp, hup, (Option.some.inj hs).symm, .inl rfl⟩
      next => exact .inl ⟨_, (Option.some.inj hs).symm⟩
    next => simp at hs
  next => simp at hs

/-- Without the upsert a request is answered, or it goes on with the record it finds. -/
theorem step_acquireExisting {lost : Bool}
    (hs : step env config key s (.acquireExisting n lost) = some s') :
    ∃ req err, s.phase n = .refused req err ∧ ((∃ answer, s' = s.setPhase n (.done answer)) ∨
      ∃ record, lost = false ∧ acquireExisting s.table s.now key err = .ok record ∧
        s' = s.setPhase n (.locked req (fillRecord env req record) none)) := by
  simp only [step] at hs
  split at hs
  next req err hn =>
    refine ⟨req, err, hn, ?_⟩
    cases lost with
    | true => exact .inl ⟨_, (Option.some.inj hs).symm⟩
    | false =>
      cases hacq : acquireExisting s.table s.now key err with
      | error e =>
        simp only [Bool.false_eq_true, if_false, hacq] at hs
        exact .inl ⟨_, (Option.some.inj hs).symm⟩
      | ok record =>
        simp only [Bool.false_eq_true, if_false, hacq] at hs
        exact .inr ⟨record, rfl, rfl, (Option.some.inj hs).symm⟩
  next => simp at hs

theorem step_begin (hs : step env config key s (.begin_ n) = some s') :
    ∃ req record at_, s.phase n = .locked req record at_ ∧
      s' = { s with log := .began n s.now :: s.log }.setPhase n (.executing req record at_) := by
  simp only [step] at hs
  split at hs
  next req record at_ hn => exact ⟨req, record, at_, hn, (Option.some.inj hs).symm⟩
  next => simp at hs

theorem step_finish {run : HandlerRun} (hs : step env config key s (.finish n run) = some s') :
    ∃ req record at_, s.phase n = .executing req record at_ ∧
      s' = s.setPhase n (.executed req record at_ run) := by
  simp only [step] at hs
  split at hs
  next req record at_ hn => exact ⟨req, record, at_, hn, (Option.some.inj hs).symm⟩
  next => simp at hs

/-- The result is stored and a success logged, or it is lost; the client has its answer. -/
theorem step_update {fault : Fault} (hs : step env config key s (.update n fault) = some s') :
    ∃ req record at_ run, s.phase n = .executed req record at_ run ∧
      (s' = s.setPhase n (.done (.handled run)) ∨
        ∃ t, storeResult env s.table s.now record.id run = some t ∧
          s' = { s with table := t,
                        log := recordedSuccess s.table record.id run ++ s.log }.setPhase n
            (.done (.handled run))) := by
  simp only [step] at hs
  split at hs
  next req record at_ run hn =>
    refine ⟨req, record, at_, run, hn, ?_⟩
    split at hs
    next => exact .inl (Option.some.inj hs).symm
    next => exact .inl (Option.some.inj hs).symm
    next hst => exact .inr ⟨_, hst, (Option.some.inj hs).symm⟩
  next => simp at hs

end SupplyPlatform.Idempotency
