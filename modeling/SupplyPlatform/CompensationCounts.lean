import SupplyPlatform.CompensationStep

namespace SupplyPlatform.Compensation

open Relational

/-- The calls `ProcessBatchCompensations` makes on its store after an `Execute`. -/
inductive StoreCall
  | resolve (id resolvedBy : Int) (notes : String)
  | updateStatus (id : Int) (status : CompensationStatus)
  | markManualRequired (id : Int) (reason : String)
  deriving DecidableEq

def Outcome.storeCall (id : Int) : Outcome → StoreCall
  | .resolved => .resolve id 0 "auto_resolved"
  | .retry => .updateStatus id .retrying
  | .manual reason => .markManualRequired id reason

/-- What has been done for a record, with the error if there was one. -/
inductive Event
  | executed (comp : BatchCompensation) (err : Option String)
  | stored (comp : BatchCompensation) (call : StoreCall) (err : Option RepoError)
  deriving DecidableEq

/-- The executor and the store; what they answer may depend on all that has happened. -/
structure Services where
  execute : List Event → String → String → Option String
  store : List Event → StoreCall → Option RepoError

/-- The loop between two records. -/
structure Progress where
  log : List Event
  result : CompensationResult
  stats : List Stat

def Progress.executed (progress : Progress) (comp : BatchCompensation) (err : Option String) : Progress :=
  { progress with log := progress.log ++ [.executed comp err] }

/-- The branch of the loop body that an outcome leads to. -/
def Progress.settled (services : Services) (progress : Progress) (comp : BatchCompensation)
    (outcome : Outcome) : Progress :=
  match services.store progress.log (outcome.storeCall comp.id) with
  | some err =>
    { progress with
      log := progress.log ++ [.stored comp (outcome.storeCall comp.id) (some err)],
      result := { progress.result with failedCount := progress.result.failedCount + 1 } }
  | none =>
    { log := progress.log ++ [.stored comp (outcome.storeCall comp.id) none],
      result := progress.result.count outcome,
      stats := outcome.stat comp.operationType :: progress.stats }

def processCompensation (services : Services) (progress : Progress) (comp : BatchCompensation) :
    Progress :=
  if unfinished comp.status then
    let err := services.execute progress.log comp.operationType comp.itemPayload
    (progress.executed comp err).settled services comp (comp.outcome err)
  else progress

/-- `ProcessBatchCompensations`, with what `GetByBatchID` answers. -/
def processBatchCompensations (services : Services) (batchID : String)
    (loaded : Except DbError (List BatchCompensation)) :
    List Event × Except RepoError CompensationResult :=
  match loaded with
  | .error e => ([], .error (.wrap "failed to get compensations" e))
  | .ok comps =>
    let final := comps.foldl (processCompensation services)
      { log := [], result := startResult batchID comps.length, stats := [] }
    (final.log, .ok final.result)

def Event.executed? : Event → Option BatchCompensation
  | .executed comp _ => some comp
  | _ => none

def Event.stored? : Event → Option BatchCompensation
  | .stored comp _ _ => some comp
  | _ => none

def StoreCall.isResolve : StoreCall → Bool
  | .resolve _ _ _ => true
  | _ => false

def StoreCall.isUpdateStatus : StoreCall → Bool
  | .updateStatus _ _ => true
  | _ => false

def StoreCall.isMarkManualRequired : StoreCall → Bool
  | .markManualRequired _ _ => true
  | _ => false

/-- A store call of the kind, made and successful. -/
def Event.lands (kind : StoreCall → Bool) : Event → Bool
  | .stored _ call none => kind call
  | _ => false

def Event.fails : Event → Bool
  | .stored _ _ (some _) => true
  | _ => false

/-- Each unfinished record is executed once and handed to the store once, in the order of the list
and with the call its execution asks for, and the result counts how these calls ended. -/
structure Accounted (comps : List BatchCompensation) (log : List Event) (result : CompensationResult) :
    Prop where
  executed : log.filterMap Event.executed? = comps.filter (fun comp => unfinished comp.status)
  stored : log.filterMap Event.stored? = comps.filter (fun comp => unfinished comp.status)
  call : ∀ comp call err, .stored comp call err ∈ log →
    ∃ failure, .executed comp failure ∈ log ∧ call = (comp.outcome failure).storeCall comp.id
  sum : result.successCount + result.retryCount + result.manualCount + result.failedCount =
    comps.countP (fun comp => unfinished comp.status)
  success : result.successCount = log.countP (Event.lands StoreCall.isResolve)
  retry : result.retryCount = log.countP (Event.lands StoreCall.isUpdateStatus)
  manual : result.manualCount = log.countP (Event.lands StoreCall.isMarkManualRequired)
  failed : result.failedCount = log.countP Event.fails

theorem Accounted.start (batchID : String) (totalItems : Nat) :
    Accounted [] [] (startResult batchID totalItems) where
  executed := rfl
  stored := rfl
  call := by simp
  sum := rfl
  success := rfl
  retry := rfl
  manual := rfl
  failed := rfl

theorem Accounted.skip {comps : List BatchCompensation} {log : List Event} {result : CompensationResult}
    (h : Accounted comps log result) {comp : BatchCompensation} (hc : unfinished comp.status = false) :
    Accounted (comps ++ [comp]) log result where
  executed := by simp [h.executed, hc]
  stored := by simp [h.stored, hc]
  call := h.call
  sum := by simp [h.sum, hc]
  success := h.success
  retry := h.retry
  manual := h.manual
  failed := h.failed

/-- What an `Execute` and the store call after it add to the log is the call its result asks for. -/
theorem Accounted.call_append {comps : List BatchCompensation} {log : List Event}
    {result : CompensationResult} (h : Accounted comps log result) (comp : BatchCompensation)
    (failure : Option String) (err : Option RepoError) :
    ∀ c call e, Event.stored c call e ∈ log ++ [.executed comp failure] ++
        [.stored comp ((comp.outcome failure).storeCall comp.id) err] →
      ∃ failure', Event.executed c failure' ∈ log ++ [.executed comp failure] ++
          [.stored comp ((comp.outcome failure).storeCall comp.id) err] ∧
        call = (c.outcome failure').storeCall c.id := by
  intro c call e hmem
  simp only [List.append_assoc, List.cons_append, List.nil_append, List.mem_append, List.mem_cons,
    reduceCtorEq, Event.stored.injEq, List.not_mem_nil, or_false, false_or] at hmem
  rcases hmem with hold | ⟨rfl, rfl, -⟩
  · obtain ⟨failure', hex, hcall⟩ := h.call c call e hold
    exact ⟨failure', by simp [hex], hcall⟩
  · exact ⟨failure, by simp, rfl⟩

/-- A store call that fails is one more failure, whatever was to be stored. -/
theorem Accounted.fault {comps : List BatchCompensation} {log : List Event} {result : CompensationResult}
    (h : Accounted comps log result) {comp : BatchCompensation} (hc : unfinished comp.status = true)
    (failure : Option String) (err : RepoError) :
    Accounted (comps ++ [comp])
      (log ++ [.executed comp failure] ++
        [.stored comp ((comp.outcome failure).storeCall comp.id) (some err)])
      { result with failedCount := result.failedCount + 1 } where
  executed := by simp [h.executed, hc, Event.executed?]
  stored := by simp [h.stored, hc, List.filterMap_cons, Event.stored?]
  call := h.call_append comp failure (some err)
  sum := by
    have hsum := h.sum
    simp [hc]
    omega
  success := by simp [h.success, Event.lands]
  retry := by simp [h.retry, Event.lands]
  manual := by simp [h.manual, Event.lands]
  failed := by simp [h.failed, Event.fails]

/-- A store call that succeeds is counted under its own kind. -/
theorem Accounted.land {comps : List BatchCompensation} {log : List Event} {result : CompensationResult}
    (h : Accounted comps log result) {comp : BatchCompensation} (hc : unfinished comp.status = true)
    (failure : Option String) :
    Accounted (comps ++ [comp])
      (log ++ [.executed comp failure] ++
        [.stored comp ((comp.outcome failure).storeCall comp.id) none])
      (result.count (comp.outcome failure)) where
  executed := by simp [h.executed, hc, Event.executed?]
  stored := by simp [h.stored, hc, List.filterMap_cons, Event.stored?]
  call := h.call_append comp failure none
  sum := by
    have hsum := h.sum
    cases comp.outcome failure <;> simp [CompensationResult.count, hc] <;> omega
  success := by
    cases comp.outcome failure <;>
      simp [CompensationResult.count, Outcome.storeCall, h.success, Event.lands, StoreCall.isResolve]
  retry := by
    cases comp.outcome failure <;>
      simp [CompensationResult.count, Outcome.storeCall, h.retry, Event.lands, StoreCall.isUpdateStatus]
  manual := by
    cases comp.outcome failure <;>
      simp [CompensationResult.count, Outcome.storeCall, h.manual, Event.lands,
        StoreCall.isMarkManualRequired]
  failed := by
    cases comp.outcome failure <;>
      simp [CompensationResult.count, Outcome.storeCall, h.failed, Event.fails]

theorem Accounted.process {comps : List BatchCompensation} {progress : Progress}
    (h : Accounted comps progress.log progress.result) (services : Services) (comp : BatchCompensation) :
    Accounted (comps ++ [comp]) (processCompensation services progress comp).log
      (processCompensation services progress comp).result := by
  unfold processCompensation
  cases hc : unfinished comp.status with
  | false => exact h.skip hc
  | true =>
    simp only [if_true, Progress.settled]
    split
    next err _ => exact h.fault hc _ err
    next => exact h.land hc _

/-- The invariant of the loop, from any record on. -/
theorem Accounted.processAll {done : List BatchCompensation} {progress : Progress}
    (h : Accounted done progress.log progress.result) (services : Services)
    (comps : List BatchCompensation) :
    Accounted (done ++ comps) (comps.foldl (processCompensation services) progress).log
      (comps.foldl (processCompensation services) progress).result := by
  induction comps generalizing done progress with
  | nil => simpa using h
  | cons comp comps ih =>
    have hnext := ih (h.process services comp)
    rw [List.append_assoc, List.singleton_append] at hnext
    exact hnext

theorem processCompensation_totalItems (services : Services) (progress : Progress)
    (comp : BatchCompensation) :
    (processCompensation services progress comp).result.totalItems = progress.result.totalItems := by
  unfold processCompensation
  split
  · simp only [Progress.settled]
    split
    · rfl
    · cases comp.outcome _ <;> rfl
  · rfl

theorem processAll_totalItems (services : Services) (progress : Progress)
    (comps : List BatchCompensation) :
    (comps.foldl (processCompensation services) progress).result.totalItems =
      progress.result.totalItems := by
  induction comps generalizing progress with
  | nil => rfl
  | cons comp comps ih => rw [List.foldl_cons, ih, processCompensation_totalItems]

/-- How a store call of the loop ends in the steps of the system. -/
def faultOf : Option RepoError → Fault
  | some _ => .unapplied
  | none => .none

/-- The steps that processor `p` takes for the records, answered by the services. -/
def stepsFor (services : Services) (p : Nat) : Progress → List BatchCompensation → List Action
  | _, [] => []
  | progress, comp :: comps =>
    let err := services.execute progress.log comp.operationType comp.itemPayload
    let answer := services.store (progress.executed comp err).log ((comp.outcome err).storeCall comp.id)
    let rest := stepsFor services p (processCompensation services progress comp) comps
    if unfinished comp.status then .execute p err :: .settle p (faultOf answer) :: rest else rest

theorem loop_skip (s : State) (p : Nat) (result : CompensationResult) {comp : BatchCompensation}
    (hc : unfinished comp.status = false) (comps : List BatchCompensation) :
    s.loop p (.batch result) (comp :: comps) = s.loop p (.batch result) comps := by
  unfold State.loop
  rw [List.dropWhile_cons_of_pos (by simp [Call.takes, hc])]

theorem loop_take (s : State) (p : Nat) (result : CompensationResult) {comp : BatchCompensation}
    (hc : unfinished comp.status = true) (comps : List BatchCompensation) :
    s.loop p (.batch result) (comp :: comps) =
      s.setProcessor p (.running (.batch result) comp comps .executing) := by
  unfold State.loop
  rw [List.dropWhile_cons_of_neg (by simp [Call.takes, hc])]

theorem after_faultOf (services : Services) (progress : Progress) (comp : BatchCompensation)
    (outcome : Outcome) :
    ((Call.batch progress.result).after outcome
      (faultOf (services.store progress.log (outcome.storeCall comp.id)))).1 =
        .batch (progress.settled services comp outcome).result := by
  unfold Progress.settled
  cases services.store progress.log (outcome.storeCall comp.id) <;> rfl

/-- The steps of the system that one batch call consists of return what the loop computes. -/
theorem batch_steps_return (services : Services) (p : Nat) (s : State) (progress : Progress)
    (comps : List BatchCompensation) :
    ∃ s', Transition.exec step (s.loop p (.batch progress.result) comps)
        (stepsFor services p progress comps) = some s' ∧
      s'.returned = (comps.foldl (processCompensation services) progress).result :: s.returned := by
  induction comps generalizing s progress with
  | nil => exact ⟨_, rfl, rfl⟩
  | cons comp comps ih =>
    cases hc : unfinished comp.status with
    | false =>
      have hsame : processCompensation services progress comp = progress := by
        simp [processCompensation, hc]
      simp only [stepsFor, hc, Bool.false_eq_true, if_false, List.foldl_cons, hsame]
      rw [loop_skip s p _ hc]
      exact ih s progress
    | true =>
      simp only [stepsFor, hc, if_true, List.foldl_cons]
      rw [loop_take s p _ hc]
      set err := services.execute progress.log comp.operationType comp.itemPayload with herr
      set fault := faultOf (services.store (progress.executed comp err).log
        ((comp.outcome err).storeCall comp.id)) with hfault
      have hprocess : processCompensation services progress comp =
          (progress.executed comp err).settled services comp (comp.outcome err) := by
        simp [processCompensation, hc, herr]
      have hafter := after_faultOf services (progress.executed comp err) comp (comp.outcome err)
      let s₁ := { s.setProcessor p (.running (.batch progress.result) comp comps .executing) with
        executed := (comp.id, err.isNone) :: s.executed }
      let s₂ := s₁.setProcessor p (.running (.batch progress.result) comp comps (.executed err))
      have hexecute : step (s.setProcessor p (.running (.batch progress.result) comp comps .executing))
          (.execute p err) = some s₂ := by
        simp [step, State.setProcessor, s₁, s₂]
      have hsettle : step s₂ (.settle p fault) =
          some ((settled s₂ (.batch progress.result) comp err fault).loop
            p (.batch (processCompensation services progress comp).result) comps) := by
        rw [hprocess, ← hafter]
        simp [step, State.setProcessor, s₂, hfault, Progress.executed]
      obtain ⟨s', hrun, hreturned⟩ := ih (settled s₂ (.batch progress.result) comp err fault)
        (processCompensation services progress comp)
      refine ⟨s', ?_, hreturned⟩
      rw [Transition.exec, hexecute, Option.bind_some, Transition.exec, hsettle, Option.bind_some]
      exact hrun

/-- Whatever the executor and the store answer, the result accounts for every record of the batch. A
batch that cannot be loaded has no result, and nothing is done for it. -/
theorem batch_result_accounts (services : Services) (batchID : String) :
    (∀ e, processBatchCompensations services batchID (.error e) =
      ([], .error (.wrap "failed to get compensations" e))) ∧
    ∀ comps, ∃ log result, processBatchCompensations services batchID (.ok comps) = (log, .ok result) ∧
      result.totalItems = comps.length ∧ Accounted comps log result := by
  refine ⟨fun _ => rfl, fun comps => ⟨_, _, rfl, ?_, ?_⟩⟩
  · rw [processAll_totalItems]
    rfl
  · have hstart : Accounted [] (⟨[], startResult batchID comps.length, []⟩ : Progress).log
        (startResult batchID comps.length) := Accounted.start batchID comps.length
    exact hstart.processAll services comps

end SupplyPlatform.Compensation
