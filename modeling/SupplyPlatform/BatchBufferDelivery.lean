import Mathlib.Algebra.Order.Group.Multiset
import Mathlib.Tactic.Abel
import SupplyPlatform.BatchBufferInvariant

namespace SupplyPlatform.BatchBuffer

variable {ε Err : Type}

def Quiet (s : State ε Err) : Prop := s.run = .exiting ∨ s.run = .exited

/-- No event has been received and not yet appended, and no handler is at work. -/
def Critical.light : Critical ε Err → Bool
  | .addEvent _ => false
  | .handling _ => false
  | .recording _ _ => false
  | .reporting _ => false
  | _ => true

/-- The last flush leaves nothing behind, and nothing comes after it: what a drain loop takes from the
closed channel stays in the buffer, because that loop does not end. -/
structure Final (s : State ε Err) : Prop where
  last : ∀ crit, s.mu = some (.run true, crit) →
    crit = .drain ∨ (s.eventCh = [] ∧ (crit = .doFlush ∨ s.buffer = []))
  empty : Quiet s → s.eventCh = []
  flushed : Quiet s → s.buffer = [] ∨ (s.eventClosed = true ∧ ∃ o, s.mu = some (o, .drain))
  light : Quiet s → ∀ o crit, s.mu = some (o, crit) → crit.light = true

theorem final_start : Final (State.start : State ε Err) := by
  constructor <;> simp [State.start, Quiet]

theorem light_entry (op : Op ε) : (op.entry : Critical ε Err).light = true := by
  cases op <;> rfl

theorem Closing.closed_of_quiet {s : State ε Err} (h : Closing s) (hquiet : Quiet s) : s.closed = true := by
  rcases hquiet with hrun | hrun
  · exact h.stopped (h.exiting hrun)
  · exact h.stopped (h.exited hrun)

section

variable {c : Setup} {s t : State ε Err} {a : Action ε Err}

theorem lastFlush_step (ho : Owned s)
    (h : ∀ crit, s.mu = some (.run true, crit) →
      crit = .drain ∨ (s.eventCh = [] ∧ (crit = .doFlush ∨ s.buffer = [])))
    (hm : Moves c s a t) :
    ∀ crit, t.mu = some (.run true, crit) →
      crit = .drain ∨ (t.eventCh = [] ∧ (crit = .doFlush ∨ t.buffer = [])) := by
  obtain ⟨hfits, hruns, -, -⟩ := ho
  cases hm <;> first | exact h | grind -linarith [Fits]

theorem empty_step (hclosed : Quiet s → s.closed = true) (h : Final s) (hm : Moves c s a t) :
    Quiet t → t.eventCh = [] := by
  obtain ⟨hfinal, hempty, -, -⟩ := h
  unfold Quiet at *
  cases hm <;> first | exact hempty | grind -linarith [State.setCall]

theorem flushed_step (hclosed : Quiet s → s.closed = true) (h : Final s) (hm : Moves c s a t) :
    Quiet t → t.buffer = [] ∨ (t.eventClosed = true ∧ ∃ o, t.mu = some (o, .drain)) := by
  obtain ⟨hfinal, hempty, hflushed, hlight⟩ := h
  unfold Quiet at *
  cases hm <;> first | exact hflushed | grind -linarith [State.setCall, Critical.light]

theorem light_step (hclosed : Quiet s → s.closed = true) (h : Final s) (hm : Moves c s a t) :
    Quiet t → ∀ o crit, t.mu = some (o, crit) → crit.light = true := by
  obtain ⟨-, -, hflushed, hlight⟩ := h
  unfold Quiet at *
  cases hm <;> first | exact hlight | grind -linarith [State.setCall, Critical.light, light_entry]

end

theorem final_step {c : Setup} {s t : State ε Err} {a : Action ε Err} (ho : Owned s) (hc : Closing s)
    (h : Final s) (hm : Moves c s a t) : Final t where
  last := lastFlush_step ho h.last hm
  empty := empty_step hc.closed_of_quiet h hm
  flushed := flushed_step hc.closed_of_quiet h hm
  light := light_step hc.closed_of_quiet h hm

/-- The event the run loop has received and not yet appended, before it has the mutex and after. -/
def RunLoop.carried : RunLoop ε → List (Option ε)
  | .received event => [event]
  | _ => []

def carried : Option (Owner ε × Critical ε Err) → List (Option ε)
  | some (_, .addEvent event) => [event]
  | _ => []

/-- The events on their way and those that have been handed to the handler. -/
def State.pool (s : State ε Err) : Multiset (Option ε) :=
  ↑s.eventCh + ↑s.run.carried + ↑(carried s.mu) + ↑s.buffer + ↑s.handed.flatten

/-- What has been handed over and what is on its way, in the order it reaches the handler. -/
def State.line (s : State ε Err) : List (Option ε) :=
  s.handed.flatten ++ s.buffer ++ carried s.mu ++ s.run.carried ++ s.eventCh

/-- What has been taken in, the event of a call that has not unlocked yet behind the others. -/
def State.taken (s : State ε Err) : List (Option ε) := s.accepted ++ inFlight s.mu

/-- Until eventCh is closed the events taken in are on their way or have been handed over; after that
all have been handed over. -/
structure Accounts (s : State ε Err) : Prop where
  running : s.eventClosed = false → s.pool = ↑s.accepted + ↑(inFlight s.mu)
  closed : s.eventClosed = true → (↑s.handed.flatten : Multiset (Option ε)) = ↑s.accepted

theorem accounts_start : Accounts (State.start : State ε Err) := by
  constructor
  · intro _
    rfl
  · intro h
    simp [State.start] at h

theorem coe_cons (event : Option ε) (rest : List (Option ε)) :
    (↑(event :: rest) : Multiset (Option ε)) = ↑[event] + ↑rest :=
  (Multiset.coe_add [event] rest).symm

theorem accepted_unlock (s : State ε Err) (id : Nat) (op : Op ε) (result : Option (Failure Err)) :
    s.acceptedAfter op (op.result result) =
      s.accepted ++ inFlight (some (.call id op, (.leaving result : Critical ε Err))) := by
  cases op with
  | add event =>
    cases result with
    | none => rfl
    | some failure =>
      cases failure with
      | bufferClosed => exact (List.append_nil _).symm
      | handler err => rfl
  | flushNow => exact (List.append_nil _).symm
  | close => exact (List.append_nil _).symm

/-- Where events go in a step: it leaves the line alone, takes an event in at its end, lets one into the
buffer past those that are behind, or empties the buffer for want of a handler. -/
inductive Flows (c : Setup) (s t : State ε Err) (a : Action ε Err) : Prop
  | still (hline : t.line = s.line) (htaken : t.taken = s.taken)
  | send (event : Option ε) (hline : t.line = s.line ++ [event]) (htaken : t.taken = s.taken ++ [event])
  | overflow (o : Owner ε) (event : Option ε) (ha : a = .work) (hmu : s.mu = some (o, .add event))
      (hopen : s.closed = false) (hbuffer : t.buffer = s.buffer ++ [event])
      (hbefore : s.line = s.handed.flatten ++ s.buffer ++ (s.run.carried ++ s.eventCh))
      (hline : t.line = s.handed.flatten ++ s.buffer ++ event :: (s.run.carried ++ s.eventCh))
      (htaken : t.taken = s.taken ++ [event])
  | drain (o : Owner ε) (event : Option ε) (rest : List (Option ε)) (ha : a = .work)
      (hmu : s.mu = some (o, .drain)) (hch : s.eventCh = event :: rest)
      (hbefore : s.line = s.handed.flatten ++ s.buffer ++ s.run.carried ++ event :: rest)
      (hline : t.line = s.handed.flatten ++ s.buffer ++ event :: s.run.carried ++ rest)
      (htaken : t.taken = s.taken)
  | drop (hset : c.flushHandler = false) (hline : t.line.Sublist s.line) (htaken : t.taken = s.taken)

section

variable {c : Setup} {s t : State ε Err} {a : Action ε Err}

/-- The holder of the mutex goes on and no event moves. -/
theorem flows_of_holder {o : Owner ε} {crit : Critical ε Err} (next : Critical ε Err)
    (hmu : s.mu = some (o, crit)) (hcrit : crit.admitted = true) (hnext : next.admitted = true)
    (hcarried : carried (some (o, next)) = carried (some (o, crit)))
    (hline : t.line = s.handed.flatten ++ s.buffer ++ carried (some (o, next)) ++ s.run.carried ++ s.eventCh)
    (htaken : t.taken = s.accepted ++ inFlight (some (o, next))) : Flows c s t a := by
  have hsame : inFlight (some (o, next)) = inFlight (some (o, crit)) := inFlight_admitted o hcrit hnext
  refine .still ?_ ?_
  · rw [hline, hcarried, ← hmu]
    rfl
  · rw [htaken, hsame, ← hmu]
    rfl

theorem flows_step (ho : Owned s) (hopen : s.eventClosed = false) (hm : Moves c s a t) : Flows c s t a := by
  cases hm with
  | invoke op => exact .still rfl rfl
  | lock id op hmu =>
    have hnone : carried (some (.call id op, (op.entry : Critical ε Err))) = carried s.mu := by
      rw [hmu]
      cases op <;> rfl
    have hin : inFlight (some (.call id op, (op.entry : Critical ε Err))) = inFlight s.mu := by
      rw [hmu, inFlight_entry]
      rfl
    refine .still ?_ ?_
    · rw [State.line, hnone]
      rfl
    · rw [State.taken, hin]
      rfl
  | addEvent o event next hmu hnext =>
    have hsame : inFlight (some (o, next)) = inFlight (some (o, (.addEvent event : Critical ε Err))) := by
      rcases hnext with rfl | rfl <;> exact inFlight_admitted o rfl rfl
    have hnone : carried (some (o, next)) = [] := by rcases hnext with rfl | rfl <;> rfl
    refine .still ?_ ?_
    · rw [State.line, State.line, hnone, hmu]
      simp [carried]
    · rw [State.taken, State.taken, hsame, hmu]
  | refuse o event hmu =>
    obtain ⟨id, rfl⟩ := ho.fits _ _ hmu
    refine .still ?_ ?_
    · rw [State.line, State.line, hmu]
      rfl
    · rw [State.taken, State.taken, hmu]
      rfl
  | send o event hmu =>
    obtain ⟨id, rfl⟩ := ho.fits _ _ hmu
    refine .send event ?_ ?_
    · rw [State.line, State.line, hmu]
      exact (List.append_assoc _ _ _).symm
    · rw [State.taken, State.taken, hmu]
      simp [inFlight, Critical.admitted]
  | overflow o event next hmu hclosed hchan hnext =>
    obtain ⟨id, rfl⟩ := ho.fits _ _ hmu
    have hin : inFlight (some (.call id (.add event), next)) = [event] := by
      rcases hnext with rfl | rfl <;> rfl
    have hnone : carried (some (.call id (.add event), next)) = [] := by
      rcases hnext with rfl | rfl <;> rfl
    refine .overflow _ event rfl hmu hclosed rfl ?_ ?_ ?_
    · simp [State.line, hmu, carried]
    · simp [State.line, hnone]
    · rw [State.taken, State.taken, hin, hmu]
      simp [inFlight, Critical.admitted]
  | drain o event rest hmu hch =>
    refine .drain o event rest rfl hmu hch ?_ ?_ rfl
    · simp [State.line, hmu, hch, carried]
    · simp [State.line, hmu, carried]
  | drainClosed o hmu hch hchan | receiveClosed hrun hch hchan =>
    rw [hopen] at hchan
    cases hchan
  | drained o hmu => exact flows_of_holder .doFlush hmu rfl rfl rfl rfl rfl
  | flushNothing o hmu => exact flows_of_holder (.leaving none) hmu rfl rfl rfl rfl rfl
  | hand o hmu =>
    refine flows_of_holder (.handling s.buffer) hmu rfl rfl rfl ?_ rfl
    rw [State.line, List.flatten_append, List.flatten_singleton, List.append_nil]
  | drop o hmu hset =>
    have hsame : inFlight (some (o, (.leaving none : Critical ε Err))) = inFlight (some (o, .doFlush)) :=
      inFlight_admitted o rfl rfl
    refine .drop hset ?_ ?_
    · rw [State.line, State.line, hmu]
      simp only [carried, List.append_nil, List.append_assoc]
      exact (List.Sublist.refl _).append (List.sublist_append_right _ _)
    · rw [State.taken, State.taken, hsame, hmu]
  | handled o events hmu => exact flows_of_holder (.leaving none) hmu rfl rfl rfl rfl rfl
  | handlerFails o events err hmu => exact flows_of_holder (.recording err events) hmu rfl rfl rfl rfl rfl
  | report o events err hmu => exact flows_of_holder (.reporting err) hmu rfl rfl rfl rfl rfl
  | unreported o events err hmu =>
    exact flows_of_holder (.leaving (some (.handler err))) hmu rfl rfl rfl rfl rfl
  | errorHandled o err hmu =>
    exact flows_of_holder (.leaving (some (.handler err))) hmu rfl rfl rfl rfl rfl
  | closeAgain o hmu => exact flows_of_holder (.leaving none) hmu rfl rfl rfl rfl rfl
  | closeFirst o hmu => exact flows_of_holder .closing hmu rfl rfl rfl rfl rfl
  | unlockClosing id op hmu =>
    obtain ⟨_, hop⟩ := ho.fits _ _ hmu
    obtain ⟨_, rfl⟩ := Owner.call.inj hop
    refine .still ?_ ?_
    · rw [State.line, State.line, hmu]
      rfl
    · rw [State.taken, State.taken, hmu]
      rfl
  | unlockRun last result hmu =>
    have hrun := ho.runs _ _ hmu
    refine .still ?_ ?_
    · rw [State.line, State.line, hmu, hrun]
      cases last <;> rfl
    · rw [State.taken, State.taken, hmu]
      rfl
  | unlockCall id op result hmu =>
    refine .still ?_ ?_
    · rw [State.line, State.line, hmu]
      rfl
    · rw [State.taken, State.taken, hmu, accepted_unlock s id op result]
      exact List.append_nil _
  | receiveEvent event rest hrun hch =>
    refine .still ?_ rfl
    simp [State.line, hrun, hch, RunLoop.carried]
  | runAdd event hmu hrun =>
    refine .still ?_ ?_
    · simp [State.line, hrun, hmu, RunLoop.carried, carried]
    · rw [State.taken, State.taken, hmu]
      rfl
  | receiveStop hrun | tick hrun | closeDone hrun =>
    refine .still ?_ rfl
    rw [State.line, State.line, hrun]
    rfl
  | runFlush hmu hrun | runLast hmu hrun =>
    refine .still ?_ ?_
    · rw [State.line, State.line, hmu, hrun]
      rfl
    · rw [State.taken, State.taken, hmu]
      rfl
  | closeStop | receiveDone | closeEvent => exact .still rfl rfl

end

theorem pool_eq_line (s : State ε Err) : s.pool = ↑s.line := by
  simp only [State.pool, State.line, ← Multiset.coe_add]
  abel

theorem running_step {c : Setup} {s t : State ε Err} {a : Action ε Err} (hset : c.flushHandler = true)
    (ho : Owned s) (h : s.pool = ↑s.accepted + ↑(inFlight s.mu)) (hopen : s.eventClosed = false)
    (hm : Moves c s a t) : t.pool = ↑t.accepted + ↑(inFlight t.mu) := by
  rw [pool_eq_line, Multiset.coe_add] at h ⊢
  change (↑s.line : Multiset (Option ε)) = ↑s.taken at h
  change (↑t.line : Multiset (Option ε)) = ↑t.taken
  cases flows_step ho hopen hm with
  | still hline htaken => rw [hline, htaken, h]
  | send event hline htaken => rw [hline, htaken, ← Multiset.coe_add, ← Multiset.coe_add, h]
  | overflow o event ha hmu hclosed hbuffer hbefore hline htaken =>
    rw [htaken, ← Multiset.coe_add, ← h, hbefore, hline]
    simp only [← Multiset.coe_add, coe_cons event (s.run.carried ++ s.eventCh)]
    abel
  | drain o event rest ha hmu hch hbefore hline htaken =>
    rw [htaken, ← h, hbefore, hline]
    simp only [← Multiset.coe_add, coe_cons event rest, coe_cons event s.run.carried]
    abel
  | drop hnone =>
    rw [hset] at hnone
    cases hnone

theorem settled_step {c : Setup} {s t : State ε Err} {a : Action ε Err} (hc : Closing s) (hf : Final s)
    (hchan : s.eventClosed = true) (hm : Moves c s a t) :
    t.handed = s.handed ∧ t.accepted = s.accepted := by
  have hexited := hc.done hchan
  have hrefuses := hc.refuses (hc.stopped (hc.exited hexited))
  cases hm with
  | hand o hmu hbuf =>
    -- the buffer holds something only while a drain loop holds the mutex
    rcases hf.flushed (.inr hexited) with hempty | ⟨_, o', hdrain⟩
    · exact absurd hempty hbuf
    · rw [hmu] at hdrain
      simp at hdrain
  | unlockCall id op result hmu =>
    rw [hmu] at hrefuses
    refine ⟨rfl, ?_⟩
    show s.acceptedAfter op (op.result result) = s.accepted
    rw [accepted_unlock s id op result, hrefuses, List.append_nil]
  | _ => exact ⟨rfl, rfl⟩

theorem accounts_step {c : Setup} {s t : State ε Err} {a : Action ε Err} (hset : c.flushHandler = true)
    (ho : Owned s) (hc : Closing s) (hf : Final s) (h : Accounts s) (hm : Moves c s a t) : Accounts t := by
  obtain hsame | ⟨hopen, hnow, ⟨id, op, hcall⟩, hhanded, haccepted, _⟩ := eventClosed_step hm
  · constructor
    · intro hchan
      rw [hsame] at hchan
      exact running_step hset ho (h.running hchan) hchan hm
    · intro hchan
      rw [hsame] at hchan
      obtain ⟨hhanded, haccepted⟩ := settled_step hc hf hchan hm
      rw [hhanded, haccepted]
      exact h.closed hchan
  · constructor
    · intro hchan
      rw [hnow] at hchan
      simp at hchan
    · intro _
      -- the run loop has exited: nothing is on its way
      have hexited := hc.finish id op hcall
      have hquiet : Quiet s := .inr hexited
      have hpool := h.running hopen
      have hcarried : carried s.mu = [] := by
        cases hmu : s.mu with
        | none => rfl
        | some holder =>
          obtain ⟨o, crit⟩ := holder
          have hlight := hf.light hquiet o crit hmu
          cases crit <;> first | rfl | simp [Critical.light] at hlight
      have hbuffer : s.buffer = [] := by
        rcases hf.flushed hquiet with hempty | ⟨hchan, _⟩
        · exact hempty
        · rw [hopen] at hchan
          simp at hchan
      rw [State.pool, hf.empty hquiet, hexited, hcarried, hbuffer,
        hc.refuses (hc.stopped (hc.exited hexited))] at hpool
      rw [hhanded, haccepted]
      simpa [RunLoop.carried] using hpool

/-- The batch whose failure is about to be reported. -/
def pending : Option (Owner ε × Critical ε Err) → List (Err × List (Option ε))
  | some (_, .recording err events) => [(err, events)]
  | _ => []

theorem pending_entry (id : Nat) (op : Op ε) :
    pending (some (.call id op, (op.entry : Critical ε Err))) = [] := by
  cases op <;> rfl

theorem reports_step {c : Setup} {s t : State ε Err} {a : Action ε Err} (hset : c.flushErrorHandler = true)
    (h : s.failed = s.reported ++ pending s.mu) (hm : Moves c s a t) :
    t.failed = t.reported ++ pending t.mu := by
  cases hm with
  | lock id op hmu =>
    rw [hmu] at h
    rw [pending_entry]
    exact h
  | addEvent o event next hmu hnext | overflow o event next hmu _ _ hnext =>
    rw [hmu] at h
    rcases hnext with rfl | rfl <;> exact h
  | handlerFails o events err hmu =>
    rw [hmu] at h
    show s.failed ++ [(err, events)] = s.reported ++ [(err, events)]
    rw [h]
    simp [pending]
  | report o events err hmu =>
    rw [hmu] at h
    show s.failed = (s.reported ++ [(err, events)]) ++ []
    rw [List.append_nil]
    exact h
  | unreported o events err hmu hnone =>
    rw [hset] at hnone
    simp at hnone
  | refuse o event hmu | send o event hmu | handled o event hmu => rw [hmu] at h; exact h
  | drained o hmu | flushNothing o hmu | hand o hmu | drop o hmu => rw [hmu] at h; exact h
  | closeAgain o hmu | closeFirst o hmu => rw [hmu] at h; exact h
  | errorHandled o err hmu => rw [hmu] at h; exact h
  | unlockClosing id op hmu => rw [hmu] at h; exact h
  | unlockRun last result hmu => rw [hmu] at h; exact h
  | unlockCall id op result hmu => rw [hmu] at h; exact h
  | runAdd event hmu hrun => rw [hmu] at h; exact h
  | runFlush hmu hrun | runLast hmu hrun => rw [hmu] at h; exact h
  | _ => exact h

/-- The batch a handler is at work on. -/
def running : Option (Owner ε × Critical ε Err) → List (List (Option ε))
  | some (_, .handling events) => [events]
  | _ => []

theorem running_entry (id : Nat) (op : Op ε) :
    running (some (.call id op, (op.entry : Critical ε Err))) = [] := by
  cases op <;> rfl

theorem failures_step {c : Setup} {s t : State ε Err} {a : Action ε Err}
    (h : (s.failed.map Prod.snd ++ running s.mu).Sublist s.handed) (hm : Moves c s a t) :
    (t.failed.map Prod.snd ++ running t.mu).Sublist t.handed := by
  -- when no handler is at work afterwards there is less to show
  have hless : (s.failed.map Prod.snd ++ []).Sublist s.handed := by
    rw [List.append_nil]
    exact (List.sublist_append_left _ _).trans h
  cases hm with
  | lock id op hmu =>
    rw [running_entry]
    exact hless
  | addEvent o event next hmu hnext | overflow o event next hmu _ _ hnext =>
    rcases hnext with rfl | rfl <;> exact hless
  | hand o hmu =>
    rw [hmu] at h
    show (s.failed.map Prod.snd ++ [s.buffer]).Sublist (s.handed ++ [s.buffer])
    exact List.Sublist.append ((List.sublist_append_left _ _).trans h) (List.Sublist.refl _)
  | handlerFails o events err hmu =>
    rw [hmu] at h
    show ((s.failed ++ [(err, events)]).map Prod.snd ++ []).Sublist s.handed
    rw [List.map_append, List.append_nil]
    exact h
  | refuse | send | drained | flushNothing | drop | handled | report | unreported | errorHandled =>
    exact hless
  | closeAgain | closeFirst | unlockClosing | unlockRun | unlockCall | runAdd | runFlush | runLast =>
    exact hless
  | _ => exact h

/-- `Close` is called when no other call of it has been made. -/
def OneClose (s : State ε Err) : Action ε Err → Prop
  | .invoke .close => ∀ id stage, s.calls id ≠ some (.close, stage)
  | _ => True

structure Closer (s : State ε Err) : Prop where
  unique : ∀ i j si sj, s.calls i = some (.close, si) → s.calls j = some (.close, sj) → i = j
  owner : ∀ id crit, s.mu = some (.call id .close, crit) → crit = .close ∨ crit = .closing
  early : ∀ id, s.mu = some (.call id .close, .close) → s.closed = false
  past : s.closed = true → ∃ id stage, s.calls id = some (.close, stage) ∧ stage ≠ .waiting ∧
    (stage = .inside → s.mu = some (.call id .close, .closing))
  returned : ∀ id result, s.calls id = some (.close, .returned result) → s.eventClosed = true

theorem closer_start : Closer (State.start : State ε Err) := by
  constructor <;> simp [State.start]

section

variable {c : Setup} {s t : State ε Err} {a : Action ε Err}

theorem unique_step (ho : Owned s) (hok : OneClose s a)
    (h : ∀ i j si sj, s.calls i = some (.close, si) → s.calls j = some (.close, sj) → i = j)
    (hm : Moves c s a t) :
    ∀ i j si sj, t.calls i = some (.close, si) → t.calls j = some (.close, sj) → i = j := by
  obtain ⟨-, -, hinside, -⟩ := ho
  cases hm <;> first | exact h | grind -linarith [State.setCall, OneClose]

theorem owner_step (hearly : ∀ id, s.mu = some (.call id .close, .close) → s.closed = false)
    (h : ∀ id crit, s.mu = some (.call id .close, crit) → crit = .close ∨ crit = .closing)
    (hm : Moves c s a t) :
    ∀ id crit, t.mu = some (.call id .close, crit) → crit = .close ∨ crit = .closing := by
  cases hm <;> first | exact h | grind -linarith [Op.entry]

/-- The `Close` that gets the mutex is the only one, so nobody has closed before it. -/
theorem early_step (hc : Closer s) (hm : Moves c s a t) :
    ∀ id, t.mu = some (.call id .close, .close) → t.closed = false := by
  obtain ⟨hunique, -, hearly, hpast, -⟩ := hc
  cases hm <;> first | exact hearly | grind -linarith [State.setCall, Op.entry]

theorem past_step (ho : Owned s) (h : s.closed = true → ∃ id stage, s.calls id = some (.close, stage) ∧
      stage ≠ .waiting ∧ (stage = .inside → s.mu = some (.call id .close, .closing)))
    (hm : Moves c s a t) :
    t.closed = true → ∃ id stage, t.calls id = some (.close, stage) ∧ stage ≠ .waiting ∧
      (stage = .inside → t.mu = some (.call id .close, .closing)) := by
  obtain ⟨hfits, hruns, hinside, hfresh⟩ := ho
  cases hm with
  | closeFirst o hmu =>
    obtain ⟨id, rfl⟩ := hfits _ _ hmu
    exact fun _ => ⟨id, .inside, hinside _ _ _ hmu, by simp, fun _ => rfl⟩
  | unlockClosing id op hmu =>
    obtain ⟨_, hop⟩ := hfits _ _ hmu
    obtain ⟨_, rfl⟩ := Owner.call.inj hop
    exact fun _ => ⟨id, .stop, (State.calls_setCall ..).trans (if_pos rfl), by simp, by simp⟩
  | unlockCall id op result hmu =>
    intro hclosed
    obtain ⟨n, stage, hn, hne, hin⟩ := h hclosed
    have hlocked : stage ≠ .inside := by
      intro hstage
      have hholder := hin hstage
      rw [hmu] at hholder
      simp at hholder
    have hother : n ≠ id := by
      rintro rfl
      rw [hinside _ _ _ hmu] at hn
      obtain ⟨_, hstage⟩ := Prod.mk.inj (Option.some.inj hn)
      exact hlocked hstage.symm
    exact ⟨n, stage, ((State.calls_setCall ..).trans (if_neg hother)).trans hn, hne, fun h => absurd h hlocked⟩
  | _ => first | exact h | grind -linarith [State.setCall]

theorem returned_step (howner : ∀ id crit, s.mu = some (.call id .close, crit) →
      crit = .close ∨ crit = .closing)
    (h : ∀ id result, s.calls id = some (.close, .returned result) → s.eventClosed = true)
    (hm : Moves c s a t) :
    ∀ id result, t.calls id = some (.close, .returned result) → t.eventClosed = true := by
  cases hm <;> first | exact h | grind -linarith [State.setCall]

end

theorem closer_step {c : Setup} {s t : State ε Err} {a : Action ε Err} (ho : Owned s) (h : Closer s)
    (hok : OneClose s a) (hm : Moves c s a t) : Closer t where
  unique := unique_step ho hok h.unique hm
  owner := owner_step h.early h.owner hm
  early := early_step h hm
  past := past_step ho h.past hm
  returned := returned_step h.owner h.returned hm

structure Delivers (s : State ε Err) : Prop where
  owned : Owned s
  closing : Closing s
  final : Final s
  accounts : Accounts s
  closer : Closer s
  failures : (s.failed.map Prod.snd ++ running s.mu).Sublist s.handed

theorem delivers_start : Delivers (State.start : State ε Err) :=
  ⟨owned_start, closing_start, final_start, accounts_start, closer_start, List.Sublist.refl _⟩

theorem delivers_step {c : Setup} {s t : State ε Err} {a : Action ε Err} (hset : c.flushHandler = true)
    (h : Delivers s) (hok : OneClose s a) (hstep : step c s a = some t) : Delivers t := by
  have hm := moves_of_step hstep
  exact ⟨owned_step h.owned hm, closing_step h.owned h.closing hm, final_step h.owned h.closing h.final hm,
    accounts_step hset h.owned h.closing h.final h.accounts hm, closer_step h.owned h.closer hok hm,
    failures_step h.failures hm⟩

theorem Delivers.handed_subperm {s : State ε Err} (h : Delivers s) :
    s.handed.flatten.Subperm (s.accepted ++ inFlight s.mu) := by
  cases hchan : s.eventClosed with
  | false =>
    have hle : (↑s.handed.flatten : Multiset (Option ε)) ≤ s.pool := Multiset.le_add_left _ _
    rw [h.accounts.running hchan, Multiset.coe_add] at hle
    exact Multiset.coe_le.mp hle
  | true =>
    have hperm := Multiset.coe_eq_coe.mp (h.accounts.closed hchan)
    exact hperm.subperm.trans (List.sublist_append_left _ _).subperm

/-- In every state reached by calls of `Add` and `FlushNow` and one of `Close`, events handed to the
flush handler are events of calls of `Add` that have returned nil, or of the one that is about to; when
`Close` has returned, the batches handed over hold every accepted event exactly as often as it was
accepted, and the batches that failed are those given to the error handler, each once. -/
theorem accepted_events_are_handed_over_once (c : Setup) (hset : c.flushHandler = true) (s : State ε Err)
    (hreach : Transition.Reach (step c) OneClose State.start s) :
    s.handed.flatten.Subperm (s.accepted ++ inFlight s.mu) ∧
    (s.failed.map Prod.snd).Sublist s.handed ∧
    ∀ id result, s.calls id = some (.close, .returned result) →
      s.handed.flatten.Perm s.accepted ∧ (∀ o events, s.mu ≠ some (o, .handling events)) ∧
      (c.flushErrorHandler = true → s.reported = s.failed) := by
  have h := hreach.invariant delivers_start (fun _ _ _ h hok hstep => delivers_step hset h hok hstep)
  refine ⟨h.handed_subperm, (List.sublist_append_left _ _).trans h.failures, fun id result hret => ?_⟩
  have hchan := h.closer.returned id result hret
  have hlight := h.final.light (.inr (h.closing.done hchan))
  refine ⟨Multiset.coe_eq_coe.mp (h.accounts.closed hchan), fun o events hmu => ?_, fun herr => ?_⟩
  · have hbusy := hlight o _ hmu
    simp [Critical.light] at hbusy
  · have hreports := hreach.invariant (I := fun s => s.failed = s.reported ++ pending s.mu) rfl
      (fun _ _ _ h _ hstep => reports_step herr h (moves_of_step hstep))
    have hnone : pending s.mu = [] := by
      cases hmu : s.mu with
      | none => rfl
      | some holder =>
        obtain ⟨o, crit⟩ := holder
        have hbusy := hlight o crit hmu
        cases crit <;> first | rfl | simp [Critical.light] at hbusy
    rw [hreports, hnone, List.append_nil]

def sampleSetup : Setup := { defaultBatchBufferConfig with flushHandler := true, flushErrorHandler := true }

/-- An event is added while `Close` waits for the mutex; the last flush hands it over, fails and
reports it. -/
def closingRun : List (Action Nat String) :=
  [.invoke (.add (some 7)), .lock 1, .work, .work, .lock 0, .work, .work, .closeStop 0, .receiveStop,
   .runLock, .work, .work, .work, .handlerReturns (some "down"), .work, .errorHandlerReturns, .work,
   .closeDone, .receiveDone 0, .closeEvent 0]

def closeCalled : State Nat String := { State.start.setCall 0 .close .waiting with nextCall := 1 }

theorem oneClose_of_ne {s : State ε Err} {a : Action ε Err} (h : a ≠ .invoke .close) : OneClose s a := by
  cases a with
  | invoke op =>
    cases op with
    | close => exact absurd rfl h
    | add event => trivial
    | flushNow => trivial
  | _ => trivial

theorem closing_run_hands_over : sampleSetup.flushHandler = true ∧ ∃ s : State Nat String,
    Transition.Reach (step sampleSetup) OneClose State.start s ∧
      s.calls 0 = some (.close, .returned none) ∧ s.accepted = [some 7] ∧
      s.handed.flatten.Perm s.accepted ∧ s.reported = [("down", [some 7])] ∧ s.reported = s.failed := by
  have hfirst : Transition.Reach (step sampleSetup) OneClose State.start closeCalled :=
    (Transition.Reach.refl _).next (a := .invoke .close) (fun id stage => by simp [State.start]) rfl
  obtain ⟨s, hexec, hret, hacc, hrep⟩ : ∃ s, Transition.exec (step sampleSetup) closeCalled closingRun = some s ∧
      s.calls 0 = some (.close, .returned none) ∧ s.accepted = [some 7] ∧
      s.reported = [("down", [some 7])] := ⟨_, rfl, rfl, rfl, rfl⟩
  have hne : ∀ a ∈ closingRun, a ≠ .invoke .close := by decide
  have hreach := hfirst.trans (Transition.reach_of_exec_of hexec (fun _ a ha => oneClose_of_ne (hne a ha)))
  obtain ⟨_, _, hclose⟩ := accepted_events_are_handed_over_once sampleSetup rfl s hreach
  obtain ⟨hperm, _, hreports⟩ := hclose 0 none hret
  exact ⟨rfl, s, hreach, hret, hacc, hperm, hrep, hreports rfl⟩

end SupplyPlatform.BatchBuffer
