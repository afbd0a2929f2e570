import SupplyPlatform.BatchBufferStep

namespace SupplyPlatform.BatchBuffer

variable {ε Err : Type}

/-- Whose critical section this is a part of. -/
def Fits (o : Owner ε) : Critical ε Err → Prop
  | .addEvent _ => o = .run false
  | .add event => ∃ id, o = .call id (.add event)
  | .drain => (∃ last, o = .run last) ∨ ∃ id, o = .call id .flushNow
  | .close => ∃ id, o = .call id .close
  | .closing => ∃ id, o = .call id .close
  | _ => True

/-- The holder of the mutex is where it says it is, and calls are numbered as they come. -/
structure Owned (s : State ε Err) : Prop where
  fits : ∀ o crit, s.mu = some (o, crit) → Fits o crit
  runs : ∀ last crit, s.mu = some (.run last, crit) → s.run = .locked
  inside : ∀ id op crit, s.mu = some (.call id op, crit) → s.calls id = some (op, .inside)
  fresh : ∀ id, s.nextCall ≤ id → s.calls id = none

theorem owned_start : Owned (State.start : State ε Err) :=
  ⟨by simp [State.start], by simp [State.start], by simp [State.start], by simp [State.start]⟩

theorem fits_entry (id : Nat) (op : Op ε) : Fits (.call id op) (op.entry : Critical ε Err) := by
  cases op with
  | add event => exact ⟨id, rfl⟩
  | flushNow => exact .inr ⟨id, rfl⟩
  | close => exact ⟨id, rfl⟩

theorem owned_step {c : Setup} {s t : State ε Err} {a : Action ε Err} (h : Owned s)
    (hm : Moves c s a t) : Owned t := by
  obtain ⟨hfits, hruns, hinside, hfresh⟩ := h
  constructor
  · cases hm <;> first | exact hfits | grind -linarith [Fits, fits_entry]
  · cases hm <;> first | exact hruns | grind -linarith
  · cases hm <;> first | exact hinside | grind -linarith [State.setCall]
  · cases hm <;> first | exact hfresh | grind -linarith [State.setCall]

/-- The event has been taken in: `Add` is past the test of `closed`. -/
def Critical.admitted : Critical ε Err → Bool
  | .add _ => false
  | .leaving (some .bufferClosed) => false
  | _ => true

/-- The event of an `Add` that has been taken in and has not returned. -/
def inFlight : Option (Owner ε × Critical ε Err) → List (Option ε)
  | some (.call _ (.add event), crit) => if crit.admitted then [event] else []
  | _ => []

@[simp] theorem inFlight_entry (id : Nat) (op : Op ε) :
    inFlight (some (.call id op, (op.entry : Critical ε Err))) = [] := by
  cases op <;> rfl

theorem inFlight_admitted (o : Owner ε) {crit next : Critical ε Err} (h : crit.admitted = true)
    (hnext : next.admitted = true) : inFlight (some (o, next)) = inFlight (some (o, crit)) := by
  cases o with
  | run last => rfl
  | call id op =>
    cases op with
    | add event => simp [inFlight, h, hnext]
    | flushNow => rfl
    | close => rfl

theorem inFlight_refused (o : Owner ε) :
    inFlight (some (o, (.leaving (some .bufferClosed) : Critical ε Err))) = [] := by
  cases o with
  | run last => rfl
  | call id op => cases op <;> rfl

/-- How far `Close` has come, and that no `Add` takes an event in after it has begun. -/
structure Closing (s : State ε Err) : Prop where
  refuses : s.closed = true → inFlight s.mu = []
  begun : ∀ o, s.mu = some (o, .closing) → s.closed = true
  stop : ∀ id op, s.calls id = some (op, .stop) → s.closed = true
  stopped : s.stopClosed = true → s.closed = true
  stopping : s.run = .stopping → s.stopClosed = true
  last : ∀ crit, s.mu = some (.run true, crit) → s.stopClosed = true
  exiting : s.run = .exiting → s.stopClosed = true
  exited : s.run = .exited → s.stopClosed = true
  finish : ∀ id op, s.calls id = some (op, .finish) → s.run = .exited
  done : s.eventClosed = true → s.run = .exited

theorem closing_start : Closing (State.start : State ε Err) := by
  constructor <;> simp [State.start]

theorem refuses_step {c : Setup} {s t : State ε Err} {a : Action ε Err} (ho : Owned s)
    (h : s.closed = true → inFlight s.mu = []) (hm : Moves c s a t) (hclosed : t.closed = true) :
    inFlight t.mu = [] := by
  -- the holder goes on with a part of its section that is past the test
  have hgoes : ∀ (o : Owner ε) (crit next : Critical ε Err), s.mu = some (o, crit) →
      crit.admitted = true → next.admitted = true → s.closed = true → inFlight (some (o, next)) = [] := by
    intro o crit next hmu hcrit hnext hs
    rw [inFlight_admitted o hcrit hnext, ← hmu]
    exact h hs
  cases hm with
  | lock id op => exact inFlight_entry id op
  | addEvent o event next hmu hnext =>
    rcases hnext with rfl | rfl
    · exact hgoes o _ _ hmu rfl rfl hclosed
    · exact hgoes o _ _ hmu rfl rfl hclosed
  | refuse o => exact inFlight_refused o
  | send o event hmu hopen | overflow o event next hmu hopen =>
    rw [hopen] at hclosed
    simp at hclosed
  | drained o hmu | flushNothing o hmu | hand o hmu | drop o hmu => exact hgoes o _ _ hmu rfl rfl hclosed
  | handled o events hmu => exact hgoes o _ _ hmu rfl rfl hclosed
  | handlerFails o events err hmu | report o events err hmu | unreported o events err hmu =>
    exact hgoes o _ _ hmu rfl rfl hclosed
  | errorHandled o err hmu => exact hgoes o _ _ hmu rfl rfl hclosed
  | closeAgain o hmu => exact hgoes o _ _ hmu rfl rfl hclosed
  | closeFirst o hmu =>
    obtain ⟨id, rfl⟩ := ho.fits _ _ hmu
    rfl
  | unlockClosing | unlockRun | unlockCall | runAdd | runFlush | runLast => rfl
  | _ => exact h hclosed

theorem entry_ne_closing (op : Op ε) : (op.entry : Critical ε Err) ≠ .closing := by
  cases op <;> simp [Op.entry]

-- how far `Close` has come is read off what came right before, so each fact needs only its predecessor
section

variable {c : Setup} {s t : State ε Err} {a : Action ε Err}

theorem begun_step (h : ∀ o, s.mu = some (o, .closing) → s.closed = true) (hm : Moves c s a t) :
    ∀ o, t.mu = some (o, .closing) → t.closed = true := by
  cases hm <;> first | exact h | grind -linarith [entry_ne_closing]

theorem stop_step (hbegun : ∀ o, s.mu = some (o, .closing) → s.closed = true)
    (h : ∀ id op, s.calls id = some (op, .stop) → s.closed = true) (hm : Moves c s a t) :
    ∀ id op, t.calls id = some (op, .stop) → t.closed = true := by
  cases hm <;> first | exact h | grind -linarith [State.setCall]

theorem stopped_step (hstop : ∀ id op, s.calls id = some (op, .stop) → s.closed = true)
    (h : s.stopClosed = true → s.closed = true) (hm : Moves c s a t) :
    t.stopClosed = true → t.closed = true := by
  cases hm <;> first | exact h | grind -linarith [State.setCall]

theorem stopping_step (h : s.run = .stopping → s.stopClosed = true) (hm : Moves c s a t) :
    t.run = .stopping → t.stopClosed = true := by
  cases hm <;> first | exact h | grind -linarith

theorem last_step (hstopping : s.run = .stopping → s.stopClosed = true)
    (h : ∀ crit, s.mu = some (.run true, crit) → s.stopClosed = true) (hm : Moves c s a t) :
    ∀ crit, t.mu = some (.run true, crit) → t.stopClosed = true := by
  cases hm <;> first | exact h | grind -linarith

theorem exiting_step (hlast : ∀ crit, s.mu = some (.run true, crit) → s.stopClosed = true)
    (h : s.run = .exiting → s.stopClosed = true) (hm : Moves c s a t) :
    t.run = .exiting → t.stopClosed = true := by
  cases hm <;> first | exact h | grind -linarith

theorem exited_step (hexiting : s.run = .exiting → s.stopClosed = true)
    (h : s.run = .exited → s.stopClosed = true) (hm : Moves c s a t) :
    t.run = .exited → t.stopClosed = true := by
  cases hm <;> first | exact h | grind -linarith

theorem finish_step (hruns : ∀ last crit, s.mu = some (.run last, crit) → s.run = .locked)
    (h : ∀ id op, s.calls id = some (op, .finish) → s.run = .exited) (hm : Moves c s a t) :
    ∀ id op, t.calls id = some (op, .finish) → t.run = .exited := by
  cases hm <;> first | exact h | grind -linarith [State.setCall]

theorem done_step (hruns : ∀ last crit, s.mu = some (.run last, crit) → s.run = .locked)
    (hfinish : ∀ id op, s.calls id = some (op, .finish) → s.run = .exited)
    (h : s.eventClosed = true → s.run = .exited) (hm : Moves c s a t) :
    t.eventClosed = true → t.run = .exited := by
  cases hm <;> first | exact h | grind -linarith [State.setCall]

end

theorem closing_step {c : Setup} {s t : State ε Err} {a : Action ε Err} (ho : Owned s) (h : Closing s)
    (hm : Moves c s a t) : Closing t where
  refuses := refuses_step ho h.refuses hm
  begun := begun_step h.begun hm
  stop := stop_step h.begun h.stop hm
  stopped := stopped_step h.stop h.stopped hm
  stopping := stopping_step h.stopping hm
  last := last_step h.stopping h.last hm
  exiting := exiting_step h.last h.exiting hm
  exited := exited_step h.exiting h.exited hm
  finish := finish_step ho.runs h.finish hm
  done := done_step ho.runs h.finish h.done hm

theorem eventClosed_step {c : Setup} {s t : State ε Err} {a : Action ε Err} (hm : Moves c s a t) :
    t.eventClosed = s.eventClosed ∨
      (s.eventClosed = false ∧ t.eventClosed = true ∧ (∃ id op, s.calls id = some (op, .finish)) ∧
        t.handed = s.handed ∧ t.accepted = s.accepted ∧ t.mu = s.mu) := by
  cases hm with
  | closeEvent id op hcall hchan => exact .inr ⟨hchan, rfl, ⟨id, op, hcall⟩, rfl, rfl, rfl⟩
  | _ => exact .inl rfl

end SupplyPlatform.BatchBuffer
