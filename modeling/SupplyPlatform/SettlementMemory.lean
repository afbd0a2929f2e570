import SupplyPlatform.Lib.Runs
import SupplyPlatform.Settlement

namespace SupplyPlatform.Settlements

/-- `InMemorySettlementStore`. Its map holds pointers, and whoever gets a settlement from it shares the
stored object: an id stands for the pointer. -/
structure MemoryStore where
  settlements : List Settlement
  nextID : Int
  drawn : ∀ s ∈ settlements, s.id < nextID

namespace MemoryStore

/-- `NewInMemorySettlementStore`. -/
def new : MemoryStore := ⟨[], 1, by simp⟩

/-- The object a pointer leads to. -/
def object (m : MemoryStore) (id : Int) : Option Settlement :=
  m.settlements.find? (fun s => s.id = id)

/-- A write through the pointer. -/
def assign (m : MemoryStore) (id : Int) (f : Settlement → Settlement)
    (hf : ∀ s, (f s).id = s.id) : MemoryStore :=
  { settlements := m.settlements.map (fun s => if s.id = id then f s else s),
    nextID := m.nextID,
    drawn := by
      intro s hs
      obtain ⟨x, hx, rfl⟩ := List.mem_map.mp hs
      have hlt := m.drawn x hx
      split
      · rw [hf]
        exact hlt
      · exact hlt }

/-- What `Cancel` assigns to the object before it calls `Update`. -/
def setFailed (m : MemoryStore) (id : Int) (now : Time) : MemoryStore :=
  m.assign id (fun s => { s with status := .failed, updatedAt := now }) (fun _ => rfl)

/-- `Create`: the settlement with the id and the times it gets. -/
def stored (m : MemoryStore) (s : Settlement) (now : Time) : Settlement :=
  { s with id := m.nextID, createdAt := now, updatedAt := now }

def create (m : MemoryStore) (s : Settlement) (now : Time) : MemoryStore :=
  { settlements := m.settlements ++ [m.stored s now],
    nextID := m.nextID + 1,
    drawn := by
      intro x hx
      rcases List.mem_append.mp hx with hx | hx
      · have hlt := m.drawn x hx
        omega
      · rw [List.mem_singleton.mp hx]
        show m.nextID < m.nextID + 1
        omega }

/-- `CreateInTx`: "no real transaction is needed, calls Create". -/
def createInTx (m : MemoryStore) (s : Settlement) (now : Time) : MemoryStore := m.create s now

/-- `InMemorySettlementStoreAdapter.CreateWithdrawTx`: it goes to the store's `CreateInTx`, not to the
store's own `CreateWithdrawTx`, which would look for an open settlement under the same lock. -/
def createWithdrawTx (m : MemoryStore) (s : Settlement) (now : Time) : MemoryStore :=
  m.createInTx s now

def openOf (supplierID : Int) (s : Settlement) : Bool := s.supplierID = supplierID && isOpen s.status

def hasPendingOrProcessingWithdraw (m : MemoryStore) (supplierID : Int) : Bool :=
  m.settlements.any (openOf supplierID)

def getWithdrawableBalance : ℚ := 10000

def getByID (m : MemoryStore) (supplierID id : Int) : Except RepoError Settlement :=
  match m.object id with
  | some s => if s.supplierID = supplierID then .ok s else .error errNotFound
  | none => .error errNotFound

/-- `Update` of an object the store itself has handed out. -/
def update (m : MemoryStore) (supplierID id expectedVersion : Int) (now : Time) :
    MemoryStore × Except RepoError Unit :=
  match m.object id with
  | some existing =>
    if existing.supplierID ≠ supplierID then (m, .error errNotFound)
    else if existing.version ≠ expectedVersion then (m, .error errConcurrencyConflict)
    else (m.assign id (fun s => { s with version := expectedVersion + 1, updatedAt := now })
      (fun _ => rfl), .ok ())
  | none => (m, .error errNotFound)

/-- Where a call stands, named after what it does next. `since` is the id the next settlement would
have got when the call asked for an open one. -/
inductive Call
  | idle
  | hasPending (supplierID : Int) (req : WithdrawRequest)
  | balance (supplierID : Int) (req : WithdrawRequest) (since : Int)
  | create (s : Settlement) (since : Int)
  | check (supplierID id : Int)
  | setFailed (supplierID id expectedVersion : Int)
  | update (supplierID id expectedVersion : Int)
  | reread (supplierID id : Int)
  | done (result : Except RepoError Settlement)

structure State where
  store : MemoryStore
  call : Nat → Call
  now : Time

inductive Action
  | tick (elapsed : Nat)
  | withdraw (n : Nat) (supplierID : Int) (req : WithdrawRequest) (sms : Except RepoError Bool)
  | hasPending (n : Nat)
  | balance (n : Nat)
  | create (n : Nat)
  | cancel (n : Nat) (supplierID id : Int)
  | check (n : Nat)
  | setFailed (n : Nat)
  | update (n : Nat)
  | reread (n : Nat)

def State.setCall (s : State) (n : Nat) (x : Call) : State :=
  { s with call := Function.update s.call n x }

/-- `Withdraw` after its SMS check. -/
def verified (supplierID : Int) (req : WithdrawRequest) : Except RepoError Bool → Call
  | .error e => .done (.error e)
  | .ok false => .done (.error errInvalidSMS)
  | .ok true => .hasPending supplierID req

/-- `Withdraw` after it has asked for an open withdrawal. -/
def pendingChecked (supplierID : Int) (req : WithdrawRequest) (since : Int) (hasPending : Bool) : Call :=
  if hasPending then .done (.error errWithdrawAlreadyProcessing)
  else if req.amount ≤ 0 then .done (.error errAmountNotPositive)
  else .balance supplierID req since

/-- `Withdraw` after it has asked for the balance. -/
def balanceChecked (supplierID : Int) (req : WithdrawRequest) (since : Int) (now : Time) : Call :=
  if req.amount > getWithdrawableBalance then .done (.error errExceedsBalance)
  else .create (newWithdrawal supplierID req now) since

/-- `Cancel` once it has the pointer: the status and the version are those of the shared object. -/
def cancelChecked (supplierID id : Int) : Option Settlement → Call
  | some s =>
    if s.status = .processing ∨ s.status = .completed then .done (.error errCannotCancel)
    else .setFailed supplierID id s.version
  | none => .done (.error errNotFound)

/-- One store method, or one access of `Cancel` to the object it shares with the store. -/
def step (s : State) : Action → Option State
  | .tick elapsed => some { s with now := s.now + elapsed }
  | .withdraw n supplierID req sms =>
    match s.call n with
    | .idle | .done _ => some (s.setCall n (verified supplierID req sms))
    | _ => none
  | .hasPending n =>
    match s.call n with
    | .hasPending supplierID req =>
      some (s.setCall n (pendingChecked supplierID req s.store.nextID
        (s.store.hasPendingOrProcessingWithdraw supplierID)))
    | _ => none
  | .balance n =>
    match s.call n with
    | .balance supplierID req since => some (s.setCall n (balanceChecked supplierID req since s.now))
    | _ => none
  | .create n =>
    match s.call n with
    | .create settlement _ =>
      some ({ s with store := s.store.createWithdrawTx settlement s.now }.setCall n
        (.done (.ok (s.store.stored settlement s.now))))
    | _ => none
  | .cancel n supplierID id =>
    match s.call n with
    | .idle | .done _ =>
      match s.store.getByID supplierID id with
      | .error e => some (s.setCall n (.done (.error e)))
      | .ok _ => some (s.setCall n (.check supplierID id))
    | _ => none
  | .check n =>
    match s.call n with
    | .check supplierID id => some (s.setCall n (cancelChecked supplierID id (s.store.object id)))
    | _ => none
  | .setFailed n =>
    match s.call n with
    | .setFailed supplierID id expectedVersion =>
      some ({ s with store := s.store.setFailed id s.now }.setCall n
        (.update supplierID id expectedVersion))
    | _ => none
  | .update n =>
    match s.call n with
    | .update supplierID id expectedVersion =>
      match s.store.update supplierID id expectedVersion s.now with
      | (m, .ok ()) => some ({ s with store := m }.setCall n (.reread supplierID id))
      | (m, .error e) => some ({ s with store := m }.setCall n (.done (.error e)))
    | _ => none
  | .reread n =>
    match s.call n with
    | .reread supplierID id => some (s.setCall n (.done (s.store.getByID supplierID id)))
    | _ => none

def State.start (m : MemoryStore) (now : Time) : State :=
  { store := m, call := fun _ => .idle, now := now }

/-- Every supplier has at most one settlement that is pending or processing. -/
def OneOpen (m : MemoryStore) : Prop := ∀ u, m.settlements.countP (openOf u) ≤ 1

/-- When a withdrawal is created, none of the supplier's settlements that were created since the call
asked for an open one is still open. -/
def Unraced (s : State) : Action → Prop
  | .create n => ∀ settlement since, s.call n = .create settlement since →
      ∀ x ∈ s.store.settlements, since ≤ x.id → openOf settlement.supplierID x = false
  | _ => True

/-- None of the supplier's settlements with an id below `since` is open. -/
def Looked (m : MemoryStore) (supplierID since : Int) : Prop :=
  since ≤ m.nextID ∧ ∀ x ∈ m.settlements, x.id < since → openOf supplierID x = false

/-- What a call that has asked for an open withdrawal may rely on. -/
def Knows (m : MemoryStore) : Call → Prop
  | .balance supplierID _ since => Looked m supplierID since
  | .create s since => s.status = .pending ∧ Looked m s.supplierID since
  | _ => True

structure Inv (s : State) : Prop where
  one : OneOpen s.store
  calls : ∀ n, Knows s.store (s.call n)

theorem Knows.mono {m m' : MemoryStore} (h : ∀ u since, Looked m u since → Looked m' u since)
    {x : Call} (hx : Knows m x) : Knows m' x := by
  cases x with
  | balance supplierID req since => exact h _ _ hx
  | create s since => exact ⟨hx.1, h _ _ hx.2⟩
  | _ => trivial

/-- A call goes on with the store as it is. -/
theorem Inv.move {s : State} (h : Inv s) {n : Nat} {x : Call} (hx : Knows s.store x) :
    Inv (s.setCall n x) := by
  refine ⟨h.one, fun m => ?_⟩
  by_cases hmn : m = n
  · subst m
    simpa [State.setCall] using hx
  · simpa [State.setCall, hmn] using h.calls m

/-- Writing through a pointer in a way that opens no settlement. -/
theorem Inv.assign {s : State} (h : Inv s) (id : Int) (f : Settlement → Settlement)
    (hf : ∀ x, (f x).id = x.id) (hclose : ∀ u x, openOf u (f x) → openOf u x) :
    Inv { s with store := s.store.assign id f hf } := by
  have hopen : ∀ u x, openOf u (if x.id = id then f x else x) → openOf u x := by
    intro u x
    split
    · exact hclose u x
    · exact fun hx => hx
  have hid : ∀ x : Settlement, (if x.id = id then f x else x).id = x.id := by
    intro x
    split
    · exact hf x
    · rfl
  have hlooked : ∀ u since, Looked s.store u since → Looked (s.store.assign id f hf) u since := by
    intro u since hl
    refine ⟨hl.1, fun y hy hlt => ?_⟩
    obtain ⟨x, hx, rfl⟩ := List.mem_map.mp hy
    rw [hid] at hlt
    have hx := hl.2 x hx hlt
    by_contra hy
    rw [hopen u x (by simpa using hy)] at hx
    cases hx
  refine ⟨fun u => ?_, fun n => (h.calls n).mono hlooked⟩
  show (s.store.settlements.map (fun x => if x.id = id then f x else x)).countP (openOf u) ≤ 1
  rw [List.countP_map]
  calc s.store.settlements.countP (openOf u ∘ fun x => if x.id = id then f x else x)
      ≤ s.store.settlements.countP (openOf u) := List.countP_mono_left (fun x _ hx => hopen u x hx)
    _ ≤ 1 := h.one u

theorem countP_create (m : MemoryStore) (settlement : Settlement) (now : Time) (u : Int) :
    (m.createWithdrawTx settlement now).settlements.countP (openOf u) =
      m.settlements.countP (openOf u) + if openOf u settlement then 1 else 0 := by
  show (m.settlements ++ [m.stored settlement now]).countP (openOf u) = _
  rw [List.countP_append, List.countP_singleton]
  rfl

/-- A new settlement is none that an earlier call looked for. -/
theorem Looked.create {m : MemoryStore} {u since : Int} (h : Looked m u since) (settlement : Settlement)
    (now : Time) : Looked (m.createWithdrawTx settlement now) u since := by
  refine ⟨?_, fun x hx hlt => ?_⟩
  · show since ≤ m.nextID + 1
    have hle := h.1
    omega
  · rcases List.mem_append.mp hx with hx | hx
    · exact h.2 x hx hlt
    · rw [List.mem_singleton.mp hx] at hlt
      have hnew : m.nextID < since := hlt
      have hle := h.1
      omega

/-- Creating a withdrawal keeps its supplier's settlements exclusive exactly when it was not raced. -/
theorem Inv.create_iff {s : State} (h : Inv s) {n : Nat} {settlement : Settlement} {since : Int}
    (hn : s.call n = .create settlement since) :
    OneOpen (s.store.createWithdrawTx settlement s.now) ↔ Unraced s (.create n) := by
  obtain ⟨hpending, hle, hclosed⟩ : Knows s.store (.create settlement since) := hn ▸ h.calls n
  have hnew : ∀ u, openOf u settlement = true ↔ settlement.supplierID = u := fun u => by
    simp [openOf, hpending, isOpen]
  constructor
  · intro hone settlement' since' hn' x hx hsince
    rw [hn] at hn'
    cases hn'
    by_contra hopen
    have hcount := hone settlement.supplierID
    have hpos : 0 < s.store.settlements.countP (openOf settlement.supplierID) :=
      List.countP_pos_iff.mpr ⟨x, hx, by simpa using hopen⟩
    rw [countP_create, if_pos ((hnew _).mpr rfl)] at hcount
    omega
  · intro hun u
    rw [countP_create]
    by_cases hu : settlement.supplierID = u
    · subst u
      have hnone : s.store.settlements.countP (openOf settlement.supplierID) = 0 := by
        rw [List.countP_eq_zero]
        intro x hx
        have hx : openOf settlement.supplierID x = false := by
          by_cases hlt : x.id < since
          · exact hclosed x hx hlt
          · exact hun settlement since hn x hx (not_lt.mp hlt)
        simp [hx]
      split <;> omega
    · rw [if_neg (fun hopen => hu ((hnew u).mp hopen))]
      exact h.one u

theorem pendingChecked_knows (m : MemoryStore) (supplierID : Int) (req : WithdrawRequest) :
    Knows m (pendingChecked supplierID req m.nextID (m.hasPendingOrProcessingWithdraw supplierID)) := by
  unfold pendingChecked
  split
  · trivial
  · next hnone =>
    split
    · trivial
    · refine ⟨le_refl _, fun x hx _ => ?_⟩
      simpa using List.any_eq_false.mp (Bool.eq_false_iff.mpr hnone) x hx

theorem balanceChecked_knows {m : MemoryStore} {supplierID since : Int} (req : WithdrawRequest)
    (now : Time) (h : Looked m supplierID since) :
    Knows m (balanceChecked supplierID req since now) := by
  unfold balanceChecked
  split
  · trivial
  · exact ⟨rfl, h⟩

theorem Inv.update {s : State} (h : Inv s) (supplierID id expectedVersion : Int) :
    Inv { s with store := (s.store.update supplierID id expectedVersion s.now).1 } := by
  unfold MemoryStore.update
  split
  · split
    · exact h
    · split
      · exact h
      · exact h.assign id (fun x => { x with version := expectedVersion + 1, updatedAt := s.now })
          (fun _ => rfl) (fun _ _ hx => hx)
  · exact h

/-- Every step but the creation of a withdrawal keeps the invariant, and that one keeps it when it is
not raced. -/
theorem Inv.step {s s' : State} {a : Action} (h : Inv s) (ha : Unraced s a)
    (hs : step s a = some s') : Inv s' := by
  cases a with
  | tick elapsed => cases Option.some.inj hs; exact ⟨h.one, h.calls⟩
  | withdraw n supplierID req sms =>
    have hknows : Knows s.store (verified supplierID req sms) := by
      unfold verified
      split <;> trivial
    simp only [MemoryStore.step] at hs
    split at hs
    next => cases Option.some.inj hs; exact h.move hknows
    next => cases Option.some.inj hs; exact h.move hknows
    next => cases hs
  | hasPending n =>
    simp only [MemoryStore.step] at hs
    split at hs
    next supplierID req hn =>
      cases Option.some.inj hs
      exact h.move (pendingChecked_knows s.store supplierID req)
    next => cases hs
  | balance n =>
    simp only [MemoryStore.step] at hs
    split at hs
    next supplierID req since hn =>
      cases Option.some.inj hs
      have hlooked : Knows s.store (.balance supplierID req since) := hn ▸ h.calls n
      exact h.move (balanceChecked_knows req s.now hlooked)
    next => cases hs
  | create n =>
    simp only [MemoryStore.step] at hs
    split at hs
    next settlement since hn =>
      cases Option.some.inj hs
      have hcreated : Inv { s with store := s.store.createWithdrawTx settlement s.now } :=
        ⟨(h.create_iff hn).mpr ha, fun m => (h.calls m).mono (fun _ _ hl => hl.create settlement s.now)⟩
      exact hcreated.move (x := .done _) trivial
    next => cases hs
  | cancel n supplierID id =>
    simp only [MemoryStore.step] at hs
    split at hs
    next =>
      split at hs
      next => cases Option.some.inj hs; exact h.move (x := .done _) trivial
      next => cases Option.some.inj hs; exact h.move (x := .check _ _) trivial
    next =>
      split at hs
      next => cases Option.some.inj hs; exact h.move (x := .done _) trivial
      next => cases Option.some.inj hs; exact h.move (x := .check _ _) trivial
    next => cases hs
  | check n =>
    simp only [MemoryStore.step] at hs
    split at hs
    next supplierID id hn =>
      cases Option.some.inj hs
      refine h.move ?_
      unfold cancelChecked
      split
      · split <;> trivial
      · trivial
    next => cases hs
  | setFailed n =>
    simp only [MemoryStore.step] at hs
    split at hs
    next supplierID id expectedVersion hn =>
      cases Option.some.inj hs
      have hfailed : Inv { s with store := s.store.setFailed id s.now } :=
        h.assign id (fun x => { x with status := .failed, updatedAt := s.now }) (fun _ => rfl)
          (fun u x hx => by simp [openOf, isOpen] at hx)
      exact hfailed.move (x := .update _ _ _) trivial
    next => cases hs
  | update n =>
    simp only [MemoryStore.step] at hs
    split at hs
    next supplierID id expectedVersion hn =>
      have hupdated := h.update supplierID id expectedVersion
      split at hs
      next m hm =>
        cases Option.some.inj hs
        rw [hm] at hupdated
        exact hupdated.move (x := .reread _ _) trivial
      next m e hm =>
        cases Option.some.inj hs
        rw [hm] at hupdated
        exact hupdated.move (x := .done _) trivial
    next => cases hs
  | reread n =>
    simp only [MemoryStore.step] at hs
    split at hs
    next => cases Option.some.inj hs; exact h.move (x := .done _) trivial
    next => cases hs

theorem Inv.raced {s s' : State} {a : Action} (h : Inv s) (ha : ¬Unraced s a)
    (hs : MemoryStore.step s a = some s') : ¬OneOpen s'.store := by
  cases a with
  | create n =>
    simp only [MemoryStore.step] at hs
    split at hs
    next settlement since hn =>
      cases Option.some.inj hs
      exact fun hone => ha ((h.create_iff hn).mp hone)
    next => cases hs
  | _ => exact absurd trivial ha

/-- In any interleaving of withdrawals and cancellations over the in-memory store, no supplier ever has
two open settlements exactly when there is none at the start and no withdrawal is created while one
that was created since it looked is still open. -/
theorem memory_one_open_iff (m : MemoryStore) (now : Time) (actions : List Action) :
    Transition.Throughout MemoryStore.step (fun s => OneOpen s.store) (State.start m now) actions ↔
      OneOpen m ∧ Transition.EachStep MemoryStore.step Unraced (State.start m now) actions := by
  have hrun : OneOpen m → (Transition.Throughout MemoryStore.step (fun s => OneOpen s.store)
      (State.start m now) actions ↔
        Transition.EachStep MemoryStore.step Unraced (State.start m now) actions) := by
    intro h0
    have hinv : Inv (State.start m now) := ⟨h0, fun _ => trivial⟩
    exact Transition.throughout_iff_eachStep (fun _ _ _ h ha hs => Inv.step h ha hs)
      (fun _ h => h.one) (fun _ _ _ h ha hs => h.raced ha hs) hinv actions
  exact ⟨fun h => ⟨h.start, (hrun h.start).mp h⟩, fun ⟨h0, h⟩ => (hrun h0).mpr h⟩

def sampleWithdraw : WithdrawRequest :=
  { amount := 1000, paymentMethod := .bank, paymentAccount := "1234567890", smsCode := "123456" }

/-- Two withdrawals both look before either is created. -/
theorem memory_two_open_counterexample :
    ∃ s, Transition.Reach MemoryStore.step Transition.anyStep (State.start MemoryStore.new 0) s ∧
      s.store.settlements.countP (openOf 1001) = 2 ∧ ¬OneOpen s.store := by
  have hrun : (Transition.exec MemoryStore.step (State.start MemoryStore.new 0)
      [.withdraw 0 1001 sampleWithdraw (.ok true), .withdraw 1 1001 sampleWithdraw (.ok true),
        .hasPending 0, .hasPending 1, .balance 0, .balance 1, .create 0, .create 1]).map
        (fun s => s.store.settlements.countP (openOf 1001)) = some 2 := by
    decide
  obtain ⟨s, hs, htwo⟩ := Option.map_eq_some_iff.mp hrun
  refine ⟨s, Transition.reach_of_exec hs, htwo, fun h => ?_⟩
  have hle := h 1001
  omega

end MemoryStore

end SupplyPlatform.Settlements
