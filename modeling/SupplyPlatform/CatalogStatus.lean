import SupplyPlatform.CatalogMemory
import SupplyPlatform.Lib.Runs

namespace SupplyPlatform.Catalog

open Accounts (Account)
open Packages (Package PackageStatus BatchPriceItem)
open Settlements (AccountStatus)
open MemoryStore (Evolves)

structure State where
  packages : PackageStore
  accounts : AccountStore

def State.new : State := ⟨.new, .new⟩

/-- A call of `packageService` or `accountService`, with the instant it runs at. -/
inductive Operation
  | createDraft (now : Time) (supplierID : Int) (req : CreatePackageDraftRequest)
  | publish (now : Time) (supplierID packageID : Int)
  | pause (now : Time) (supplierID packageID : Int)
  | unlist (now : Time) (supplierID packageID : Int)
  | clone (now : Time) (supplierID packageID : Int)
  | batchUpdatePrice (now : Time) (supplierID : Int) (items : List BatchPriceItem)
  | createAccount (now : Time) (req : CreateAccountRequest)
  | activate (now : Time) (supplierID accountID : Int)
  | suspend (now : Time) (supplierID accountID : Int)
  | deleteAccount (supplierID accountID : Int)

/-- The stores after a call; every call returns, with an error or without. -/
def step (s : State) : Operation → Option State
  | .createDraft now supplierID req =>
    some { s with packages := (createDraft s.packages now supplierID req).1 }
  | .publish now supplierID id => some { s with packages := (publish s.packages now supplierID id).1 }
  | .pause now supplierID id => some { s with packages := (pause s.packages now supplierID id).1 }
  | .unlist now supplierID id => some { s with packages := (unlist s.packages now supplierID id).1 }
  | .clone now supplierID id => some { s with packages := (clone s.packages now supplierID id).1 }
  | .batchUpdatePrice now supplierID items =>
    some { s with packages := (batchUpdatePrice s.packages now supplierID items).1 }
  | .createAccount now req => some { s with accounts := (createAccount s.accounts now req).1 }
  | .activate now supplierID id => some { s with accounts := (activate s.accounts now supplierID id).1 }
  | .suspend now supplierID id => some { s with accounts := (suspend s.accounts now supplierID id).1 }
  | .deleteAccount supplierID id =>
    some { s with accounts := (deleteAccount s.accounts supplierID id).1 }

/-- Every stored package and account has kept its status or taken one the tables allow from it. -/
def Conforms (s t : State) : Prop :=
  (∀ id p q, s.packages.items id = some p → t.packages.items id = some q → p.status ≠ q.status →
    validatePackageStateTransition p.status q.status = true) ∧
  (∀ id a b, s.accounts.items id = some a → t.accounts.items id = some b → a.status ≠ b.status →
    validateStateTransition a.status b.status = true)

def StepConforms (s : State) (op : Operation) : Prop := ∀ t, step s op = some t → Conforms s t

def UnlistsNoDraft (s : State) : Operation → Prop
  | .unlist _ supplierID id => ∀ p, s.packages.getByID supplierID id = .ok p → p.status ≠ .draft
  | _ => True

/-- The status is kept, or moves as the table allows; no call sells a package out. -/
def PackageMoves (p q : Package) : Prop :=
  p.status = q.status ∨
    (validatePackageStateTransition p.status q.status = true ∧ q.status ≠ .soldOut)

def AccountMoves (a b : Account) : Prop :=
  a.status = b.status ∨ validateStateTransition a.status b.status = true

def IsDraft (p : Package) : Prop := p.status = .draft

def IsPending (a : Account) : Prop := a.status = .pending

theorem PackageMoves.refl (p : Package) : PackageMoves p p := .inl rfl

theorem AccountMoves.refl (a : Account) : AccountMoves a a := .inl rfl

theorem conforms_packages {s : State} {m : PackageStore}
    (h : Evolves PackageMoves IsDraft s.packages m) : Conforms s { s with packages := m } := by
  constructor
  · intro id p q hs ht hne
    obtain ⟨y, hy, hmove⟩ := h.kept id p hs
    have heq : y = q := Option.some.inj (hy.symm.trans ht)
    subst heq
    exact (hmove.resolve_left hne).1
  · intro id a b hs ht hne
    have heq : a = b := Option.some.inj (hs.symm.trans ht)
    subst heq
    exact absurd rfl hne

theorem conforms_accounts {s : State} {m : AccountStore}
    (h : Evolves AccountMoves IsPending s.accounts m) : Conforms s { s with accounts := m } := by
  constructor
  · intro id p q hs ht hne
    have heq : p = q := Option.some.inj (hs.symm.trans ht)
    subst heq
    exact absurd rfl hne
  · intro id a b hs ht hne
    obtain ⟨y, hy, hmove⟩ := h.kept id a hs
    have heq : y = b := Option.some.inj (hy.symm.trans ht)
    subst heq
    exact hmove.resolve_left hne

theorem changePackage_evolves {allowed : PackageStatus → Bool} {refusal : RepoError}
    {status : PackageStatus}
    (htable : ∀ st, allowed st = true → validatePackageStateTransition st status = true)
    (hsold : status ≠ .soldOut) (m : PackageStore) (now : Time) (supplierID id : Int) :
    Evolves PackageMoves IsDraft m (changePackage allowed refusal status m now supplierID id).1 := by
  unfold changePackage
  split
  next => exact Evolves.refl PackageMoves.refl m
  next pkg hget =>
    split
    next hallowed =>
      have hmove := htable pkg.status hallowed
      exact MemoryStore.save_evolves PackageMoves.refl hget rfl (.inr ⟨hmove, hsold⟩)
    next => exact Evolves.refl PackageMoves.refl m

theorem createDraft_evolves (m : PackageStore) (now : Time) (supplierID : Int)
    (req : CreatePackageDraftRequest) :
    Evolves PackageMoves IsDraft m (createDraft m now supplierID req).1 :=
  MemoryStore.create_evolves PackageMoves.refl m rfl

theorem clone_evolves (m : PackageStore) (now : Time) (supplierID id : Int) :
    Evolves PackageMoves IsDraft m (clone m now supplierID id).1 := by
  unfold clone
  split
  next => exact Evolves.refl PackageMoves.refl m
  next original _ => exact createDraft_evolves m now supplierID (cloneRequest original)

def SameStatus (p q : Package) : Prop := p.status = q.status

theorem SameStatus.refl (p : Package) : SameStatus p p := rfl

theorem updatePrice_evolves (m : PackageStore) (now : Time) (supplierID : Int) (item : BatchPriceItem) :
    Evolves SameStatus IsDraft m (updatePrice m now supplierID item).1 := by
  have hsame : Evolves SameStatus IsDraft m m := Evolves.refl SameStatus.refl m
  unfold updatePrice
  split
  next => exact hsame
  next =>
    split
    next => exact hsame
    next pkg hget =>
      have hmove : SameStatus pkg (packageEntity.touch (priced pkg item now) now) := rfl
      split
      next => exact MemoryStore.save_evolves SameStatus.refl hget rfl hmove
      next => exact hsame

theorem batchUpdatePrice_evolves (m : PackageStore) (now : Time) (supplierID : Int)
    (items : List BatchPriceItem) :
    Evolves SameStatus IsDraft m (batchUpdatePrice m now supplierID items).1 := by
  -- the rounds are a fold over the items: the statuses are those of the store it started from
  have hfold : ∀ (l : List BatchPriceItem) (acc : PackageStore × Packages.BatchUpdatePriceResponse),
      Evolves SameStatus IsDraft m acc.1 → Evolves SameStatus IsDraft m (l.foldl (fun acc item =>
        ((updatePrice acc.1 now supplierID item).1,
          acc.2.add (updatePrice acc.1 now supplierID item).2)) acc).1 := by
    intro l
    induction l with
    | nil => exact fun acc h => h
    | cons item l ih =>
      intro acc h
      have hnext := updatePrice_evolves acc.1 now supplierID item
      have htrans : ∀ p q r, SameStatus p q → SameStatus q r → SameStatus p r :=
        fun _ _ _ hpq hqr => Eq.trans hpq hqr
      have hborn : ∀ p q, IsDraft p → SameStatus p q → IsDraft q := fun _ _ hp hpq => hpq.symm.trans hp
      exact ih _ (h.trans htrans hborn hnext)
  exact hfold items _ (Evolves.refl SameStatus.refl m)

theorem changeAccount_evolves {allowed : AccountStatus → Bool} {refusal : RepoError}
    {status : AccountStatus}
    (htable : ∀ st, allowed st = true → validateStateTransition st status = true)
    (m : AccountStore) (now : Time) (supplierID id : Int) :
    Evolves AccountMoves IsPending m (changeAccount allowed refusal status m now supplierID id).1 := by
  unfold changeAccount
  split
  next => exact Evolves.refl AccountMoves.refl m
  next account hget =>
    split
    next hallowed =>
      have hmove := htable account.status hallowed
      exact MemoryStore.save_evolves AccountMoves.refl hget rfl (.inr hmove)
    next => exact Evolves.refl AccountMoves.refl m

theorem createAccount_evolves (m : AccountStore) (now : Time) (req : CreateAccountRequest) :
    Evolves AccountMoves IsPending m (createAccount m now req).1 := by
  unfold createAccount
  split
  next => exact MemoryStore.create_evolves AccountMoves.refl m rfl
  next => exact Evolves.refl AccountMoves.refl m

theorem deleteAccount_evolves (m : AccountStore) (supplierID id : Int) :
    Evolves AccountMoves IsPending m (deleteAccount m supplierID id).1 := by
  unfold deleteAccount
  split
  next => exact Evolves.refl AccountMoves.refl m
  next => split <;> exact Evolves.refl AccountMoves.refl m

theorem publish_allowed (st : PackageStatus) (h : Packages.canPublish st = true) :
    validatePackageStateTransition st .active = true := by
  cases st with
  | draft => rfl
  | paused => rfl
  | active | soldOut | expired => simp [Packages.canPublish] at h

theorem pause_allowed (st : PackageStatus) (h : Packages.canPause st = true) :
    validatePackageStateTransition st .paused = true := by
  cases st with
  | active => rfl
  | draft | paused | soldOut | expired => simp [Packages.canPause] at h

theorem activate_allowed (st : AccountStatus) (h : Accounts.canActivate st = true) :
    validateStateTransition st .active = true := by
  cases st with
  | pending => rfl
  | suspended => rfl
  | active | disabled => simp [Accounts.canActivate] at h

theorem suspend_allowed (st : AccountStatus) (h : Accounts.canSuspend st = true) :
    validateStateTransition st .suspended = true := by
  cases st with
  | active => rfl
  | pending | suspended | disabled => simp [Accounts.canSuspend] at h

/-- Every call but `Unlist` conforms from every state, and `Unlist` leaves expired packages behind. -/
theorem step_cases {s t : State} {op : Operation} (h : step s op = some t) :
    (∃ m, Evolves PackageMoves IsDraft s.packages m ∧ t = { s with packages := m }) ∨
    (∃ m, Evolves AccountMoves IsPending s.accounts m ∧ t = { s with accounts := m }) ∨
    (∃ now supplierID id, op = .unlist now supplierID id ∧
      t = { s with packages := (unlist s.packages now supplierID id).1 }) := by
  cases op with
  | createDraft now supplierID req =>
    exact .inl ⟨_, createDraft_evolves s.packages now supplierID req, (Option.some.inj h).symm⟩
  | publish now supplierID id =>
    exact .inl ⟨_, changePackage_evolves publish_allowed (by decide) s.packages now supplierID id,
      (Option.some.inj h).symm⟩
  | pause now supplierID id =>
    exact .inl ⟨_, changePackage_evolves pause_allowed (by decide) s.packages now supplierID id,
      (Option.some.inj h).symm⟩
  | unlist now supplierID id =>
    exact .inr (.inr ⟨now, supplierID, id, rfl, (Option.some.inj h).symm⟩)
  | clone now supplierID id =>
    exact .inl ⟨_, clone_evolves s.packages now supplierID id, (Option.some.inj h).symm⟩
  | batchUpdatePrice now supplierID items =>
    have hsame := batchUpdatePrice_evolves s.packages now supplierID items
    exact .inl ⟨_, hsame.mono (fun _ _ hst => .inl hst), (Option.some.inj h).symm⟩
  | createAccount now req =>
    exact .inr (.inl ⟨_, createAccount_evolves s.accounts now req, (Option.some.inj h).symm⟩)
  | activate now supplierID id =>
    exact .inr (.inl ⟨_, changeAccount_evolves activate_allowed s.accounts now supplierID id,
      (Option.some.inj h).symm⟩)
  | suspend now supplierID id =>
    exact .inr (.inl ⟨_, changeAccount_evolves suspend_allowed s.accounts now supplierID id,
      (Option.some.inj h).symm⟩)
  | deleteAccount supplierID id =>
    exact .inr (.inl ⟨_, deleteAccount_evolves s.accounts supplierID id, (Option.some.inj h).symm⟩)

def NoneSoldOut (s : State) : Prop := ∀ id p, s.packages.items id = some p → p.status ≠ .soldOut

def Expires (p q : Package) : Prop := p.status = q.status ∨ q.status = .expired

theorem unlist_evolves (m : PackageStore) (now : Time) (supplierID id : Int) :
    Evolves Expires IsDraft m (unlist m now supplierID id).1 := by
  unfold unlist
  split
  next => exact Evolves.refl (fun _ => .inl rfl) m
  next pkg hget => exact MemoryStore.save_evolves (fun _ => .inl rfl) hget rfl (.inr rfl)

theorem NoneSoldOut.step {s t : State} {op : Operation} (h : NoneSoldOut s)
    (hstep : step s op = some t) : NoneSoldOut t := by
  have hborn : ∀ p : Package, IsDraft p → p.status ≠ .soldOut := by
    intro p hp
    rw [hp]
    decide
  obtain ⟨m, hm, rfl⟩ | ⟨m, _, rfl⟩ | ⟨now, supplierID, id, _, rfl⟩ := step_cases hstep
  · refine hm.forall h (fun p q hp hmove => ?_) hborn
    rcases hmove with heq | ⟨_, hne⟩
    · exact heq ▸ hp
    · exact hne
  · exact h
  · refine (unlist_evolves s.packages now supplierID id).forall h (fun p q hp hmove => ?_) hborn
    rcases hmove with heq | hexp
    · exact heq ▸ hp
    · rw [hexp]
      decide

theorem unlist_moves {s : State} {now : Time} {supplierID id : Int} (h : NoneSoldOut s)
    (hdraft : UnlistsNoDraft s (.unlist now supplierID id)) :
    Evolves PackageMoves IsDraft s.packages (unlist s.packages now supplierID id).1 := by
  unfold unlist
  split
  next => exact Evolves.refl PackageMoves.refl s.packages
  next pkg hget =>
    refine MemoryStore.save_evolves PackageMoves.refl hget rfl ?_
    have hnd := hdraft pkg hget
    have hns := h id pkg (MemoryStore.getByID_ok hget).1
    show pkg.status = .expired ∨
      (validatePackageStateTransition pkg.status .expired = true ∧ PackageStatus.expired ≠ .soldOut)
    cases hst : pkg.status with
    | draft => exact absurd hst hnd
    | soldOut => exact absurd hst hns
    | expired => exact .inl rfl
    | active => exact .inr ⟨rfl, by decide⟩
    | paused => exact .inr ⟨rfl, by decide⟩

theorem unlist_draft {s : State} {now : Time} {supplierID id : Int} {p : Package}
    (hget : s.packages.getByID supplierID id = .ok p) (hp : p.status = .draft) :
    ¬StepConforms s (.unlist now supplierID id) := by
  intro hconf
  have hitem := (MemoryStore.getByID_ok hget).1
  have hpost : ∃ q, (unlist s.packages now supplierID id).1.items id = some q ∧ q.status = .expired := by
    unfold unlist
    rw [hget]
    exact ⟨_, MemoryStore.items_save now hget rfl rfl, rfl⟩
  obtain ⟨q, hq, hexp⟩ := hpost
  have hallowed := (hconf _ rfl).1 id p q hitem hq (by rw [hp, hexp]; decide)
  rw [hp, hexp] at hallowed
  exact absurd hallowed (by decide)

theorem stepConforms_iff {s t : State} {op : Operation} (h : NoneSoldOut s)
    (hstep : step s op = some t) : StepConforms s op ↔ UnlistsNoDraft s op := by
  constructor
  · intro hconf
    cases op with
    | unlist now supplierID id => exact fun p hget hp => unlist_draft hget hp hconf
    | _ => trivial
  · intro hdraft u hu
    obtain ⟨m, hm, rfl⟩ | ⟨m, hm, rfl⟩ | ⟨now, supplierID, id, rfl, rfl⟩ := step_cases hu
    · exact conforms_packages hm
    · exact conforms_accounts hm
    · exact conforms_packages (unlist_moves h hdraft)

/-- In a run of the services from empty stores every change of a status is one the tables allow
exactly when no `Unlist` of the run finds a draft. -/
theorem status_changes_conform_iff (ops : List Operation) :
    Transition.EachStep step StepConforms State.new ops ↔
      Transition.EachStep step UnlistsNoDraft State.new ops := by
  have hstart : NoneSoldOut State.new := by
    intro id p hp
    simp [State.new, MemoryStore.new] at hp
  exact Transition.eachStep_congr (I := NoneSoldOut) (fun _ _ _ h hstep => h.step hstep)
    (fun _ _ _ h hstep => stepConforms_iff h hstep) hstart ops

def sampleDraft : CreatePackageDraftRequest :=
  { accountID := 2001, model := "gpt-4", totalQuota := 10000, pricePer1MInput := 1,
    pricePer1MOutput := 2, validDays := 30, maxConcurrent := 1, rateLimitRPM := 60 }

/-- `CreateDraft` and then `Unlist` of the draft: draft to expired is not in the table. -/
theorem unlisting_a_draft_does_not_conform :
    ¬Transition.EachStep step StepConforms State.new
      [.createDraft 0 1001 sampleDraft, .unlist 1 1001 1] := by
  intro h
  have hunlist := ((h _ rfl).2 _ rfl).1
  exact unlist_draft (p := packageEntity.stamp (draft 1001 sampleDraft 0) 1 0) rfl rfl hunlist

end SupplyPlatform.Catalog
