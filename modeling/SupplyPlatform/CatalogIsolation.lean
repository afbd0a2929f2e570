import SupplyPlatform.CatalogDeletion
import SupplyPlatform.CatalogTenants
import SupplyPlatform.Lib.Serving

namespace SupplyPlatform.Catalog

open Accounts (Account)
open MemoryStore (Mirrors Follows)
open Packages (Package PackageStatus BatchPriceItem BatchPriceFailure BatchUpdatePriceResponse)
open Settlements (AccountStatus)
open Transition (serve)

def packageRenaming : Renaming packageEntity where
  withID p n := { p with id := n }
  id_withID _ _ := rfl
  supplierID_withID _ _ := rfl
  supplierID_stamp _ _ _ := rfl
  supplierID_touch _ _ := rfl
  stamp_eq _ _ _ _ := rfl
  touch_withID _ _ _ := rfl

def accountRenaming : Renaming accountEntity where
  withID a n := { a with id := n }
  id_withID _ _ := rfl
  supplierID_withID _ _ := rfl
  supplierID_stamp _ _ _ := rfl
  supplierID_touch _ _ := rfl
  stamp_eq _ _ _ _ := rfl
  touch_withID _ _ _ := rfl

/-- A call of `packageService` or `accountService`; those that change something are the operations. -/
inductive Call
  | operation (op : Operation)
  | getPackage (supplierID packageID : Int)
  | getAccount (supplierID accountID : Int)

inductive Answer
  | package (r : Except RepoError Package)
  | account (r : Except RepoError Account)
  | prices (r : BatchUpdatePriceResponse)
  | deletion (r : Except RepoError Unit)

def Operation.supplierID : Operation → Int
  | .createDraft _ supplierID _ => supplierID
  | .publish _ supplierID _ => supplierID
  | .pause _ supplierID _ => supplierID
  | .unlist _ supplierID _ => supplierID
  | .clone _ supplierID _ => supplierID
  | .batchUpdatePrice _ supplierID _ => supplierID
  | .createAccount _ req => req.supplierID
  | .activate _ supplierID _ => supplierID
  | .suspend _ supplierID _ => supplierID
  | .deleteAccount supplierID _ => supplierID

def Call.supplierID : Call → Int
  | .operation op => op.supplierID
  | .getPackage supplierID _ => supplierID
  | .getAccount supplierID _ => supplierID

def packageAnswer (s : State) (r : PackageStore × Except RepoError Package) : State × Answer :=
  ({ s with packages := r.1 }, .package r.2)

def accountAnswer (s : State) (r : AccountStore × Except RepoError Account) : State × Answer :=
  ({ s with accounts := r.1 }, .account r.2)

def answer (s : State) : Call → State × Answer
  | .operation (.createDraft now supplierID req) =>
    packageAnswer s (createDraft s.packages now supplierID req)
  | .operation (.publish now supplierID id) => packageAnswer s (publish s.packages now supplierID id)
  | .operation (.pause now supplierID id) => packageAnswer s (pause s.packages now supplierID id)
  | .operation (.unlist now supplierID id) => packageAnswer s (unlist s.packages now supplierID id)
  | .operation (.clone now supplierID id) => packageAnswer s (clone s.packages now supplierID id)
  | .operation (.batchUpdatePrice now supplierID items) =>
    let r := batchUpdatePrice s.packages now supplierID items
    ({ s with packages := r.1 }, .prices r.2)
  | .operation (.createAccount now req) => accountAnswer s (createAccount s.accounts now req)
  | .operation (.activate now supplierID id) => accountAnswer s (activate s.accounts now supplierID id)
  | .operation (.suspend now supplierID id) => accountAnswer s (suspend s.accounts now supplierID id)
  | .operation (.deleteAccount supplierID id) =>
    let r := deleteAccount s.accounts supplierID id
    ({ s with accounts := r.1 }, .deletion r.2)
  | .getPackage supplierID id => (s, .package (s.packages.getByID supplierID id))
  | .getAccount supplierID id => (s, .account (s.accounts.getByID supplierID id))

/-- The call as the supplier would make it if it were the only one. -/
def localCall (v : Int) (s : State) : Call → Call
  | .operation (.publish now u id) => .operation (.publish now u (s.packages.localID v id))
  | .operation (.pause now u id) => .operation (.pause now u (s.packages.localID v id))
  | .operation (.unlist now u id) => .operation (.unlist now u (s.packages.localID v id))
  | .operation (.clone now u id) => .operation (.clone now u (s.packages.localID v id))
  | .operation (.batchUpdatePrice now u items) => .operation (.batchUpdatePrice now u
      (items.map (fun item => { item with packageID := s.packages.localID v item.packageID })))
  | .operation (.activate now u id) => .operation (.activate now u (s.accounts.localID v id))
  | .operation (.suspend now u id) => .operation (.suspend now u (s.accounts.localID v id))
  | .operation (.deleteAccount u id) => .operation (.deleteAccount u (s.accounts.localID v id))
  | .operation op => .operation op
  | .getPackage u id => .getPackage u (s.packages.localID v id)
  | .getAccount u id => .getAccount u (s.accounts.localID v id)

def renamedFailure (ids : Int → Int) (failure : BatchPriceFailure) : BatchPriceFailure :=
  { failure with packageID := ids failure.packageID }

/-- The answer, given in the state after the call, as the supplier would get it if it were the only one. -/
def localAnswer (v : Int) (s : State) : Answer → Answer
  | .package r => .package (r.map (fun p => packageRenaming.withID p (s.packages.localID v p.id)))
  | .account r => .account (r.map (fun a => accountRenaming.withID a (s.accounts.localID v a.id)))
  | .prices r => .prices { r with failures := r.failures.map (renamedFailure (s.packages.localID v)) }
  | .deletion r => .deletion r

section

variable {v u id : Int} {m p : PackageStore} {now : Time}

def newStatus (status : PackageStatus) (now : Time) (pkg : Package) : Package :=
  { pkg with status := status, updatedAt := now, version := pkg.version + 1 }

theorem changePackage_eq (allowed : PackageStatus → Bool) (refusal : RepoError) (status : PackageStatus)
    (m : PackageStore) (now : Time) (v id : Int) : changePackage allowed refusal status m now v id =
      m.change v id (fun pkg => allowed pkg.status) refusal (newStatus status now) now := by
  unfold changePackage MemoryStore.change
  cases m.getByID v id <;> rfl

/-- `Unlist` refuses nothing, so that its refusal may be any. -/
theorem unlist_eq (m : PackageStore) (now : Time) (v id : Int) : unlist m now v id =
    m.change v id (fun _ => true) (.message "") (newStatus .expired now) now := by
  unfold unlist MemoryStore.change
  cases m.getByID v id <;> rfl

theorem changePackage_follows (h : Mirrors packageRenaming v m p) (allowed : PackageStatus → Bool)
    (refusal : RepoError) (status : PackageStatus) (id : Int) (now : Time) :
    Follows packageRenaming v (changePackage allowed refusal status m now v id)
      (changePackage allowed refusal status p now v (m.localID v id)) := by
  rw [changePackage_eq, changePackage_eq]
  exact h.change (fun pkg => allowed pkg.status) refusal (newStatus status now) (fun _ _ => rfl)
    (fun _ => rfl) (fun _ => rfl) (fun _ _ => rfl) id now

theorem changePackage_other (h : Mirrors packageRenaming v m p) (allowed : PackageStatus → Bool)
    (refusal : RepoError) (status : PackageStatus) (hu : u ≠ v) (id : Int) (now : Time) :
    Mirrors packageRenaming v (changePackage allowed refusal status m now u id).1 p := by
  rw [changePackage_eq]
  exact h.changeOther _ _ (newStatus status now) (fun _ => rfl) (fun _ => rfl) hu id now

theorem unlist_follows (h : Mirrors packageRenaming v m p) (id : Int) (now : Time) :
    Follows packageRenaming v (unlist m now v id) (unlist p now v (m.localID v id)) := by
  rw [unlist_eq, unlist_eq]
  exact h.change (fun _ => true) _ (newStatus .expired now) (fun _ _ => rfl) (fun _ => rfl)
    (fun _ => rfl) (fun _ _ => rfl) id now

theorem unlist_other (h : Mirrors packageRenaming v m p) (hu : u ≠ v) (id : Int) (now : Time) :
    Mirrors packageRenaming v (unlist m now u id).1 p := by
  rw [unlist_eq]
  exact h.changeOther _ _ (newStatus .expired now) (fun _ => rfl) (fun _ => rfl) hu id now

theorem createDraft_follows (h : Mirrors packageRenaming v m p) (req : CreatePackageDraftRequest)
    (now : Time) : Follows packageRenaming v (createDraft m now v req) (createDraft p now v req) :=
  h.createFollows rfl now

theorem clone_follows (h : Mirrors packageRenaming v m p) (id : Int) (now : Time) :
    Follows packageRenaming v (clone m now v id) (clone p now v (m.localID v id)) := by
  unfold clone
  rw [h.getByID id]
  cases hget : m.getByID v id with
  | error err => exact ⟨h, rfl⟩
  | ok original => exact createDraft_follows h (cloneRequest original) now

theorem clone_other (h : Mirrors packageRenaming v m p) (hu : u ≠ v) (id : Int) (now : Time) :
    Mirrors packageRenaming v (clone m now u id).1 p := by
  unfold clone
  cases hget : m.getByID u id with
  | error err => exact h
  | ok original => exact h.createOther (x := draft u (cloneRequest original) now) hu now

/-- A round of the loop of prices in both stores, which leaves the ids as they are. -/
theorem updatePrice_follows (h : Mirrors packageRenaming v m p) (item : BatchPriceItem) (now : Time) :
    let r := updatePrice m now v item
    let r' := updatePrice p now v { item with packageID := m.localID v item.packageID }
    Mirrors packageRenaming v r.1 r'.1 ∧ r'.2 = r.2.map (renamedFailure (m.localID v)) ∧
      ∀ j, r.1.localID v j = m.localID v j := by
  unfold updatePrice
  dsimp only
  split
  next => exact ⟨h, rfl, fun _ => rfl⟩
  next =>
    rw [h.getByID item.packageID]
    cases hget : m.getByID v item.packageID with
    | error err => exact ⟨h, rfl, fun _ => rfl⟩
    | ok pkg =>
      obtain ⟨-, hs, hid⟩ := MemoryStore.getByID_ok hget
      dsimp only [Except.map]
      rw [show (packageRenaming.withID pkg (m.localID v item.packageID)).status = pkg.status from rfl]
      by_cases hpriceable : Packages.priceable pkg.status = true
      · obtain ⟨hmirrors, hanswer, hlocal⟩ := h.save (y := priced pkg item now) hget hid hs now
        obtain ⟨-, -, hsaved⟩ := MemoryStore.update_eq (y := priced pkg item now) hget hid hs now
        have hsame : priced (packageRenaming.withID pkg (m.localID v item.packageID))
            { item with packageID := m.localID v item.packageID } now =
            packageRenaming.withID (priced pkg item now) (m.localID v item.packageID) := rfl
        rw [if_pos hpriceable, if_pos hpriceable, hsame]
        dsimp only
        rw [hanswer, hsaved]
        exact ⟨hmirrors, rfl, hlocal⟩
      · rw [if_neg hpriceable, if_neg hpriceable]
        exact ⟨h, rfl, fun _ => rfl⟩

theorem updatePrice_other (h : Mirrors packageRenaming v m p) (hu : u ≠ v) (item : BatchPriceItem)
    (now : Time) : Mirrors packageRenaming v (updatePrice m now u item).1 p := by
  unfold updatePrice
  split
  next => exact h
  next =>
    cases hget : m.getByID u item.packageID with
    | error err => exact h
    | ok pkg =>
      obtain ⟨-, hs, hid⟩ := MemoryStore.getByID_ok hget
      dsimp only
      split
      next => exact h.saveOther (y := priced pkg item now) hget hid hs hu now
      next => exact h

theorem add_renamed (resp : BatchUpdatePriceResponse) (failure : Option BatchPriceFailure)
    (ids : Int → Int) :
    ({ resp with failures := resp.failures.map (renamedFailure ids) } : BatchUpdatePriceResponse).add
        (failure.map (renamedFailure ids)) =
      { resp.add failure with failures := (resp.add failure).failures.map (renamedFailure ids) } := by
  cases failure with
  | none => rfl
  | some failure => simp [BatchUpdatePriceResponse.add]

theorem batchUpdatePrice_follows (h : Mirrors packageRenaming v m p) (items : List BatchPriceItem)
    (now : Time) :
    let r := batchUpdatePrice m now v items
    let r' := batchUpdatePrice p now v
      (items.map (fun item => { item with packageID := m.localID v item.packageID }))
    Mirrors packageRenaming v r.1 r'.1 ∧
      r'.2 = { r.2 with failures := r.2.failures.map (renamedFailure (r.1.localID v)) } := by
  -- the ids are those of the store that the loop has started from
  have hfold : ∀ (l : List BatchPriceItem) (acc acc' : PackageStore × BatchUpdatePriceResponse),
      Mirrors packageRenaming v acc.1 acc'.1 → (∀ j, acc.1.localID v j = m.localID v j) →
      acc'.2 = { acc.2 with failures := acc.2.failures.map (renamedFailure (m.localID v)) } →
      let r := l.foldl (fun acc item => ((updatePrice acc.1 now v item).1,
        acc.2.add (updatePrice acc.1 now v item).2)) acc
      let r' := (l.map (fun item => ({ item with packageID := m.localID v item.packageID } :
        BatchPriceItem))).foldl (fun acc item => ((updatePrice acc.1 now v item).1,
          acc.2.add (updatePrice acc.1 now v item).2)) acc'
      Mirrors packageRenaming v r.1 r'.1 ∧ (∀ j, r.1.localID v j = m.localID v j) ∧
        r'.2 = { r.2 with failures := r.2.failures.map (renamedFailure (m.localID v)) } := by
    intro l
    induction l with
    | nil => exact fun acc acc' hm hids hr => ⟨hm, hids, hr⟩
    | cons item l ih =>
      intro acc acc' hm hids hr
      obtain ⟨hnext, hfailure, hlocal⟩ := updatePrice_follows hm item now
      rw [hids] at hnext hfailure
      rw [show acc.1.localID v = m.localID v from funext hids] at hfailure
      refine ih _ _ hnext (fun j => (hlocal j).trans (hids j)) ?_
      dsimp only
      rw [hfailure, hr, add_renamed]
  obtain ⟨hmirrors, hids, hresp⟩ := hfold items (m, ⟨items.length, 0, 0, []⟩) (p, ⟨items.length, 0, 0, []⟩) h
    (fun _ => rfl) rfl
  unfold batchUpdatePrice
  dsimp only at hmirrors hids hresp ⊢
  rw [List.length_map, show (MemoryStore.localID _ v) = m.localID v from funext hids]
  exact ⟨hmirrors, hresp⟩

theorem batchUpdatePrice_other (h : Mirrors packageRenaming v m p) (hu : u ≠ v)
    (items : List BatchPriceItem) (now : Time) :
    Mirrors packageRenaming v (batchUpdatePrice m now u items).1 p := by
  have hfold : ∀ (l : List BatchPriceItem) (acc : PackageStore × BatchUpdatePriceResponse),
      Mirrors packageRenaming v acc.1 p → Mirrors packageRenaming v (l.foldl (fun acc item =>
        ((updatePrice acc.1 now u item).1, acc.2.add (updatePrice acc.1 now u item).2)) acc).1 p := by
    intro l
    induction l with
    | nil => exact fun acc hm => hm
    | cons item l ih => exact fun acc hm => ih _ (updatePrice_other hm hu item now)
  exact hfold items _ h

end

section

variable {v u id : Int} {m p : AccountStore} {now : Time}

def newAccountStatus (status : AccountStatus) (now : Time) (account : Account) : Account :=
  { account with status := status, updatedAt := now, version := account.version + 1 }

theorem changeAccount_eq (allowed : AccountStatus → Bool) (refusal : RepoError) (status : AccountStatus)
    (m : AccountStore) (now : Time) (v id : Int) : changeAccount allowed refusal status m now v id =
      m.change v id (fun account => allowed account.status) refusal (newAccountStatus status now) now := by
  unfold changeAccount MemoryStore.change
  cases m.getByID v id <;> rfl

theorem changeAccount_follows (h : Mirrors accountRenaming v m p) (allowed : AccountStatus → Bool)
    (refusal : RepoError) (status : AccountStatus) (id : Int) (now : Time) :
    Follows accountRenaming v (changeAccount allowed refusal status m now v id)
      (changeAccount allowed refusal status p now v (m.localID v id)) := by
  rw [changeAccount_eq, changeAccount_eq]
  exact h.change (fun account => allowed account.status) refusal (newAccountStatus status now)
    (fun _ _ => rfl) (fun _ => rfl) (fun _ => rfl) (fun _ _ => rfl) id now

theorem changeAccount_other (h : Mirrors accountRenaming v m p) (allowed : AccountStatus → Bool)
    (refusal : RepoError) (status : AccountStatus) (hu : u ≠ v) (id : Int) (now : Time) :
    Mirrors accountRenaming v (changeAccount allowed refusal status m now u id).1 p := by
  rw [changeAccount_eq]
  exact h.changeOther _ _ (newAccountStatus status now) (fun _ => rfl) (fun _ => rfl) hu id now

theorem createAccount_follows (h : Mirrors accountRenaming v m p) (req : CreateAccountRequest)
    (hv : req.supplierID = v) (now : Time) :
    Follows accountRenaming v (createAccount m now req) (createAccount p now req) := by
  unfold createAccount
  split
  next => exact h.createFollows (x := newAccount req now) hv now
  next => exact ⟨h, rfl⟩

theorem createAccount_other (h : Mirrors accountRenaming v m p) (req : CreateAccountRequest)
    (hu : req.supplierID ≠ v) (now : Time) :
    Mirrors accountRenaming v (createAccount m now req).1 p := by
  unfold createAccount
  split
  next => exact h.createOther (x := newAccount req now) hu now
  next => exact h

theorem deleteAccount_answer (h : Mirrors accountRenaming v m p) (id : Int) :
    (deleteAccount p v (m.localID v id)).2 = (deleteAccount m v id).2 := by
  unfold deleteAccount
  rw [h.getByID id]
  cases m.getByID v id with
  | error err => rfl
  | ok account =>
    dsimp only [Except.map]
    rw [show (accountRenaming.withID account (m.localID v id)).status = account.status from rfl]
    split <;> rfl

end

/-- `p` has what is the supplier's own in both stores of `s`. -/
structure OwnIn (v : Int) (s p : State) : Prop where
  packages : Mirrors packageRenaming v s.packages p.packages
  accounts : Mirrors accountRenaming v s.accounts p.accounts

section

variable {v : Int} {s p : State} {c : Call}

theorem OwnIn.package (h : OwnIn v s p) {r r' : PackageStore × Except RepoError Package}
    (hr : Follows packageRenaming v r r') :
    OwnIn v (packageAnswer s r).1 (packageAnswer p r').1 ∧
      (packageAnswer p r').2 = localAnswer v (packageAnswer s r).1 (packageAnswer s r).2 :=
  ⟨⟨hr.1, h.accounts⟩, congrArg Answer.package hr.2⟩

theorem OwnIn.account (h : OwnIn v s p) {r r' : AccountStore × Except RepoError Account}
    (hr : Follows accountRenaming v r r') :
    OwnIn v (accountAnswer s r).1 (accountAnswer p r').1 ∧
      (accountAnswer p r').2 = localAnswer v (accountAnswer s r).1 (accountAnswer s r).2 :=
  ⟨⟨h.packages, hr.1⟩, congrArg Answer.account hr.2⟩

/-- A call of the supplier is answered in its own stores as in those it shares. -/
theorem OwnIn.call (h : OwnIn v s p) (hc : c.supplierID = v) :
    OwnIn v (answer s c).1 (answer p (localCall v s c)).1 ∧
      (answer p (localCall v s c)).2 = localAnswer v (answer s c).1 (answer s c).2 := by
  subst hc
  cases c with
  | operation op =>
    cases op with
    | createDraft now u req => exact h.package (createDraft_follows h.packages req now)
    | publish now u id => exact h.package (changePackage_follows h.packages _ _ _ id now)
    | pause now u id => exact h.package (changePackage_follows h.packages _ _ _ id now)
    | unlist now u id => exact h.package (unlist_follows h.packages id now)
    | clone now u id => exact h.package (clone_follows h.packages id now)
    | batchUpdatePrice now u items =>
      obtain ⟨hmirrors, hprices⟩ := batchUpdatePrice_follows h.packages items now
      exact ⟨⟨hmirrors, h.accounts⟩, congrArg Answer.prices hprices⟩
    | createAccount now req => exact h.account (createAccount_follows h.accounts req rfl now)
    | activate now u id => exact h.account (changeAccount_follows h.accounts _ _ _ id now)
    | suspend now u id => exact h.account (changeAccount_follows h.accounts _ _ _ id now)
    | deleteAccount u id =>
      refine ⟨⟨h.packages, ?_⟩, congrArg Answer.deletion (deleteAccount_answer h.accounts id)⟩
      simp only [answer, localCall, deleteAccount_store]
      exact h.accounts
  | getPackage u id => exact ⟨h, congrArg Answer.package (h.packages.get_follows id)⟩
  | getAccount u id => exact ⟨h, congrArg Answer.account (h.accounts.get_follows id)⟩

/-- A call of another supplier leaves it what it has. -/
theorem OwnIn.other (h : OwnIn v s p) (hc : c.supplierID ≠ v) : OwnIn v (answer s c).1 p := by
  cases c with
  | operation op =>
    cases op with
    | createDraft now u req => exact ⟨h.packages.createOther (x := draft u req now) hc now, h.accounts⟩
    | publish now u id => exact ⟨changePackage_other h.packages _ _ _ hc id now, h.accounts⟩
    | pause now u id => exact ⟨changePackage_other h.packages _ _ _ hc id now, h.accounts⟩
    | unlist now u id => exact ⟨unlist_other h.packages hc id now, h.accounts⟩
    | clone now u id => exact ⟨clone_other h.packages hc id now, h.accounts⟩
    | batchUpdatePrice now u items => exact ⟨batchUpdatePrice_other h.packages hc items now, h.accounts⟩
    | createAccount now req => exact ⟨h.packages, createAccount_other h.accounts req hc now⟩
    | activate now u id => exact ⟨h.packages, changeAccount_other h.accounts _ _ _ hc id now⟩
    | suspend now u id => exact ⟨h.packages, changeAccount_other h.accounts _ _ _ hc id now⟩
    | deleteAccount u id =>
      refine ⟨h.packages, ?_⟩
      simp only [answer, deleteAccount_store]
      exact h.accounts
  | getPackage u id => exact h
  | getAccount u id => exact h

end

/-- The answers that the supplier gets in a run of everyone's calls, as it would get them alone. -/
def answersTo (v : Int) (s : State) : List Call → List Answer
  | [] => []
  | c :: calls =>
    let r := answer s c
    if c.supplierID = v then localAnswer v r.1 r.2 :: answersTo v r.1 calls else answersTo v r.1 calls

/-- The calls of the supplier in a run of everyone's, as it would make them alone. -/
def callsOf (v : Int) (s : State) : List Call → List Call
  | [] => []
  | c :: calls =>
    let rest := callsOf v (answer s c).1 calls
    if c.supplierID = v then localCall v s c :: rest else rest

theorem OwnIn.run {v : Int} {s p : State} (h : OwnIn v s p) (calls : List Call) :
    answersTo v s calls = (serve answer p (callsOf v s calls)).2 := by
  induction calls generalizing s p with
  | nil => rfl
  | cons c calls ih =>
    unfold answersTo callsOf
    dsimp only
    by_cases hc : c.supplierID = v
    · obtain ⟨hnext, hanswer⟩ := h.call hc
      rw [if_pos hc, if_pos hc, Transition.serve_cons, ← ih hnext, hanswer]
    · rw [if_neg hc, if_neg hc]
      exact ih (h.other hc)

/-- However the calls of the suppliers come, each gets the answers that it would get from services of its
own, with the ids counted as its own: what others do it cannot see, and none can touch what is its. -/
theorem answered_as_alone (v : Int) (calls : List Call) :
    answersTo v State.new calls = (serve answer State.new (callsOf v State.new calls)).2 :=
  OwnIn.run ⟨Mirrors.new packageRenaming v, Mirrors.new accountRenaming v⟩ calls

end SupplyPlatform.Catalog
