import Mathlib.Algebra.Field.Rat
import SupplyPlatform.CatalogPriceBatch
import SupplyPlatform.CatalogStatus
import SupplyPlatform.PackageInsert
import SupplyPlatform.VersionConflict

namespace SupplyPlatform.Catalog

open Packages (Package PackageTable BatchPriceItem)
open MemoryStore (Evolves)

/-- `ErrPriceBelowProtection`, with the price that is below the minimum. -/
inductive PriceBelowProtection
  | input (price : ℚ)
  | output (price : ℚ)
  deriving DecidableEq

def minPrice : ℚ := 1 / 100

/-- `CheckPackagePrice`, which no operation calls. -/
def checkPackagePrice (newPricePer1MInput newPricePer1MOutput : ℚ) : Except PriceBelowProtection Unit :=
  if 0 < newPricePer1MInput ∧ newPricePer1MInput < minPrice then .error (.input newPricePer1MInput)
  else if 0 < newPricePer1MOutput ∧ newPricePer1MOutput < minPrice then .error (.output newPricePer1MOutput)
  else .ok ()

/-- Neither price is negative, and the check has nothing against them. -/
def Accepted (pricePer1MInput pricePer1MOutput : ℚ) : Prop :=
  0 ≤ pricePer1MInput ∧ 0 ≤ pricePer1MOutput ∧ checkPackagePrice pricePer1MInput pricePer1MOutput = .ok ()

def AllAccepted (s : State) : Prop :=
  ∀ id p, s.packages.items id = some p → Accepted p.pricePer1MInput p.pricePer1MOutput

/-- What the call writes is accepted: the prices of a new draft, and for each package of a batch those of
the last of its valid items. -/
def WritesAccepted (s : State) : Operation → Prop
  | .createDraft _ _ req => Accepted req.pricePer1MInput req.pricePer1MOutput
  | .batchUpdatePrice _ supplierID items => ∀ id last,
      (named s.packages supplierID items id).getLast? = some last →
      Accepted last.pricePer1MInput last.pricePer1MOutput
  | _ => True

/-- A call over `DBPackageStore`, with the next value of the table's sequence. -/
def tableStep (t : PackageTable) : Operation × Int → Option PackageTable
  | (.createDraft now supplierID req, nextID) =>
    some (Packages.create t nextID now (draft supplierID req now) "" "").1
  | (.publish now supplierID id, _) => some (Packages.publish t now supplierID id).1
  | (.pause now supplierID id, _) => some (Packages.pause t now supplierID id).1
  | (.unlist now supplierID id, _) => some (Packages.unlist t now supplierID id).1
  | (.clone now supplierID id, nextID) =>
    match Packages.getByID t supplierID id with
    | .error _ => some t
    | .ok original =>
      some (Packages.create t nextID now (draft supplierID (cloneRequest original) now) "" "").1
  | (.batchUpdatePrice now supplierID items, _) => some (Packages.batchUpdatePrice t now supplierID items).1
  | _ => some t

def SamePrices (p q : Package) : Prop :=
  q.pricePer1MInput = p.pricePer1MInput ∧ q.pricePer1MOutput = p.pricePer1MOutput

theorem SamePrices.refl (p : Package) : SamePrices p p := ⟨rfl, rfl⟩

def IsAccepted (p : Package) : Prop := Accepted p.pricePer1MInput p.pricePer1MOutput

theorem IsAccepted.same {p q : Package} (h : IsAccepted p) (hsame : SamePrices p q) : IsAccepted q := by
  obtain ⟨hin, hout⟩ := hsame
  unfold IsAccepted
  rw [hin, hout]
  exact h

theorem changePackage_keeps_prices (allowed : Packages.PackageStatus → Bool) (refusal : RepoError)
    (status : Packages.PackageStatus) (m : PackageStore) (now : Time) (supplierID id : Int) :
    Evolves SamePrices IsAccepted m (changePackage allowed refusal status m now supplierID id).1 := by
  unfold changePackage
  split
  next => exact Evolves.refl SamePrices.refl m
  next pkg hget =>
    split
    next => exact MemoryStore.save_evolves SamePrices.refl hget rfl (SamePrices.refl pkg)
    next => exact Evolves.refl SamePrices.refl m

theorem unlist_keeps_prices (m : PackageStore) (now : Time) (supplierID id : Int) :
    Evolves SamePrices IsAccepted m (unlist m now supplierID id).1 := by
  unfold unlist
  split
  next => exact Evolves.refl SamePrices.refl m
  next pkg hget => exact MemoryStore.save_evolves SamePrices.refl hget rfl (SamePrices.refl pkg)

theorem clone_keeps_prices {m : PackageStore} (h : ∀ id p, m.items id = some p → IsAccepted p) (now : Time)
    (supplierID id : Int) : Evolves SamePrices IsAccepted m (clone m now supplierID id).1 := by
  unfold clone
  split
  next => exact Evolves.refl SamePrices.refl m
  next original hget =>
    have hitem := (MemoryStore.getByID_ok hget).1
    exact MemoryStore.create_evolves SamePrices.refl m (h id original hitem)

/-- A call whose prices are accepted leaves only accepted prices. -/
theorem AllAccepted.step {s t : State} {op : Operation} (h : AllAccepted s) (hwrites : WritesAccepted s op)
    (hstep : step s op = some t) : AllAccepted t := by
  have hkeep : ∀ p q, IsAccepted p → SamePrices p q → IsAccepted q := fun _ _ hp hsame => hp.same hsame
  cases op with
  | createDraft now supplierID req =>
    cases Option.some.inj hstep
    have hcreated : Evolves SamePrices IsAccepted s.packages (createDraft s.packages now supplierID req).1 :=
      MemoryStore.create_evolves SamePrices.refl s.packages hwrites
    exact hcreated.forall h hkeep (fun _ hp => hp)
  | publish now supplierID id =>
    cases Option.some.inj hstep
    exact (changePackage_keeps_prices _ _ _ s.packages now supplierID id).forall h hkeep (fun _ hp => hp)
  | pause now supplierID id =>
    cases Option.some.inj hstep
    exact (changePackage_keeps_prices _ _ _ s.packages now supplierID id).forall h hkeep (fun _ hp => hp)
  | unlist now supplierID id =>
    cases Option.some.inj hstep
    exact (unlist_keeps_prices s.packages now supplierID id).forall h hkeep (fun _ hp => hp)
  | clone now supplierID id =>
    cases Option.some.inj hstep
    exact (clone_keeps_prices h now supplierID id).forall h hkeep (fun _ hp => hp)
  | batchUpdatePrice now supplierID items =>
    cases Option.some.inj hstep
    obtain ⟨hitems, -⟩ := rounds now supplierID items s.packages
      { total := items.length, successCount := 0, failedCount := 0, failures := [] }
    intro id p hp
    obtain ⟨pkg, hpkg, hrounds⟩ := Option.map_eq_some_iff.mp ((hitems id).symm.trans hp)
    cases hlast : (named s.packages supplierID items id).getLast? with
    | none =>
      rw [List.getLast?_eq_none_iff.mp hlast] at hrounds
      cases hrounds
      exact h id pkg hpkg
    | some last =>
      obtain ⟨before, hsplit⟩ := List.getLast?_eq_some_iff.mp hlast
      rw [hsplit, repriced_snoc] at hrounds
      cases hrounds
      exact hwrites id last hlast
  | createAccount | activate | suspend | deleteAccount =>
    cases Option.some.inj hstep
    exact h

/-- A call that writes a price that is not accepted leaves it in the store. -/
theorem not_allAccepted_of_write {s t : State} {op : Operation} (hwrites : ¬WritesAccepted s op)
    (hstep : step s op = some t) : ¬AllAccepted t := by
  intro h
  cases op with
  | createDraft now supplierID req =>
    cases Option.some.inj hstep
    exact hwrites (h s.packages.nextID _ (Function.update_self ..))
  | batchUpdatePrice now supplierID items =>
    cases Option.some.inj hstep
    obtain ⟨hitems, -⟩ := rounds now supplierID items s.packages
      { total := items.length, successCount := 0, failedCount := 0, failures := [] }
    refine hwrites (fun id last hlast => ?_)
    obtain ⟨before, hsplit⟩ := List.getLast?_eq_some_iff.mp hlast
    have hmem : last ∈ named s.packages supplierID items id := List.mem_of_getLast? hlast
    obtain ⟨-, hnamed⟩ := List.mem_filter.mp hmem
    rw [Bool.and_eq_true, decide_eq_true_eq] at hnamed
    obtain ⟨hvalid, rfl⟩ := hnamed
    obtain ⟨-, -, pkg, hpkg, -⟩ := valid_iff.mp hvalid
    have hstored := hitems last.packageID
    rw [hpkg, hsplit] at hstored
    have haccepted := h last.packageID _ hstored
    rw [repriced_snoc] at haccepted
    exact haccepted
  | publish | pause | unlist | clone => exact hwrites trivial
  | createAccount | activate | suspend | deleteAccount => exact hwrites trivial

/-- Over the database every draft fails and every change conflicts. -/
theorem tableStep_eq {t u : PackageTable} {call : Operation × Int} (h : tableStep t call = some u) :
    u = t := by
  obtain ⟨op, nextID⟩ := call
  cases op with
  | createDraft now supplierID req =>
    cases Option.some.inj h
    rw [Packages.create_fails]
  | publish now supplierID id =>
    cases Option.some.inj h
    obtain ⟨e, he⟩ := Packages.changeStatus_error Packages.canPublish _ .active t now supplierID id
    rw [Packages.publish, he]
  | pause now supplierID id =>
    cases Option.some.inj h
    obtain ⟨e, he⟩ := Packages.changeStatus_error Packages.canPause _ .paused t now supplierID id
    rw [Packages.pause, he]
  | unlist now supplierID id =>
    cases Option.some.inj h
    obtain ⟨e, he⟩ := Packages.unlist_error t now supplierID id
    rw [he]
  | clone now supplierID id =>
    simp only [tableStep] at h
    cases hget : Packages.getByID t supplierID id with
    | error err =>
      rw [hget] at h
      exact (Option.some.inj h).symm
    | ok original =>
      simp only [hget, Packages.create_fails] at h
      exact (Option.some.inj h).symm
  | batchUpdatePrice now supplierID items =>
    cases Option.some.inj h
    exact (Packages.batchUpdatePrice_conflict t now supplierID items).1
  | createAccount | activate | suspend | deleteAccount => exact (Option.some.inj h).symm

/-- In a run of the services from empty stores the prices of all packages are accepted throughout exactly
when each call writes accepted prices; over the database no run writes any. -/
theorem prices_accepted_iff (ops : List Operation) (t : PackageTable) (calls : List (Operation × Int)) :
    (Transition.Throughout step AllAccepted State.new ops ↔
      Transition.EachStep step WritesAccepted State.new ops) ∧
    Transition.Throughout tableStep (fun u => u.rows = t.rows) t calls := by
  constructor
  · have hstart : AllAccepted State.new := by
      intro id p hp
      cases hp
    exact Transition.throughout_iff_eachStep (I := AllAccepted)
      (fun _ _ _ h hwrites hstep => h.step hwrites hstep) (fun _ h => h)
      (fun _ _ _ _ hwrites hstep => not_allAccepted_of_write hwrites hstep) hstart ops
  · exact Transition.throughout_of_invariant (I := fun u => u = t)
      (fun _ _ _ hsame hstep => (tableStep_eq hstep).trans hsame) (fun _ hsame => hsame ▸ rfl) rfl calls

def cheapDraft : CreatePackageDraftRequest := { sampleDraft with pricePer1MInput := 1 / 1000 }

def negativeDraft : CreatePackageDraftRequest := { sampleDraft with pricePer1MOutput := -1 }

/-- A draft below the protection price is stored, and one with a negative price, which is then cloned and
published. -/
theorem prices_below_protection :
    ¬Transition.Throughout step AllAccepted State.new [.createDraft 0 1001 cheapDraft] ∧
    ¬Transition.Throughout step AllAccepted State.new
      [.createDraft 0 1001 negativeDraft, .clone 1 1001 1, .publish 2 1001 2] ∧
    ∃ t p, Transition.exec step State.new
      [.createDraft 0 1001 negativeDraft, .clone 1 1001 1, .publish 2 1001 2] = some t ∧
      t.packages.items 2 = some p ∧ p.status = .active ∧ p.pricePer1MOutput = -1 := by
  refine ⟨?_, ?_, _, _, rfl, rfl, rfl, rfl⟩
  · rintro ⟨-, h⟩
    have hstored := h _ rfl 1 (packageEntity.stamp (draft 1001 cheapDraft 0) 1 0) rfl
    exact absurd hstored.2.2 (by decide +kernel)
  · rintro ⟨-, h⟩
    have hstored := (h _ rfl).1 1 (packageEntity.stamp (draft 1001 negativeDraft 0) 1 0) rfl
    exact absurd hstored.2.1 (by decide)

end SupplyPlatform.Catalog
