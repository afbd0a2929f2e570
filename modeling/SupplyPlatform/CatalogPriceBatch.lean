import SupplyPlatform.CatalogMemory

namespace SupplyPlatform.Catalog

open Packages (Package PackageStatus BatchPriceItem BatchPriceFailure BatchUpdatePriceResponse)
open Settlements (errNotFound)

/-- An item that `BatchUpdatePrice` has nothing against: no price is negative, and the package is the
supplier's and neither sold out nor expired. -/
def valid (m : PackageStore) (supplierID : Int) (item : BatchPriceItem) : Bool :=
  decide (0 ≤ item.pricePer1MInput) && decide (0 ≤ item.pricePer1MOutput) &&
    (m.items item.packageID).any (fun pkg =>
      pkg.supplierID = supplierID && (pkg.status ≠ .soldOut && pkg.status ≠ .expired))

/-- The valid items that name a package, in order. -/
def named (m : PackageStore) (supplierID : Int) (items : List BatchPriceItem) (id : Int) :
    List BatchPriceItem :=
  items.filter (fun item => valid m supplierID item && item.packageID = id)

theorem valid_iff {m : PackageStore} {supplierID : Int} {item : BatchPriceItem} :
    valid m supplierID item = true ↔ 0 ≤ item.pricePer1MInput ∧ 0 ≤ item.pricePer1MOutput ∧
      ∃ pkg, m.items item.packageID = some pkg ∧ pkg.supplierID = supplierID ∧
        pkg.status ≠ .soldOut ∧ pkg.status ≠ .expired := by
  simp only [valid, Bool.and_eq_true, decide_eq_true_eq, Option.any_eq_true, and_assoc]

theorem named_cons (m : PackageStore) (supplierID : Int) (item : BatchPriceItem)
    (items : List BatchPriceItem) (id : Int) : named m supplierID (item :: items) id =
      if valid m supplierID item = true ∧ item.packageID = id then item :: named m supplierID items id
      else named m supplierID items id := by
  simp only [named, List.filter_cons, Bool.and_eq_true, decide_eq_true_eq]

theorem getByID_of_item {m : PackageStore} {supplierID id : Int} {pkg : Package}
    (hitem : m.items id = some pkg) (hs : pkg.supplierID = supplierID) :
    m.getByID supplierID id = .ok pkg := by
  have howner : packageEntity.supplierID pkg = supplierID := hs
  simp only [MemoryStore.getByID, hitem, howner, if_true]

/-- The store after it has saved an object that it holds. -/
theorem update_of_held {m : PackageStore} {pkg : Package} {id : Int} (edited : Package) (now : Time)
    (hitem : m.items id = some pkg) (hid : edited.id = pkg.id) (hs : edited.supplierID = pkg.supplierID) :
    (m.update edited now).1.nextID = m.nextID ∧
    (m.update edited now).1.items = Function.update m.items id (some { edited with updatedAt := now }) ∧
    ∃ saved, (m.update edited now).2 = .ok saved := by
  have hkey : edited.id = id := hid.trans (m.keyed id pkg hitem)
  unfold MemoryStore.update
  split
  next existing hexisting =>
    have hsame : m.items edited.id = some existing := hexisting
    rw [hkey, hitem] at hsame
    cases Option.some.inj hsame
    have howner : packageEntity.supplierID pkg = packageEntity.supplierID edited := hs.symm
    rw [if_pos howner]
    subst hkey
    exact ⟨rfl, rfl, _, rfl⟩
  next hnone =>
    have hnone : m.items edited.id = none := hnone
    rw [hkey, hitem] at hnone
    cases hnone

section

variable {m m' : PackageStore} {supplierID : Int} {item : BatchPriceItem}

/-- A round with a valid item sets the prices of its package and counts its version up. -/
theorem updatePrice_of_valid (now : Time) (h : valid m supplierID item = true) :
    (updatePrice m now supplierID item).2 = none ∧
    (updatePrice m now supplierID item).1.nextID = m.nextID ∧
    ∃ pkg, m.items item.packageID = some pkg ∧ (updatePrice m now supplierID item).1.items =
      Function.update m.items item.packageID (some (priced pkg item now)) := by
  obtain ⟨hin, hout, pkg, hitem, hs, hstatus⟩ := valid_iff.mp h
  have hpriceable := Packages.priceable_iff.mpr hstatus
  have hnonneg : ¬(item.pricePer1MInput < 0 ∨ item.pricePer1MOutput < 0) := by
    rintro (hneg | hneg)
    · exact Rat.not_lt.mpr hin hneg
    · exact Rat.not_lt.mpr hout hneg
  obtain ⟨hnext, hitems, saved, hsaved⟩ := update_of_held (priced pkg item now) now hitem rfl rfl
  simp only [updatePrice, hnonneg, if_false, getByID_of_item hitem hs, hpriceable, if_true, hsaved]
  exact ⟨rfl, hnext, pkg, hitem, hitems⟩

/-- A round with another item leaves the store and reports a failure for the item's package. -/
theorem updatePrice_of_not_valid (now : Time) (h : valid m supplierID item = false) :
    ∃ failure, updatePrice m now supplierID item = (m, some failure) ∧
      failure.packageID = item.packageID := by
  by_cases hneg : item.pricePer1MInput < 0 ∨ item.pricePer1MOutput < 0
  · exact ⟨⟨item.packageID, "SUP_PKG_4004", .message "price cannot be negative"⟩,
      by simp only [updatePrice, hneg, if_true], rfl⟩
  · rcases hget : m.getByID supplierID item.packageID with err | pkg
    · exact ⟨⟨item.packageID, "NOT_FOUND", err⟩, by simp only [updatePrice, hneg, if_false, hget], rfl⟩
    · cases hstatus : Packages.priceable pkg.status with
      | false =>
        exact ⟨⟨item.packageID, "SUP_PKG_4093",
          .message "cannot update price for sold_out or expired packages"⟩,
          by simp [updatePrice, hneg, hget, hstatus], rfl⟩
      | true =>
        obtain ⟨hitem, hs, -⟩ := MemoryStore.getByID_ok hget
        rw [not_or, Rat.not_lt, Rat.not_lt] at hneg
        have hvalid := valid_iff.mpr ⟨hneg.1, hneg.2, pkg, hitem, hs,
          Packages.priceable_iff.mp hstatus⟩
        rw [h] at hvalid
        cases hvalid

/-- The packages of two stores agree in what `BatchUpdatePrice` asks of them. -/
def SameTerms (m m' : PackageStore) : Prop :=
  ∀ id, (m'.items id).map (fun p => (p.supplierID, p.status)) =
    (m.items id).map (fun p => (p.supplierID, p.status))

theorem SameTerms.updatePrice (now : Time) (supplierID : Int) (item : BatchPriceItem) :
    SameTerms m (updatePrice m now supplierID item).1 := by
  intro id
  cases hvalid : valid m supplierID item with
  | false =>
    obtain ⟨failure, hround, -⟩ := updatePrice_of_not_valid now hvalid
    rw [hround]
  | true =>
    obtain ⟨-, -, pkg, hitem, hitems⟩ := updatePrice_of_valid now hvalid
    rw [hitems]
    by_cases hid : id = item.packageID
    · rw [hid, Function.update_self, hitem]
      rfl
    · rw [Function.update_of_ne hid]

theorem SameTerms.valid_eq (h : SameTerms m m') (supplierID : Int) (item : BatchPriceItem) :
    valid m' supplierID item = valid m supplierID item := by
  have hany : ∀ n : PackageStore, (n.items item.packageID).any
      (fun pkg => pkg.supplierID = supplierID && (pkg.status ≠ .soldOut && pkg.status ≠ .expired)) =
      ((n.items item.packageID).map (fun p => (p.supplierID, p.status))).any
        (fun terms => terms.1 = supplierID && (terms.2 ≠ .soldOut && terms.2 ≠ .expired)) := by
    intro n
    cases n.items item.packageID with
    | none => rfl
    | some pkg => rfl
  simp only [valid, hany, h item.packageID]

theorem SameTerms.named_eq (h : SameTerms m m') (supplierID : Int) (items : List BatchPriceItem)
    (id : Int) : named m' supplierID items id = named m supplierID items id := by
  simp only [named, h.valid_eq supplierID]

end

/-- What the rounds for these items make of a package. -/
def repriced (now : Time) (items : List BatchPriceItem) (pkg : Package) : Package :=
  items.foldl (fun p item => priced p item now) pkg

theorem repriced_snoc (now : Time) (before : List BatchPriceItem) (last : BatchPriceItem) (pkg : Package) :
    repriced now (before ++ [last]) pkg =
      { pkg with pricePer1MInput := last.pricePer1MInput, pricePer1MOutput := last.pricePer1MOutput,
                 updatedAt := now, version := pkg.version + (before ++ [last]).length } := by
  induction before generalizing pkg with
  | nil => rfl
  | cons item before ih =>
    have hnext := ih (priced pkg item now)
    refine hnext.trans ?_
    simp only [priced, List.cons_append, List.length_cons, Nat.cast_add, Nat.cast_one]
    congr 1
    omega

/-- The loop of `BatchUpdatePrice` from a store and a response: the packages have gone through their valid
items, and the other items are counted and kept in order. -/
theorem rounds (now : Time) (supplierID : Int) (items : List BatchPriceItem) (m : PackageStore)
    (resp : BatchUpdatePriceResponse) :
    let out := items.foldl (fun acc item => ((updatePrice acc.1 now supplierID item).1,
      acc.2.add (updatePrice acc.1 now supplierID item).2)) (m, resp)
    (∀ id, out.1.items id = (m.items id).map (repriced now (named m supplierID items id))) ∧
    out.1.nextID = m.nextID ∧ out.2.total = resp.total ∧
    out.2.successCount = resp.successCount + items.countP (valid m supplierID) ∧
    out.2.failedCount = resp.failedCount + items.countP (fun item => !valid m supplierID item) ∧
    ∃ failures, out.2.failures = resp.failures ++ failures ∧
      failures.map (·.packageID) =
        (items.filter (fun item => !valid m supplierID item)).map (·.packageID) := by
  induction items generalizing m resp with
  | nil =>
    exact ⟨fun id => Option.map_id'.symm, rfl, rfl, rfl, rfl, [], (List.append_nil _).symm, rfl⟩
  | cons item items ih =>
    have hterms := SameTerms.updatePrice (m := m) now supplierID item
    have hih := ih (updatePrice m now supplierID item).1 (resp.add (updatePrice m now supplierID item).2)
    have hvalids : valid (updatePrice m now supplierID item).1 supplierID = valid m supplierID :=
      funext (hterms.valid_eq supplierID)
    simp only [hvalids, hterms.named_eq supplierID] at hih
    dsimp only [List.foldl_cons]
    generalize List.foldl _ _ items = out at hih ⊢
    obtain ⟨hitems, hnext, htotal, hsuccess, hfailed, failures, hfailures, hids⟩ := hih
    cases hvalid : valid m supplierID item with
    | false =>
      obtain ⟨failure, hround, hfailure⟩ := updatePrice_of_not_valid now hvalid
      rw [hround] at hitems hnext htotal hsuccess hfailed hfailures
      dsimp only [BatchUpdatePriceResponse.add] at htotal hsuccess hfailed hfailures
      refine ⟨fun id => ?_, hnext, htotal, ?_, ?_, failure :: failures, ?_, ?_⟩
      · rw [hitems id, named_cons, if_neg (by simp [hvalid])]
      · rw [hsuccess, List.countP_cons_of_neg (by simp [hvalid])]
      · rw [hfailed, List.countP_cons_of_pos (by simp [hvalid])]
        omega
      · rw [hfailures, List.append_assoc, List.singleton_append]
      · rw [List.filter_cons_of_pos (by simp [hvalid]), List.map_cons, List.map_cons, hids, hfailure]
    | true =>
      obtain ⟨hround, hround', pkg, hitem, hstored⟩ := updatePrice_of_valid now hvalid
      rw [hround] at htotal hsuccess hfailed hfailures
      dsimp only [BatchUpdatePriceResponse.add] at htotal hsuccess hfailed hfailures
      refine ⟨fun id => ?_, hnext.trans hround', htotal, ?_, ?_, failures, hfailures, ?_⟩
      · rw [hitems id, hstored, named_cons]
        by_cases hid : item.packageID = id
        · rw [if_pos ⟨hvalid, hid⟩, ← hid, Function.update_self, hitem]
          rfl
        · rw [if_neg (fun h => hid h.2), Function.update_of_ne (Ne.symm hid)]
      · rw [hsuccess, List.countP_cons_of_pos hvalid]
        omega
      · rw [hfailed, List.countP_cons_of_neg (by simp [hvalid])]
      · rw [List.filter_cons_of_neg (by simp [hvalid]), hids]

/-- What a call of `BatchUpdatePrice` returns and what it leaves of the store. -/
structure BatchEffect (m m' : PackageStore) (now : Time) (supplierID : Int) (items : List BatchPriceItem)
    (resp : BatchUpdatePriceResponse) : Prop where
  total : resp.total = items.length
  counted : resp.total = resp.successCount + resp.failedCount
  failed : resp.failures.length = resp.failedCount
  inOrder : resp.failures.map (·.packageID) =
    (items.filter (fun item => !valid m supplierID item)).map (·.packageID)
  untouched : ∀ id pkg, m.items id = some pkg →
    (pkg.supplierID ≠ supplierID ∨ pkg.status = .soldOut ∨ pkg.status = .expired ∨
      ∀ item ∈ items, valid m supplierID item = true → item.packageID ≠ id) →
    m'.items id = some pkg
  priced : ∀ id pkg last, m.items id = some pkg → (named m supplierID items id).getLast? = some last →
    m'.items id = some { pkg with pricePer1MInput := last.pricePer1MInput,
                                  pricePer1MOutput := last.pricePer1MOutput, updatedAt := now,
                                  version := pkg.version + (named m supplierID items id).length }
  nothingNew : ∀ id, m.items id = none → m'.items id = none
  nextID : m'.nextID = m.nextID

theorem named_eq_nil {m : PackageStore} {supplierID id : Int} {items : List BatchPriceItem} {pkg : Package}
    (hitem : m.items id = some pkg)
    (h : pkg.supplierID ≠ supplierID ∨ pkg.status = .soldOut ∨ pkg.status = .expired ∨
      ∀ item ∈ items, valid m supplierID item = true → item.packageID ≠ id) :
    named m supplierID items id = [] := by
  refine List.filter_eq_nil_iff.mpr (fun item hmem hnamed => ?_)
  rw [Bool.and_eq_true, decide_eq_true_eq] at hnamed
  obtain ⟨hvalid, rfl⟩ := hnamed
  obtain ⟨-, -, existing, hexisting, hs, hstatus⟩ := valid_iff.mp hvalid
  rw [hitem] at hexisting
  cases Option.some.inj hexisting
  rcases h with hother | hsold | hexpired | hnone
  · exact hother hs
  · exact hstatus.1 hsold
  · exact hstatus.2 hexpired
  · exact hnone item hmem hvalid rfl

/-- Whatever the store and the items are: every item is counted, a failure is kept for each that is not
valid, and a package ends as the last of its valid items has it. -/
theorem batchUpdatePrice_effect (m : PackageStore) (now : Time) (supplierID : Int)
    (items : List BatchPriceItem) :
    BatchEffect m (batchUpdatePrice m now supplierID items).1 now supplierID items
      (batchUpdatePrice m now supplierID items).2 := by
  obtain ⟨hitems, hnext, htotal, hsuccess, hfailed, failures, hfailures, hids⟩ :=
    rounds now supplierID items m { total := items.length, successCount := 0, failedCount := 0, failures := [] }
  change ∀ id, (batchUpdatePrice m now supplierID items).1.items id = _ at hitems
  change (batchUpdatePrice m now supplierID items).2.total = items.length at htotal
  change (batchUpdatePrice m now supplierID items).2.successCount = 0 + _ at hsuccess
  change (batchUpdatePrice m now supplierID items).2.failedCount = 0 + _ at hfailed
  change (batchUpdatePrice m now supplierID items).2.failures = [] ++ failures at hfailures
  rw [Nat.zero_add] at hsuccess hfailed
  rw [List.nil_append] at hfailures
  refine ⟨htotal, ?_, ?_, ?_, ?_, ?_, ?_, hnext⟩
  · rw [htotal, hsuccess, hfailed]
    simpa using List.length_eq_countP_add_countP (valid m supplierID) (l := items)
  · have hlength := congrArg List.length hids
    rw [List.length_map, List.length_map, ← List.countP_eq_length_filter] at hlength
    rw [hfailures, hfailed, hlength]
  · rw [hfailures, hids]
  · intro id pkg hitem hkept
    rw [hitems id, hitem, named_eq_nil hitem hkept]
    rfl
  · intro id pkg last hitem hlast
    obtain ⟨before, hsplit⟩ := List.getLast?_eq_some_iff.mp hlast
    rw [hitems id, hitem, hsplit]
    exact congrArg some (repriced_snoc now before last pkg)
  · intro id hnone
    rw [hitems id, hnone]
    rfl

end SupplyPlatform.Catalog
