import Mathlib.Algebra.Order.BigOperators.Group.List
import Mathlib.Tactic.Linarith
import SupplyPlatform.Lib.Runs
import SupplyPlatform.Package

namespace SupplyPlatform.Packages

open Relational

/-- Quota sold by an `UpdateQuota` that went through. -/
structure Sale where
  packageID : Int
  amount : ℚ

/-- A client that reads a package and writes it back. `seen` counts the sales before its read. -/
inductive Client
  | idle
  | holds (pkg : Package) (seen : Nat)
  | done (result : Except RepoError Package)

structure Market where
  table : PackageTable
  client : Nat → Client
  now : Time
  sales : List Sale

inductive Market.Action
  | tick (elapsed : Nat)
  | getByID (n : Nat) (supplierID id : Int)
  | update (n : Nat) (status : PackageStatus) (pricePer1MInput pricePer1MOutput : ℚ)
  | updateQuota (packageID supplierID : Int) (usedQuota : ℚ)
  | fail (n : Nat) (err : RepoError)

def Market.setClient (s : Market) (n : Nat) (x : Client) : Market :=
  { s with client := Function.update s.client n x }

/-- The package as a client writes it back. -/
def repriced (pkg : Package) (status : PackageStatus) (pricePer1MInput pricePer1MOutput : ℚ) : Package :=
  { pkg with status := status, pricePer1MInput := pricePer1MInput, pricePer1MOutput := pricePer1MOutput }

/-- What an `UpdateQuota` adds to the sales. -/
def sold (t : PackageTable) (packageID supplierID : Int) (usedQuota : ℚ) : List Sale :=
  if t.rows.any (sellable packageID supplierID usedQuota) then [⟨packageID, usedQuota⟩] else []

/-- One SQL statement, of a client or of an `UpdateQuota` transaction. -/
def Market.step (s : Market) : Market.Action → Option Market
  | .tick elapsed => some { s with now := s.now + elapsed }
  | .getByID n supplierID id =>
    match s.client n with
    | .idle | .done _ =>
      match Packages.getByID s.table supplierID id with
      | .error e => some (s.setClient n (.done (.error e)))
      | .ok pkg => some (s.setClient n (.holds pkg s.sales.length))
    | _ => none
  | .update n status input output =>
    match s.client n with
    | .holds pkg _ =>
      some ({ s with table := (Packages.update s.table (repriced pkg status input output) pkg.version
                s.now).1 }.setClient n
        (.done (Packages.update s.table (repriced pkg status input output) pkg.version s.now).2))
    | _ => none
  | .updateQuota packageID supplierID usedQuota =>
    if 0 < usedQuota then
      some { s with table := (Packages.updateQuota s.table packageID supplierID usedQuota s.now).1,
                    sales := sold s.table packageID supplierID usedQuota ++ s.sales }
    else none
  | .fail n err => some (s.setClient n (.done (.error err)))

def Market.start (t : PackageTable) (now : Time) : Market :=
  { table := t, client := fun _ => .idle, now := now, sales := [] }

/-- What has been sold of a package. -/
def soldOf (id : Int) (sales : List Sale) : ℚ :=
  ((sales.filter (fun x => x.packageID = id)).map (·.amount)).sum

/-- The quotas a package has left from those it started with, once `amount` has been sold. -/
structure Tally (first : PackageRow) (available sold amount : ℚ) : Prop where
  nonneg : 0 ≤ first.availableQuota → 0 ≤ available
  constant : available + sold = first.availableQuota + first.soldQuota
  grown : sold = first.soldQuota + amount

/-- No package is oversold and no sale is lost. -/
def Accounted (t : PackageTable) (s : Market) : Prop :=
  ∀ r ∈ s.table.rows, ∃ first ∈ t.rows, first.id = r.id ∧
    Tally first r.availableQuota r.soldQuota (soldOf r.id s.sales)

/-- A client whose `Update` finds its row has missed no sale of the package since its read. -/
def Undisturbed (s : Market) : Market.Action → Prop
  | .update n _ _ _ => ∀ pkg seen, s.client n = .holds pkg seen →
      (∃ r ∈ s.table.rows, updates pkg pkg.version r) →
        ∀ sale ∈ s.sales.take (s.sales.length - seen), sale.packageID ≠ pkg.id
  | _ => True

structure Inv (t : PackageTable) (s : Market) : Prop where
  accounted : Accounted t s
  positive : ∀ sale ∈ s.sales, 0 < sale.amount
  clients : ∀ n pkg seen, s.client n = .holds pkg seen → seen ≤ s.sales.length ∧
    ∃ first ∈ t.rows, first.id = pkg.id ∧
      Tally first pkg.availableQuota pkg.soldQuota
        (soldOf pkg.id (s.sales.drop (s.sales.length - seen)))

theorem soldOf_append (id : Int) (a b : List Sale) : soldOf id (a ++ b) = soldOf id a + soldOf id b := by
  simp [soldOf]

theorem soldOf_eq_zero {id : Int} {sales : List Sale} (h : ∀ x ∈ sales, x.packageID ≠ id) :
    soldOf id sales = 0 := by
  have hnone : sales.filter (fun x => x.packageID = id) = [] := by
    apply List.filter_eq_nil_iff.mpr
    intro x hx
    simpa using h x hx
  simp [soldOf, hnone]

theorem soldOf_pos {id : Int} {sales : List Sale} (hpos : ∀ x ∈ sales, 0 < x.amount) {x : Sale}
    (hx : x ∈ sales) (hid : x.packageID = id) : 0 < soldOf id sales := by
  have hmem : x.amount ∈ (sales.filter (fun x => x.packageID = id)).map (·.amount) :=
    List.mem_map.mpr ⟨x, List.mem_filter.mpr ⟨hx, by simpa using hid⟩, rfl⟩
  refine List.sum_pos _ (fun y hy => ?_) (List.ne_nil_of_mem hmem)
  obtain ⟨z, hz, rfl⟩ := List.mem_map.mp hy
  exact hpos z (List.mem_filter.mp hz).1

/-- Sales since a read, and those before it. -/
theorem soldOf_split (id : Int) (sales : List Sale) (k : Nat) :
    soldOf id sales = soldOf id (sales.take k) + soldOf id (sales.drop k) := by
  rw [← soldOf_append, List.take_append_drop]

theorem first_eq_of_id {t : PackageTable} {s : Market} (h : Accounted t s) {r first : PackageRow}
    (hr : r ∈ s.table.rows) (hf : first ∈ t.rows) (hid : first.id = r.id) :
    Tally first r.availableQuota r.soldQuota (soldOf r.id s.sales) := by
  obtain ⟨first', hf', hid', htally⟩ := h r hr
  rwa [row_eq_of_id hf hf' (hid.trans hid'.symm)]

/-- A client goes on while table and sales stay as they are. -/
theorem Inv.move {t : PackageTable} {s : Market} (h : Inv t s) {n : Nat} {x : Client}
    (hx : ∀ pkg seen, x = .holds pkg seen → seen = s.sales.length ∧
      ∃ r ∈ s.table.rows, pkg = decodePackage r) : Inv t (s.setClient n x) := by
  refine ⟨h.accounted, h.positive, fun m pkg seen hm => ?_⟩
  by_cases hmn : m = n
  · subst m
    obtain ⟨rfl, r, hr, rfl⟩ := hx pkg seen (by simpa [Market.setClient] using hm)
    obtain ⟨first, hfirst, hid, htally⟩ := h.accounted r hr
    refine ⟨le_refl _, first, hfirst, hid, ?_⟩
    show Tally first r.availableQuota r.soldQuota
      (soldOf r.id (s.sales.drop (s.sales.length - s.sales.length)))
    rw [Nat.sub_self, List.drop_zero]
    exact htally
  · exact h.clients m pkg seen (by simpa [Market.setClient, hmn] using hm)

/-- The rows after an `Update`: it puts the client's quotas where it finds the row. -/
theorem mem_update {t : PackageTable} {pkg : Package} {v : Int} {now : Time} {q : PackageRow}
    (hq : q ∈ (update t pkg v now).1.rows) :
    q ∈ t.rows ∨ ∃ r ∈ t.rows, updates pkg v r ∧ q = updatedRow pkg v now r := by
  rw [update, Table.rows_updateWhere] at hq
  obtain ⟨r, hr, rfl⟩ := List.mem_map.mp hq
  by_cases hu : updates pkg v r
  · exact .inr ⟨r, hr, hu, if_pos hu⟩
  · rw [if_neg hu]
    exact .inl hr

/-- Writing back quotas read before a sale loses it, and nothing else does. -/
theorem Inv.update_iff {t : PackageTable} {s : Market} (h : Inv t s) {n : Nat} {pkg : Package}
    {seen : Nat} (hn : s.client n = .holds pkg seen) (status : PackageStatus) (input output : ℚ) :
    Accounted t { s with table := (Packages.update s.table (repriced pkg status input output)
      pkg.version s.now).1 } ↔ Undisturbed s (.update n status input output) := by
  obtain ⟨hseen, first, hfirst, hid, htally⟩ := h.clients n pkg seen hn
  constructor
  · intro hacc pkg' seen' hn' hfound sale hsale hsold
    rw [hn] at hn'
    cases hn'
    obtain ⟨r, hr, hu⟩ := hfound
    have hmem : updatedRow (repriced pkg status input output) pkg.version s.now r ∈
        (Packages.update s.table (repriced pkg status input output) pkg.version s.now).1.rows := by
      rw [Packages.update, Table.rows_updateWhere]
      exact List.mem_map.mpr ⟨r, hr, if_pos hu⟩
    have hnew := first_eq_of_id hacc hmem hfirst (hid.trans (updates_iff.mp hu).1.symm)
    have hgrown : pkg.soldQuota = first.soldQuota + soldOf r.id s.sales := hnew.grown
    have hpos : 0 < soldOf pkg.id (s.sales.take (s.sales.length - seen)) :=
      soldOf_pos (fun x hx => h.positive x (List.mem_of_mem_take hx)) hsale hsold
    rw [(updates_iff.mp hu).1, soldOf_split _ _ (s.sales.length - seen), htally.grown] at hgrown
    linarith
  · intro hun q hq
    rcases mem_update hq with hq | ⟨r, hr, hu, rfl⟩
    · exact h.accounted q hq
    · have hrid := (updates_iff.mp hu).1
      have hnone := soldOf_eq_zero (hun pkg seen hn ⟨r, hr, hu⟩)
      refine ⟨first, hfirst, hid.trans hrid.symm, ?_⟩
      show Tally first pkg.availableQuota pkg.soldQuota (soldOf r.id s.sales)
      rw [hrid, soldOf_split _ _ (s.sales.length - seen), show soldOf (repriced pkg status input
        output).id _ = 0 from hnone, zero_add]
      exact htally

/-- A client that keeps out of it sees the sales since its read grow by one. -/
theorem Inv.drop_sale {t : PackageTable} {s : Market} (h : Inv t s) (added : List Sale) {n : Nat}
    {pkg : Package} {seen : Nat} (hn : s.client n = .holds pkg seen) :
    seen ≤ (added ++ s.sales).length ∧ ∃ first ∈ t.rows, first.id = pkg.id ∧
      Tally first pkg.availableQuota pkg.soldQuota
        (soldOf pkg.id ((added ++ s.sales).drop ((added ++ s.sales).length - seen))) := by
  obtain ⟨hseen, first, hfirst, hid, htally⟩ := h.clients n pkg seen hn
  have hlen : (added ++ s.sales).length = added.length + s.sales.length := List.length_append
  have hdrop : (added ++ s.sales).drop ((added ++ s.sales).length - seen) =
      s.sales.drop (s.sales.length - seen) := by
    rw [hlen, Nat.add_sub_assoc hseen, List.drop_append]
    have hnil : added.drop (added.length + (s.sales.length - seen)) = [] :=
      List.drop_of_length_le (by omega)
    rw [hnil, List.nil_append, Nat.add_sub_cancel_left]
  rw [hdrop]
  exact ⟨by omega, first, hfirst, hid, htally⟩

theorem sellable_iff {packageID supplierID : Int} {usedQuota : ℚ} {r : PackageRow} :
    sellable packageID supplierID usedQuota r ↔
      r.id = packageID ∧ r.userID = supplierID ∧ usedQuota ≤ r.availableQuota := by
  simp [sellable, and_assoc]

/-- What a sale adds to the tally of a row: its amount if the row could be sold from. -/
theorem soldOf_sold {t : PackageTable} {packageID supplierID : Int} {usedQuota : ℚ} {r : PackageRow}
    (hr : r ∈ t.rows) :
    soldOf r.id (sold t packageID supplierID usedQuota) =
      if sellable packageID supplierID usedQuota r then usedQuota else 0 := by
  split
  next hsell =>
    have hany : t.rows.any (sellable packageID supplierID usedQuota) = true :=
      List.any_eq_true.mpr ⟨r, hr, hsell⟩
    simp [sold, hany, soldOf, (sellable_iff.mp hsell).1]
  next hsell =>
    refine soldOf_eq_zero (fun x hx heq => ?_)
    unfold sold at hx
    split at hx
    next hany =>
      obtain ⟨q, hq, hqs⟩ := List.any_eq_true.mp hany
      rw [List.mem_singleton.mp hx] at heq
      have hqr : q = r := row_eq_of_id hq hr ((sellable_iff.mp hqs).1.trans heq)
      exact hsell (hqr ▸ hqs)
    next => simp at hx

theorem sold_positive {t : PackageTable} {packageID supplierID : Int} {usedQuota : ℚ}
    (hpos : 0 < usedQuota) {sale : Sale} (h : sale ∈ sold t packageID supplierID usedQuota) :
    0 < sale.amount := by
  unfold sold at h
  split at h
  next => rw [List.mem_singleton.mp h]; exact hpos
  next => simp at h

theorem Tally.sell {first : PackageRow} {available sold amount usedQuota : ℚ}
    (h : Tally first available sold amount) (hroom : usedQuota ≤ available) :
    Tally first (available - usedQuota) (sold + usedQuota) (usedQuota + amount) := by
  have hconst := h.constant
  have hgrown := h.grown
  refine ⟨fun _ => ?_, ?_, ?_⟩
  · linarith
  · linarith
  · linarith

theorem Inv.updateQuota {t : PackageTable} {s : Market} (h : Inv t s) {packageID supplierID : Int}
    {usedQuota : ℚ} (hpos : 0 < usedQuota) :
    Inv t { s with table := (Packages.updateQuota s.table packageID supplierID usedQuota s.now).1,
                   sales := sold s.table packageID supplierID usedQuota ++ s.sales } := by
  refine ⟨fun q hq => ?_, fun sale hsale => ?_, fun n pkg seen hn => h.drop_sale _ hn⟩
  · rw [Packages.updateQuota, Table.rows_updateWhere] at hq
    obtain ⟨r, hr, rfl⟩ := List.mem_map.mp hq
    obtain ⟨first, hfirst, hid, htally⟩ := h.accounted r hr
    by_cases hsell : sellable packageID supplierID usedQuota r
    · rw [if_pos hsell]
      refine ⟨first, hfirst, hid, ?_⟩
      show Tally first (r.availableQuota - usedQuota) (r.soldQuota + usedQuota) (soldOf r.id _)
      rw [soldOf_append, soldOf_sold hr, if_pos hsell]
      exact htally.sell (sellable_iff.mp hsell).2.2
    · rw [if_neg hsell]
      refine ⟨first, hfirst, hid, ?_⟩
      rw [soldOf_append, soldOf_sold hr, if_neg hsell, zero_add]
      exact htally
  · rcases List.mem_append.mp hsale with hsale | hsale
    · exact sold_positive hpos hsale
    · exact h.positive sale hsale

theorem Inv.step {t : PackageTable} {s s' : Market} {a : Market.Action} (h : Inv t s)
    (ha : Undisturbed s a) (hs : s.step a = some s') : Inv t s' := by
  cases a with
  | tick elapsed => cases Option.some.inj hs; exact ⟨h.accounted, h.positive, h.clients⟩
  | getByID n supplierID id =>
    simp only [Market.step] at hs
    split at hs
    all_goals first | contradiction | skip
    all_goals
      split at hs
      next => cases Option.some.inj hs; exact h.move (fun _ _ hx => by cases hx)
      next pkg hget =>
        cases Option.some.inj hs
        obtain ⟨r, hr, _, _, hread⟩ := getByID_ok hget
        refine h.move (fun p seen hx => ?_)
        cases hx
        exact ⟨rfl, r, hr, hread⟩
  | update n status input output =>
    simp only [Market.step] at hs
    split at hs
    next pkg seen hn =>
      cases Option.some.inj hs
      have hwritten : Inv t { s with table := (Packages.update s.table
          (repriced pkg status input output) pkg.version s.now).1 } :=
        ⟨(h.update_iff hn status input output).mpr ha, h.positive, h.clients⟩
      exact hwritten.move (fun _ _ hx => by cases hx)
    next => cases hs
  | updateQuota packageID supplierID usedQuota =>
    simp only [Market.step] at hs
    split at hs
    next hpos => cases Option.some.inj hs; exact h.updateQuota hpos
    next => cases hs
  | fail n err => cases Option.some.inj hs; exact h.move (fun _ _ hx => by cases hx)

theorem Inv.disturbed {t : PackageTable} {s s' : Market} {a : Market.Action} (h : Inv t s)
    (ha : ¬Undisturbed s a) (hs : s.step a = some s') : ¬Accounted t s' := by
  cases a with
  | update n status input output =>
    simp only [Market.step] at hs
    split at hs
    next pkg seen hn =>
      cases Option.some.inj hs
      exact fun hacc => ha ((h.update_iff hn status input output).mp hacc)
    next => cases hs
  | _ => exact absurd trivial ha

theorem Inv.start (t : PackageTable) (now : Time) : Inv t (Market.start t now) := by
  refine ⟨fun r hr => ⟨r, hr, rfl, fun h => h, rfl, ?_⟩, fun _ h => ?_, fun _ _ _ h => ?_⟩
  · show r.soldQuota = r.soldQuota + 0
    rw [add_zero]
  · cases h
  · cases h

/-- In any interleaving of sales and of clients that change status or prices, the quotas stay accounted
for exactly when every `Update` that finds its row comes from a client that has missed no sale. -/
theorem quota_accounted_iff (t : PackageTable) (now : Time) (actions : List Market.Action) :
    Transition.Throughout Market.step (Accounted t) (Market.start t now) actions ↔
      Transition.EachStep Market.step Undisturbed (Market.start t now) actions :=
  Transition.throughout_iff_eachStep (fun _ _ _ h ha hs => Inv.step h ha hs)
    (fun _ h => h.accounted) (fun _ _ _ h ha hs => h.disturbed ha hs) (Inv.start t now) actions

/-- An active package with 10 to sell, whose two owner columns agree. -/
def sampleRow : PackageRow :=
  { id := 1, supplyAccountID := 7, userID := 7, platform := "openai", model := "gpt-4",
    totalQuota := 10, availableQuota := 10, soldQuota := 0, reservedQuota := 0, pricePer1MInput := 1,
    pricePer1MOutput := 2, minPurchase := 0, startAt := none, endAt := none, validDays := 30,
    status := .active, maxConcurrent := 0, rateLimitRPM := 0, totalOrders := 0, totalRevenue := 0,
    rating := 0, ratingCount := 0, quotaUnit := "token", priceUnit := "per_1m_tokens",
    currencyCode := "USD", version := 0, createdAt := 0, updatedAt := 0 }

def sampleTable : PackageTable := ⟨[sampleRow], List.pairwise_singleton _ _⟩

/-- A sale of 4 between a client's read and its write: the write succeeds and the sale is gone. -/
theorem sale_lost_counterexample :
    ∃ s, Transition.Reach Market.step Transition.anyStep (Market.start sampleTable 0) s ∧
      s.table.rows.map (fun r => (r.availableQuota, r.soldQuota)) = [(10, 0)] ∧
      soldOf 1 s.sales = 4 ∧ ¬Accounted sampleTable s := by
  have hrun : (Transition.exec Market.step (Market.start sampleTable 0)
      [.getByID 0 7 1, .updateQuota 1 7 4, .update 0 .paused 1 2]).map
        (fun s => (s.table.rows.map (fun r => (r.id, r.availableQuota, r.soldQuota)),
          soldOf 1 s.sales)) = some ([(1, 10, 0)], 4) := by
    decide +kernel
  obtain ⟨s, hs, hend⟩ := Option.map_eq_some_iff.mp hrun
  obtain ⟨hrows, hsold⟩ := Prod.mk.inj hend
  obtain ⟨r, hr, hquota⟩ : ∃ r, s.table.rows = [r] ∧ (r.id, r.availableQuota, r.soldQuota) = (1, 10, 0) := by
    obtain ⟨r, hr, hq⟩ := List.map_eq_singleton_iff.mp hrows
    exact ⟨r, hr, hq⟩
  simp only [Prod.mk.injEq] at hquota
  refine ⟨s, Transition.reach_of_exec hs, by simp [hr, hquota], hsold, fun hacc => ?_⟩
  obtain ⟨first, hfirst, _, htally⟩ := hacc r (by simp [hr])
  have hgrown := htally.grown
  rw [List.mem_singleton.mp hfirst, hquota.1, hquota.2.2, hsold] at hgrown
  exact absurd hgrown (by decide +kernel)

end SupplyPlatform.Packages
