import SupplyPlatform.CatalogStatus

namespace SupplyPlatform.Catalog

open Settlements (errNotFound)

/-- How the objects of a store take another id. -/
structure Renaming {α : Type} (e : Entity α) where
  withID : α → Int → α
  id_withID : ∀ x n, e.id (withID x n) = n
  supplierID_withID : ∀ x n, e.supplierID (withID x n) = e.supplierID x
  supplierID_stamp : ∀ x n now, e.supplierID (e.stamp x n now) = e.supplierID x
  supplierID_touch : ∀ x now, e.supplierID (e.touch x now) = e.supplierID x
  stamp_eq : ∀ x n k now, e.stamp x k now = withID (e.stamp x n now) k
  touch_withID : ∀ x n now, e.touch (withID x n) now = withID (e.touch x now) n

namespace MemoryStore

variable {α : Type} {e : Entity α} {ren : Renaming e} {m m' p : MemoryStore e} {v u id j : Int} {x y : α}
  {now : Time}

def owns (m : MemoryStore e) (v id : Int) : Bool :=
  match m.items id with
  | some x => decide (e.supplierID x = v)
  | none => false

/-- How many of the supplier's objects have an id up to this one. -/
def rank (m : MemoryStore e) (v id : Int) : Int :=
  (List.range id.toNat).countP (fun (k : Nat) => m.owns v (k + 1))

/-- The id that the object would have if the supplier were the only one; none is 0. -/
def localID (m : MemoryStore e) (v id : Int) : Int := if m.owns v id then m.rank v id else 0

/-- `p` has what is the supplier's own in `m`, under the ids that it has there. -/
structure Mirrors (ren : Renaming e) (v : Int) (m p : MemoryStore e) : Prop where
  start : 1 ≤ m.nextID
  positive : ∀ id x, m.items id = some x → 1 ≤ id
  next : p.nextID = m.rank v (m.nextID - 1) + 1
  found : ∀ id x, m.items id = some x → e.supplierID x = v →
    p.items (m.rank v id) = some (ren.withID x (m.rank v id))
  own : ∀ k y, p.items k = some y →
    ∃ id x, m.items id = some x ∧ e.supplierID x = v ∧ m.rank v id = k

theorem owns_of_items (hx : m.items id = some x) (hs : e.supplierID x = v) : m.owns v id = true := by
  rw [owns, hx]
  exact decide_eq_true hs

theorem items_of_owns (h : m.owns v id = true) : ∃ x, m.items id = some x ∧ e.supplierID x = v := by
  unfold owns at h
  split at h
  next x hx => exact ⟨x, hx, of_decide_eq_true h⟩
  next => cases h

theorem rank_congr (h : ∀ j, j ≤ id → m'.owns v j = m.owns v j) : m'.rank v id = m.rank v id := by
  unfold rank
  refine congrArg Nat.cast (List.countP_congr fun k hk => ?_)
  have hbelow := List.mem_range.mp hk
  rw [h (k + 1) (by omega)]

theorem rank_step (hn : 1 ≤ id) :
    m.rank v id = m.rank v (id - 1) + if m.owns v id = true then 1 else 0 := by
  obtain ⟨n, rfl⟩ : ∃ n : Nat, id = n + 1 := ⟨(id - 1).toNat, by omega⟩
  have hlast : ((n : Int) + 1).toNat = n + 1 := by omega
  have hbefore : ((n : Int) + 1 - 1).toNat = n := by omega
  unfold rank
  rw [hlast, hbefore, List.range_succ, List.countP_append, List.countP_singleton, Nat.cast_add, Nat.cast_ite]
  rfl

theorem rank_succ (hn : 1 ≤ id) (h : m.owns v id = true) : m.rank v id = m.rank v (id - 1) + 1 := by
  rw [rank_step hn, if_pos h]

theorem rank_skip (hn : 1 ≤ id) (h : m.owns v id = false) : m.rank v id = m.rank v (id - 1) := by
  rw [rank_step hn, if_neg (by rw [h]; exact Bool.false_ne_true), add_zero]

theorem rank_pos (h : m.owns v id = true) (hid : 1 ≤ id) : 1 ≤ m.rank v id := by
  have hbefore : 0 ≤ m.rank v (id - 1) := Int.natCast_nonneg _
  rw [rank_succ hid h]
  omega

/-- An object has a higher rank than those before it. -/
theorem rank_lt (hlt : id < j) (hid : 1 ≤ j) (h : m.owns v j = true) : m.rank v id < m.rank v j := by
  have hle : m.rank v id ≤ m.rank v (j - 1) :=
    Int.ofNat_le.mpr (List.Sublist.countP_le (List.range_sublist.mpr (by omega)))
  rw [rank_succ hid h]
  omega

theorem rank_inj (hid : 1 ≤ id) (hj : 1 ≤ j) (h : m.owns v id = true) (h' : m.owns v j = true)
    (hrank : m.rank v id = m.rank v j) : id = j := by
  rcases lt_trichotomy id j with hlt | heq | hgt
  · exact absurd hrank (rank_lt hlt hj h').ne
  · exact heq
  · exact absurd hrank (rank_lt hgt hid h).ne'

/-- The supplier finds in its own store what it finds in the one it shares. -/
theorem Mirrors.getByID (h : Mirrors ren v m p) (id : Int) :
    p.getByID v (m.localID v id) = (m.getByID v id).map (fun x => ren.withID x (m.localID v id)) := by
  unfold MemoryStore.getByID localID
  by_cases hown : m.owns v id = true
  · obtain ⟨x, hx, hs⟩ := items_of_owns hown
    rw [if_pos hown, h.found id x hx hs, hx]
    dsimp only
    rw [ren.supplierID_withID, if_pos hs, if_pos hs]
    rfl
  · have hzero : p.items 0 = none := by
      cases hk : p.items 0 with
      | none => rfl
      | some y =>
        obtain ⟨i, x, hx, hs, hrank⟩ := h.own 0 y hk
        have := rank_pos (owns_of_items hx hs) (h.positive i x hx)
        omega
    rw [if_neg hown, hzero]
    cases hx : m.items id with
    | none => rfl
    | some x =>
      have hs : e.supplierID x ≠ v := fun hs => hown (owns_of_items hx hs)
      dsimp only
      rw [if_neg hs]
      rfl

theorem Mirrors.get_follows (h : Mirrors ren v m p) (id : Int) : p.getByID v (m.localID v id) =
    (m.getByID v id).map (fun x => ren.withID x (m.localID v (e.id x))) := by
  rw [h.getByID id]
  cases hget : m.getByID v id with
  | error err => rfl
  | ok x =>
    obtain ⟨-, -, hid⟩ := getByID_ok hget
    dsimp only [Except.map]
    rw [hid]

/-- What `Update` does with an object that its supplier has got. -/
theorem update_eq (hget : m.getByID v id = .ok x) (hid : e.id y = id) (hs : e.supplierID y = v)
    (now : Time) :
    (m.update y now).1.items = Function.update m.items id (some (e.touch y now)) ∧
    (m.update y now).1.nextID = m.nextID ∧ (m.update y now).2 = .ok (e.touch y now) := by
  obtain ⟨hx, hsx, -⟩ := getByID_ok hget
  unfold update
  split
  next existing hexisting =>
    rw [hid, hx] at hexisting
    cases hexisting
    rw [if_pos (hsx.trans hs.symm)]
    refine ⟨?_, rfl, rfl⟩
    show Function.update m.items (e.id (e.touch y now)) _ = _
    rw [e.id_touch, hid]
  next hnone =>
    rw [hid, hx] at hnone
    cases hnone

theorem owns_update (hitems : m'.items = Function.update m.items id (some y)) (hx : m.items id = some x)
    (hsame : e.supplierID y = e.supplierID x) (j : Int) : m'.owns v j = m.owns v j := by
  unfold owns
  rw [hitems]
  by_cases hj : j = id
  · rw [hj, Function.update_self, hx]
    dsimp only
    rw [hsame]
  · rw [Function.update_of_ne hj]

/-- The supplier changes one of its objects in both stores. -/
theorem Mirrors.save (h : Mirrors ren v m p) (hget : m.getByID v id = .ok x) (hid : e.id y = id)
    (hs : e.supplierID y = v) (now : Time) :
    Mirrors ren v (m.update y now).1 (p.update (ren.withID y (m.localID v id)) now).1 ∧
    (p.update (ren.withID y (m.localID v id)) now).2 =
      .ok (ren.withID (e.touch y now) (m.localID v id)) ∧
    ∀ j, (m.update y now).1.localID v j = m.localID v j := by
  obtain ⟨hx, hsx, -⟩ := getByID_ok hget
  obtain ⟨hitems, hnext, hanswer⟩ := update_eq hget hid hs now
  have hown := owns_of_items hx hsx
  have hlocal : m.localID v id = m.rank v id := by rw [localID, if_pos hown]
  have hget' := h.getByID id
  rw [hget] at hget'
  obtain ⟨hitems', hnext', hanswer'⟩ := update_eq (y := ren.withID y (m.localID v id)) hget'
    (ren.id_withID _ _) ((ren.supplierID_withID _ _).trans hs) now
  have howns : ∀ j, (m.update y now).1.owns v j = m.owns v j :=
    owns_update hitems hx ((ren.supplierID_touch y now).trans (hs.trans hsx.symm))
  have hrank : ∀ j, (m.update y now).1.rank v j = m.rank v j := fun j => rank_congr (fun i _ => howns i)
  rw [hlocal] at hitems' hnext' hanswer' ⊢
  refine ⟨⟨hnext ▸ h.start, fun i z hz => ?_, ?_, fun i z hz hsz => ?_, fun k z hz => ?_⟩, ?_, fun j => ?_⟩
  · rw [hitems] at hz
    rcases Maps.update_some_cases hz with ⟨rfl, -⟩ | ⟨-, hz⟩
    · exact h.positive _ x hx
    · exact h.positive i z hz
  · rw [hnext', hnext, hrank]
    exact h.next
  · rw [hrank, hitems']
    rw [hitems] at hz
    rcases Maps.update_some_cases hz with ⟨rfl, rfl⟩ | ⟨hne, hz⟩
    · rw [Function.update_self, ren.touch_withID]
    · have hdiff : m.rank v i ≠ m.rank v id := fun hsame =>
        hne (rank_inj (h.positive i z hz) (h.positive id x hx) (owns_of_items hz hsz) hown hsame)
      rw [Function.update_of_ne hdiff]
      exact h.found i z hz hsz
  · rw [hitems'] at hz
    rcases Maps.update_some_cases hz with ⟨rfl, -⟩ | ⟨hne, hz⟩
    · exact ⟨id, e.touch y now, by rw [hitems, Function.update_self], (ren.supplierID_touch y now).trans hs,
        hrank id⟩
    · obtain ⟨i, w, hw, hsw, hi⟩ := h.own k z hz
      have hdiff : i ≠ id := by
        rintro rfl
        exact hne hi.symm
      exact ⟨i, w, by rw [hitems, Function.update_of_ne hdiff]; exact hw, hsw, (hrank i).trans hi⟩
  · rw [hanswer', ren.touch_withID]
  · rw [localID, localID, howns, hrank]

theorem items_create (m : MemoryStore e) (x : α) (now : Time) : (m.create x now).1.items =
    Function.update m.items m.nextID (some (e.stamp x m.nextID now)) := by
  show Function.update m.items (e.id (e.stamp x m.nextID now)) _ = _
  rw [e.id_stamp]

theorem items_create_self (m : MemoryStore e) (x : α) (now : Time) :
    (m.create x now).1.items m.nextID = some (e.stamp x m.nextID now) := by
  rw [items_create, Function.update_self]

theorem items_create_of_ne (m : MemoryStore e) (x : α) (now : Time) (hj : j ≠ m.nextID) :
    (m.create x now).1.items j = m.items j := by
  rw [items_create, Function.update_of_ne hj]

theorem owns_create_self (ren : Renaming e) (m : MemoryStore e) (x : α) (now : Time) (v : Int) :
    (m.create x now).1.owns v m.nextID = decide (e.supplierID x = v) := by
  unfold owns
  rw [items_create_self]
  dsimp only
  rw [ren.supplierID_stamp]

theorem owns_create_of_ne (m : MemoryStore e) (x : α) (now : Time) (hj : j ≠ m.nextID) :
    (m.create x now).1.owns v j = m.owns v j := by
  unfold owns
  rw [items_create_of_ne m x now hj]

theorem nextID_create (m : MemoryStore e) (x : α) (now : Time) :
    (m.create x now).1.nextID = m.nextID + 1 := rfl

theorem rank_create (m : MemoryStore e) (x : α) (now : Time) (hj : j < m.nextID) :
    (m.create x now).1.rank v j = m.rank v j :=
  rank_congr (fun _ hi => owns_create_of_ne m x now (by omega))

/-- The supplier makes an object in both stores. -/
theorem Mirrors.create (h : Mirrors ren v m p) (hs : e.supplierID x = v) (now : Time) :
    Mirrors ren v (m.create x now).1 (p.create x now).1 ∧
    (p.create x now).2 =
      ren.withID (m.create x now).2 ((m.create x now).1.localID v (e.id (m.create x now).2)) := by
  have hown : (m.create x now).1.owns v m.nextID = true := by
    rw [owns_create_self ren]
    exact decide_eq_true hs
  have hlast : (m.create x now).1.rank v m.nextID = p.nextID := by
    rw [rank_succ h.start hown, rank_create m x now (by omega), h.next]
  refine ⟨⟨?_, fun i z hz => ?_, ?_, fun i z hz hsz => ?_, fun k z hz => ?_⟩, ?_⟩
  · rw [nextID_create]
    have := h.start
    omega
  · by_cases hi : i = m.nextID
    · rw [hi]
      exact h.start
    · rw [items_create_of_ne m x now hi] at hz
      exact h.positive i z hz
  · rw [nextID_create, nextID_create, Int.add_sub_cancel, hlast]
  · by_cases hi : i = m.nextID
    · subst hi
      rw [items_create_self] at hz
      cases hz
      rw [hlast, items_create_self, ren.stamp_eq x m.nextID p.nextID now]
    · rw [items_create_of_ne m x now hi] at hz
      have hlt := m.drawn i z hz
      rw [rank_create m x now hlt]
      have hfound := h.found i z hz hsz
      have hbefore := p.drawn _ _ hfound
      rw [items_create_of_ne p x now (by omega)]
      exact hfound
  · by_cases hk : k = p.nextID
    · subst hk
      exact ⟨m.nextID, _, items_create_self m x now, (ren.supplierID_stamp x _ now).trans hs, hlast⟩
    · rw [items_create_of_ne p x now hk] at hz
      obtain ⟨i, w, hw, hsw, hi⟩ := h.own k z hz
      have hlt := m.drawn i w hw
      exact ⟨i, w, by rw [items_create_of_ne m x now (by omega)]; exact hw, hsw,
        (rank_create m x now hlt).trans hi⟩
  · show e.stamp x p.nextID now = ren.withID (e.stamp x m.nextID now) _
    rw [show e.id (m.create x now).2 = m.nextID from e.id_stamp x m.nextID now, localID, if_pos hown, hlast]
    exact ren.stamp_eq x m.nextID p.nextID now

/-- What is there for the supplier, when another has made or changed an object of its own. -/
theorem Mirrors.other (h : Mirrors ren v m p) (hstart : 1 ≤ m'.nextID)
    (hpositive : ∀ i z, m'.items i = some z → 1 ≤ i)
    (howns : ∀ i, m'.owns v i = m.owns v i) (hnext : m'.rank v (m'.nextID - 1) = m.rank v (m.nextID - 1))
    (hitems : ∀ i, m.owns v i = true → m'.items i = m.items i) : Mirrors ren v m' p := by
  have hrank : ∀ i, m'.rank v i = m.rank v i := fun i => rank_congr (fun j _ => howns j)
  refine ⟨hstart, hpositive, hnext ▸ h.next, fun i z hz hsz => ?_, fun k z hz => ?_⟩
  · have hown := owns_of_items hz hsz
    rw [howns] at hown
    rw [hrank]
    exact h.found i z ((hitems i hown).symm.trans hz) hsz
  · obtain ⟨i, w, hw, hsw, hi⟩ := h.own k z hz
    exact ⟨i, w, (hitems i (owns_of_items hw hsw)).trans hw, hsw, (hrank i).trans hi⟩

theorem Mirrors.createOther (h : Mirrors ren v m p) (hs : e.supplierID x ≠ v) (now : Time) :
    Mirrors ren v (m.create x now).1 p := by
  have hfree : m.owns v m.nextID = false := by
    unfold owns
    cases hx : m.items m.nextID with
    | none => rfl
    | some y => exact absurd (m.drawn _ y hx) (lt_irrefl _)
  have hnew : (m.create x now).1.owns v m.nextID = false := by
    rw [owns_create_self ren]
    exact decide_eq_false hs
  refine h.other ?_ (fun i z hz => ?_) (fun i => ?_) ?_ (fun i hi => ?_)
  · rw [nextID_create]
    have := h.start
    omega
  · by_cases hi : i = m.nextID
    · rw [hi]
      exact h.start
    · rw [items_create_of_ne m x now hi] at hz
      exact h.positive i z hz
  · by_cases hi : i = m.nextID
    · rw [hi, hnew, hfree]
    · exact owns_create_of_ne m x now hi
  · rw [nextID_create, Int.add_sub_cancel, rank_skip h.start hnew, rank_create m x now (by omega)]
  · have hne : i ≠ m.nextID := by
      rintro rfl
      rw [hfree] at hi
      cases hi
    exact items_create_of_ne m x now hne

theorem Mirrors.saveOther (h : Mirrors ren v m p) (hget : m.getByID u id = .ok x) (hid : e.id y = id)
    (hs : e.supplierID y = u) (hu : u ≠ v) (now : Time) : Mirrors ren v (m.update y now).1 p := by
  obtain ⟨hx, hsx, -⟩ := getByID_ok hget
  obtain ⟨hitems, hnext, -⟩ := update_eq hget hid hs now
  have howns : ∀ j, (m.update y now).1.owns v j = m.owns v j :=
    owns_update hitems hx ((ren.supplierID_touch y now).trans (hs.trans hsx.symm))
  refine h.other (hnext ▸ h.start) (fun i z hz => ?_) howns ?_ (fun i hi => ?_)
  · rw [hitems] at hz
    rcases Maps.update_some_cases hz with ⟨rfl, -⟩ | ⟨-, hz⟩
    · exact h.positive _ x hx
    · exact h.positive i z hz
  · rw [hnext, rank_congr (fun j _ => howns j)]
  · have hne : i ≠ id := by
      rintro rfl
      obtain ⟨z, hz, hsz⟩ := items_of_owns hi
      rw [hx] at hz
      cases hz
      exact hu (hsx.symm.trans hsz)
    rw [hitems, Function.update_of_ne hne]

theorem Mirrors.new (ren : Renaming e) (v : Int) :
    Mirrors ren v (MemoryStore.new : MemoryStore e) .new where
  start := le_refl _
  positive _ _ h := by cases h
  next := rfl
  found _ _ h := by cases h
  own _ _ h := by cases h

/-- A call of a service in both stores: its object is the same under another id, and so is an error. -/
def Follows (ren : Renaming e) (v : Int) (r r' : MemoryStore e × Except RepoError α) : Prop :=
  Mirrors ren v r.1 r'.1 ∧ r'.2 = r.2.map (fun x => ren.withID x (r.1.localID v (e.id x)))

/-- A service gets an object of its caller, and saves it if it may. -/
def change (m : MemoryStore e) (v id : Int) (allowed : α → Bool) (refusal : RepoError) (f : α → α)
    (now : Time) : MemoryStore e × Except RepoError α :=
  match m.getByID v id with
  | .error err => (m, .error err)
  | .ok x => if allowed x then m.update (f x) now else (m, .error refusal)

theorem Mirrors.change (h : Mirrors ren v m p) (allowed : α → Bool) (refusal : RepoError) (f : α → α)
    (hallowed : ∀ x n, allowed (ren.withID x n) = allowed x) (hid : ∀ x, e.id (f x) = e.id x)
    (hs : ∀ x, e.supplierID (f x) = e.supplierID x)
    (hf : ∀ x n, f (ren.withID x n) = ren.withID (f x) n) (id : Int) (now : Time) :
    Follows ren v (m.change v id allowed refusal f now)
      (p.change v (m.localID v id) allowed refusal f now) := by
  unfold MemoryStore.change
  rw [h.getByID id]
  cases hget : m.getByID v id with
  | error err => exact ⟨h, rfl⟩
  | ok x =>
    obtain ⟨-, hsx, hidx⟩ := getByID_ok hget
    dsimp only [Except.map]
    rw [hallowed]
    split
    next =>
      obtain ⟨hmirrors, hanswer, hlocal⟩ := h.save hget ((hid x).trans hidx) ((hs x).trans hsx) now
      obtain ⟨-, -, hsaved⟩ := update_eq hget ((hid x).trans hidx) ((hs x).trans hsx) now
      rw [hf]
      refine ⟨hmirrors, ?_⟩
      rw [hanswer, hsaved]
      dsimp only [Except.map]
      rw [hlocal, e.id_touch, hid, hidx]
    next => exact ⟨h, rfl⟩

theorem Mirrors.changeOther (h : Mirrors ren v m p) (allowed : α → Bool) (refusal : RepoError) (f : α → α)
    (hid : ∀ x, e.id (f x) = e.id x)
    (hs : ∀ x, e.supplierID (f x) = e.supplierID x) (hu : u ≠ v) (id : Int) (now : Time) :
    Mirrors ren v (m.change u id allowed refusal f now).1 p := by
  unfold MemoryStore.change
  cases hget : m.getByID u id with
  | error err => exact h
  | ok x =>
    obtain ⟨-, hsx, hidx⟩ := getByID_ok hget
    dsimp only
    split
    next => exact h.saveOther hget ((hid x).trans hidx) ((hs x).trans hsx) hu now
    next => exact h

theorem Mirrors.createFollows (h : Mirrors ren v m p) (hs : e.supplierID x = v) (now : Time) :
    Follows ren v ((m.create x now).1, .ok (m.create x now).2)
      ((p.create x now).1, .ok (p.create x now).2) := by
  obtain ⟨hmirrors, hanswer⟩ := h.create hs now
  exact ⟨hmirrors, congrArg Except.ok hanswer⟩

end MemoryStore

end SupplyPlatform.Catalog
