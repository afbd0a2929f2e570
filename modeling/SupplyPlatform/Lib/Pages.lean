import Mathlib.Data.List.Nodup
import Mathlib.Data.List.Sort
import Mathlib.Order.Defs.LinearOrder
import Mathlib.Tactic.Common

namespace Pages

variable {α κ : Type*}

/-- LIMIT and OFFSET: the page of `size` rows after `i` others. -/
def page (size i : Nat) (l : List α) : List α := (l.drop (i * size)).take size

def pageCount (size total : Nat) : Nat := (total + size - 1) / size

/-- What the calls for all pages give, each from an order of its own. -/
def readAll (size total : Nat) (orders : Nat → List α) : List α :=
  (List.range (pageCount size total)).flatMap fun i => page size i (orders i)

theorem lt_pageCount_iff {size total i : Nat} (hsize : 0 < size) :
    i < pageCount size total ↔ i * size < total := by
  unfold pageCount
  rw [Nat.lt_iff_add_one_le, Nat.le_div_iff_mul_le hsize, Nat.add_mul, Nat.one_mul]
  omega

theorem take_succ_mul (size i : Nat) (l : List α) :
    l.take ((i + 1) * size) = l.take (i * size) ++ page size i l := by
  rw [Nat.add_mul, Nat.one_mul, List.take_add]
  rfl

theorem mem_page {size i j : Nat} {l : List α} {x : α} (hfrom : i * size ≤ j) (hto : j < i * size + size)
    (hx : l[j]? = some x) : x ∈ page size i l := by
  refine List.mem_of_getElem? (i := j - i * size) ?_
  rw [page, List.getElem?_take_of_lt (by omega), List.getElem?_drop, Nat.add_sub_cancel' hfrom]
  exact hx

theorem mem_readAll {size total : Nat} {orders : Nat → List α} {x : α}
    (h : x ∈ readAll size total orders) : ∃ i, x ∈ orders i := by
  obtain ⟨i, _, hx⟩ := List.mem_flatMap.mp h
  exact ⟨i, List.mem_of_mem_drop (List.mem_of_mem_take hx)⟩

theorem map_readAll {β : Type*} (f : α → β) (size total : Nat) (orders : Nat → List α) :
    (readAll size total orders).map f =
      (List.range (pageCount size total)).flatMap fun i => (page size i (orders i)).map f :=
  List.map_flatMap

theorem exists_page {size : Nat} {l : List α} {x : α} (hsize : 0 < size) (h : x ∈ l) :
    ∃ i, x ∈ page size i l := by
  obtain ⟨j, hj, rfl⟩ := List.getElem_of_mem h
  have hdiv := Nat.div_add_mod' j size
  have hmod := Nat.mod_lt j hsize
  exact ⟨j / size, mem_page (j := j) (by omega) (by omega) (List.getElem?_eq_getElem hj)⟩

/-- Rows of a list without repetition, met with the same keys, are the rows of the list. -/
theorem perm_of_map_perm {key : α → κ} {rows read : List α} (hkeys : (rows.map key).Nodup)
    (hread : ∀ a ∈ read, a ∈ rows) (h : (read.map key).Perm (rows.map key)) : read.Perm rows := by
  have hreadNodup : read.Nodup := (h.nodup_iff.mpr hkeys).of_map key
  refine (List.perm_ext_iff_of_nodup hreadNodup (hkeys.of_map key)).mpr fun a => ⟨hread a, fun ha => ?_⟩
  obtain ⟨b, hb, hkey⟩ := List.mem_map.mp (h.mem_iff.mpr (List.mem_map_of_mem ha))
  rwa [← List.inj_on_of_nodup_map hkeys (hread b hb) ha hkey]

variable [LinearOrder κ]

def Ordered (key : α → κ) (rows l : List α) : Prop := l.Perm rows ∧ l.Pairwise fun a b => key a ≤ key b

/-- Rows of one key stand on both sides of the boundary before page `i`. -/
def Straddles (key : α → κ) (size : Nat) (rows : List α) (k : κ) (i : Nat) : Prop :=
  rows.countP (key · < k) < i * size ∧ i * size < rows.countP (key · ≤ k)

instance (key : α → κ) (size : Nat) (rows : List α) (k : κ) (i : Nat) :
    Decidable (Straddles key size rows k i) :=
  inferInstanceAs (Decidable (_ ∧ _))

theorem exists_ordered (key : α → κ) (rows : List α) : ∃ l, Ordered key rows l := by
  have : Std.Total fun a b : α => key a ≤ key b := ⟨fun a b => le_total (key a) (key b)⟩
  have : IsTrans α fun a b => key a ≤ key b := ⟨fun _ _ _ => le_trans⟩
  exact ⟨rows.insertionSort fun a b => key a ≤ key b, List.perm_insertionSort _ rows,
    List.pairwise_insertionSort _ rows⟩

/-- The rows before a key are the first ones. -/
theorem take_countP_lt {key : α → κ} {l : List α} (h : l.Pairwise fun a b => key a ≤ key b) (k : κ) :
    l.take (l.countP (key · < k)) = l.filter (key · < k) := by
  induction l with
  | nil => rfl
  | cons a l ih =>
    obtain ⟨ha, hl⟩ := List.pairwise_cons.mp h
    by_cases hk : key a < k
    · rw [List.countP_cons_of_pos (by simpa using hk), List.filter_cons_of_pos (by simpa using hk),
        List.take_succ_cons, ih hl]
    · have hnone : ∀ b ∈ a :: l, ¬(decide (key b < k) = true) := by
        intro b hb
        rw [decide_eq_true_eq]
        rcases List.mem_cons.mp hb with rfl | hb
        · exact hk
        · exact fun hlt => hk ((ha b hb).trans_lt hlt)
      rw [List.countP_eq_zero.mpr hnone, List.filter_eq_nil_iff.mpr hnone, List.take_zero]

theorem countP_lt_le {key : α → κ} {l : List α} (h : l.Pairwise fun a b => key a ≤ key b) {i : Nat}
    (hi : i < l.length) : l.countP (key · < key l[i]) ≤ i := by
  by_contra hlt
  have hmem : l[i] ∈ l.take (l.countP (key · < key l[i])) :=
    List.mem_take_iff_getElem.mpr ⟨i, by omega, rfl⟩
  rw [take_countP_lt h] at hmem
  exact lt_irrefl _ (of_decide_eq_true (List.mem_filter.mp hmem).2)

theorem lt_countP_le {key : α → κ} {l : List α} (h : l.Pairwise fun a b => key a ≤ key b) {i : Nat}
    (hi : i < l.length) : i < l.countP (key · ≤ key l[i]) := by
  have hsub : (l.take (i + 1)).countP (key · ≤ key l[i]) = (l.take (i + 1)).length := by
    rw [List.countP_eq_length]
    intro a ha
    obtain ⟨j, hj, rfl⟩ := List.mem_take_iff_getElem.mp ha
    rw [decide_eq_true_eq]
    rcases Nat.lt_or_ge j i with hlt | hge
    · exact List.pairwise_iff_getElem.mp h j i _ hi hlt
    · have heq : j = i := by omega
      subst heq
      exact le_refl _
  have hle := (List.take_sublist (i + 1) l).countP_le (p := (key · ≤ key l[i]))
  rw [hsub, List.length_take] at hle
  omega

/-- A boundary between two keys cuts off the same rows in every order. -/
theorem take_perm {key : α → κ} {size i : Nat} {rows l l' : List α} (hl : Ordered key rows l)
    (hl' : Ordered key rows l') (h : ∀ k, ¬Straddles key size rows k i) :
    (l.take (i * size)).Perm (l'.take (i * size)) := by
  rcases Nat.lt_or_ge (i * size) l.length with hlt | hge
  · have hbelow := countP_lt_le hl.2 hlt
    have habove := lt_countP_le hl.2 hlt
    rw [hl.1.countP_eq] at hbelow habove
    have hcut : i * size = rows.countP (key · < key l[i * size]) := by
      have hnot := h (key l[i * size])
      unfold Straddles at hnot
      omega
    have hcutL := take_countP_lt hl.2 (key l[i * size])
    have hcutR := take_countP_lt hl'.2 (key l[i * size])
    rw [hl.1.countP_eq, ← hcut] at hcutL
    rw [hl'.1.countP_eq, ← hcut] at hcutR
    rw [hcutL, hcutR]
    exact (hl.1.trans hl'.1.symm).filter _
  · have hlen : l.length = l'.length := (hl.1.trans hl'.1.symm).length_eq
    rw [List.take_of_length_le hge, List.take_of_length_le (by omega)]
    exact hl.1.trans hl'.1.symm

/-- Where no boundary falls within a key, the pages are those of one order, whatever the calls' orders. -/
theorem readAll_perm {key : α → κ} {size : Nat} {rows : List α} {orders : Nat → List α} (hsize : 0 < size)
    (horders : ∀ i, Ordered key rows (orders i)) (h : ∀ k i, ¬Straddles key size rows k i) :
    (readAll size rows.length orders).Perm rows := by
  obtain ⟨l, hl⟩ := exists_ordered key rows
  have hpages : ∀ n, ((List.range n).flatMap fun i => page size i (orders i)).Perm (l.take (n * size)) := by
    intro n
    induction n with
    | zero => simp
    | succ n ih =>
      rw [List.range_succ, List.flatMap_append, List.flatMap_singleton]
      refine (ih.append_right _).trans ?_
      refine ((take_perm hl (horders n) fun k => h k n).append_right _).trans ?_
      rw [← take_succ_mul]
      exact take_perm (horders n) hl fun k => h k (n + 1)
  refine (hpages _).trans ?_
  have hall : l.length ≤ pageCount size rows.length * size := by
    have hnot := mt (lt_pageCount_iff hsize).mpr (Nat.lt_irrefl (pageCount size rows.length))
    have hlen := hl.1.length_eq
    omega
  rw [List.take_of_length_le hall]
  exact hl.1

/-- Neighbours of one key may come the other way round. -/
theorem Ordered.swap {key : α → κ} {rows before after : List α} {x y : α}
    (h : Ordered key rows (before ++ x :: y :: after)) (hkey : key y ≤ key x) :
    Ordered key rows (before ++ y :: x :: after) := by
  obtain ⟨hperm, hsorted⟩ := h
  refine ⟨((List.Perm.swap x y after).append_left before).trans hperm, ?_⟩
  obtain ⟨hbefore, hrest, hacross⟩ := List.pairwise_append.mp hsorted
  obtain ⟨hx, htail⟩ := List.pairwise_cons.mp hrest
  obtain ⟨hy, hafter⟩ := List.pairwise_cons.mp htail
  refine List.pairwise_append.mpr ⟨hbefore, ?_, ?_⟩
  · refine List.pairwise_cons.mpr ⟨?_, List.pairwise_cons.mpr ⟨?_, hafter⟩⟩
    · intro b hb
      rcases List.mem_cons.mp hb with rfl | hb
      · exact hkey
      · exact hy b hb
    · exact fun b hb => hx b (List.mem_cons_of_mem _ hb)
  · intro a ha b hb
    refine hacross a ha b ?_
    rcases List.mem_cons.mp hb with rfl | hb
    · exact List.mem_cons_of_mem _ List.mem_cons_self
    · rcases List.mem_cons.mp hb with rfl | hb
      · exact List.mem_cons_self
      · exact List.mem_cons_of_mem _ (List.mem_cons_of_mem _ hb)

/-- The two rows at a boundary that falls within a key have that key. -/
theorem neighbours_of_straddle {key : α → κ} {rows before after : List α} {x y : α} {k : κ}
    (h : Ordered key rows (before ++ x :: y :: after))
    (hlt : rows.countP (key · < k) ≤ before.length) (hle : before.length + 1 < rows.countP (key · ≤ k)) :
    key x = k ∧ key y = k := by
  obtain ⟨hperm, hsorted⟩ := h
  rw [← hperm.countP_eq] at hlt hle
  obtain ⟨hbefore, hrest, hacross⟩ := List.pairwise_append.mp hsorted
  obtain ⟨hx, htail⟩ := List.pairwise_cons.mp hrest
  obtain ⟨hy, hafter⟩ := List.pairwise_cons.mp htail
  have hxy := hx y List.mem_cons_self
  have hge : k ≤ key x := by
    by_contra hnot
    have hall : before.countP (key · < k) = before.length :=
      List.countP_eq_length.mpr fun a ha =>
        decide_eq_true ((hacross a ha x List.mem_cons_self).trans_lt (not_le.mp hnot))
    rw [List.countP_append, List.countP_cons_of_pos (by simpa using hnot), hall] at hlt
    omega
  have hle' : key y ≤ k := by
    by_contra hnot
    have hnone : (y :: after).countP (key · ≤ k) = 0 := by
      refine List.countP_eq_zero.mpr fun b hb => ?_
      rw [decide_eq_true_eq]
      rcases List.mem_cons.mp hb with rfl | hb
      · exact hnot
      · exact fun hbk => hnot ((hy b hb).trans hbk)
    have hbound := List.countP_le_length (p := (key · ≤ k)) (l := before)
    rw [List.countP_append, List.countP_cons, hnone] at hle
    split at hle <;> omega
  exact ⟨le_antisymm (hxy.trans hle') hge, le_antisymm hle' (hge.trans hxy)⟩

theorem not_nodup_readAll {size total i j : Nat} {orders : Nat → List α} {x : α} (hij : i < j)
    (hj : j < pageCount size total) (hxi : x ∈ page size i (orders i)) (hxj : x ∈ page size j (orders j)) :
    ¬(readAll size total orders).Nodup := by
  intro hnodup
  have hdisjoint := (List.nodup_flatMap.mp hnodup).2
  have hpair := List.pairwise_iff_getElem.mp hdisjoint i j (by rw [List.length_range]; omega)
    (by rw [List.length_range]; exact hj) hij
  rw [List.getElem_range, List.getElem_range] at hpair
  exact hpair hxi hxj

theorem split_at_boundary {l : List α} {b : Nat} (h : b + 1 < l.length) :
    l = l.take b ++ l[b] :: l[b + 1] :: l.drop (b + 2) := by
  rw [List.getElem_cons_drop, List.getElem_cons_drop, List.take_append_drop]

/-- Where a boundary falls within a key, its two neighbours may change places between the calls, and
one of them comes twice. -/
theorem exists_repeated {key : α → κ} {size i : Nat} {rows : List α} {k : κ} (hsize : 0 < size)
    (h : Straddles key size rows k i) :
    ∃ orders, (∀ j, Ordered key rows (orders j)) ∧ ¬(readAll size rows.length orders).Nodup := by
  obtain ⟨hlt, hle⟩ := h
  obtain ⟨l, hl⟩ := exists_ordered key rows
  have hlen := hl.1.length_eq
  have hrows := List.countP_le_length (p := (key · ≤ k)) (l := rows)
  cases i with
  | zero => omega
  | succ i =>
    obtain ⟨b, hb⟩ : ∃ b, (i + 1) * size = b + 1 := ⟨(i + 1) * size - 1, by omega⟩
    have hstart : i * size + size = b + 1 := by rw [← hb, Nat.add_mul, Nat.one_mul]
    rw [hb] at hlt hle
    have hlast : b + 1 < l.length := by omega
    have hsplit := split_at_boundary hlast
    have htake : (l.take b).length = b := by
      rw [List.length_take]
      omega
    have hl' := hl
    rw [hsplit] at hl'
    obtain ⟨hx, hy⟩ := neighbours_of_straddle (k := k) hl' (by omega) (by omega)
    have hswap := hl'.swap (hy.trans hx.symm).le
    refine ⟨fun j => if j = i + 1 then l.take b ++ l[b + 1] :: l[b] :: l.drop (b + 2) else l, ?_, ?_⟩
    · intro j
      by_cases hj : j = i + 1
      · simp only [if_pos hj]
        exact hswap
      · simp only [if_neg hj]
        exact hl
    · have hpage : i + 1 < pageCount size rows.length := (lt_pageCount_iff hsize).mpr (by omega)
      refine not_nodup_readAll (x := l[b]) (Nat.lt_add_one i) hpage ?_ ?_
      · rw [if_neg (by omega)]
        exact mem_page (j := b) (by omega) (by omega) (List.getElem?_eq_getElem _)
      · rw [if_pos rfl]
        refine mem_page (j := b + 1) (by omega) (by omega) ?_
        rw [List.getElem?_append_right (by omega), htake]
        simp

/-- All rows come once, whatever order each call is given, if and only if no page ends within a key. -/
theorem read_once_iff (key : α → κ) {size : Nat} {rows : List α} (hsize : 0 < size) (hrows : rows.Nodup) :
    (∀ orders, (∀ i, Ordered key rows (orders i)) → (readAll size rows.length orders).Perm rows) ↔
      ∀ k i, ¬Straddles key size rows k i := by
  constructor
  · intro h k i hstraddle
    obtain ⟨orders, horders, hrepeated⟩ := exists_repeated hsize hstraddle
    exact hrepeated ((h orders horders).nodup_iff.mpr hrows)
  · exact fun h orders horders => readAll_perm hsize horders h

theorem straddles_unit {size i : Nat} {rows : List α} {k : Unit} :
    Straddles (fun _ => ()) size rows k i ↔ 0 < i * size ∧ i * size < rows.length := by
  unfold Straddles
  simp

/-- Calls that may be given any order at all read each row once only from one page. -/
theorem read_once_any_order_iff {size : Nat} {rows : List α} (hsize : 0 < size) (hrows : rows.Nodup) :
    (∀ orders : Nat → List α, (∀ i, (orders i).Perm rows) → (readAll size rows.length orders).Perm rows) ↔
      rows.length ≤ size := by
  have hkeyed := read_once_iff (fun _ : α => ()) hsize hrows
  have hordered : ∀ l, Ordered (fun _ : α => ()) rows l ↔ l.Perm rows := fun l =>
    and_iff_left (List.pairwise_of_forall fun _ _ => le_refl ())
  simp only [hordered, straddles_unit] at hkeyed
  rw [hkeyed]
  constructor
  · intro h
    have hone := h () 1
    omega
  · rintro hle - i ⟨hpos, hlt⟩
    have hmul : 1 * size ≤ i * size := Nat.mul_le_mul_right size (Nat.pos_of_mul_pos_right hpos)
    omega

section Counts

variable {page rest l : List α} {inside p q : α → Bool}

theorem countP_eq_add (p q : α → Bool) (l : List α) :
    l.countP p = l.countP (fun a => p a && q a) + l.countP (fun a => p a && !q a) := by
  induction l with
  | nil => rfl
  | cons a l ih =>
    rw [List.countP_cons, List.countP_cons, List.countP_cons, ih]
    cases p a <;> cases q a <;> simp <;> omega

/-- Where no fewer of some kind also have a property, all of the kind have it. -/
theorem forall_of_countP_le (h : l.countP p ≤ l.countP (fun a => p a && q a)) :
    ∀ a ∈ l, p a = true → q a = true := by
  intro a ha hp
  by_contra hq
  have hnot : q a = false := by simpa using hq
  have hpos : 0 < l.countP (fun a => p a && !q a) := List.countP_pos_iff.mpr ⟨a, ha, by simp [hp, hnot]⟩
  have hsplit := countP_eq_add p q l
  omega

/-- A page counts what all that is inside counts exactly when it counts nothing outside and misses nothing
inside, if it does not do both. -/
theorem countP_page_iff (hsep : (∀ a ∈ page, inside a = true) ∨ (∀ a ∈ rest, inside a = false)) :
    page.countP p = ((page ++ rest).filter inside).countP p ↔
      (∀ a ∈ page, p a = true → inside a = true) ∧ (∀ a ∈ rest, inside a = true → p a = false) := by
  have houtside : page.countP (fun a => p a && !inside a) = 0 ↔ ∀ a ∈ page, p a = true → inside a = true := by
    simp [List.countP_eq_zero]
  have hmissed : rest.countP (fun a => p a && inside a) = 0 ↔ ∀ a ∈ rest, inside a = true → p a = false := by
    rw [List.countP_eq_zero]
    refine forall_congr' (fun a => imp_congr_right (fun _ => ?_))
    cases p a <;> cases inside a <;> simp
  have hone : page.countP (fun a => p a && !inside a) = 0 ∨ rest.countP (fun a => p a && inside a) = 0 := by
    rcases hsep with hpage | hrest
    · exact .inl (houtside.mpr (fun a ha _ => hpage a ha))
    · exact .inr (hmissed.mpr (fun a ha hin => absurd hin (by simp [hrest a ha])))
  have hsplit := countP_eq_add p inside page
  rw [List.countP_filter, List.countP_append, ← houtside, ← hmissed]
  omega

end Counts

end Pages
