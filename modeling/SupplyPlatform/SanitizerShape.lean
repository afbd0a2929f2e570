import SupplyPlatform.SanitizerMap

namespace SupplyPlatform.Sanitizer

variable {σ β ι τ : Type}

section

variable {n : Nat} {see see' : Nat → Option (Object σ)} {v : Value σ} {t t' : Tree σ}

attribute [local simp] Reads

theorem reads_nil_iff : Reads n see .nil t ↔ t = .nil := by
  cases n <;> cases t <;> simp [Reads]

theorem reads_other_iff {x : σ} : Reads n see (.other x) t ↔ t = .other x := by
  cases n <;> cases t <;> simp [Reads, eq_comm]

theorem reads_str_iff {text : Text} : Reads n see (.str text) t ↔ t = .str text := by
  cases n <;> cases t <;> simp [Reads, eq_comm]

theorem reads_strs_iff {ref : Nat} :
    Reads n see (.strs ref) t ↔ ∃ items, see ref = some (.strs items) ∧ t = .strs items := by
  cases n <;> cases t <;> simp [Reads]

theorem reads_slice_iff {ref : Nat} : Reads n see (.slice ref) t ↔ ∃ m items ts, n = m + 1 ∧
    see ref = some (.slice items) ∧ List.Forall₂ (Reads m see) items ts ∧ t = .slice ts := by
  cases n <;> cases t <;> simp [Reads]

theorem reads_map_iff {ref : Nat} : Reads n see (.map ref) t ↔ ∃ m entries ts, n = m + 1 ∧
    see ref = some (.map entries) ∧ (entries.map Prod.fst).Nodup ∧
    List.Forall₂ (fun e t => e.1 = t.1 ∧ Reads m see e.2 t.2) entries ts ∧ t = .map ts := by
  cases n <;> cases t <;> simp [Reads]

theorem reads_mono (h : ∀ a o, see a = some o → see' a = some o) (hv : Reads n see v t) :
    Reads n see' v t := by
  induction n using Nat.strong_induction_on generalizing v t with
  | h n ih =>
    cases v with
    | nil => exact reads_nil_iff.mpr (reads_nil_iff.mp hv)
    | other x => exact reads_other_iff.mpr (reads_other_iff.mp hv)
    | str text => exact reads_str_iff.mpr (reads_str_iff.mp hv)
    | strs ref =>
      rw [reads_strs_iff] at hv
      obtain ⟨items, hget, ht⟩ := hv
      exact reads_strs_iff.mpr ⟨items, h _ _ hget, ht⟩
    | slice ref =>
      rw [reads_slice_iff] at hv
      obtain ⟨m, items, ts, rfl, hget, hitems, ht⟩ := hv
      have hitems' := hitems.imp (fun _ _ hv => ih m (Nat.lt_succ_self m) hv)
      exact reads_slice_iff.mpr ⟨m, items, ts, rfl, h _ _ hget, hitems', ht⟩
    | map ref =>
      rw [reads_map_iff] at hv
      obtain ⟨m, entries, ts, rfl, hget, hkeys, hentries, ht⟩ := hv
      have hentries' := hentries.imp (fun _ _ he => And.intro he.1 (ih m (Nat.lt_succ_self m) he.2))
      exact reads_map_iff.mpr ⟨m, entries, ts, rfl, h _ _ hget, hkeys, hentries', ht⟩

/-- A value is read in one way only. -/
theorem reads_unique (h : Reads n see v t) (h' : Reads n see v t') : t = t' := by
  induction n using Nat.strong_induction_on generalizing v t t' with
  | h n ih =>
    cases v with
    | nil => rw [reads_nil_iff.mp h, reads_nil_iff.mp h']
    | other x => rw [reads_other_iff.mp h, reads_other_iff.mp h']
    | str text => rw [reads_str_iff.mp h, reads_str_iff.mp h']
    | strs ref =>
      rw [reads_strs_iff] at h
      obtain ⟨items, hget, rfl⟩ := h
      rw [reads_strs_iff] at h'
      obtain ⟨items', hget', rfl⟩ := h'
      rw [hget] at hget'
      cases hget'
      rfl
    | slice ref =>
      rw [reads_slice_iff] at h
      obtain ⟨m, items, ts, rfl, hget, hitems, rfl⟩ := h
      rw [reads_slice_iff] at h'
      obtain ⟨_, items', ts', hm, hget', hitems', rfl⟩ := h'
      obtain rfl := Nat.succ.inj hm
      rw [hget] at hget'
      cases hget'
      have hunique : Relator.RightUnique (Reads m see) := fun _ _ _ hv hv' => ih m (Nat.lt_succ_self m) hv hv'
      rw [hunique.forall₂ hitems hitems']
    | map ref =>
      rw [reads_map_iff] at h
      obtain ⟨m, entries, ts, rfl, hget, -, hentries, rfl⟩ := h
      rw [reads_map_iff] at h'
      obtain ⟨_, entries', ts', hm, hget', -, hentries', rfl⟩ := h'
      obtain rfl := Nat.succ.inj hm
      rw [hget] at hget'
      cases hget'
      have hunique : Relator.RightUnique (fun (e : String × Value σ) (t : String × Tree σ) =>
          e.1 = t.1 ∧ Reads m see e.2 t.2) := by
        intro e t t' he he'
        exact Prod.ext (he.1.symm.trans he'.1) (ih m (Nat.lt_succ_self m) he.2 he'.2)
      rw [hunique.forall₂ hentries hentries']

end

/-- A heap without the objects from `low` to before `high`. -/
def seen (low high : Nat) (h : Heap σ) (a : Nat) : Option (Object σ) :=
  if low ≤ a ∧ a < high then none else h[a]?

theorem seen_mono {low high high' a : Nat} {h : Heap σ} {o : Object σ} (hle : high' ≤ high)
    (hseen : seen low high h a = some o) : seen low high' h a = some o := by
  unfold seen at hseen ⊢
  split at hseen
  next => cases hseen
  next hnot => rw [if_neg (fun hin => hnot ⟨hin.1, by omega⟩)]; exact hseen

theorem getElem?_of_isPrefix {h h' : Heap σ} {a : Nat} {o : Object σ} (hpre : h <+: h')
    (hget : h[a]? = some o) : h'[a]? = some o := by
  obtain ⟨more, rfl⟩ := hpre
  exact (List.getElem?_append_left (List.getElem?_eq_some_iff.mp hget).1).trans hget

/-- What is read of objects below `low` is read of them when the heap has grown. -/
theorem seen_input {low a : Nat} {h h' : Heap σ} {o : Object σ} (hpre : h <+: h')
    (hseen : seen low h.length h a = some o) : seen low h'.length h' a = some o := by
  unfold seen at hseen ⊢
  split at hseen
  next => cases hseen
  next hnot =>
    obtain ⟨hlt, -⟩ := List.getElem?_eq_some_iff.mp hseen
    rw [if_neg (fun hin => hnot ⟨hin.1, hlt⟩)]
    exact getElem?_of_isPrefix hpre hseen

/-- What is read behind the object that is being filled does not change when that is written to and more
objects are made. -/
theorem seen_behind {low a : Nat} {h rest rest' : Heap σ} {o o' x : Object σ} (hlow : low ≤ h.length)
    (hpre : rest <+: rest') (hseen : seen low (h.length + 1) (h ++ o :: rest) a = some x) :
    seen low (h.length + 1) (h ++ o' :: rest') a = some x := by
  unfold seen at hseen ⊢
  split at hseen
  next => cases hseen
  next hnot =>
    rw [if_neg hnot]
    rcases Nat.lt_trichotomy a h.length with hlt | heq | hgt
    · rw [List.getElem?_append_left hlt] at hseen ⊢
      exact hseen
    · exact absurd ⟨by omega, by omega⟩ hnot
    · obtain ⟨d, rfl⟩ := Nat.exists_eq_add_of_lt hgt
      rw [Nat.add_assoc, List.getElem?_append_right (Nat.le_add_right _ _), Nat.add_sub_cancel_left,
        List.getElem?_cons_succ] at hseen ⊢
      exact getElem?_of_isPrefix hpre hseen

theorem modify_append_cons (h rest : Heap σ) (o : Object σ) (f : Object σ → Object σ) :
    (h ++ o :: rest).modify h.length f = h ++ f o :: rest := by
  induction h with
  | nil => rfl
  | cons x h ih => exact congrArg (x :: ·) ih

/-- A run that keeps all objects, with what it returns read in the objects it has made and in those
below `low`. -/
def Makes (R : (Nat → Option (Object σ)) → β → τ → Prop) (low : Nat) (h : Heap σ) (t : τ)
    (out : Option (β × Heap σ)) : Prop :=
  ∃ v h', out = some (v, h') ∧ h <+: h' ∧ R (seen low h.length h') v t

/-- What each round of a loop makes is in the object in the end. -/
theorem fill_spec {item : ι → Heap σ → Option (β × Heap σ)} (put : ι → β → Object σ → Object σ)
    {R : (Nat → Option (Object σ)) → β → τ → Prop}
    (hmono : ∀ see see' v t, (∀ a o, see a = some o → see' a = some o) → R see v t → R see' v t)
    {low : Nat} {h : Heap σ} (hlow : low ≤ h.length) {xs : List ι} {ts : List τ}
    (hitems : List.Forall₂ (fun x t => ∀ hk, h <+: hk → Makes R low hk t (item x hk)) xs ts)
    (o : Object σ) (rest : Heap σ) : ∃ vs rest', fill item put h.length xs (h ++ o :: rest) =
        some (h ++ (xs.zip vs).foldl (fun o p => put p.1 p.2 o) o :: rest') ∧ rest <+: rest' ∧
      List.Forall₂ (fun v t => ∀ o', R (seen low (h.length + 1) (h ++ o' :: rest')) v t) vs ts := by
  induction hitems generalizing o rest with
  | nil => exact ⟨[], rest, rfl, List.prefix_refl rest, .nil⟩
  | cons hx hxs ih =>
    rename_i x t xs ts
    obtain ⟨v, h', hout, hpre, hread⟩ := hx (h ++ o :: rest) (List.prefix_append _ _)
    obtain ⟨more, rfl⟩ := hpre
    obtain ⟨vs, rest', hfill, hgrow, hreads⟩ := ih (put x v o) (rest ++ more)
    refine ⟨v :: vs, rest', ?_, (List.prefix_append rest more).trans hgrow, .cons (fun o' => ?_) hreads⟩
    · rw [fill, hout, Option.bind_some]
      simp only [List.append_assoc, List.cons_append]
      rw [modify_append_cons]
      exact hfill
    · refine hmono _ _ v t (fun a x hseen => ?_) hread
      have hlonger : h.length + 1 ≤ (h ++ o :: rest).length := by simp
      have hless := seen_mono hlonger hseen
      simp only [List.append_assoc, List.cons_append] at hless
      exact seen_behind hlow hgrow hless

theorem getElem?_of_seen {low high a : Nat} {h : Heap σ} {o : Object σ} (hseen : seen low high h a = some o) :
    h[a]? = some o := by
  unfold seen at hseen
  split at hseen
  next => cases hseen
  next => exact hseen

/-- A loop with an object it has just made. -/
theorem fill_new {item : ι → Heap σ → Option (β × Heap σ)} (put : ι → β → Object σ → Object σ)
    {R : (Nat → Option (Object σ)) → β → τ → Prop}
    (hmono : ∀ see see' v t, (∀ a o, see a = some o → see' a = some o) → R see v t → R see' v t)
    {low : Nat} {h : Heap σ} (hlow : low ≤ h.length) {xs : List ι} {ts : List τ}
    (hitems : List.Forall₂ (fun x t => ∀ hk, h <+: hk → Makes R low hk t (item x hk)) xs ts)
    (o : Object σ) : ∃ vs h', (fill item put h.length xs (h ++ [o])).map (fun h' => (h.length, h')) =
        some (h.length, h') ∧ h <+: h' ∧
      seen low h.length h' h.length = some ((xs.zip vs).foldl (fun o p => put p.1 p.2 o) o) ∧
      List.Forall₂ (R (seen low h.length h')) vs ts := by
  obtain ⟨vs, rest, hfill, -, hreads⟩ := fill_spec put hmono hlow hitems o []
  refine ⟨vs, _, by rw [hfill]; rfl, List.prefix_append _ _, ?_, hreads.imp (fun v t hread => ?_)⟩
  · rw [seen, if_neg (fun hin => Nat.lt_irrefl _ hin.2), List.getElem?_append_right (Nat.le_refl _),
      Nat.sub_self]
    rfl
  · exact hmono _ _ v t (fun a x hseen => seen_mono (Nat.le_succ _) hseen) (hread _)

/-- A slice that is written item by item. -/
theorem foldl_set {mk : List β → Object σ} {set : Nat → β → Object σ → Object σ}
    (hset : ∀ items i v, set i v (mk items) = mk (items.set i v)) (empty : β) (xs : List ι) (vs : List β)
    (hlength : vs.length = xs.length) (done : List β) :
    ((xs.zipIdx done.length).zip vs).foldl (fun o p => set p.1.2 p.2 o)
      (mk (done ++ List.replicate xs.length empty)) = mk (done ++ vs) := by
  induction xs generalizing vs done with
  | nil =>
    obtain rfl := List.length_eq_zero_iff.mp hlength
    rfl
  | cons x xs ih =>
    cases vs with
    | nil => cases hlength
    | cons v vs =>
      have hdone : done.length + 1 = (done ++ [v]).length := by simp
      have hwrite : (done ++ List.replicate (x :: xs).length empty).set done.length v =
          done ++ [v] ++ List.replicate xs.length empty := by
        rw [List.length_cons, List.replicate_succ, List.set_append_right _ _ (Nat.le_refl _), Nat.sub_self,
          List.append_assoc]
        rfl
      rw [List.zipIdx_cons, List.zip_cons_cons, List.foldl_cons, hset, hwrite, hdone,
        ih vs (Nat.succ.inj hlength) (done ++ [v]), List.append_assoc]
      rfl

/-- A map that is written entry by entry. -/
theorem foldl_setKey (xs : List (String × Value σ)) (vs : List (Value σ)) (hlength : vs.length = xs.length)
    (done : List (String × Value σ)) (hkeys : (done.map Prod.fst ++ xs.map Prod.fst).Nodup) :
    (xs.zip vs).foldl (fun o p => Object.setKey p.1.1 p.2 o) (.map done) =
      .map (done ++ List.zipWith (fun x v => (x.1, v)) xs vs) := by
  induction xs generalizing vs done with
  | nil => simp
  | cons x xs ih =>
    cases vs with
    | nil => cases hlength
    | cons v vs =>
      have hnew : x.1 ∉ done.map Prod.fst := by
        intro hin
        exact (List.nodup_append.mp hkeys).2.2 x.1 hin x.1 (by simp) rfl
      have hkeys' : ((done ++ [(x.1, v)]).map Prod.fst ++ xs.map Prod.fst).Nodup := by
        simpa using hkeys
      rw [List.zip_cons_cons, List.foldl_cons, Object.setKey, if_neg hnew,
        ih vs (Nat.succ.inj hlength) _ hkeys', List.append_assoc]
      rfl

theorem forall₂_zipIdx {P : ι → τ → Prop} {xs : List ι} {ts : List τ} (h : List.Forall₂ P xs ts) (k : Nat) :
    List.Forall₂ (fun x t => P x.1 t) (xs.zipIdx k) ts := by
  induction h generalizing k with
  | nil => exact .nil
  | cons hx _ ih => exact .cons hx (ih (k + 1))

theorem maskSlice_spec {low ref : Nat} {h : Heap σ} {items : List Text} (hlow : low ≤ h.length)
    (hget : seen low h.length h ref = some (.strs items)) :
    Makes (fun see r t => see r = some (.strs t)) low h (items.map mask) (maskSlice ref h) := by
  have hitems : List.Forall₂ (fun (x : Text × Nat) t => ∀ hk : Heap σ, h <+: hk →
      Makes (fun _ v t => v = mask t) low hk t (some (mask x.1, hk))) items.zipIdx items := by
    refine (forall₂_zipIdx (List.forall₂_same.mpr (fun _ _ => rfl)) 0).imp ?_
    rintro x t rfl hk -
    exact ⟨_, hk, rfl, List.prefix_refl hk, rfl⟩
  obtain ⟨vs, h', hfill, hpre, hobject, hvs⟩ := fill_new (fun item text => Object.setText item.2 text)
    (fun _ _ _ _ _ h => h) hlow hitems (.strs (List.replicate items.length []))
  have hset : ∀ (texts : List Text) i v,
      Object.setText i v (.strs texts : Object σ) = .strs (texts.set i v) :=
    fun _ _ _ => rfl
  have hmask : vs = items.map mask := by
    rw [← List.forall₂_eq_eq_eq, List.forall₂_map_right_iff]
    exact hvs
  have hwritten := foldl_set hset [] items vs hvs.length_eq []
  refine ⟨h.length, h', ?_, hpre, ?_⟩
  · rw [maskSlice, getElem?_of_seen hget]
    exact hfill
  · rw [← hmask]
    exact hobject.trans (congrArg some hwritten)

theorem forall₂_maskedItems {lower : Char → Char} {P : Value σ → Tree σ → Prop} {vs : List (Value σ)}
    {ts : List (Tree σ)} (h : List.Forall₂ (fun v t => P v (t.masked lower false)) vs ts) :
    List.Forall₂ P vs (Tree.maskedItems lower ts) := by
  induction h with
  | nil => exact .nil
  | cons hv _ ih => exact .cons hv ih

theorem maskItems_spec {lower : Char → Char} {n low ref : Nat} {h : Heap σ} {ts : List (Tree σ)}
    {item : Value σ → Heap σ → Option (Value σ × Heap σ)} (hlow : low ≤ h.length)
    (hitem : ∀ v t hk, h <+: hk → Reads n (seen low hk.length hk) v t →
      Makes (fun see v t => Reads n see v (t.masked lower false)) low hk t (item v hk))
    (hread : Reads (n + 1) (seen low h.length h) (.slice ref) (.slice ts)) :
    Makes (fun see r ts => Reads (n + 1) see (.slice r) (.slice ts)) low h (Tree.maskedItems lower ts)
      (maskItems item ref h) := by
  obtain ⟨items, hget, hitems⟩ := hread
  have hrounds : List.Forall₂ (fun (x : Value σ × Nat) t => ∀ hk : Heap σ, h <+: hk →
      Makes (fun see v t => Reads n see v (t.masked lower false)) low hk t (item x.1 hk))
        items.zipIdx ts := by
    refine (forall₂_zipIdx hitems 0).imp (fun x t hx hk hpre => hitem x.1 t hk hpre ?_)
    exact reads_mono (fun a o hseen => seen_input hpre hseen) hx
  have hmono : ∀ (see see' : Nat → Option (Object σ)) v (t : Tree σ),
      (∀ a o, see a = some o → see' a = some o) →
      Reads n see v (t.masked lower false) → Reads n see' v (t.masked lower false) :=
    fun _ _ _ _ hsee h => reads_mono hsee h
  obtain ⟨vs, h', hfill, hpre, hobject, hvs⟩ := fill_new
    (fun (item : Value σ × Nat) value => Object.setItem item.2 value) hmono hlow hrounds
    (.slice (List.replicate items.length .nil))
  have hset : ∀ (values : List (Value σ)) i v, Object.setItem i v (.slice values) = .slice (values.set i v) :=
    fun _ _ _ => rfl
  have hlength : vs.length = items.length := hvs.length_eq.trans hitems.length_eq.symm
  have hwritten := foldl_set hset .nil items vs hlength []
  refine ⟨h.length, h', ?_, hpre, vs, ?_, forall₂_maskedItems hvs⟩
  · rw [maskItems, getElem?_of_seen hget]
    exact hfill
  · exact hobject.trans (congrArg some hwritten)

/-- With calls nested so deep, a value that holds values nested as deep as the number says comes out
masked. -/
def MasksValues (lower : Char → Char) (σ : Type) (n depth : Nat) : Prop :=
  ∀ (h : Heap σ) low v t, low ≤ h.length → Reads n (seen low h.length h) v t →
    Makes (fun see v t => Reads n see v (t.masked lower false)) low h t (maskValue lower depth v h)

/-- The switch of `MaskMap` does with all but a map under a sensitive key what `maskValue` does. -/
theorem maskEntry_eq (lower : Char → Char) (depth : Nat) (e : String × Value σ) (h : Heap σ)
    (hne : ∀ ref, isSensitiveField lower e.1 = true → e.2 ≠ .map ref) :
    maskEntry lower (maskSliceInterface lower (depth + 1)) (maskValue lower (depth + 1)) e h =
      maskValue lower (depth + 1) e.2 h := by
  obtain ⟨key, v⟩ := e
  unfold maskEntry
  cases hkey : isSensitiveField lower key with
  | false => rfl
  | true =>
    cases v with
    | map ref => exact absurd rfl (hne ref hkey)
    | _ => rfl

theorem masked_eq_of_not_map {lower : Char → Char} {sensitive : Bool} {n : Nat}
    {see : Nat → Option (Object σ)} {v : Value σ} {t : Tree σ} (hread : Reads n see v t)
    (hne : ∀ ref, sensitive = true → v ≠ .map ref) : t.masked lower sensitive = t.masked lower false := by
  cases v with
  | nil => rw [reads_nil_iff.mp hread]; rfl
  | other x => rw [reads_other_iff.mp hread]; rfl
  | str text => rw [reads_str_iff.mp hread]; rfl
  | strs ref =>
    rw [reads_strs_iff] at hread
    obtain ⟨items, -, rfl⟩ := hread
    rfl
  | slice ref =>
    rw [reads_slice_iff] at hread
    obtain ⟨m, items, ts, -, -, -, rfl⟩ := hread
    rfl
  | map ref =>
    cases sensitive with
    | false => rfl
    | true => exact absurd rfl (hne ref rfl)

theorem maskEntry_spec {lower : Char → Char} {n depth low : Nat} {h : Heap σ} {e : String × Value σ}
    {t : String × Tree σ} (hS : MasksValues lower σ n (depth + 1)) (hlow : low ≤ h.length)
    (hkey : e.1 = t.1) (hread : Reads n (seen low h.length h) e.2 t.2) :
    Makes (fun see v (t : String × Tree σ) => Reads n see v (t.2.masked lower (isSensitiveField lower t.1)))
      low h t (maskEntry lower (maskSliceInterface lower (depth + 1)) (maskValue lower (depth + 1)) e h) := by
  by_cases hmap : isSensitiveField lower e.1 = true ∧ ∃ ref, e.2 = .map ref
  · -- the map itself is what `MaskMap` puts there
    obtain ⟨hsensitive, ref, hv⟩ := hmap
    have hstays : t.2.masked lower (isSensitiveField lower t.1) = t.2 := by
      rw [hv] at hread
      rw [reads_map_iff] at hread
      obtain ⟨m, entries, ts, -, -, -, -, ht⟩ := hread
      rw [← hkey, hsensitive, ht]
      rfl
    rw [← hstays, hv] at hread
    refine ⟨.map ref, h, ?_, List.prefix_refl h, hread⟩
    simp [maskEntry, hsensitive, hv]
  · have hne : ∀ ref, isSensitiveField lower e.1 = true → e.2 ≠ .map ref :=
      fun ref hsensitive heq => hmap ⟨hsensitive, ref, heq⟩
    rw [maskEntry_eq lower depth e h hne]
    obtain ⟨v, h', hout, hpre, hmasked⟩ := hS h low e.2 t.2 hlow hread
    have hsame : t.2.masked lower (isSensitiveField lower e.1) = t.2.masked lower false :=
      masked_eq_of_not_map hread hne
    rw [← hsame, hkey] at hmasked
    exact ⟨v, h', hout, hpre, hmasked⟩

theorem forall₂_maskedEntries {lower : Char → Char} {n : Nat} {see see' : Nat → Option (Object σ)}
    {entries : List (String × Value σ)} {ts : List (String × Tree σ)}
    (h : List.Forall₂ (fun e t => e.1 = t.1 ∧ Reads n see e.2 t.2) entries ts) {vs : List (Value σ)}
    (hvs : List.Forall₂ (fun v (t : String × Tree σ) =>
      Reads n see' v (t.2.masked lower (isSensitiveField lower t.1))) vs ts) :
    List.Forall₂ (fun e t => e.1 = t.1 ∧ Reads n see' e.2 t.2)
      (List.zipWith (fun x v => (x.1, v)) entries vs) (Tree.maskedEntries lower ts) := by
  induction h generalizing vs with
  | nil =>
    cases hvs
    exact .nil
  | cons he _ ih =>
    cases hvs with
    | cons hv hvs => exact .cons ⟨he.1, hv⟩ (ih hvs)

theorem map_fst_zipWith {xs : List (String × Value σ)} {vs : List (Value σ)} (h : vs.length = xs.length) :
    (List.zipWith (fun x v => (x.1, v)) xs vs).map Prod.fst = xs.map Prod.fst := by
  induction xs generalizing vs with
  | nil => rfl
  | cons x xs ih =>
    cases vs with
    | nil => cases h
    | cons v vs => exact congrArg (x.1 :: ·) (ih (Nat.succ.inj h))

theorem maskMap_spec {lower : Char → Char} {n depth low ref : Nat} {h : Heap σ}
    {ts : List (String × Tree σ)} (hS : MasksValues lower σ n (depth + 1)) (hlow : low ≤ h.length)
    (hread : Reads (n + 1) (seen low h.length h) (.map ref) (.map ts)) :
    Makes (fun see r ts => Reads (n + 1) see (.map r) (.map ts)) low h (Tree.maskedEntries lower ts)
      (maskMap lower (depth + 2) ref h) := by
  obtain ⟨entries, hget, hkeys, hentries⟩ := hread
  have hrounds : List.Forall₂ (fun e (t : String × Tree σ) => ∀ hk : Heap σ, h <+: hk →
      Makes (fun see v (t : String × Tree σ) => Reads n see v (t.2.masked lower (isSensitiveField lower t.1)))
        low hk t (maskEntry lower (maskSliceInterface lower (depth + 1)) (maskValue lower (depth + 1)) e hk))
      entries ts := by
    refine hentries.imp (fun e t he hk hpre => maskEntry_spec hS (Nat.le_trans hlow hpre.length_le) he.1 ?_)
    exact reads_mono (fun a o hseen => seen_input hpre hseen) he.2
  have hmono : ∀ (see see' : Nat → Option (Object σ)) v (t : String × Tree σ),
      (∀ a o, see a = some o → see' a = some o) →
      Reads n see v (t.2.masked lower (isSensitiveField lower t.1)) →
      Reads n see' v (t.2.masked lower (isSensitiveField lower t.1)) :=
    fun _ _ _ _ hsee h => reads_mono hsee h
  obtain ⟨vs, h', hfill, hpre, hobject, hvs⟩ := fill_new
    (fun (e : String × Value σ) value => Object.setKey e.1 value) hmono hlow hrounds (.map [])
  have hlength : vs.length = entries.length := hvs.length_eq.trans hentries.length_eq.symm
  have hwritten := foldl_setKey entries vs hlength [] (by simpa using hkeys)
  refine ⟨h.length, h', ?_, hpre, _, hobject.trans (congrArg some hwritten), ?_, ?_⟩
  · rw [maskMap, getElem?_of_seen hget]
    exact hfill
  · rw [List.nil_append, map_fst_zipWith hlength]
    exact hkeys
  · exact forall₂_maskedEntries hentries hvs

theorem masksValues (lower : Char → Char) (n : Nat) :
    ∀ depth, 2 * n < depth → MasksValues lower σ n depth := by
  induction n using Nat.strong_induction_on with
  | h n ih =>
    intro depth hdepth h low v t hlow hread
    obtain ⟨d, rfl⟩ : ∃ d, depth = d + 1 := ⟨depth - 1, by omega⟩
    cases v with
    | nil =>
      rw [reads_nil_iff] at hread
      obtain rfl := hread
      exact ⟨.nil, h, rfl, List.prefix_refl h, reads_nil_iff.mpr rfl⟩
    | other x =>
      rw [reads_other_iff] at hread
      obtain rfl := hread
      exact ⟨.other x, h, rfl, List.prefix_refl h, reads_other_iff.mpr rfl⟩
    | str text =>
      rw [reads_str_iff] at hread
      obtain rfl := hread
      exact ⟨.str (mask text), h, rfl, List.prefix_refl h, reads_str_iff.mpr rfl⟩
    | strs ref =>
      rw [reads_strs_iff] at hread
      obtain ⟨items, hget, rfl⟩ := hread
      obtain ⟨result, h', hout, hpre, hmasked⟩ := maskSlice_spec hlow hget
      refine ⟨.strs result, h', ?_, hpre, reads_strs_iff.mpr ⟨_, hmasked, rfl⟩⟩
      rw [maskValue, hout]
      rfl
    | slice ref =>
      have hslice := reads_slice_iff.mp hread
      obtain ⟨m, items, ts, rfl, -, -, rfl⟩ := hslice
      have hitem : ∀ v t hk, h <+: hk → Reads m (seen low hk.length hk) v t →
          Makes (fun see v t => Reads m see v (t.masked lower false)) low hk t (maskValue lower d v hk) :=
        fun v t hk hpre hv =>
          ih m (Nat.lt_succ_self m) d (by omega) hk low v t (Nat.le_trans hlow hpre.length_le) hv
      obtain ⟨result, h', hout, hpre, hmasked⟩ := maskItems_spec hlow hitem hread
      refine ⟨.slice result, h', ?_, hpre, hmasked⟩
      rw [maskValue, hout]
      rfl
    | map ref =>
      have hmap := reads_map_iff.mp hread
      obtain ⟨m, entries, ts, rfl, -, -, -, rfl⟩ := hmap
      obtain ⟨k, rfl⟩ : ∃ k, d = k + 2 := ⟨d - 2, by omega⟩
      have hvalues : MasksValues lower σ m (k + 1) := ih m (Nat.lt_succ_self m) (k + 1) (by omega)
      obtain ⟨result, h', hout, hpre, hmasked⟩ := maskMap_spec hvalues hlow hread
      refine ⟨.map result, h', ?_, hpre, hmasked⟩
      rw [maskValue, hout]
      rfl

theorem seen_all (n : Nat) (h : Heap σ) : seen n n h = fun a => h[a]? := by
  funext a
  exact if_neg (fun hin => Nat.lt_irrefl _ (Nat.lt_of_le_of_lt hin.1 hin.2))

/-- `MaskMap` returns, and writes to no object that was there before. -/
theorem maskMap_returns (lower : Char → Char) (h : Heap σ) {data n : Nat} {entries : List (String × Tree σ)}
    (hread : Reads n (fun a => h[a]?) (.map data) (.map entries)) {depth : Nat} (hdepth : 2 * n ≤ depth) :
    ∃ result h', maskMap lower depth data h = some (result, h') ∧ h <+: h' ∧
      Reads n (fun a => h'[a]?) (.map result) ((Tree.map entries).masked lower false) := by
  have hmap := reads_map_iff.mp hread
  obtain ⟨m, _, _, rfl, -⟩ := hmap
  obtain ⟨d, rfl⟩ : ∃ d, depth = d + 2 := ⟨depth - 2, by omega⟩
  rw [← seen_all h.length h] at hread
  obtain ⟨result, h', hout, hpre, hmasked⟩ :=
    maskMap_spec (masksValues lower m (d + 1) (by omega)) (Nat.le_refl _) hread
  rw [seen_all] at hmasked
  exact ⟨result, h', hout, hpre, hmasked⟩

/-- Given room for its calls, `MaskMap` returns its argument with every string at every depth masked, all
else as it was and nothing that was there before changed, exactly when masking leaves alone the strings
within maps that are right under a sensitive key. -/
theorem maskMap_masks_all_iff (lower : Char → Char) (h : Heap σ) (data n : Nat)
    (entries : List (String × Tree σ)) (hread : Reads n (fun a => h[a]?) (.map data) (.map entries))
    (depth : Nat) (hdepth : 2 * n ≤ depth) :
    (∃ result h', maskMap lower depth data h = some (result, h') ∧ h <+: h' ∧
      Reads n (fun a => h'[a]?) (.map result) ((Tree.map entries).mapText mask)) ↔
    ∀ text ∈ (Tree.map entries).exposed lower false, mask text = text := by
  obtain ⟨result, h', hout, hpre, hmasked⟩ := maskMap_returns lower h hread hdepth
  rw [← Tree.masked_eq_iff]
  constructor
  · rintro ⟨other, h'', hout', -, hall⟩
    rw [hout] at hout'
    cases hout'
    exact reads_unique hmasked hall
  · intro hsame
    rw [hsame] at hmasked
    exact ⟨result, h', hout, hpre, hmasked⟩

def userHeap : Heap Nat :=
  [.map [("token", .str (ascii "abcdefghijkl")), ("user", .map 1)], .map [("name", .str (ascii "john"))]]

def userTree : List (String × Tree Nat) :=
  [("token", .str (ascii "abcdefghijkl")), ("user", .map [("name", .str (ascii "john"))])]

theorem user_masked : Reads 2 (fun a => userHeap[a]?) (.map 0) (.map userTree) ∧
    ∃ result h', maskMap Char.toLower 4 0 userHeap = some (result, h') ∧ userHeap <+: h' ∧
      Reads 2 (fun a => h'[a]?) (.map result) ((Tree.map userTree).mapText mask) := by
  have hread : Reads 2 (fun a => userHeap[a]?) (.map 0) (.map userTree) :=
    ⟨_, rfl, by decide, .cons ⟨rfl, rfl⟩ (.cons ⟨rfl, _, rfl, by decide, .cons ⟨rfl, rfl⟩ .nil⟩ .nil)⟩
  have hexposed : (Tree.map userTree).exposed Char.toLower false = [] := by decide
  refine ⟨hread, (maskMap_masks_all_iff Char.toLower userHeap 0 2 userTree hread 4 (by decide)).mpr ?_⟩
  rw [hexposed]
  intro text h
  cases h

def credentialsHeap : Heap Nat :=
  [.map [("credentials", .map 1)], .map [("password", .str (ascii "hunter2hunter2"))]]

def credentialsTree : List (String × Tree Nat) :=
  [("credentials", .map [("password", .str (ascii "hunter2hunter2"))])]

/-- The password in a map of credentials comes out as it went in. -/
theorem credentials_not_masked : Reads 2 (fun a => credentialsHeap[a]?) (.map 0) (.map credentialsTree) ∧
    ¬∃ result h', maskMap Char.toLower 4 0 credentialsHeap = some (result, h') ∧
      Reads 2 (fun a => h'[a]?) (.map result) ((Tree.map credentialsTree).mapText mask) := by
  have hread : Reads 2 (fun a => credentialsHeap[a]?) (.map 0) (.map credentialsTree) :=
    ⟨_, rfl, by decide, .cons ⟨rfl, _, rfl, by decide, .cons ⟨rfl, rfl⟩ .nil⟩ .nil⟩
  obtain ⟨result, h', hout, -, hmasked⟩ :=
    maskMap_returns Char.toLower credentialsHeap hread (by decide : 2 * 2 ≤ 4)
  refine ⟨hread, ?_⟩
  rintro ⟨other, h'', hout', hall⟩
  rw [hout] at hout'
  cases hout'
  have hsame := (Tree.masked_eq_iff Char.toLower false _).mp (reads_unique hmasked hall)
  have hexposed : (Tree.map credentialsTree).exposed Char.toLower false = [ascii "hunter2hunter2"] := by
    decide
  rw [hexposed] at hsame
  exact absurd (hsame _ List.mem_cons_self) (by decide)

end SupplyPlatform.Sanitizer
