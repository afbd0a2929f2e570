import Mathlib.Data.Finmap

namespace Maps

section

variable {κ ν : Type*} [DecidableEq κ] {m : Finmap (fun _ : κ => ν)} {k k' : κ} {v v' : ν}

theorem lookup_insert (m : Finmap (fun _ : κ => ν)) (k k' : κ) (v : ν) :
    (m.insert k v).lookup k' = if k' = k then some v else m.lookup k' := by
  by_cases hk : k' = k
  · subst hk
    rw [if_pos rfl, Finmap.lookup_insert]
  · rw [if_neg hk, Finmap.lookup_insert_of_ne _ hk]

theorem lookup_erase (m : Finmap (fun _ : κ => ν)) (k k' : κ) :
    (m.erase k).lookup k' = if k' = k then none else m.lookup k' := by
  by_cases hk : k' = k
  · subst hk
    rw [if_pos rfl, Finmap.lookup_erase]
  · rw [if_neg hk, Finmap.lookup_erase_ne hk]

/-- What a map has after a write: the entry that was written, or one that it had. -/
theorem lookup_insert_cases (h : (m.insert k v).lookup k' = some v') :
    (k' = k ∧ v' = v) ∨ (k' ≠ k ∧ m.lookup k' = some v') := by
  rw [lookup_insert] at h
  split at h
  next hk => exact .inl ⟨hk, (Option.some.inj h).symm⟩
  next hk => exact .inr ⟨hk, h⟩

theorem lookup_of_lookup_erase (h : (m.erase k).lookup k' = some v) : m.lookup k' = some v := by
  rw [lookup_erase] at h
  split at h
  next => cases h
  next => exact h

/-- A property of all entries is one of the entries before and of the entry that is written. -/
theorem forall_lookup_insert {P : κ → ν → Prop} (old : ∀ k v, m.lookup k = some v → P k v) (new : P k v) :
    ∀ k' v', (m.insert k v).lookup k' = some v' → P k' v' := by
  intro k' v' h
  rcases lookup_insert_cases h with ⟨rfl, rfl⟩ | ⟨-, h⟩
  · exact new
  · exact old k' v' h

/-- A key that has an entry with a property keeps one if what is written under it has it. -/
theorem exists_lookup_insert {P : ν → Prop} (old : ∃ v', m.lookup k' = some v' ∧ P v')
    (new : k' = k → P v) : ∃ v', (m.insert k v).lookup k' = some v' ∧ P v' := by
  rw [lookup_insert]
  by_cases hk : k' = k
  · exact ⟨v, if_pos hk, new hk⟩
  · obtain ⟨v', hold, hv⟩ := old
    exact ⟨v', (if_neg hk).trans hold, hv⟩

/-- What is written under a new key leaves every entry. -/
theorem lookup_insert_of_fresh (hfresh : m.lookup k = none) (h : m.lookup k' = some v') :
    (m.insert k v).lookup k' = some v' := by
  have hk : k' ≠ k := by
    rintro rfl
    rw [hfresh] at h
    cases h
  exact (Finmap.lookup_insert_of_ne _ hk).trans h

end

section

variable {κ ν : Type*} [DecidableEq κ] {f : κ → Option ν} {k k' : κ} {v v' : ν}

/-- The same of a map that is a function. -/
theorem update_some_cases (h : Function.update f k (some v) k' = some v') :
    (k' = k ∧ v' = v) ∨ (k' ≠ k ∧ f k' = some v') := by
  by_cases hk : k' = k
  · subst hk
    rw [Function.update_self] at h
    exact .inl ⟨rfl, (Option.some.inj h).symm⟩
  · rw [Function.update_of_ne hk] at h
    exact .inr ⟨hk, h⟩

theorem of_update_none (h : Function.update f k none k' = some v) : k' ≠ k ∧ f k' = some v := by
  by_cases hk : k' = k
  · subst hk
    rw [Function.update_self] at h
    cases h
  · rw [Function.update_of_ne hk] at h
    exact ⟨hk, h⟩

end

section

variable {κ ν : Type*} [DecidableEq κ] {m : Finmap (fun _ : κ => ν)} {order order' : List κ} {k : κ} {v : ν}

/-- An order in which the keys of a map can be gone over. -/
structure Enumerates (m : Finmap (fun _ : κ => ν)) (order : List κ) : Prop where
  nodup : order.Nodup
  complete : order.toFinset = m.keys

instance : Decidable (Enumerates m order) :=
  decidable_of_iff (order.Nodup ∧ order.toFinset = m.keys) ⟨fun h => ⟨h.1, h.2⟩, fun h => ⟨h.1, h.2⟩⟩

theorem Enumerates.mem_iff (h : Enumerates m order) : k ∈ order ↔ ∃ v, m.lookup k = some v := by
  rw [← List.mem_toFinset, h.complete, Finmap.mem_keys, Finmap.mem_iff]

theorem Enumerates.mem (h : Enumerates m order) (found : m.lookup k = some v) : k ∈ order :=
  h.mem_iff.mpr ⟨v, found⟩

theorem Enumerates.perm (h : Enumerates m order) (hperm : order'.Perm order) : Enumerates m order' :=
  ⟨hperm.nodup_iff.mpr h.nodup, (List.toFinset_eq_of_perm _ _ hperm).trans h.complete⟩

theorem exists_enumerates (m : Finmap (fun _ : κ => ν)) : ∃ order, Enumerates m order :=
  ⟨m.keys.toList, m.keys.nodup_toList, m.keys.toList_toFinset⟩

end

section

variable {κ ν : Type*} [DecidableEq κ] {R : ν → ν → Prop} {a b : List (κ × ν)}

/-- Two lists of entries have the same keys, with related values under each. -/
def SameEntries (R : ν → ν → Prop) (a b : List (κ × ν)) : Prop :=
  ∀ k, Option.Rel R (a.lookup k) (b.lookup k)

theorem mem_iff_lookup {k : κ} {v : ν} (h : (a.map Prod.fst).Nodup) : (k, v) ∈ a ↔ a.lookup k = some v := by
  induction a with
  | nil => simp
  | cons p a ih =>
    obtain ⟨hnew, hrest⟩ := List.nodup_cons.mp h
    rw [List.mem_cons, List.lookup_cons, ih hrest]
    by_cases hk : k = p.1
    · have hnone : a.lookup k ≠ some v := by
        intro hsome
        exact hnew (hk ▸ List.mem_map_of_mem (f := Prod.fst) ((ih hrest).mpr hsome))
      simp [hk, Prod.ext_iff, hk ▸ hnone, eq_comm]
    · have hne : (k == p.1) = false := beq_false_of_ne hk
      simp [hne, Prod.ext_iff, hk]

theorem mem_keys_iff_lookup {k : κ} : k ∈ a.map Prod.fst ↔ ∃ v, a.lookup k = some v := by
  rw [← Option.isSome_iff_exists, List.lookup_isSome_iff, List.mem_map]
  refine exists_congr (fun p => and_congr_right (fun _ => ?_))
  rw [beq_iff_eq]
  exact eq_comm

theorem SameEntries.mem_keys_iff (h : SameEntries R a b) {k : κ} : k ∈ a.map Prod.fst ↔ k ∈ b.map Prod.fst := by
  have hk := h k
  rw [mem_keys_iff_lookup, mem_keys_iff_lookup]
  cases ha : a.lookup k <;> cases hb : b.lookup k <;> simp_all

theorem SameEntries.length_eq (h : SameEntries R a b) (ha : (a.map Prod.fst).Nodup)
    (hb : (b.map Prod.fst).Nodup) : a.length = b.length := by
  have hperm : (a.map Prod.fst).Perm (b.map Prod.fst) :=
    (List.perm_ext_iff_of_nodup ha hb).mpr (fun k => h.mem_keys_iff)
  simpa using hperm.length_eq

/-- It is enough to go over the entries of one list where both have the same number. -/
theorem sameEntries_iff (ha : (a.map Prod.fst).Nodup) (hlen : a.length = b.length) :
    SameEntries R a b ↔ ∀ p ∈ a, ∃ v, b.lookup p.1 = some v ∧ R p.2 v := by
  constructor
  · intro h p hp
    have hk := h p.1
    rw [(mem_iff_lookup ha).mp hp] at hk
    cases hb : b.lookup p.1 with
    | none =>
      rw [hb] at hk
      cases hk
    | some v =>
      rw [hb] at hk
      cases hk with
      | some hr => exact ⟨v, rfl, hr⟩
  · intro h k
    cases hk : a.lookup k with
    | some v =>
      obtain ⟨w, hw, hr⟩ := h (k, v) ((mem_iff_lookup ha).mpr hk)
      rw [hw]
      exact .some hr
    | none =>
      have hsubset : a.map Prod.fst ⊆ b.map Prod.fst := by
        intro k' hk'
        obtain ⟨p, hp, rfl⟩ := List.mem_map.mp hk'
        obtain ⟨w, hw, -⟩ := h p hp
        exact mem_keys_iff_lookup.mpr ⟨w, hw⟩
      have hperm : (a.map Prod.fst).Perm (b.map Prod.fst) :=
        (ha.subperm hsubset).perm_of_length_le (by simp [hlen])
      have hnone : b.lookup k = none := by
        by_contra hsome
        obtain ⟨w, hw⟩ := Option.ne_none_iff_exists'.mp hsome
        obtain ⟨v, hv⟩ := mem_keys_iff_lookup.mp (hperm.mem_iff.mpr (mem_keys_iff_lookup.mpr ⟨w, hw⟩))
        rw [hk] at hv
        cases hv
      rw [hnone]
      exact .none

end

end Maps
