import SupplyPlatform.Lib.Runs
import SupplyPlatform.Partition

namespace SupplyPlatform.Partitions

open Calendar (Date daysIn daysIn_succ)

def Named (relations : List Relation) (name : String) : Prop := ∃ r ∈ relations, r.name = name

instance (relations : List Relation) (name : String) : Decidable (Named relations name) :=
  inferInstanceAs (Decidable (∃ r ∈ relations, r.name = name))

def Partition.Contains (p : Partition) (x : Date) : Prop := x.OnOrAfter p.startDate ∧ ¬x.OnOrAfter p.endDate

/-- What a run is for: the table has its partitions from this month to the `k`-th following. -/
structure FuturePartitions (before : List Relation) (after : Catalog) (table : String) (today : Date)
    (k : Nat) : Prop where
  exist : ∀ i ≤ k, Named after.relations (partitionName table (today.month + i))
  disjoint : after.created.Pairwise fun p q => p.table = q.table → ∀ x, ¬(p.Contains x ∧ q.Contains x)
  cover : ∀ x : Date, today.month ≤ x.month → x.month ≤ today.month + k →
    (∃ p ∈ after.created, p.table = table ∧ p.Contains x) ∨ Named before (partitionName table x.month)

theorem contains_partitionOf (table : String) (d x : Date) :
    (partitionOf table d).Contains x ↔ x.month = d.month := by
  unfold Partition.Contains partitionOf
  simp only [Date.addMonths_firstOfMonth, Date.onOrAfter_firstOfMonth]
  omega

/-- What a run has done once it has gone over the partitions `wanted`. -/
structure Ensured (before : List Relation) (wanted : List Partition) (c : Catalog) : Prop where
  named : ∀ name, Named c.relations name ↔ Named before name ∨ ∃ p ∈ wanted, p.name = name
  created : ∀ p ∈ c.created, p ∈ wanted ∧ ¬Named before p.name
  missing : ∀ p ∈ wanted, ¬Named before p.name → ∃ q ∈ c.created, q.name = p.name
  distinct : (c.created.map (·.name)).Nodup

theorem Ensured.start (relations : List Relation) : Ensured relations [] ⟨relations, []⟩ where
  named := by simp
  created := by simp
  missing := by simp
  distinct := by simp

section Run

variable {pg : Postgres} {today : Date} {table : String} {before : List Relation} {wanted : List Partition}
  {c c' after : Catalog} {order : List PartitionConfig}

theorem named_add (c : Catalog) (p : Partition) (name : String) :
    Named (c.add p).relations name ↔ Named c.relations name ∨ p.name = name := by
  unfold Named Catalog.add
  simp [or_and_right, exists_or]

theorem Ensured.skip {p : Partition} (h : Ensured before wanted c) (hp : Named c.relations p.name) :
    Ensured before (wanted ++ [p]) c where
  named name := by
    rw [h.named]
    constructor
    · rintro (hb | ⟨q, hq, hname⟩)
      · exact .inl hb
      · exact .inr ⟨q, List.mem_append_left _ hq, hname⟩
    · rintro (hb | ⟨q, hq, hname⟩)
      · exact .inl hb
      · rcases List.mem_append.mp hq with hq | hq
        · exact .inr ⟨q, hq, hname⟩
        · rw [List.mem_singleton.mp hq] at hname
          rw [← hname]
          exact (h.named _).mp hp
  created q hq := ⟨List.mem_append_left _ (h.created q hq).1, (h.created q hq).2⟩
  missing q hq hnot := by
    rcases List.mem_append.mp hq with hq | hq
    · exact h.missing q hq hnot
    · rw [List.mem_singleton.mp hq] at hnot ⊢
      rcases (h.named _).mp hp with hb | ⟨r, hr, hname⟩
      · exact absurd hb hnot
      · obtain ⟨r', hr', hname'⟩ := h.missing r hr (hname ▸ hnot)
        exact ⟨r', hr', hname'.trans hname⟩
  distinct := h.distinct

theorem Ensured.add {p : Partition} (h : Ensured before wanted c) (hp : ¬Named c.relations p.name) :
    Ensured before (wanted ++ [p]) (c.add p) where
  named name := by
    rw [named_add, h.named]
    simp only [List.mem_append, List.mem_singleton, or_and_right, exists_or, exists_eq_left, or_assoc]
  created q hq := by
    rcases List.mem_append.mp hq with hq | hq
    · exact ⟨List.mem_append_left _ (h.created q hq).1, (h.created q hq).2⟩
    · rw [List.mem_singleton.mp hq]
      exact ⟨List.mem_append_right _ (List.mem_singleton_self p), fun hb => hp ((h.named _).mpr (.inl hb))⟩
  missing q hq hnot := by
    rcases List.mem_append.mp hq with hq | hq
    · obtain ⟨r, hr, hname⟩ := h.missing q hq hnot
      exact ⟨r, List.mem_append_left _ hr, hname⟩
    · rw [List.mem_singleton.mp hq]
      exact ⟨p, List.mem_append_right _ (List.mem_singleton_self p), rfl⟩
  distinct := by
    change ((c.created ++ [p]).map (·.name)).Nodup
    rw [List.map_append]
    refine List.nodup_append.mpr ⟨h.distinct, List.pairwise_singleton _ _, ?_⟩
    intro name hc _ hname heq
    obtain ⟨q, hq, rfl⟩ := List.mem_map.mp hc
    have hsame : q.name = p.name := heq.trans (List.mem_singleton.mp hname)
    exact hp ((h.named _).mpr (.inr ⟨q, (h.created q hq).1, hsame⟩))

theorem Ensured.createPartition {d : Date} (h : Ensured before wanted c)
    (hrun : createPartition pg c table d = .ok c') : Ensured before (wanted ++ [partitionOf table d]) c' := by
  unfold Partitions.createPartition at hrun
  cases hcheck : pg.check (partitionOf table d).name with
  | error e =>
    rw [hcheck] at hrun
    cases hrun
  | ok =>
    simp only [hcheck] at hrun
    by_cases hany : c.relations.any (·.name = (partitionOf table d).name) = true
    · rw [if_pos hany] at hrun
      cases hrun
      refine h.skip ?_
      simpa [Named] using hany
    · rw [if_neg hany] at hrun
      cases hcreate : pg.create (partitionOf table d) with
      | error e =>
        rw [hcreate] at hrun
        cases hrun
      | ok =>
        simp only [hcreate] at hrun
        cases hrun
        refine h.add ?_
        simpa [Named] using hany

theorem mapError_eq_ok {ε ε' α : Type} {f : ε → ε'} {x : Except ε α} {a : α} (h : x.mapError f = .ok a) :
    x = .ok a := by
  cases x with
  | error e => cases h
  | ok b =>
    cases h
    rfl

theorem Ensured.months {is : List Nat} (h : Ensured before wanted c)
    (hrun : is.foldlM (ensureMonth pg today table) c = .ok c') :
    Ensured before (wanted ++ is.map fun i => partitionOf table (today.addMonths i)) c' := by
  refine Transition.foldlM_invariant (fun done c =>
    Ensured before (wanted ++ done.map fun i => partitionOf table (today.addMonths i)) c) ?_ [] ?_ hrun
  · intro done i c c' hc hstep
    have hnext := hc.createPartition (mapError_eq_ok hstep)
    rw [List.append_assoc] at hnext
    rwa [List.map_append]
  · rwa [List.map_nil, List.append_nil]

/-- The partitions that the loops come to. -/
def wantedBy (today : Date) (cfg : PartitionConfig) : List Partition :=
  (List.range (cfg.preCreateMonths + 1)).map fun i => partitionOf cfg.tableName (today.addMonths i)

theorem ensured_of_run (hrun : ensureFuturePartitions pg today order before = .ok after) :
    Ensured before (order.flatMap (wantedBy today)) after := by
  refine Transition.foldlM_invariant (fun done c => Ensured before (done.flatMap (wantedBy today)) c) ?_ []
    (Ensured.start before) hrun
  intro done cfg c c' hc hstep
  have hnext := hc.months hstep
  rwa [List.flatMap_append, List.flatMap_singleton]

theorem mem_wanted {p : Partition} (h : p ∈ order.flatMap (wantedBy today)) :
    ∃ cfg ∈ order, ∃ i ≤ cfg.preCreateMonths, p = partitionOf cfg.tableName (today.addMonths i) := by
  obtain ⟨cfg, hcfg, hp⟩ := List.mem_flatMap.mp h
  obtain ⟨i, hi, hpi⟩ := List.mem_map.mp hp
  have hlt := List.mem_range.mp hi
  exact ⟨cfg, hcfg, i, by omega, hpi.symm⟩

theorem wanted_mem {cfg : PartitionConfig} {i : Nat} (hcfg : cfg ∈ order) (hi : i ≤ cfg.preCreateMonths) :
    partitionOf cfg.tableName (today.addMonths i) ∈ order.flatMap (wantedBy today) :=
  List.mem_flatMap.mpr ⟨cfg, hcfg, List.mem_map.mpr ⟨i, List.mem_range.mpr (by omega), rfl⟩⟩

/-- No month without the day is come to: the round before goes past it only where it has the day, since
of two months that follow each other one has them all. -/
theorem day_le_of_addMonths {i j : Nat} (h : (today.addMonths j).month = today.month + i) :
    today.day ≤ daysIn (today.month + i) := by
  unfold Date.addMonths at h
  rw [Date.month_atMonth] at h
  split at h
  · rename_i hday
    rwa [h] at hday
  · rename_i hday
    have hshort : daysIn (today.month + j) < 31 := by
      have hle := today.day_le
      omega
    rw [← h, daysIn_succ hshort]
    exact today.day_le

theorem named_after_iff {cfg : PartitionConfig} {i : Nat}
    (hrun : ensureFuturePartitions pg today order before = .ok after) (hcfg : cfg ∈ order)
    (hi : i ≤ cfg.preCreateMonths) :
    Named after.relations (partitionName cfg.tableName (today.month + i)) ↔
      today.day ≤ daysIn (today.month + i) ∨
        Named before (partitionName cfg.tableName (today.month + i)) := by
  have h := ensured_of_run hrun
  rw [h.named, or_comm]
  refine or_congr_left' fun _ => ?_
  constructor
  · rintro ⟨p, hp, hname⟩
    obtain ⟨cfg', hcfg', j, hj, rfl⟩ := mem_wanted hp
    exact day_le_of_addMonths (partitionName_inj.mp hname).2
  · intro hday
    refine ⟨_, wanted_mem hcfg hi, ?_⟩
    have hmonth := (today.month_atMonth_eq_iff (today.month + i)).mpr hday
    exact partitionName_inj.mpr ⟨rfl, hmonth⟩

theorem disjoint_created (hrun : ensureFuturePartitions pg today order before = .ok after) :
    after.created.Pairwise fun p q => p.table = q.table → ∀ x, ¬(p.Contains x ∧ q.Contains x) := by
  have h := ensured_of_run hrun
  refine (List.pairwise_map.mp h.distinct).imp_of_mem ?_
  intro p q hp hq hname htable x hx
  obtain ⟨cfg, _, i, _, rfl⟩ := mem_wanted (h.created p hp).1
  obtain ⟨cfg', _, j, _, rfl⟩ := mem_wanted (h.created q hq).1
  rw [contains_partitionOf, contains_partitionOf] at hx
  exact hname (partitionName_inj.mpr ⟨htable, hx.1.symm.trans hx.2⟩)

theorem covered_of_named {x : Date}
    (hrun : ensureFuturePartitions pg today order before = .ok after)
    (hnamed : Named after.relations (partitionName table x.month)) :
    (∃ p ∈ after.created, p.table = table ∧ p.Contains x) ∨ Named before (partitionName table x.month) := by
  have h := ensured_of_run hrun
  by_cases hb : Named before (partitionName table x.month)
  · exact .inr hb
  · left
    obtain ⟨p, hp, hname⟩ := ((h.named _).mp hnamed).resolve_left hb
    obtain ⟨q, hq, hqname⟩ := h.missing p hp (hname ▸ hb)
    obtain ⟨cfg, _, i, _, rfl⟩ := mem_wanted (h.created q hq).1
    obtain ⟨htable, hmonth⟩ := partitionName_inj.mp (hqname.trans hname)
    exact ⟨_, hq, htable, (contains_partitionOf _ _ _).mpr hmonth.symm⟩

end Run

/-- A run leaves no gap exactly if the day it runs on stands in each of the months whose partition was
not there before. -/
theorem future_partitions_iff (m : PartitionManager) (pg : Postgres) (today : Date)
    (order : List PartitionConfig) (before : List Relation) (after : Catalog) (cfg : PartitionConfig)
    (horder : order.Perm m.config) (hcfg : cfg ∈ m.config)
    (hrun : ensureFuturePartitions pg today order before = .ok after) :
    FuturePartitions before after cfg.tableName today cfg.preCreateMonths ↔
      ∀ i ≤ cfg.preCreateMonths, today.day ≤ daysIn (today.month + i) ∨
        Named before (partitionName cfg.tableName (today.month + i)) := by
  have hmem : cfg ∈ order := horder.mem_iff.mpr hcfg
  constructor
  · intro h i hi
    exact (named_after_iff hrun hmem hi).mp (h.exist i hi)
  · intro h
    have hexist : ∀ i ≤ cfg.preCreateMonths,
        Named after.relations (partitionName cfg.tableName (today.month + i)) :=
      fun i hi => (named_after_iff hrun hmem hi).mpr (h i hi)
    refine ⟨hexist, disjoint_created hrun, ?_⟩
    intro x hfrom hto
    refine covered_of_named hrun ?_
    have hx := hexist (x.month - today.month) (by omega)
    rwa [Nat.add_sub_cancel' hfrom] at hx

def januaryRun (d : Date) : Except RepoError Catalog :=
  ensureFuturePartitions .working d newPartitionManager.config []

theorem januaryRun_ok {d : Date} (h : (januaryRun d).toOption.isSome = true) :
    ∃ after, januaryRun d = .ok after := by
  cases hrun : januaryRun d with
  | error e =>
    rw [hrun] at h
    cases h
  | ok after => exact ⟨after, rfl⟩

def midJanuary : Date := ⟨2024 * 12, 15, by decide, by decide⟩

def lateJanuary : Date := ⟨2024 * 12, 31, by decide, by decide⟩

theorem mid_january_leaves_no_gap :
    ∃ after, januaryRun midJanuary = .ok after ∧ FuturePartitions [] after "audit_events" midJanuary 3 := by
  obtain ⟨after, hrun⟩ := januaryRun_ok (d := midJanuary) (by decide)
  refine ⟨after, hrun, ?_⟩
  refine (future_partitions_iff newPartitionManager .working midJanuary newPartitionManager.config [] after
    ⟨"audit_events", 12, 3⟩ (List.Perm.refl _) List.mem_cons_self hrun).mpr ?_
  decide

/-- On 31 January there is no 31 February: the run comes to March twice, and to February not
at all. -/
theorem late_january_skips_february :
    ∃ after, januaryRun lateJanuary = .ok after ∧
      ¬FuturePartitions [] after "audit_events" lateJanuary 3 := by
  obtain ⟨after, hrun⟩ := januaryRun_ok (d := lateJanuary) (by decide)
  refine ⟨after, hrun, ?_⟩
  intro h
  have hcfg : (⟨"audit_events", 12, 3⟩ : PartitionConfig) ∈ newPartitionManager.config := List.mem_cons_self
  have hfebruary := (named_after_iff hrun hcfg (by decide)).mp (h.exist 1 (by decide))
  exact absurd hfebruary (by decide)

end SupplyPlatform.Partitions
