import Mathlib.Algebra.Group.Nat.Defs
import Mathlib.Data.List.Rotate
import SupplyPlatform.GatewaySelection

namespace SupplyPlatform.Gateway.Router

/-- The answers of calls of `SelectProvider` in a row, each with the order in which it goes over the
providers. -/
def answers (r : Router) (random : ℚ) (model : String) :
    List (List String) → List (Except GatewayError String)
  | [] => []
  | order :: orders =>
    (r.selectProvider order random model).2 ::
      answers (r.selectProvider order random model).1 random model orders

/-- How many providers qualify. -/
def qualifying (r : Router) (model : String) : Nat :=
  (r.providers.keys.filter (fun name => r.isProviderAvailable name model)).card

/-- Each provider that qualifies is in exactly one answer. -/
def EachOnce (r : Router) (model : String) (answered : List (Except GatewayError String)) : Prop :=
  ∀ name, r.Qualifies model name → ∃! i : Nat, answered[i]? = some (.ok name)

/-- In whatever orders the map is gone over, as many calls as there are providers give each once. -/
def TakesTurns (r : Router) (model : String) : Prop :=
  ∀ random orders, orders.length = r.qualifying model →
    (∀ order ∈ orders, Maps.Enumerates r.providers order) →
    r.EachOnce model (r.answers random model orders)

section

variable {r : Router} {model name : String} {order : List String}

theorem length_candidates (h : Maps.Enumerates r.providers order) :
    (r.candidates model order).length = r.qualifying model := by
  unfold candidates qualifying
  rw [← h.complete, ← List.toFinset_filter, List.toFinset_card_of_nodup (h.nodup.filter _)]

theorem selectProvider_roundRobin (random : ℚ) (hs : r.strategy = .roundRobin)
    (h : (r.candidates model order)[r.roundRobinCounter.toNat % (r.candidates model order).length]? =
      some name) :
    r.selectProvider order random model =
      ({ r with roundRobinCounter := r.roundRobinCounter + 1 }, .ok name) := by
  unfold candidates at h
  unfold selectProvider
  generalize order.filter (fun name => r.isProviderAvailable name model) = found at *
  cases found with
  | nil => cases h
  | cons first rest => simp only [hs, selectByRoundRobin, h]

theorem next_index (counter : UInt64) (i : Nat) :
    ((counter + 1).toNat + i) % 2 ^ 64 = (counter.toNat + (i + 1)) % 2 ^ 64 := by
  rw [UInt64.toNat_add, UInt64.toNat_one]
  omega

/-- The counter decides the place, the order of the call what stands there. -/
theorem getElem?_answers (random : ℚ) {k : Nat} (hk : 0 < k) (hs : r.strategy = .roundRobin)
    {orders : List (List String)}
    (horders : ∀ order ∈ orders, (r.candidates model order).length = k) {i : Nat}
    (hi : orders[i]? = some order) :
    (r.answers random model orders)[i]? =
      ((r.candidates model order)[(r.roundRobinCounter.toNat + i) % 2 ^ 64 % k]?).map .ok := by
  induction orders generalizing r i with
  | nil => cases hi
  | cons first rest ih =>
    obtain ⟨hfirst, hrest⟩ := List.forall_mem_cons.mp horders
    have hlt : r.roundRobinCounter.toNat % (r.candidates model first).length <
        (r.candidates model first).length := Nat.mod_lt _ (hfirst ▸ hk)
    have hcall := selectProvider_roundRobin random hs (List.getElem?_eq_getElem hlt)
    rw [answers, hcall]
    cases i with
    | zero =>
      cases hi
      have hindex : (r.roundRobinCounter.toNat + 0) % 2 ^ 64 % k =
          r.roundRobinCounter.toNat % (r.candidates model order).length := by
        rw [Nat.add_zero, Nat.mod_eq_of_lt (UInt64.toNat_lt _), hfirst]
      rw [hindex, List.getElem?_eq_getElem hlt]
      rfl
    | succ i =>
      rw [List.getElem?_cons_succ,
        ih (r := { r with roundRobinCounter := r.roundRobinCounter + 1 }) hs hrest hi, next_index]
      rfl

/-- A candidate can stand at any place. -/
theorem exists_enumerates_at (h : Maps.Enumerates r.providers order)
    (hname : name ∈ r.candidates model order) {j : Nat} (hj : j < (r.candidates model order).length) :
    ∃ order', Maps.Enumerates r.providers order' ∧ (r.candidates model order')[j]? = some name := by
  let moved := ((r.candidates model order).erase name).insertIdx j name
  let order' := moved ++ order.filter (fun name => !r.isProviderAvailable name model)
  have hplace : j ≤ ((r.candidates model order).erase name).length := by
    rw [List.length_erase_of_mem hname]
    omega
  have hmoved : moved.Perm (r.candidates model order) :=
    (List.perm_insertIdx name _ hplace).trans (List.perm_cons_erase hname).symm
  have hperm : order'.Perm order :=
    (hmoved.append_right _).trans (List.filter_append_perm _ order)
  have hcandidates : r.candidates model order' = moved := by
    have hin : moved.filter (fun name => r.isProviderAvailable name model) = moved := by
      rw [List.filter_eq_self]
      intro other hother
      exact (List.mem_filter.mp (hmoved.mem_iff.mp hother)).2
    have hout : (order.filter (fun name => !r.isProviderAvailable name model)).filter
        (fun name => r.isProviderAvailable name model) = [] := by
      rw [List.filter_filter, List.filter_eq_nil_iff]
      simp
    show (moved ++ _).filter _ = moved
    rw [List.filter_append, hin, hout, List.append_nil]
  refine ⟨order', h.perm hperm, ?_⟩
  rw [hcandidates, List.getElem?_insertIdx_self, if_pos hplace]

theorem length_answers (r : Router) (random : ℚ) (model : String) (orders : List (List String)) :
    (r.answers random model orders).length = orders.length := by
  induction orders generalizing r with
  | nil => rfl
  | cons order orders ih => rw [answers, List.length_cons, List.length_cons, ih]

/-- With one order for all calls the providers take turns, until the counter starts again at 0. -/
theorem eachOnce_of_same_order (hs : r.strategy = .roundRobin) (h : Maps.Enumerates r.providers order)
    (hfits : r.roundRobinCounter.toNat + r.qualifying model ≤ 2 ^ 64) (random : ℚ) :
    r.EachOnce model (r.answers random model (List.replicate (r.qualifying model) order)) := by
  intro name hname
  let turns := (r.candidates model order).rotate r.roundRobinCounter.toNat
  have hmem : name ∈ turns := List.mem_rotate.mpr ((mem_candidates h).mpr hname)
  have hnodup : turns.Nodup := List.nodup_rotate.mpr (h.nodup.filter _)
  have hlength : (r.candidates model order).length = r.qualifying model := length_candidates h
  have hanswers : ∀ i : Nat, (r.answers random model (List.replicate (r.qualifying model) order))[i]? =
      turns[i]?.map Except.ok := by
    intro i
    by_cases hi : i < r.qualifying model
    · have hindex : (r.roundRobinCounter.toNat + i) % 2 ^ 64 % r.qualifying model =
          (i + r.roundRobinCounter.toNat) % (r.candidates model order).length := by
        have hbelow : r.roundRobinCounter.toNat + i < 2 ^ 64 := by omega
        rw [Nat.mod_eq_of_lt hbelow, hlength, Nat.add_comm]
      have hsame : ∀ order' ∈ List.replicate (r.qualifying model) order,
          (r.candidates model order').length = r.qualifying model := by
        intro order' horder'
        rw [List.eq_of_mem_replicate horder']
        exact hlength
      have hcall := getElem?_answers random (Nat.zero_lt_of_lt hi) hs hsame
        (List.getElem?_replicate_of_lt hi)
      rw [hcall, hindex, ← List.getElem?_rotate (hlength ▸ hi)]
    · have hleft : (r.answers random model (List.replicate (r.qualifying model) order)).length ≤ i := by
        rw [length_answers, List.length_replicate]
        exact Nat.not_lt.mp hi
      have hright : turns.length ≤ i := by
        rw [List.length_rotate, hlength]
        exact Nat.not_lt.mp hi
      rw [List.getElem?_eq_none hleft, List.getElem?_eq_none hright]
      rfl
  obtain ⟨i, hi⟩ := List.mem_iff_getElem?.mp hmem
  refine ⟨i, by dsimp only; rw [hanswers, hi]; rfl, fun j hj => ?_⟩
  dsimp only at hj
  rw [hanswers] at hj
  obtain ⟨other, hother, heq⟩ := Option.map_eq_some_iff.mp hj
  cases heq
  have hj' : j < turns.length := (List.getElem?_eq_some_iff.mp hother).1
  exact (List.getElem?_inj hj' hnodup).mp (hother.trans hi.symm)

end

/-- Of one provider or none, a call gives each. -/
theorem takesTurns_of_le_one {r : Router} {model : String} (hs : r.strategy = .roundRobin)
    (h : r.qualifying model ≤ 1) : r.TakesTurns model := by
  intro random orders hlength horders
  have hfits : r.roundRobinCounter.toNat + r.qualifying model ≤ 2 ^ 64 := by
    have := UInt64.toNat_lt r.roundRobinCounter
    omega
  -- the calls, one at most, are in one order
  obtain ⟨order, horder, rfl⟩ : ∃ order, Maps.Enumerates r.providers order ∧
      orders = List.replicate (r.qualifying model) order := by
    cases orders with
    | nil =>
      obtain ⟨order, horder⟩ := Maps.exists_enumerates r.providers
      exact ⟨order, horder, by rw [← hlength]; rfl⟩
    | cons order rest =>
      have hrest : rest = [] := List.eq_nil_of_length_eq_zero (by
        rw [List.length_cons] at hlength
        omega)
      subst hrest
      exact ⟨order, horders order List.mem_cons_self, by rw [← hlength]; rfl⟩
  exact eachOnce_of_same_order hs horder hfits random

/-- Of two providers or more, the orders of the calls can bring one of them twice. -/
theorem not_takesTurns {r : Router} {model : String} (hs : r.strategy = .roundRobin)
    (h : 1 < r.qualifying model) : ¬r.TakesTurns model := by
  intro hturns
  obtain ⟨order, horder⟩ := Maps.exists_enumerates r.providers
  have hpos : 0 < r.qualifying model := Nat.lt_trans Nat.zero_lt_one h
  have hplace : ∀ i, i % r.qualifying model < (r.candidates model order).length := by
    intro i
    rw [length_candidates horder]
    exact Nat.mod_lt _ hpos
  -- the second call finds at its place the provider of the first
  have hfirst := List.getElem?_eq_getElem (hplace ((r.roundRobinCounter.toNat + 0) % 2 ^ 64))
  have hmem := List.mem_of_getElem? hfirst
  obtain ⟨order', horder', hsecond⟩ := exists_enumerates_at horder hmem
    (hplace ((r.roundRobinCounter.toNat + 1) % 2 ^ 64))
  let orders := order :: order' :: List.replicate (r.qualifying model - 2) order
  have horders : ∀ o ∈ orders, Maps.Enumerates r.providers o := by
    intro o ho
    rcases List.mem_cons.mp ho with rfl | ho
    · exact horder
    rcases List.mem_cons.mp ho with rfl | ho
    · exact horder'
    · rw [List.eq_of_mem_replicate ho]
      exact horder
  have hcount : ∀ o ∈ orders, (r.candidates model o).length = r.qualifying model :=
    fun o ho => length_candidates (horders o ho)
  have hcalls : orders.length = r.qualifying model := by
    simp only [orders, List.length_cons, List.length_replicate]
    omega
  have hanswer0 := getElem?_answers 0 hpos hs hcount (show orders[0]? = some order from rfl)
  have hanswer1 := getElem?_answers 0 hpos hs hcount (show orders[1]? = some order' from rfl)
  rw [hfirst] at hanswer0
  rw [hsecond] at hanswer1
  obtain ⟨i, -, hunique⟩ := hturns 0 orders hcalls horders _ ((mem_candidates horder).mp hmem)
  have h01 : 0 = 1 := (hunique 0 hanswer0).trans (hunique 1 hanswer1).symm
  cases h01

/-- Round robin takes turns in every order exactly of one provider or none, and of more while the map is
gone over in one order and the counter does not start again. -/
theorem takesTurns_iff (r : Router) (model : String) (hs : r.strategy = .roundRobin) :
    (r.TakesTurns model ↔ r.qualifying model ≤ 1) ∧
    ∀ random order, Maps.Enumerates r.providers order →
      r.roundRobinCounter.toNat + r.qualifying model ≤ 2 ^ 64 →
      r.EachOnce model (r.answers random model (List.replicate (r.qualifying model) order)) := by
  refine ⟨⟨fun hturns => ?_, takesTurns_of_le_one hs⟩, ?_⟩
  · by_contra hmany
    exact not_takesTurns hs (Nat.not_le.mp hmany) hturns
  · exact fun random order horder hfits => eachOnce_of_same_order hs horder hfits random

/-- Two providers for one model. -/
def sampleTurns : Router :=
  ((newRouter .roundRobin).registerProvider "a" ⟨"https://api.openai.com", "", ["gpt-4"]⟩ 0).registerProvider
    "b" ⟨"https://api.openai.com", "", ["gpt-4"]⟩ 0

theorem sampleTurns_enumerates (order : List String) (h : order = ["a", "b"] ∨ order = ["b", "a"]) :
    Maps.Enumerates sampleTurns.providers order := by
  rcases h with rfl | rfl
  · exact ⟨by decide, by decide⟩
  · exact ⟨by decide, by decide⟩

theorem sampleTurns_takesTurns_iff :
    (sampleTurns.TakesTurns "gpt-4" ↔ sampleTurns.qualifying "gpt-4" ≤ 1) ∧
    ∀ random order, Maps.Enumerates sampleTurns.providers order →
      sampleTurns.roundRobinCounter.toNat + sampleTurns.qualifying "gpt-4" ≤ 2 ^ 64 →
      sampleTurns.EachOnce "gpt-4"
        (sampleTurns.answers random "gpt-4" (List.replicate (sampleTurns.qualifying "gpt-4") order)) :=
  takesTurns_iff sampleTurns "gpt-4" rfl

/-- The second call goes over the map the other way round and gives the same provider again. -/
theorem sampleTurns_gives_one_twice :
    sampleTurns.qualifying "gpt-4" = 2 ∧
    sampleTurns.answers 0 "gpt-4" [["a", "b"], ["b", "a"]] = [.ok "a", .ok "a"] ∧
    ¬sampleTurns.TakesTurns "gpt-4" := by
  have htwo : sampleTurns.qualifying "gpt-4" = 2 := by decide
  have hanswers : sampleTurns.answers 0 "gpt-4" [["a", "b"], ["b", "a"]] = [.ok "a", .ok "a"] := by
    decide
  refine ⟨htwo, hanswers, fun hturns => ?_⟩
  have hqualifies : sampleTurns.Qualifies "gpt-4" "a" := isProviderAvailable_iff.mp (by decide)
  have horders : ∀ order ∈ [["a", "b"], ["b", "a"]], Maps.Enumerates sampleTurns.providers order := by
    intro order horder
    refine sampleTurns_enumerates order ?_
    simpa using horder
  obtain ⟨i, -, hunique⟩ := hturns 0 [["a", "b"], ["b", "a"]] htwo.symm horders "a" hqualifies
  rw [hanswers] at hunique
  have h01 : 0 = 1 := (hunique 0 rfl).trans (hunique 1 rfl).symm
  cases h01

end SupplyPlatform.Gateway.Router
