import Mathlib.Algebra.Group.Int.Defs
import Mathlib.Algebra.Group.Nat.Defs
import SupplyPlatform.GatewayHealth

namespace SupplyPlatform.Gateway

open Transition

/-- One call on a router. -/
inductive RouterCall
  | registerProvider (name : String) (provider : OpenAIAdapter) (now : Time)
  | recordResult (providerName : String) (success : Bool) (latencyMs : Int) (now : Time)
  | updateHealth (providerName : String) (available : Bool) (now : Time)
  | selectProvider (order : List String) (random : ℚ) (model : String)

namespace Router

def callStep (r : Router) : RouterCall → Option Router
  | .registerProvider name provider now => some (r.registerProvider name provider now)
  | .recordResult providerName success latencyMs now =>
    some (r.recordResult providerName success latencyMs now)
  | .updateHealth providerName available now => some (r.updateHealth providerName available now)
  | .selectProvider order random model => some (r.selectProvider order random model).1

/-- No latency of 2^60 ms or more is recorded. -/
def ShortLatency (_ : Router) : RouterCall → Prop
  | .recordResult _ _ latencyMs _ => latencyMs < 2 ^ 60
  | _ => True

/-- The candidates for a model in the order in which they are found. -/
def candidates (r : Router) (model : String) (order : List String) : List String :=
  order.filter (fun name => r.isProviderAvailable name model)

/-- A registered provider that is available and supports the model, by its name or by `*`. -/
def Qualifies (r : Router) (model name : String) : Prop :=
  ∃ provider health, r.providers.lookup name = some provider ∧ r.health.lookup name = some health ∧
    health.available = true ∧ (model ∈ provider.supportedModels ∨ "*" ∈ provider.supportedModels)

/-- Of the providers that qualify, this one has the least measure. -/
def Least {β : Type} [LE β] (r : Router) (measure : ProviderHealth → β) (model name : String) : Prop :=
  ∃ health, r.health.lookup name = some health ∧
    ∀ other health', r.Qualifies model other → r.health.lookup other = some health' →
      measure health ≤ measure health'

/-- What `SelectProvider` may answer. -/
structure SelectsWell (r : Router) (model : String) (answer : Except GatewayError String) : Prop where
  qualifies : ∀ name, answer = .ok name → r.Qualifies model name
  latency : ∀ name, answer = .ok name → r.strategy = .latency ∨ (∃ other, r.strategy = .other other) →
    r.Least ProviderHealth.latencyMs model name
  availability : ∀ name, answer = .ok name → r.strategy = .availability →
    r.Least ProviderHealth.failureRate model name
  fails : (∃ err, answer = .error err) ↔ ∀ name, ¬r.Qualifies model name

theorem isProviderAvailable_iff {r : Router} {name model : String} :
    r.isProviderAvailable name model = true ↔ r.Qualifies model name := by
  constructor
  · intro h
    obtain ⟨⟨provider, hp⟩, health, hh⟩ := exists_of_available h
    unfold isProviderAvailable at h
    simp only [hh, hp] at h
    split at h
    next => cases h
    next havailable =>
      obtain ⟨m, hm, heq⟩ := List.any_eq_true.mp h
      refine ⟨provider, health, hp, hh, Bool.not_eq_false _ ▸ havailable, ?_⟩
      rcases Bool.or_eq_true_iff.mp heq with hname | hstar
      · cases of_decide_eq_true hname
        exact .inl hm
      · cases of_decide_eq_true hstar
        exact .inr hm
  · rintro ⟨provider, health, hp, hh, havailable, hm⟩
    rw [isProviderAvailable_eq hp hh hm, havailable]

theorem mem_candidates {r : Router} {order : List String} (h : Maps.Enumerates r.providers order)
    {model name : String} : name ∈ r.candidates model order ↔ r.Qualifies model name := by
  unfold candidates
  rw [List.mem_filter, isProviderAvailable_iff]
  refine ⟨And.right, fun hq => ⟨?_, hq⟩⟩
  obtain ⟨provider, -, hp, -⟩ := hq
  exact h.mem hp

/-- The loop keeps what it came with, or finds the least. -/
theorem selectLeast_spec {β : Type} [LinearOrder β] (r : Router) (measure : ProviderHealth → β)
    (candidates : List String) (least : β) (best : Option String) :
    (r.selectLeast measure candidates least best = best ∧
      ∀ c ∈ candidates, ∀ health, r.health.lookup c = some health → least ≤ measure health) ∨
    ∃ name health, r.selectLeast measure candidates least best = some name ∧ name ∈ candidates ∧
      r.health.lookup name = some health ∧ measure health < least ∧
      ∀ c ∈ candidates, ∀ health', r.health.lookup c = some health' →
        measure health ≤ measure health' := by
  induction candidates generalizing least best with
  | nil => exact .inl ⟨rfl, nofun⟩
  | cons c rest ih =>
    cases hc : r.health.lookup c with
    | none =>
      have hskip : r.selectLeast measure (c :: rest) least best = r.selectLeast measure rest least best := by
        simp only [selectLeast, hc]
      rw [hskip]
      rcases ih least best with ⟨heq, hall⟩ | ⟨name, health, heq, hmem, hname, hlt, hall⟩
      · refine .inl ⟨heq, List.forall_mem_cons.mpr ⟨fun health hh => ?_, hall⟩⟩
        rw [hc] at hh
        cases hh
      · refine .inr ⟨name, health, heq, List.mem_cons_of_mem _ hmem, hname, hlt,
          List.forall_mem_cons.mpr ⟨fun health hh => ?_, hall⟩⟩
        rw [hc] at hh
        cases hh
    | some found =>
      have hself : ∀ health, r.health.lookup c = some health → health = found := by
        intro health hh
        exact Option.some.inj (hh.symm.trans hc)
      by_cases hless : measure found < least
      · have htake : r.selectLeast measure (c :: rest) least best =
            r.selectLeast measure rest (measure found) (some c) := by
          simp only [selectLeast, hc, if_pos hless]
        rw [htake]
        rcases ih (measure found) (some c) with ⟨heq, hall⟩ | ⟨name, health, heq, hmem, hname, hlt, hall⟩
        · refine .inr ⟨c, found, heq, List.mem_cons_self, hc, hless,
            List.forall_mem_cons.mpr ⟨fun health hh => ?_, hall⟩⟩
          rw [hself health hh]
        · refine .inr ⟨name, health, heq, List.mem_cons_of_mem _ hmem, hname, hlt.trans hless,
            List.forall_mem_cons.mpr ⟨fun health' hh => ?_, hall⟩⟩
          rw [hself health' hh]
          exact hlt.le
      · have hkeep : r.selectLeast measure (c :: rest) least best =
            r.selectLeast measure rest least best := by
          simp only [selectLeast, hc, if_neg hless]
        rw [hkeep]
        rcases ih least best with ⟨heq, hall⟩ | ⟨name, health, heq, hmem, hname, hlt, hall⟩
        · refine .inl ⟨heq, List.forall_mem_cons.mpr ⟨fun health hh => ?_, hall⟩⟩
          rw [hself health hh]
          exact not_lt.mp hless
        · refine .inr ⟨name, health, heq, List.mem_cons_of_mem _ hmem, hname, hlt,
            List.forall_mem_cons.mpr ⟨fun health' hh => ?_, hall⟩⟩
          rw [hself health' hh]
          exact hlt.le.trans (not_lt.mp hless)

section

variable {r : Router} {order : List String} {model : String}

/-- Where every measure is below what the loop starts with, the least is found. -/
theorem selectLeast_least {β : Type} [LinearOrder β] (h : Maps.Enumerates r.providers order)
    (measure : ProviderHealth → β) {sentinel : β}
    (hbelow : ∀ name health, r.health.lookup name = some health → measure health < sentinel)
    (hne : r.candidates model order ≠ []) :
    ∃ name, r.selectLeast measure (r.candidates model order) sentinel none = some name ∧
      r.Least measure model name := by
  rcases r.selectLeast_spec measure (r.candidates model order) sentinel none with
    ⟨-, hall⟩ | ⟨name, health, heq, -, hname, -, hall⟩
  · obtain ⟨c, hc⟩ := List.exists_mem_of_ne_nil _ hne
    obtain ⟨-, health, hh⟩ := exists_of_available (List.mem_filter.mp hc).2
    exact absurd (hbelow c health hh) (not_lt.mpr (hall c hc health hh))
  · refine ⟨name, heq, health, hname, fun other health' hother hother' => ?_⟩
    exact hall other ((mem_candidates h).mpr hother) health' hother'

theorem selectByRoundRobin_ok {candidates : List String} (hne : candidates ≠ []) :
    ∃ name, (r.selectByRoundRobin candidates).2 = .ok name := by
  have hlt : r.roundRobinCounter.toNat % candidates.length < candidates.length :=
    Nat.mod_lt _ (List.length_pos_iff.mpr hne)
  unfold selectByRoundRobin
  rw [List.getElem?_eq_getElem hlt]
  exact ⟨_, rfl⟩

theorem selectByWeight_ok (random : ℚ) {candidates : List String} (hne : candidates ≠ []) :
    ∃ name, r.selectByWeight random candidates = .ok name := by
  unfold selectByWeight
  dsimp only
  split
  next name _ => exact ⟨name, rfl⟩
  next =>
    cases candidates with
    | nil => exact absurd rfl hne
    | cons c rest => exact ⟨c, rfl⟩

end

/-- What is recorded of a provider is far below what the loops start with. -/
structure Bounded (r : Router) : Prop where
  latency : ∀ name health, r.health.lookup name = some health →
    0 ≤ health.latencyMs ∧ health.latencyMs < 2 ^ 60
  failureRate : ∀ name health, r.health.lookup name = some health →
    0 ≤ health.failureRate ∧ health.failureRate ≤ 1

theorem recordLatency_bounded {health : ProviderHealth} {latencyMs : Int}
    (h : 0 ≤ health.latencyMs ∧ health.latencyMs < 2 ^ 60) (hlt : latencyMs < 2 ^ 60) :
    0 ≤ health.recordLatency latencyMs ∧ health.recordLatency latencyMs < 2 ^ 60 := by
  unfold ProviderHealth.recordLatency
  split
  next hpos =>
    split
    next => exact ⟨hpos.le, hlt⟩
    next =>
      have hfits : Int.bmod (health.latencyMs * 7 + latencyMs) (2 ^ 64) = health.latencyMs * 7 + latencyMs :=
        Int.bmod_eq_of_le (by omega) (by omega)
      rw [hfits, Int.tdiv_eq_ediv_of_nonneg (by omega)]
      omega
  next => exact h

theorem recordRate_bounded {rate : ℚ} (h : 0 ≤ rate ∧ rate ≤ 1) (success : Bool) :
    0 ≤ ProviderHealth.recordRate rate success ∧ ProviderHealth.recordRate rate success ≤ 1 := by
  cases success with
  | true =>
    obtain ⟨h0, hhalf⟩ := ProviderHealth.recordRate_success h.2
    exact ⟨h0, hhalf.trans (by norm_num)⟩
  | false =>
    rw [ProviderHealth.recordRate_failure h.2]
    exact ⟨by linarith [h.1], by linarith [h.2]⟩

theorem Bounded.insert {r : Router} (h : r.Bounded) {name : String} {health : ProviderHealth}
    (hlatency : 0 ≤ health.latencyMs ∧ health.latencyMs < 2 ^ 60)
    (hrate : 0 ≤ health.failureRate ∧ health.failureRate ≤ 1) {t : Router}
    (ht : t.health = r.health.insert name health) : t.Bounded := by
  constructor
  · rw [ht]
    exact Maps.forall_lookup_insert h.latency hlatency
  · rw [ht]
    exact Maps.forall_lookup_insert h.failureRate hrate

theorem Bounded.step {r t : Router} {c : RouterCall} (h : r.Bounded) (hok : ShortLatency r c)
    (hs : r.callStep c = some t) : t.Bounded := by
  cases c with
  | registerProvider name provider now =>
    cases hs
    exact h.insert ⟨le_refl _, by norm_num⟩ ⟨le_refl _, by norm_num⟩ rfl
  | recordResult providerName success latencyMs now =>
    cases hs
    unfold recordResult
    cases hh : r.health.lookup providerName with
    | none => exact h
    | some health =>
      exact h.insert (recordLatency_bounded (h.latency _ _ hh) hok)
        (recordRate_bounded (h.failureRate _ _ hh) success) rfl
  | updateHealth providerName available now =>
    cases hs
    unfold updateHealth
    cases hh : r.health.lookup providerName with
    | none => exact h
    | some health =>
      have hlatency := h.latency _ _ hh
      have hrate := h.failureRate _ _ hh
      refine h.insert ?_ ?_ rfl
      · exact hlatency
      · exact hrate
  | selectProvider order random model =>
    cases hs
    have hhealth := (r.selectProvider_router order random model).2
    exact ⟨by rw [hhealth]; exact h.latency, by rw [hhealth]; exact h.failureRate⟩

theorem bounded_of_reach {strategy : LoadBalancerStrategy} {r : Router}
    (h : Reach callStep ShortLatency (newRouter strategy) r) : r.Bounded :=
  h.invariant (I := Bounded) ⟨nofun, nofun⟩ (fun _ _ _ hb hok hs => hb.step hok hs)

theorem Bounded.selectByLatency_ok {r : Router} (h : r.Bounded) {order : List String} {model : String}
    (horder : Maps.Enumerates r.providers order)
    (hne : r.candidates model order ≠ []) :
    ∃ name, r.selectByLatency (r.candidates model order) = .ok name ∧
      r.Least ProviderHealth.latencyMs model name := by
  have hbelow : ∀ name health, r.health.lookup name = some health → health.latencyMs < maxInt64 := by
    intro name health hh
    have hlt := (h.latency name health hh).2
    unfold maxInt64
    omega
  obtain ⟨name, hleast, hname⟩ := selectLeast_least horder ProviderHealth.latencyMs hbelow hne
  exact ⟨name, by simp only [selectByLatency, hleast], hname⟩

theorem Bounded.selectByAvailability_ok {r : Router} (h : r.Bounded) {order : List String} {model : String}
    (horder : Maps.Enumerates r.providers order)
    (hne : r.candidates model order ≠ []) :
    ∃ name, r.selectByAvailability (r.candidates model order) = .ok name ∧
      r.Least ProviderHealth.failureRate model name := by
  have hsentinel : (1 : ℚ) < maxFloat64 := by
    have hlarge : (1 : ℚ) ≤ 2 ^ 971 := one_le_pow₀ (by norm_num)
    calc (1 : ℚ) < 2 ^ 53 - 1 := by norm_num
      _ ≤ (2 ^ 53 - 1) * 2 ^ 971 := le_mul_of_one_le_right (by norm_num) hlarge
  have hbelow : ∀ name health, r.health.lookup name = some health → health.failureRate < maxFloat64 :=
    fun name health hh => (h.failureRate name health hh).2.trans_lt hsentinel
  obtain ⟨name, hleast, hname⟩ := selectLeast_least horder ProviderHealth.failureRate hbelow hne
  exact ⟨name, by simp only [selectByAvailability, hleast], hname⟩

/-- A provider that qualifies is selected, by the measure of the strategy. -/
theorem Bounded.selectProvider_ok {r : Router} (h : r.Bounded) {order : List String}
    (horder : Maps.Enumerates r.providers order) (random : ℚ) {model : String}
    (hne : r.candidates model order ≠ []) :
    ∃ name, (r.selectProvider order random model).2 = .ok name ∧
      (r.strategy = .latency ∨ (∃ other, r.strategy = .other other) →
        r.Least ProviderHealth.latencyMs model name) ∧
      (r.strategy = .availability → r.Least ProviderHealth.failureRate model name) := by
  have hlatency := h.selectByLatency_ok horder hne
  have havailability := h.selectByAvailability_ok horder hne
  unfold candidates at hne hlatency havailability
  unfold selectProvider
  generalize order.filter (fun name => r.isProviderAvailable name model) = found at *
  cases found with
  | nil => exact absurd rfl hne
  | cons first rest =>
    cases r.strategy with
    | latency =>
      obtain ⟨name, heq, hleast⟩ := hlatency
      exact ⟨name, heq, fun _ => hleast, nofun⟩
    | roundRobin =>
      obtain ⟨name, heq⟩ := selectByRoundRobin_ok (r := r) hne
      refine ⟨name, heq, ?_, nofun⟩
      rintro (hs | ⟨_, hs⟩)
      · cases hs
      · cases hs
    | weighted =>
      obtain ⟨name, heq⟩ := selectByWeight_ok (r := r) random hne
      refine ⟨name, heq, ?_, nofun⟩
      rintro (hs | ⟨_, hs⟩)
      · cases hs
      · cases hs
    | availability =>
      obtain ⟨name, heq, hleast⟩ := havailability
      refine ⟨name, heq, ?_, fun _ => hleast⟩
      rintro (hs | ⟨_, hs⟩)
      · cases hs
      · cases hs
    | other text =>
      obtain ⟨name, heq, hleast⟩ := hlatency
      exact ⟨name, heq, fun _ => hleast, nofun⟩

/-- Whatever has been registered and recorded, in whatever order the map is gone over, and whatever is
drawn, `SelectProvider` selects well. -/
theorem selectProvider_selectsWell {strategy : LoadBalancerStrategy} {r : Router}
    (h : Reach callStep ShortLatency (newRouter strategy) r) {order : List String}
    (horder : Maps.Enumerates r.providers order) (random : ℚ) (model : String) :
    r.SelectsWell model (r.selectProvider order random model).2 := by
  have hbounded := bounded_of_reach h
  have hqualifies : ∀ name, (r.selectProvider order random model).2 = .ok name → r.Qualifies model name :=
    fun name hname => isProviderAvailable_iff.mp (selectProvider_available hname)
  by_cases hne : r.candidates model order = []
  · have hnone : ∀ name, ¬r.Qualifies model name := by
      intro name hname
      have hmem := (mem_candidates horder).mpr hname
      rw [hne] at hmem
      cases hmem
    have herror : ∃ err, (r.selectProvider order random model).2 = .error err := by
      unfold candidates at hne
      simp only [selectProvider, hne]
      exact ⟨_, rfl⟩
    refine ⟨hqualifies, fun name hname => absurd (hqualifies name hname) (hnone name),
      fun name hname => absurd (hqualifies name hname) (hnone name), ⟨fun _ => hnone, fun _ => herror⟩⟩
  · obtain ⟨name, hname, hlatency, havailability⟩ := hbounded.selectProvider_ok horder random hne
    have hsame : ∀ name', (r.selectProvider order random model).2 = .ok name' → name' = name :=
      fun name' hname' => Except.ok.inj (hname'.symm.trans hname)
    refine ⟨hqualifies, fun name' hname' hs => ?_, fun name' hname' hs => ?_, ⟨?_, ?_⟩⟩
    · rw [hsame name' hname']
      exact hlatency hs
    · rw [hsame name' hname']
      exact havailability hs
    · rintro ⟨err, herr⟩
      rw [hname] at herr
      cases herr
    · intro hnone
      exact absurd (hqualifies name hname) (hnone name)

/-- Two providers for one model, one of which answers slowly. -/
def sampleCalls : List RouterCall :=
  [.registerProvider "a" ⟨"https://api.openai.com", "", ["gpt-4"]⟩ 0,
    .registerProvider "b" ⟨"https://api.openai.com", "", ["*"]⟩ 0, .recordResult "a" true 250 0]

def sampleMeasured : Router :=
  (((newRouter .latency).registerProvider "a" ⟨"https://api.openai.com", "", ["gpt-4"]⟩ 0).registerProvider
    "b" ⟨"https://api.openai.com", "", ["*"]⟩ 0).recordResult "a" true 250 0

theorem sampleMeasured_selectsWell :
    sampleMeasured.SelectsWell "gpt-4" (sampleMeasured.selectProvider ["a", "b"] 0 "gpt-4").2 := by
  have hreach : Reach callStep ShortLatency (newRouter .latency) sampleMeasured := by
    have hexec : exec callStep (newRouter .latency) sampleCalls = some sampleMeasured := rfl
    refine reach_of_exec_of hexec (fun s c hc => ?_)
    simp only [sampleCalls, List.mem_cons, List.not_mem_nil, or_false] at hc
    rcases hc with rfl | rfl | rfl
    · trivial
    · trivial
    · exact (by decide : (250 : Int) < 2 ^ 60)
  exact selectProvider_selectsWell hreach ⟨by decide, by decide⟩ 0 "gpt-4"

end Router

end SupplyPlatform.Gateway
