import SupplyPlatform.GatewayRouter

namespace SupplyPlatform.Gateway

open Transition

/-- A call of `RecordResult`. -/
structure Result where
  providerName : String
  success : Bool
  latencyMs : Int
  now : Time
  deriving DecidableEq

/-- The failure rate is a rate, and it alone decides whether the provider is available. -/
structure ProviderHealth.Follows (health : ProviderHealth) : Prop where
  nonneg : 0 ≤ health.failureRate
  le_one : health.failureRate ≤ 1
  available : health.available = true ↔ health.failureRate ≤ 1 / 2

namespace Router

def recordStep (r : Router) (c : Result) : Option Router :=
  some (r.recordResult c.providerName c.success c.latencyMs c.now)

/-- The provider's health follows its failure rate, and so does whether it is a candidate for the models
it supports. -/
def FollowsRate (name : String) (r : Router) : Prop :=
  ∃ provider health, r.providers.lookup name = some provider ∧ r.health.lookup name = some health ∧
    health.Follows ∧
    ∀ model, model ∈ provider.supportedModels ∨ "*" ∈ provider.supportedModels →
      (r.isProviderAvailable name model = true ↔ health.failureRate ≤ 1 / 2)

/-- The call is not a success of a provider that has been marked as unavailable. -/
def NotRecovering (name : String) (r : Router) (c : Result) : Prop :=
  c.providerName = name → c.success = true →
    ∀ health, r.health.lookup name = some health → health.available = true

theorem isProviderAvailable_eq {r : Router} {name model : String} {provider : OpenAIAdapter}
    {health : ProviderHealth} (hp : r.providers.lookup name = some provider)
    (hh : r.health.lookup name = some health)
    (hm : model ∈ provider.supportedModels ∨ "*" ∈ provider.supportedModels) :
    r.isProviderAvailable name model = health.available := by
  have hany : provider.supportedModels.any (fun m => m = model || m = "*") = true := by
    rw [List.any_eq_true]
    rcases hm with hm | hm
    · exact ⟨model, hm, by simp⟩
    · exact ⟨"*", hm, by simp⟩
  cases hav : health.available with
  | false => simp [isProviderAvailable, hh, hav]
  | true => simp only [isProviderAvailable, hh, hav, hp, hany, Bool.true_eq_false, if_false]

theorem FollowsRate.of_health {r : Router} {name : String} {provider : OpenAIAdapter}
    {health : ProviderHealth} (hp : r.providers.lookup name = some provider)
    (hh : r.health.lookup name = some health) (h : health.Follows) : FollowsRate name r := by
  refine ⟨provider, health, hp, hh, h, fun model hm => ?_⟩
  rw [isProviderAvailable_eq hp hh hm]
  exact h.available

theorem recordResult_of_ne {r : Router} {recorded name : String} (hne : recorded ≠ name) (success : Bool)
    (latencyMs : Int) (now : Time) :
    (r.recordResult recorded success latencyMs now).health.lookup name = r.health.lookup name := by
  unfold recordResult
  split
  · rfl
  · exact Finmap.lookup_insert_of_ne _ hne.symm

theorem recordResult_self {r : Router} {name : String} {health : ProviderHealth}
    (hh : r.health.lookup name = some health) (success : Bool) (latencyMs : Int) (now : Time) :
    (r.recordResult name success latencyMs now).health.lookup name =
      some (health.record success latencyMs now) := by
  simp only [recordResult, hh]
  exact Finmap.lookup_insert _

@[simp] theorem recordResult_providers (r : Router) (name : String) (success : Bool) (latencyMs : Int)
    (now : Time) : (r.recordResult name success latencyMs now).providers = r.providers := by
  unfold recordResult
  split
  · rfl
  · rfl

end Router

namespace ProviderHealth

theorem recordRate_success {rate : ℚ} (h1 : rate ≤ 1) :
    0 ≤ recordRate rate true ∧ recordRate rate true ≤ 1 / 2 := by
  simp only [recordRate, if_true]
  split
  · exact ⟨le_refl _, by norm_num⟩
  · exact ⟨by linarith, by linarith⟩

theorem recordRate_failure {rate : ℚ} (h1 : rate ≤ 1) :
    recordRate rate false = rate * (9 / 10) + 1 / 10 := by
  simp only [recordRate, Bool.false_eq_true, if_false]
  rw [if_neg]
  linarith

/-- A failure, and a success while the provider is available. -/
theorem Follows.record {health : ProviderHealth} (h : health.Follows) {success : Bool}
    (hok : success = true → health.available = true) (latencyMs : Int) (now : Time) :
    (health.record success latencyMs now).Follows := by
  obtain ⟨h0, h1, hav⟩ := h
  cases success with
  | true =>
    obtain ⟨hr0, hr1⟩ := recordRate_success h1
    have hle : ¬1 / 2 < recordRate health.failureRate true := not_lt.mpr hr1
    refine ⟨hr0, by simp only [ProviderHealth.record]; linarith, ?_⟩
    simp only [ProviderHealth.record, if_neg hle, hok rfl, true_iff]
    exact hr1
  | false =>
    have hr := recordRate_failure h1
    refine ⟨?_, ?_, ?_⟩
    · simp only [ProviderHealth.record, hr]; linarith
    · simp only [ProviderHealth.record, hr]; linarith
    · simp only [ProviderHealth.record]
      split
      next hlt => simpa using hlt
      next hle =>
        -- what is still at most a half was at most a half before
        have hle' := not_lt.mp hle
        rw [hr] at hle'
        have hbefore : health.failureRate ≤ 1 / 2 := by linarith
        exact ⟨fun _ => not_lt.mp hle, fun _ => hav.mpr hbefore⟩

/-- A success brings the rate down, and the entry stays unavailable. -/
theorem Follows.not_follows_success {health : ProviderHealth} (h : health.Follows)
    (hav : health.available = false) (latencyMs : Int) (now : Time) :
    ¬(health.record true latencyMs now).Follows := by
  intro hf
  obtain ⟨_, hr1⟩ := recordRate_success h.le_one
  have hle : ¬1 / 2 < recordRate health.failureRate true := not_lt.mpr hr1
  have hav' : (health.record true latencyMs now).available = true := hf.available.mpr hr1
  simp only [ProviderHealth.record, if_neg hle, hav] at hav'
  cases hav'

end ProviderHealth

namespace Router

theorem FollowsRate.step {name : String} {r t : Router} {c : Result} (h : FollowsRate name r)
    (hok : NotRecovering name r c) (hs : recordStep r c = some t) : FollowsRate name t := by
  obtain ⟨provider, health, hp, hh, hf, -⟩ := h
  cases hs
  by_cases hn : c.providerName = name
  · subst hn
    refine .of_health (by simpa using hp) (recordResult_self hh _ _ _) (hf.record ?_ _ _)
    exact fun hsucc => hok rfl hsucc health hh
  · exact .of_health (by simpa using hp) ((recordResult_of_ne hn _ _ _).trans hh) hf

theorem FollowsRate.breaks {name : String} {r t : Router} {c : Result} (h : FollowsRate name r)
    (hok : ¬NotRecovering name r c) (hs : recordStep r c = some t) : ¬FollowsRate name t := by
  obtain ⟨provider, health, hp, hh, hf, -⟩ := h
  cases hs
  simp only [NotRecovering, not_forall] at hok
  obtain ⟨rfl, hsucc, health', hh', hav⟩ := hok
  cases Option.some.inj (hh.symm.trans hh')
  rintro ⟨_, after, _, hafter, hfollows, -⟩
  rw [hsucc, recordResult_self hh] at hafter
  cases Option.some.inj hafter
  exact hf.not_follows_success (by simpa using hav) _ _ hfollows

theorem FollowsRate.register (r : Router) (name : String) (provider : OpenAIAdapter) (now : Time) :
    FollowsRate name (r.registerProvider name provider now) := by
  refine .of_health (Finmap.lookup_insert _) (Finmap.lookup_insert _) ⟨le_refl _, by norm_num, ?_⟩
  simp

/-- Over any sequence of results after a registration, the provider's availability follows its failure
rate throughout exactly when no success is recorded while it is marked as unavailable. -/
theorem available_follows_failureRate_iff (r : Router) (name : String) (provider : OpenAIAdapter)
    (now : Time) (results : List Result) :
    Throughout recordStep (FollowsRate name) (r.registerProvider name provider now) results ↔
      EachStep recordStep (NotRecovering name) (r.registerProvider name provider now) results :=
  throughout_iff_eachStep (fun _ _ _ h hok hs => h.step hok hs) (fun _ h => h)
    (fun _ _ _ h hok hs => h.breaks hok hs) (FollowsRate.register r name provider now) results

/-- The router of a gateway with one provider. -/
def sampleRouter : Router :=
  (newRouter .latency).registerProvider "openai" ⟨"https://api.openai.com", "key", ["gpt-4"]⟩ 0

/-- Seven failures, and a success that was under way. -/
def sampleResults : List Result :=
  List.replicate 7 ⟨"openai", false, 100, 0⟩ ++ [⟨"openai", true, 100, 0⟩]

/-- The success takes the failure rate to about a quarter, and the provider stays unavailable. -/
theorem recovered_provider_unavailable :
    ∃ r health, exec recordStep sampleRouter sampleResults = some r ∧
      r.health.lookup "openai" = some health ∧ health.failureRate ≤ 1 / 2 ∧ health.available = false ∧
      r.isProviderAvailable "openai" "gpt-4" = false ∧
      ¬Throughout recordStep (FollowsRate "openai") sampleRouter sampleResults := by
  have hrun : (exec recordStep sampleRouter sampleResults).map (fun r =>
      ((r.health.lookup "openai").map (fun h => (h.available, decide (h.failureRate ≤ 1 / 2))),
        r.isProviderAvailable "openai" "gpt-4")) = some (some (false, true), false) := by
    decide +kernel
  obtain ⟨r, hr, hend⟩ := Option.map_eq_some_iff.mp hrun
  obtain ⟨hhealth, hcand⟩ := Prod.mk.inj hend
  obtain ⟨health, hh, hpair⟩ := Option.map_eq_some_iff.mp hhealth
  obtain ⟨hav, hrate⟩ := Prod.mk.inj hpair
  refine ⟨r, health, hr, hh, of_decide_eq_true hrate, hav, hcand, fun hall => ?_⟩
  obtain ⟨_, health', _, hh', hf, -⟩ := hall.of_exec hr
  cases Option.some.inj (hh.symm.trans hh')
  rw [hf.available.mpr (of_decide_eq_true hrate)] at hav
  cases hav

end Router

end SupplyPlatform.Gateway
