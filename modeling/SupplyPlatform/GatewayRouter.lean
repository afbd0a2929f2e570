import Mathlib.Algebra.Order.Ring.Rat
import Mathlib.Tactic.Linarith
import SupplyPlatform.Lib.Maps
import SupplyPlatform.Lib.Runs
import SupplyPlatform.OpenAIAdapter

namespace SupplyPlatform.Gateway

/-- The strategies; any other text goes the default way. -/
inductive LoadBalancerStrategy
  | latency
  | roundRobin
  | weighted
  | availability
  | other (name : String)
  deriving DecidableEq

/-- The rates are exact. -/
structure ProviderHealth where
  name : String
  available : Bool
  latencyMs : Int
  failureRate : ℚ
  weight : ℚ
  lastCheckTime : Time
  deriving DecidableEq

structure Router where
  providers : Finmap (fun _ : String => OpenAIAdapter)
  health : Finmap (fun _ : String => ProviderHealth)
  strategy : LoadBalancerStrategy
  roundRobinCounter : UInt64

def maxInt64 : Int := 9223372036854775807

def maxFloat64 : ℚ := (2 ^ 53 - 1) * 2 ^ 971

namespace Router

def newRouter (strategy : LoadBalancerStrategy) : Router := ⟨∅, ∅, strategy, 0⟩

def registerProvider (r : Router) (name : String) (provider : OpenAIAdapter) (now : Time) : Router :=
  { r with
    providers := r.providers.insert name provider
    health := r.health.insert name
      { name := name, available := true, latencyMs := 0, failureRate := 0, weight := 1,
        lastCheckTime := now } }

def isProviderAvailable (r : Router) (name model : String) : Bool :=
  match r.health.lookup name with
  | none => false
  | some health =>
    if health.available = false then false
    else
      match r.providers.lookup name with
      | none => false
      | some provider => provider.supportedModels.any (fun m => m = model || m = "*")

/-- The loop of `selectByLatency` and `selectByAvailability`: the first candidate with the least measure
below `least`. Every candidate has a health entry. -/
def selectLeast {β : Type} [LT β] [DecidableLT β] (r : Router) (measure : ProviderHealth → β) :
    List String → β → Option String → Option String
  | [], _, best => best
  | name :: rest, least, best =>
    match r.health.lookup name with
    | none => selectLeast r measure rest least best
    | some health =>
      if measure health < least then selectLeast r measure rest (measure health) (some name)
      else selectLeast r measure rest least best

def noAvailableProvider : GatewayError :=
  newGatewayError .routerNoProviderAvailable "no available provider"

def selectByLatency (r : Router) (candidates : List String) : Except GatewayError String :=
  match r.selectLeast ProviderHealth.latencyMs candidates maxInt64 none with
  | none => .error noAvailableProvider
  | some name => .ok name

def selectByAvailability (r : Router) (candidates : List String) : Except GatewayError String :=
  match r.selectLeast ProviderHealth.failureRate candidates maxFloat64 none with
  | none => .error noAvailableProvider
  | some name => .ok name

/-- The counter is read and moved on in one atomic operation. -/
def selectByRoundRobin (r : Router) (candidates : List String) : Router × Except GatewayError String :=
  match candidates[r.roundRobinCounter.toNat % candidates.length]? with
  | none => (r, .error noAvailableProvider)
  | some name => ({ r with roundRobinCounter := r.roundRobinCounter + 1 }, .ok name)

def weightOf (r : Router) (name : String) : ℚ :=
  match r.health.lookup name with
  | none => 0
  | some health => health.weight

/-- The second loop of `selectByWeight`. -/
def firstReaching (r : Router) (randVal : ℚ) : List String → ℚ → Option String
  | [], _ => none
  | name :: rest, cumulative =>
    if randVal ≤ cumulative + r.weightOf name then some name
    else firstReaching r randVal rest (cumulative + r.weightOf name)

/-- `random` is what `globalRand.Float64` draws. -/
def selectByWeight (r : Router) (random : ℚ) (candidates : List String) : Except GatewayError String :=
  let totalWeight := (candidates.map r.weightOf).sum
  match r.firstReaching (random * totalWeight) candidates 0 with
  | some name => .ok name
  | none =>
    match candidates with
    | [] => .error noAvailableProvider
    | name :: _ => .ok name

/-- `SelectProvider`, with the name that the provider is registered under. `order` is the order in which
the map is ranged over. -/
def selectProvider (r : Router) (order : List String) (random : ℚ) (model : String) :
    Router × Except GatewayError String :=
  match order.filter (fun name => r.isProviderAvailable name model) with
  | [] => (r, .error (newGatewayError .routerNoProviderAvailable
      ("no provider available for model: " ++ model)))
  | first :: rest =>
    match r.strategy with
    | .latency => (r, r.selectByLatency (first :: rest))
    | .roundRobin => r.selectByRoundRobin (first :: rest)
    | .weighted => (r, r.selectByWeight random (first :: rest))
    | .availability => (r, r.selectByAvailability (first :: rest))
    | .other _ => (r, r.selectByLatency (first :: rest))

end Router

namespace ProviderHealth

/-- The moving average, in 64 bits. -/
def recordLatency (health : ProviderHealth) (latencyMs : Int) : Int :=
  if 0 < latencyMs then
    if health.latencyMs = 0 then latencyMs
    else Int.tdiv (Int.bmod (health.latencyMs * 7 + latencyMs) (2 ^ 64)) 8
  else health.latencyMs

def recordRate (rate : ℚ) (success : Bool) : ℚ :=
  if success then if rate / 2 < 1 / 100 then 0 else rate / 2
  else if 1 < rate * (9 / 10) + 1 / 10 then 1 else rate * (9 / 10) + 1 / 10

/-- What `RecordResult` makes of an entry; nothing here makes it available. -/
def record (health : ProviderHealth) (success : Bool) (latencyMs : Int) (now : Time) : ProviderHealth :=
  { health with
    latencyMs := health.recordLatency latencyMs
    failureRate := recordRate health.failureRate success
    available := if 1 / 2 < recordRate health.failureRate success then false else health.available
    lastCheckTime := now }

end ProviderHealth

namespace Router

def recordResult (r : Router) (providerName : String) (success : Bool) (latencyMs : Int) (now : Time) :
    Router :=
  match r.health.lookup providerName with
  | none => r
  | some health => { r with health := r.health.insert providerName (health.record success latencyMs now) }

def updateHealth (r : Router) (providerName : String) (available : Bool) (now : Time) : Router :=
  match r.health.lookup providerName with
  | none => r
  | some health =>
    { r with health :=
        r.health.insert providerName { health with available := available, lastCheckTime := now } }

theorem selectLeast_mem {β : Type} [LT β] [DecidableLT β] {r : Router} {measure : ProviderHealth → β}
    {candidates : List String} {least : β} {best : Option String} {name : String}
    (h : r.selectLeast measure candidates least best = some name) :
    name ∈ candidates ∨ best = some name := by
  induction candidates generalizing least best with
  | nil => exact .inr h
  | cons c rest ih =>
    simp only [selectLeast] at h
    split at h
    next =>
      rcases ih h with hm | hb
      · exact .inl (List.mem_cons_of_mem _ hm)
      · exact .inr hb
    next health _ =>
      split at h
      next =>
        rcases ih h with hm | hb
        · exact .inl (List.mem_cons_of_mem _ hm)
        · cases hb
          exact .inl List.mem_cons_self
      next =>
        rcases ih h with hm | hb
        · exact .inl (List.mem_cons_of_mem _ hm)
        · exact .inr hb

theorem selectByLatency_mem {r : Router} {candidates : List String} {name : String}
    (h : r.selectByLatency candidates = .ok name) : name ∈ candidates := by
  unfold selectByLatency at h
  split at h
  next => cases h
  next least hl =>
    cases h
    exact (selectLeast_mem hl).resolve_right (fun hb => nomatch hb)

theorem selectByAvailability_mem {r : Router} {candidates : List String} {name : String}
    (h : r.selectByAvailability candidates = .ok name) : name ∈ candidates := by
  unfold selectByAvailability at h
  split at h
  next => cases h
  next least hl =>
    cases h
    exact (selectLeast_mem hl).resolve_right (fun hb => nomatch hb)

theorem selectByRoundRobin_mem {r : Router} {candidates : List String} {name : String}
    (h : (r.selectByRoundRobin candidates).2 = .ok name) : name ∈ candidates := by
  unfold selectByRoundRobin at h
  split at h
  next => cases h
  next picked hp =>
    cases h
    exact List.mem_of_getElem? hp

theorem firstReaching_mem {r : Router} {randVal : ℚ} {candidates : List String} {cumulative : ℚ}
    {name : String} (h : r.firstReaching randVal candidates cumulative = some name) :
    name ∈ candidates := by
  induction candidates generalizing cumulative with
  | nil => cases h
  | cons c rest ih =>
    simp only [firstReaching] at h
    split at h
    next => cases h; exact List.mem_cons_self
    next => exact List.mem_cons_of_mem _ (ih h)

theorem selectByWeight_mem {r : Router} {random : ℚ} {candidates : List String} {name : String}
    (h : r.selectByWeight random candidates = .ok name) : name ∈ candidates := by
  unfold selectByWeight at h
  dsimp only at h
  split at h
  next reached hr =>
    cases h
    exact firstReaching_mem hr
  next =>
    cases candidates with
    | nil => cases h
    | cons c rest => cases h; exact List.mem_cons_self

/-- The provider that is selected is available for the model. -/
theorem selectProvider_available {r : Router} {order : List String} {random : ℚ} {model name : String}
    (h : (r.selectProvider order random model).2 = .ok name) :
    r.isProviderAvailable name model = true := by
  have hmem : name ∈ order.filter (fun name => r.isProviderAvailable name model) := by
    unfold selectProvider at h
    split at h
    next => cases h
    next first rest hc =>
      rw [hc]
      split at h
      next => exact selectByLatency_mem h
      next => exact selectByRoundRobin_mem h
      next => exact selectByWeight_mem h
      next => exact selectByAvailability_mem h
      next => exact selectByLatency_mem h
  exact (List.mem_filter.mp hmem).2

/-- What is available has a provider and a health entry. -/
theorem exists_of_available {r : Router} {name model : String}
    (h : r.isProviderAvailable name model = true) :
    (∃ provider, r.providers.lookup name = some provider) ∧
      ∃ health, r.health.lookup name = some health := by
  unfold isProviderAvailable at h
  split at h
  next => cases h
  next health hh =>
    split at h
    next => cases h
    next =>
      split at h
      next => cases h
      next provider hp => exact ⟨⟨provider, hp⟩, health, hh⟩

/-- Only the counter moves. -/
theorem selectProvider_router (r : Router) (order : List String) (random : ℚ) (model : String) :
    (r.selectProvider order random model).1.providers = r.providers ∧
      (r.selectProvider order random model).1.health = r.health := by
  unfold selectProvider
  split
  next => exact ⟨rfl, rfl⟩
  next =>
    split
    next => exact ⟨rfl, rfl⟩
    next =>
      unfold selectByRoundRobin
      split
      next => exact ⟨rfl, rfl⟩
      next => exact ⟨rfl, rfl⟩
    next => exact ⟨rfl, rfl⟩
    next => exact ⟨rfl, rfl⟩
    next => exact ⟨rfl, rfl⟩

end Router

end SupplyPlatform.Gateway
