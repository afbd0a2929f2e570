import Mathlib.Algebra.Field.Rat
import Mathlib.Algebra.Order.Ring.Rat
import Mathlib.Data.List.Sort
import SupplyPlatform.Lib.Maps
import SupplyPlatform.OpenAIAdapter

namespace SupplyPlatform.Gateway.Strategy

/-- A provider, with its answer to the health check and those of the interfaces it implements. -/
structure Provider (K : Type) where
  supportedModels : List String
  healthCheck : Bool
  getCostPer1KTokens : Option K
  getQualityScore : Option K
  getLatencyMs : Option Int

structure RoutingRequest (K : Type) where
  model : String
  maxCost : K
  maxLatency : Int
  minQuality : K

structure RoutingDecision (K : Type) where
  provider : String
  strategy : String
  costPer1KTokens : K
  estimatedLatency : Int
  qualityScore : K
  takeoverMark : Bool
  deriving DecidableEq

/-- What `SelectProvider` of a template comes back with. -/
inductive StrategyError
  | gateway (err : GatewayError)
  | noAffordableProvider
  | noQualifiedProvider
  deriving DecidableEq

/-- The cost and the quality, 0.5 and 0.8, of a provider that does not tell its own. -/
structure Defaults (K : Type) where
  cost : K
  quality : K

structure CostBasedTemplate (K : Type) where
  name : String
  maxCostPer1KTokens : K
  providers : Finmap (fun _ : String => Provider K)

structure CostAwareTemplate (K : Type) where
  name : String
  maxCostPer1KTokens : K
  maxLatencyMs : Int
  minQualityScore : K
  providers : Finmap (fun _ : String => Provider K)

namespace Provider

variable {K : Type}

def supports (provider : Provider K) (model : String) : Bool :=
  provider.supportedModels.any (fun m => m = model || m = "*")

def getProviderCost (defaults : Defaults K) (provider : Provider K) : K :=
  provider.getCostPer1KTokens.getD defaults.cost

def getProviderQuality (defaults : Defaults K) (provider : Provider K) : K :=
  provider.getQualityScore.getD defaults.quality

def getProviderLatency (provider : Provider K) : Int := provider.getLatencyMs.getD 100

end Provider

section

variable {K : Type} [LinearOrder K] [Zero K]

/-- A limit of the template and the request's own, where it has one that is tighter. -/
def tighterMax {β : Type} [LinearOrder β] [Zero β] (limit requested : β) : β :=
  if 0 < requested ∧ requested < limit then requested else limit

def tighterMin (limit requested : K) : K :=
  if 0 < requested ∧ limit < requested then requested else limit

/-- The providers for a model in the order in which `range` finds them. -/
def found (providers : Finmap (fun _ : String => Provider K)) (order : List String) (model : String) :
    List (String × Provider K) :=
  order.filterMap (fun name =>
    match providers.lookup name with
    | none => none
    | some provider =>
      if !provider.supports model then none
      else if !provider.healthCheck then none
      else some (name, provider))

structure CostCandidate (K : Type) where
  name : String
  cost : K

/-- `sort.Slice` by the cost: nothing is said of the candidates that cost the same. -/
structure CostSort (K : Type) [LinearOrder K] where
  sort : List (CostCandidate K) → List (CostCandidate K)
  perm : ∀ candidates, (sort candidates).Perm candidates
  sorted : ∀ candidates, (sort candidates).Pairwise (fun a b => ¬b.cost < a.cost)

namespace CostBasedTemplate

/-- `SelectProvider`; `order` is the order in which the map is ranged over. -/
def selectProvider (t : CostBasedTemplate K) (defaults : Defaults K) (sorting : CostSort K)
    (order : List String) (req : RoutingRequest K) : Except StrategyError (RoutingDecision K) :=
  if t.providers.keys.card = 0 then
    .error (.gateway (newGatewayError .routerNoProviderAvailable "no provider registered"))
  else
    let candidates := (found t.providers order req.model).map (fun entry =>
      CostCandidate.mk entry.1 (entry.2.getProviderCost defaults))
    if candidates = [] then
      .error (.gateway (newGatewayError .routerNoProviderAvailable
        ("no available provider for model: " ++ req.model)))
    else
      match (sorting.sort candidates).find? (fun c =>
        c.cost ≤ tighterMax t.maxCostPer1KTokens req.maxCost) with
      | some c =>
        .ok { provider := c.name, strategy := "cost_based", costPer1KTokens := c.cost,
              estimatedLatency := 0, qualityScore := 0, takeoverMark := true }
      | none => .error .noAffordableProvider

end CostBasedTemplate

structure ProviderMetrics (K : Type) where
  name : String
  latencyMs : Int
  availability : K
  costPer1KTokens : K
  qualityScore : K

structure ScoredCandidate (K : Type) where
  name : String
  cost : K
  quality : K
  latency : Int
  score : K

/-- The loop that keeps the first candidate of the highest score. -/
def bestScored : ScoredCandidate K → List (ScoredCandidate K) → ScoredCandidate K
  | best, [] => best
  | best, c :: rest => if best.score < c.score then bestScored c rest else bestScored best rest

namespace CostAwareTemplate

variable [One K]

/-- What the provider is scored by. -/
def metrics (defaults : Defaults K) (name : String) (provider : Provider K) : ProviderMetrics K where
  name := name
  latencyMs := provider.getProviderLatency
  availability := 1
  costPer1KTokens := provider.getProviderCost defaults
  qualityScore := provider.getProviderQuality defaults

def candidate (defaults : Defaults K) (calculateScore : ProviderMetrics K → K) (name : String)
    (provider : Provider K) : ScoredCandidate K where
  name := name
  cost := provider.getProviderCost defaults
  quality := provider.getProviderQuality defaults
  latency := provider.getProviderLatency
  score := calculateScore (metrics defaults name provider)

/-- A provider outside the limits is passed over. -/
def exceeds (t : CostAwareTemplate K) (defaults : Defaults K) (req : RoutingRequest K)
    (provider : Provider K) : Bool :=
  tighterMax t.maxCostPer1KTokens req.maxCost < provider.getProviderCost defaults ||
    tighterMax t.maxLatencyMs req.maxLatency < provider.getProviderLatency ||
    provider.getProviderQuality defaults < tighterMin t.minQualityScore req.minQuality

/-- The candidates of `SelectProvider`, scored. -/
def candidates (t : CostAwareTemplate K) (defaults : Defaults K) (calculateScore : ProviderMetrics K → K)
    (order : List String) (req : RoutingRequest K) : List (ScoredCandidate K) :=
  (found t.providers order req.model).filterMap (fun entry =>
    if t.exceeds defaults req entry.2 then none
    else some (candidate defaults calculateScore entry.1 entry.2))

/-- `SelectProvider`; `calculateScore` is that of the scoring model. -/
def selectProvider (t : CostAwareTemplate K) (defaults : Defaults K)
    (calculateScore : ProviderMetrics K → K) (order : List String) (req : RoutingRequest K) :
    Except StrategyError (RoutingDecision K) :=
  if t.providers.keys.card = 0 then
    .error (.gateway (newGatewayError .routerNoProviderAvailable "no provider registered"))
  else
    match t.candidates defaults calculateScore order req with
    | [] => .error .noQualifiedProvider
    | first :: rest =>
      let best := bestScored first rest
      .ok { provider := best.name, strategy := "cost_aware", costPer1KTokens := best.cost,
            estimatedLatency := best.latency, qualityScore := best.quality, takeoverMark := true }

end CostAwareTemplate

/-- A registered provider that is healthy and supports the model. -/
structure Serves (providers : Finmap (fun _ : String => Provider K)) (model name : String)
    (provider : Provider K) : Prop where
  registered : providers.lookup name = some provider
  healthy : provider.healthCheck = true
  supported : model ∈ provider.supportedModels ∨ "*" ∈ provider.supportedModels

/-- Not above the template's limit, nor above that of the request, where it sets one. -/
def WithinMax {β : Type} [LE β] [LT β] [Zero β] (limit requested x : β) : Prop :=
  x ≤ limit ∧ (0 < requested → x ≤ requested)

def WithinMin (limit requested x : K) : Prop := limit ≤ x ∧ (0 < requested → requested ≤ x)

theorem le_tighterMax_iff {β : Type} [LinearOrder β] [Zero β] {limit requested x : β} :
    x ≤ tighterMax limit requested ↔ WithinMax limit requested x := by
  unfold tighterMax WithinMax
  split
  next h => exact ⟨fun hx => ⟨hx.trans h.2.le, fun _ => hx⟩, fun hx => hx.2 h.1⟩
  next h => exact ⟨fun hx => ⟨hx, fun hpos => hx.trans (not_lt.mp fun hlt => h ⟨hpos, hlt⟩)⟩, And.left⟩

theorem tighterMin_le_iff {limit requested x : K} :
    tighterMin limit requested ≤ x ↔ WithinMin limit requested x := by
  unfold tighterMin WithinMin
  split
  next h => exact ⟨fun hx => ⟨h.2.le.trans hx, fun _ => hx⟩, fun hx => hx.2 h.1⟩
  next h => exact ⟨fun hx => ⟨hx, fun hpos => (not_lt.mp fun hlt => h ⟨hpos, hlt⟩).trans hx⟩, And.left⟩

section

variable {providers : Finmap (fun _ : String => Provider K)} {order : List String} {model name : String}
  {provider : Provider K}

omit [LinearOrder K] [Zero K] in
theorem supports_iff : provider.supports model = true ↔
    model ∈ provider.supportedModels ∨ "*" ∈ provider.supportedModels := by
  simp only [Provider.supports, List.any_eq_true, Bool.or_eq_true, decide_eq_true_eq]
  constructor
  · rintro ⟨m, hm, rfl | rfl⟩
    · exact .inl hm
    · exact .inr hm
  · rintro (hm | hm)
    · exact ⟨model, hm, .inl rfl⟩
    · exact ⟨"*", hm, .inr rfl⟩

omit [LinearOrder K] [Zero K] in
/-- In whatever order, `range` finds the providers that serve the model. -/
theorem mem_found (h : Maps.Enumerates providers order) :
    (name, provider) ∈ found providers order model ↔ Serves providers model name provider := by
  unfold found
  rw [List.mem_filterMap]
  constructor
  · rintro ⟨other, -, heq⟩
    cases hp : providers.lookup other with
    | none =>
      rw [hp] at heq
      cases heq
    | some registered =>
      simp only [hp] at heq
      split at heq
      · cases heq
      next hsupports =>
        split at heq
        · cases heq
        next hhealthy =>
          cases heq
          exact ⟨hp, by simpa using hhealthy, supports_iff.mp (by simpa using hsupports)⟩
  · rintro ⟨hp, hhealthy, hsupported⟩
    refine ⟨name, h.mem hp, ?_⟩
    simp only [hp, supports_iff.mpr hsupported, hhealthy, Bool.not_true, Bool.false_eq_true, if_false]

omit [LinearOrder K] [Zero K] in
/-- Without a registered provider none serves the model. -/
theorem not_serves_of_empty (h : providers.keys.card = 0) : ¬Serves providers model name provider := by
  intro hserves
  have hmem : name ∈ providers.keys := Finmap.mem_keys.mpr (Finmap.mem_iff.mpr ⟨_, hserves.registered⟩)
  rw [Finset.card_eq_zero.mp h] at hmem
  exact absurd hmem (Finset.notMem_empty _)

end

omit [Zero K] in
/-- What is found first within a limit, in the order of the costs, costs the least. -/
theorem least_of_find {candidates : List (CostCandidate K)} {limit : K} {c : CostCandidate K}
    (hsorted : candidates.Pairwise (fun a b => ¬b.cost < a.cost))
    (hfind : candidates.find? (fun c => c.cost ≤ limit) = some c) :
    ∀ other ∈ candidates, c.cost ≤ other.cost := by
  cases candidates with
  | nil => cases hfind
  | cons first rest =>
    obtain ⟨hfirst, -⟩ := List.pairwise_cons.mp hsorted
    have hleast : ∀ other ∈ first :: rest, first.cost ≤ other.cost :=
      List.forall_mem_cons.mpr ⟨le_refl _, fun other hother => not_lt.mp (hfirst other hother)⟩
    -- what is within the limit makes the first within it
    have hwithin : c.cost ≤ limit := by simpa using List.find?_some hfind
    have hhead : first.cost ≤ limit := (hleast c (List.mem_of_find?_eq_some hfind)).trans hwithin
    rw [List.find?_cons_of_pos (by simpa using hhead)] at hfind
    cases hfind
    exact hleast

/-- The cheapest provider that serves the model, if it is within the limits. -/
structure SelectsCheapest (t : CostBasedTemplate K) (defaults : Defaults K) (req : RoutingRequest K)
    (answer : Except StrategyError (RoutingDecision K)) : Prop where
  selected : ∀ decision, answer = .ok decision → ∃ provider,
    Serves t.providers req.model decision.provider provider ∧
    decision.costPer1KTokens = provider.getProviderCost defaults ∧
    WithinMax t.maxCostPer1KTokens req.maxCost (provider.getProviderCost defaults) ∧
    ∀ other provider', Serves t.providers req.model other provider' →
      provider.getProviderCost defaults ≤ provider'.getProviderCost defaults
  fails : (∃ err, answer = .error err) ↔ ∀ name provider, Serves t.providers req.model name provider →
    ¬WithinMax t.maxCostPer1KTokens req.maxCost (provider.getProviderCost defaults)

theorem CostBasedTemplate.selectProvider_selectsCheapest (t : CostBasedTemplate K) (defaults : Defaults K)
    (sorting : CostSort K) {order : List String} (h : Maps.Enumerates t.providers order)
    (req : RoutingRequest K) :
    SelectsCheapest t defaults req (t.selectProvider defaults sorting order req) := by
  let candidates := (found t.providers order req.model).map (fun entry =>
    CostCandidate.mk entry.1 (entry.2.getProviderCost defaults))
  have hmem : ∀ c, c ∈ sorting.sort candidates ↔ ∃ provider,
      Serves t.providers req.model c.name provider ∧ c.cost = provider.getProviderCost defaults := by
    intro c
    rw [(sorting.perm candidates).mem_iff, List.mem_map]
    constructor
    · rintro ⟨⟨name, provider⟩, hfound, rfl⟩
      exact ⟨provider, (mem_found h).mp hfound, rfl⟩
    · rintro ⟨provider, hserves, hcost⟩
      exact ⟨(c.name, provider), (mem_found h).mpr hserves, by rw [← hcost]⟩
  have hnone : ∀ err, (∀ name provider, ¬Serves t.providers req.model name provider) →
      SelectsCheapest t defaults req (.error err) := by
    intro err hno
    refine ⟨fun decision hd => ?_, fun _ name provider hserves => absurd hserves (hno name provider),
      fun _ => ⟨err, rfl⟩⟩
    cases hd
  unfold selectProvider
  by_cases hempty : t.providers.keys.card = 0
  · rw [if_pos hempty]
    exact hnone _ (fun _ _ => not_serves_of_empty hempty)
  rw [if_neg hempty]
  show SelectsCheapest t defaults req (if candidates = [] then _ else _)
  by_cases hcandidates : candidates = []
  · rw [if_pos hcandidates]
    refine hnone _ (fun name provider hserves => ?_)
    have hin := (hmem ⟨name, provider.getProviderCost defaults⟩).mpr ⟨provider, hserves, rfl⟩
    rw [(sorting.perm candidates).mem_iff, hcandidates] at hin
    cases hin
  rw [if_neg hcandidates]
  cases hfind : (sorting.sort candidates).find?
      (fun c => c.cost ≤ tighterMax t.maxCostPer1KTokens req.maxCost) with
  | none =>
    refine ⟨fun decision hd => ?_, fun _ name provider hserves hwithin => ?_, fun _ => ⟨_, rfl⟩⟩
    · cases hd
    · have hin := (hmem ⟨name, provider.getProviderCost defaults⟩).mpr ⟨provider, hserves, rfl⟩
      have hout := List.find?_eq_none.mp hfind _ hin
      rw [decide_eq_true_eq, le_tighterMax_iff] at hout
      exact hout hwithin
  | some c =>
    obtain ⟨provider, hserves, hcost⟩ := (hmem c).mp (List.mem_of_find?_eq_some hfind)
    have hwithin : WithinMax t.maxCostPer1KTokens req.maxCost (provider.getProviderCost defaults) := by
      rw [← hcost, ← le_tighterMax_iff]
      simpa using List.find?_some hfind
    refine ⟨fun decision hd => ?_, fun hfails => ?_, fun hno => absurd hwithin (hno c.name provider hserves)⟩
    · cases hd
      refine ⟨provider, hserves, hcost, hwithin, fun other provider' hserves' => ?_⟩
      rw [← hcost]
      exact least_of_find (sorting.sorted candidates) hfind ⟨other, provider'.getProviderCost defaults⟩
        ((hmem _).mpr ⟨provider', hserves', rfl⟩)
    · obtain ⟨err, herr⟩ := hfails
      cases herr

omit [Zero K] in
theorem bestScored_spec (best : ScoredCandidate K) (candidates : List (ScoredCandidate K)) :
    bestScored best candidates ∈ best :: candidates ∧
      ∀ c ∈ best :: candidates, c.score ≤ (bestScored best candidates).score := by
  induction candidates generalizing best with
  | nil => exact ⟨List.mem_cons_self, fun c hc => by rw [List.mem_singleton.mp hc]; rfl⟩
  | cons c rest ih =>
    rw [bestScored]
    split
    next hless =>
      obtain ⟨hmem, hbest⟩ := ih c
      refine ⟨List.mem_cons_of_mem _ hmem, List.forall_mem_cons.mpr ⟨?_, hbest⟩⟩
      exact hless.le.trans (hbest c List.mem_cons_self)
    next hkeep =>
      obtain ⟨hmem, hbest⟩ := ih best
      obtain ⟨hself, hrest⟩ := List.forall_mem_cons.mp hbest
      refine ⟨?_, List.forall_mem_cons.mpr ⟨hself, List.forall_mem_cons.mpr ⟨?_, hrest⟩⟩⟩
      · rcases List.mem_cons.mp hmem with heq | hmem
        · rw [heq]
          exact List.mem_cons_self
        · exact List.mem_cons_of_mem _ (List.mem_cons_of_mem _ hmem)
      · exact (not_lt.mp hkeep).trans hself

section

variable [One K] {t : CostAwareTemplate K} {defaults : Defaults K} {calculateScore : ProviderMetrics K → K}
  {req : RoutingRequest K}

/-- A provider that serves the model within the limits of the template and of the request. -/
structure Meets (t : CostAwareTemplate K) (defaults : Defaults K) (req : RoutingRequest K) (name : String)
    (provider : Provider K) : Prop where
  serves : Serves t.providers req.model name provider
  cost : WithinMax t.maxCostPer1KTokens req.maxCost (provider.getProviderCost defaults)
  latency : WithinMax t.maxLatencyMs req.maxLatency provider.getProviderLatency
  quality : WithinMin t.minQualityScore req.minQuality (provider.getProviderQuality defaults)

/-- A provider of the highest score of those that meet the limits. -/
structure SelectsBest (t : CostAwareTemplate K) (defaults : Defaults K)
    (calculateScore : ProviderMetrics K → K) (req : RoutingRequest K)
    (answer : Except StrategyError (RoutingDecision K)) : Prop where
  selected : ∀ decision, answer = .ok decision → ∃ provider,
    Meets t defaults req decision.provider provider ∧
    decision.costPer1KTokens = provider.getProviderCost defaults ∧
    decision.estimatedLatency = provider.getProviderLatency ∧
    decision.qualityScore = provider.getProviderQuality defaults ∧
    ∀ other provider', Meets t defaults req other provider' →
      calculateScore (CostAwareTemplate.metrics defaults other provider') ≤
        calculateScore (CostAwareTemplate.metrics defaults decision.provider provider)
  fails : (∃ err, answer = .error err) ↔ ∀ name provider, ¬Meets t defaults req name provider

omit [One K] in
theorem exceeds_eq_false_iff {provider : Provider K} : t.exceeds defaults req provider = false ↔
    WithinMax t.maxCostPer1KTokens req.maxCost (provider.getProviderCost defaults) ∧
    WithinMax t.maxLatencyMs req.maxLatency provider.getProviderLatency ∧
    WithinMin t.minQualityScore req.minQuality (provider.getProviderQuality defaults) := by
  simp only [CostAwareTemplate.exceeds, Bool.or_eq_false_iff, decide_eq_false_iff_not, not_lt,
    le_tighterMax_iff, tighterMin_le_iff, and_assoc]

theorem mem_candidates {order : List String} (h : Maps.Enumerates t.providers order)
    {c : ScoredCandidate K} : c ∈ t.candidates defaults calculateScore order req ↔
      ∃ name provider, Meets t defaults req name provider ∧
        c = CostAwareTemplate.candidate defaults calculateScore name provider := by
  unfold CostAwareTemplate.candidates
  rw [List.mem_filterMap]
  constructor
  · rintro ⟨⟨name, provider⟩, hfound, heq⟩
    dsimp only at heq
    split at heq
    · cases heq
    next hwithin =>
      cases heq
      obtain ⟨hcost, hlatency, hquality⟩ := exceeds_eq_false_iff.mp (Bool.not_eq_true _ ▸ hwithin)
      exact ⟨name, provider, ⟨(mem_found h).mp hfound, hcost, hlatency, hquality⟩, rfl⟩
  · rintro ⟨name, provider, hmeets, rfl⟩
    have hwithin : t.exceeds defaults req provider = false :=
      exceeds_eq_false_iff.mpr ⟨hmeets.cost, hmeets.latency, hmeets.quality⟩
    refine ⟨(name, provider), (mem_found h).mpr hmeets.serves, ?_⟩
    simp only [hwithin, Bool.false_eq_true, if_false]

theorem CostAwareTemplate.selectProvider_selectsBest (t : CostAwareTemplate K) (defaults : Defaults K)
    (calculateScore : ProviderMetrics K → K) {order : List String}
    (h : Maps.Enumerates t.providers order) (req : RoutingRequest K) :
    SelectsBest t defaults calculateScore req (t.selectProvider defaults calculateScore order req) := by
  have hnone : ∀ err, (∀ name provider, ¬Meets t defaults req name provider) →
      SelectsBest t defaults calculateScore req (.error err) := by
    intro err hno
    refine ⟨fun decision hd => ?_, fun _ => hno, fun _ => ⟨err, rfl⟩⟩
    cases hd
  have hmem : ∀ c, c ∈ t.candidates defaults calculateScore order req ↔ ∃ name provider,
      Meets t defaults req name provider ∧ c = candidate defaults calculateScore name provider :=
    fun c => mem_candidates h
  unfold selectProvider
  by_cases hempty : t.providers.keys.card = 0
  · rw [if_pos hempty]
    exact hnone _ (fun name provider hmeets => not_serves_of_empty hempty hmeets.serves)
  rw [if_neg hempty]
  cases hcandidates : t.candidates defaults calculateScore order req with
  | nil =>
    refine hnone _ (fun name provider hmeets => ?_)
    have hin := (hmem _).mpr ⟨name, provider, hmeets, rfl⟩
    rw [hcandidates] at hin
    cases hin
  | cons first rest =>
    obtain ⟨hbest, hhighest⟩ := bestScored_spec first rest
    rw [← hcandidates] at hbest hhighest
    obtain ⟨name, provider, hmeets, heq⟩ := (hmem _).mp hbest
    refine ⟨fun decision hd => ?_, fun hfails => ?_, fun hno => absurd hmeets (hno name provider)⟩
    · cases hd
      rw [heq] at hhighest ⊢
      refine ⟨provider, hmeets, rfl, rfl, rfl, fun other provider' hmeets' => ?_⟩
      exact hhighest _ ((hmem _).mpr ⟨other, provider', hmeets', rfl⟩)
    · obtain ⟨err, herr⟩ := hfails
      cases herr

end

/-- Both templates select an optimum of the providers within their limits, in whatever order the map is
gone over and however the sort leaves what costs the same. -/
theorem templates_select_optimum [One K] (defaults : Defaults K) (req : RoutingRequest K)
    (order : List String) :
    (∀ (t : CostBasedTemplate K) (sorting : CostSort K), Maps.Enumerates t.providers order →
      SelectsCheapest t defaults req (t.selectProvider defaults sorting order req)) ∧
    ∀ (t : CostAwareTemplate K) (calculateScore : ProviderMetrics K → K),
      Maps.Enumerates t.providers order →
      SelectsBest t defaults calculateScore req (t.selectProvider defaults calculateScore order req) :=
  ⟨fun t sorting h => t.selectProvider_selectsCheapest defaults sorting h req,
    fun t calculateScore h => t.selectProvider_selectsBest defaults calculateScore h req⟩

end

/-- A sort by insertion. -/
def insertionCostSort : CostSort ℚ where
  sort candidates := candidates.insertionSort (fun a b => a.cost ≤ b.cost)
  perm candidates := List.perm_insertionSort _ _
  sorted candidates := by
    have : Std.Total (fun a b : CostCandidate ℚ => a.cost ≤ b.cost) := ⟨fun a b => le_total a.cost b.cost⟩
    have : IsTrans (CostCandidate ℚ) (fun a b => a.cost ≤ b.cost) := ⟨fun a b c => le_trans⟩
    exact (List.pairwise_insertionSort _ candidates).imp (fun h => not_lt.mpr h)

def sampleProviders : Finmap (fun _ : String => Provider ℚ) :=
  (((∅ : Finmap (fun _ : String => Provider ℚ)).insert "a" ⟨["gpt-4"], true, some 2, none, none⟩).insert
    "b" ⟨["*"], true, none, some (9 / 10), some 80⟩).insert "c" ⟨["gpt-4"], false, some 0, none, none⟩

def sampleRequest : RoutingRequest ℚ := ⟨"gpt-4", 1, 0, 0⟩

theorem sampleProviders_enumerates : Maps.Enumerates sampleProviders ["a", "b", "c"] :=
  ⟨by decide, by decide⟩

theorem sample_templates_select_optimum :
    SelectsCheapest ⟨"cheap", 3, sampleProviders⟩ ⟨1 / 2, 4 / 5⟩ sampleRequest
      (CostBasedTemplate.selectProvider ⟨"cheap", 3, sampleProviders⟩ ⟨1 / 2, 4 / 5⟩ insertionCostSort
        ["a", "b", "c"] sampleRequest) ∧
    SelectsBest ⟨"balanced", 3, 100, 1 / 2, sampleProviders⟩ ⟨1 / 2, 4 / 5⟩ ProviderMetrics.qualityScore
      sampleRequest (CostAwareTemplate.selectProvider ⟨"balanced", 3, 100, 1 / 2, sampleProviders⟩
        ⟨1 / 2, 4 / 5⟩ ProviderMetrics.qualityScore ["a", "b", "c"] sampleRequest) :=
  ⟨(templates_select_optimum _ _ _).1 ⟨"cheap", 3, sampleProviders⟩ insertionCostSort
      sampleProviders_enumerates,
    (templates_select_optimum _ _ _).2 ⟨"balanced", 3, 100, 1 / 2, sampleProviders⟩
      ProviderMetrics.qualityScore sampleProviders_enumerates⟩

end SupplyPlatform.Gateway.Strategy
