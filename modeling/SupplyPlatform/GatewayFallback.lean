import SupplyPlatform.GatewayStrategy
import SupplyPlatform.Lib.Strings

namespace SupplyPlatform.Gateway.Fallback

open Strategy Strings

structure TierConfig where
  tier : Int
  providers : List String
  deriving DecidableEq

/-- How a call ends without a decision: with one of the two errors, or in the panic at a decision that
is nil. -/
inductive FallbackError
  | allTiersFailed
  | rateLimitExceeded
  | panicked
  deriving DecidableEq

/-- `isRateLimitError`, of the text of the error. -/
def isRateLimitError (err : String) : Bool :=
  0 < err.length &&
    (contains err "rate limit" || contains err "ratelimit" || contains err "too many requests")

/-- The handler; `metrics` is whether a collector has been set. -/
structure FallbackHandler where
  tiers : List TierConfig
  metrics : Bool
  deriving DecidableEq

/-- `NewFallbackHandler`. -/
def newFallbackHandler : FallbackHandler := ⟨[], false⟩

section

variable {σ K : Type}

/-- What `tryTier` leaves: the router, the providers it was asked for, in order, and the answer. -/
structure Tried (σ K : Type) where
  router : σ
  called : List String
  answer : Except FallbackError (RoutingDecision K)

/-- What `Handle` leaves; a call is of a provider in a tier, a takeover mark is of a provider and a tier's
number. -/
structure Outcome (σ K : Type) where
  router : σ
  called : List (Int × String)
  recorded : List (String × Int)
  answer : Except FallbackError (RoutingDecision K)

/-- `tryTier`; the router has a state, so that it can answer as it will from call to call. A decision of
none is a nil one, which `tryTier` writes its mark through. -/
def tryTier (select : σ → RoutingRequest K → String → σ × Except String (Option (RoutingDecision K)))
    (req : RoutingRequest K) : σ → List String → Tried σ K
  | s, [] => ⟨s, [], .error .allTiersFailed⟩
  | s, providerName :: rest =>
    match select s req providerName with
    | (s', .ok (some decision)) => ⟨s', [providerName], .ok { decision with takeoverMark := true }⟩
    | (s', .ok none) => ⟨s', [providerName], .error .panicked⟩
    | (s', .error err) =>
      if isRateLimitError err then ⟨s', [providerName], .error .rateLimitExceeded⟩
      else
        let tried := tryTier select req s' rest
        { tried with called := providerName :: tried.called }

namespace FallbackHandler

/-- The loop of `Handle` over the tiers. -/
def tryTiers (h : FallbackHandler)
    (select : σ → RoutingRequest K → String → σ × Except String (Option (RoutingDecision K)))
    (req : RoutingRequest K) : σ → List TierConfig → Outcome σ K
  | s, [] => ⟨s, [], [], .error .allTiersFailed⟩
  | s, tier :: rest =>
    match tryTier select req s tier.providers with
    | ⟨s', called, .ok decision⟩ =>
      ⟨s', called.map (tier.tier, ·), if h.metrics then [(decision.provider, tier.tier)] else [],
        .ok decision⟩
    | ⟨s', called, .error .rateLimitExceeded⟩ =>
      ⟨s', called.map (tier.tier, ·), [], .error .rateLimitExceeded⟩
    | ⟨s', called, .error .panicked⟩ => ⟨s', called.map (tier.tier, ·), [], .error .panicked⟩
    | ⟨s', called, .error .allTiersFailed⟩ =>
      let outcome := tryTiers h select req s' rest
      { outcome with called := called.map (tier.tier, ·) ++ outcome.called }

def handle (h : FallbackHandler)
    (select : σ → RoutingRequest K → String → σ × Except String (Option (RoutingDecision K)))
    (s : σ) (req : RoutingRequest K) : Outcome σ K :=
  if h.tiers = [] then ⟨s, [], [], .error .allTiersFailed⟩ else h.tryTiers select req s h.tiers

end FallbackHandler

/-- The positions of the tiers, each with the number of its tier. -/
def positions (tiers : List TierConfig) : List (Int × String) :=
  tiers.flatMap (fun tier => tier.providers.map (tier.tier, ·))

/-- What the router would answer if it were asked for all of these, one after the other. -/
def attempts (select : σ → RoutingRequest K → String → σ × Except String (Option (RoutingDecision K)))
    (req : RoutingRequest K) :
    σ → List (Int × String) → List ((Int × String) × Except String (Option (RoutingDecision K)))
  | _, [] => []
  | s, position :: rest =>
    (position, (select s req position.2).2) :: attempts select req (select s req position.2).1 rest

def afterAll (select : σ → RoutingRequest K → String → σ × Except String (Option (RoutingDecision K)))
    (req : RoutingRequest K) (s : σ) (asked : List (Int × String)) : σ :=
  asked.foldl (fun s position => (select s req position.2).1) s

/-- An answer after which the next provider is tried. -/
def GoesOn (answer : Except String (Option (RoutingDecision K))) : Prop :=
  ∃ err, answer = .error err ∧ isRateLimitError err = false

/-- How a list of answers is settled: the positions gone over, up to a success, a rate limit or a nil. -/
def settle : List ((Int × String) × Except String (Option (RoutingDecision K))) →
    List (Int × String) × Except FallbackError ((Int × String) × RoutingDecision K)
  | [] => ([], .error .allTiersFailed)
  | (position, .ok (some decision)) :: _ => ([position], .ok (position, decision))
  | (position, .ok none) :: _ => ([position], .error .panicked)
  | (position, .error err) :: rest =>
    if isRateLimitError err then ([position], .error .rateLimitExceeded)
    else (position :: (settle rest).1, (settle rest).2)

/-- The decision that is returned. -/
def marked (chosen : (Int × String) × RoutingDecision K) : RoutingDecision K :=
  { chosen.2 with takeoverMark := true }

/-- The marks that are recorded where there is a collector. -/
def marksOf (metrics : Bool) (settled : Except FallbackError ((Int × String) × RoutingDecision K)) :
    List (String × Int) :=
  match settled with
  | .ok (position, decision) => if metrics then [(decision.provider, position.1)] else []
  | .error _ => []

section

variable {position : Int × String} {decision : RoutingDecision K} {err : String}
  {passed rest : List ((Int × String) × Except String (Option (RoutingDecision K)))}

theorem settle_goesOn {x : (Int × String) × Except String (Option (RoutingDecision K))} (h : GoesOn x.2)
    (rest : List ((Int × String) × Except String (Option (RoutingDecision K)))) :
    settle (x :: rest) = (x.1 :: (settle rest).1, (settle rest).2) := by
  obtain ⟨position, answer⟩ := x
  obtain ⟨err, rfl, hother⟩ := h
  simp only [settle, hother, Bool.false_eq_true, if_false]

/-- What is passed over before the rest is settled. -/
theorem settle_passed (h : ∀ x ∈ passed, GoesOn x.2)
    (rest : List ((Int × String) × Except String (Option (RoutingDecision K)))) :
    settle (passed ++ rest) = (passed.map Prod.fst ++ (settle rest).1, (settle rest).2) := by
  induction passed with
  | nil => rfl
  | cons x passed ih =>
    obtain ⟨hx, hpassed⟩ := List.forall_mem_cons.mp h
    rw [List.cons_append, settle_goesOn hx, ih hpassed]
    rfl

theorem settle_success (h : ∀ x ∈ passed, GoesOn x.2) :
    settle (passed ++ (position, .ok (some decision)) :: rest) =
      (passed.map Prod.fst ++ [position], .ok (position, decision)) := by
  rw [settle_passed h, settle]

theorem settle_rateLimit (h : ∀ x ∈ passed, GoesOn x.2) (hlimit : isRateLimitError err = true) :
    settle (passed ++ (position, .error err) :: rest) =
      (passed.map Prod.fst ++ [position], .error .rateLimitExceeded) := by
  rw [settle_passed h, settle, if_pos hlimit]

theorem settle_nil (h : ∀ x ∈ passed, GoesOn x.2) :
    settle (passed ++ (position, .ok none) :: rest) =
      (passed.map Prod.fst ++ [position], .error .panicked) := by
  rw [settle_passed h, settle]

theorem settle_exhausted (h : ∀ x ∈ passed, GoesOn x.2) :
    settle passed = (passed.map Prod.fst, .error .allTiersFailed) := by
  have hnil := settle_passed h []
  rw [List.append_nil] at hnil
  rw [hnil, settle, List.append_nil]

/-- The four ways to settle a list. -/
theorem settle_cases (xs : List ((Int × String) × Except String (Option (RoutingDecision K)))) :
    (∃ passed position decision rest, xs = passed ++ (position, .ok (some decision)) :: rest ∧
      ∀ x ∈ passed, GoesOn x.2) ∨
    (∃ passed position err rest, xs = passed ++ (position, .error err) :: rest ∧
      (∀ x ∈ passed, GoesOn x.2) ∧ isRateLimitError err = true) ∨
    (∃ passed position rest, xs = passed ++ (position, .ok none) :: rest ∧ ∀ x ∈ passed, GoesOn x.2) ∨
    ∀ x ∈ xs, GoesOn x.2 := by
  induction xs with
  | nil => exact .inr (.inr (.inr nofun))
  | cons x xs ih =>
    by_cases hx : GoesOn x.2
    · rcases ih with ⟨passed, position, decision, rest, rfl, hpassed⟩ |
        ⟨passed, position, err, rest, rfl, hpassed, hlimit⟩ | ⟨passed, position, rest, rfl, hpassed⟩ | hall
      · exact .inl ⟨x :: passed, position, decision, rest, rfl, List.forall_mem_cons.mpr ⟨hx, hpassed⟩⟩
      · exact .inr (.inl ⟨x :: passed, position, err, rest, rfl,
          List.forall_mem_cons.mpr ⟨hx, hpassed⟩, hlimit⟩)
      · exact .inr (.inr (.inl ⟨x :: passed, position, rest, rfl, List.forall_mem_cons.mpr ⟨hx, hpassed⟩⟩))
      · exact .inr (.inr (.inr (List.forall_mem_cons.mpr ⟨hx, hall⟩)))
    · obtain ⟨position, err | _ | decision⟩ := x
      · refine .inr (.inl ⟨[], position, err, xs, rfl, nofun, ?_⟩)
        by_contra hother
        exact hx ⟨err, rfl, Bool.not_eq_true _ ▸ hother⟩
      · exact .inr (.inr (.inl ⟨[], position, xs, rfl, nofun⟩))
      · exact .inl ⟨[], position, decision, xs, rfl, nofun⟩

end

theorem settle_append_of_failed {xs : List ((Int × String) × Except String (Option (RoutingDecision K)))}
    {called : List (Int × String)} (h : settle xs = (called, .error .allTiersFailed))
    (ys : List ((Int × String) × Except String (Option (RoutingDecision K)))) :
    settle (xs ++ ys) = (called ++ (settle ys).1, (settle ys).2) := by
  rcases settle_cases xs with ⟨passed, position, decision, rest, rfl, hpassed⟩ |
    ⟨passed, position, err, rest, rfl, hpassed, hlimit⟩ | ⟨passed, position, rest, rfl, hpassed⟩ | hall
  · rw [settle_success hpassed] at h
    cases h
  · rw [settle_rateLimit hpassed hlimit] at h
    cases h
  · rw [settle_nil hpassed] at h
    cases h
  · rw [settle_exhausted hall] at h
    cases h
    exact settle_passed hall ys

theorem settle_append_of_stopped {xs : List ((Int × String) × Except String (Option (RoutingDecision K)))}
    {called : List (Int × String)} {settled : Except FallbackError ((Int × String) × RoutingDecision K)}
    (h : settle xs = (called, settled)) (hstopped : settled ≠ .error .allTiersFailed)
    (ys : List ((Int × String) × Except String (Option (RoutingDecision K)))) :
    settle (xs ++ ys) = (called, settled) := by
  rcases settle_cases xs with ⟨passed, position, decision, rest, rfl, hpassed⟩ |
    ⟨passed, position, err, rest, rfl, hpassed, hlimit⟩ | ⟨passed, position, rest, rfl, hpassed⟩ | hall
  · rw [settle_success hpassed] at h
    rw [List.append_assoc, List.cons_append, settle_success hpassed, h]
  · rw [settle_rateLimit hpassed hlimit] at h
    rw [List.append_assoc, List.cons_append, settle_rateLimit hpassed hlimit, h]
  · rw [settle_nil hpassed] at h
    rw [List.append_assoc, List.cons_append, settle_nil hpassed, h]
  · rw [settle_exhausted hall] at h
    cases h
    exact absurd rfl hstopped

section

variable {select : σ → RoutingRequest K → String → σ × Except String (Option (RoutingDecision K))}
  {req : RoutingRequest K}

theorem attempts_append (s : σ) (asked asked' : List (Int × String)) :
    attempts select req s (asked ++ asked') =
      attempts select req s asked ++ attempts select req (afterAll select req s asked) asked' := by
  induction asked generalizing s with
  | nil => rfl
  | cons position asked ih =>
    rw [List.cons_append, attempts, attempts, ih, List.cons_append]
    rfl

theorem attempts_positions (s : σ) (asked : List (Int × String)) :
    (attempts select req s asked).map Prod.fst = asked := by
  induction asked generalizing s with
  | nil => rfl
  | cons position asked ih => rw [attempts, List.map_cons, ih]

variable (select req) in
/-- One tier settles the answers for its providers, and leaves the router behind all of them when it fails. -/
theorem tryTier_settles (tier : Int) (s : σ) (names : List String) :
    (∃ name decision, settle (attempts select req s (names.map (tier, ·))) =
        ((tryTier select req s names).called.map (tier, ·), .ok ((tier, name), decision)) ∧
      (tryTier select req s names).answer = .ok { decision with takeoverMark := true }) ∨
    (settle (attempts select req s (names.map (tier, ·))) =
        ((tryTier select req s names).called.map (tier, ·), .error .rateLimitExceeded) ∧
      (tryTier select req s names).answer = .error .rateLimitExceeded) ∨
    (settle (attempts select req s (names.map (tier, ·))) =
        ((tryTier select req s names).called.map (tier, ·), .error .panicked) ∧
      (tryTier select req s names).answer = .error .panicked) ∨
    (settle (attempts select req s (names.map (tier, ·))) =
        ((tryTier select req s names).called.map (tier, ·), .error .allTiersFailed) ∧
      (tryTier select req s names).answer = .error .allTiersFailed ∧
      (tryTier select req s names).router = afterAll select req s (names.map (tier, ·))) := by
  induction names generalizing s with
  | nil => exact .inr (.inr (.inr ⟨rfl, rfl, rfl⟩))
  | cons name names ih =>
    rcases hselect : select s req name with ⟨s', err | _ | decision⟩
    · cases hlimit : isRateLimitError err with
      | true =>
        refine .inr (.inl ⟨?_, ?_⟩)
        · simp only [List.map_cons, attempts, tryTier, hselect, settle, hlimit, if_true, List.map_nil]
        · simp only [tryTier, hselect, hlimit, if_true]
      | false =>
        have hsettle : settle (attempts select req s ((name :: names).map (tier, ·))) =
            ((tier, name) :: (settle (attempts select req s' (names.map (tier, ·)))).1,
              (settle (attempts select req s' (names.map (tier, ·)))).2) := by
          simp only [List.map_cons, attempts, hselect, settle, hlimit, Bool.false_eq_true, if_false]
        have htry : tryTier select req s (name :: names) =
            { tryTier select req s' names with called := name :: (tryTier select req s' names).called } := by
          simp only [tryTier, hselect, hlimit, Bool.false_eq_true, if_false]
        have hafter : afterAll select req s ((name :: names).map (tier, ·)) =
            afterAll select req s' (names.map (tier, ·)) := by
          simp only [afterAll, List.map_cons, List.foldl_cons, hselect]
        rw [hsettle, htry, hafter]
        rcases ih s' with ⟨name', decision, heq, hanswer⟩ | ⟨heq, hanswer⟩ | ⟨heq, hanswer⟩ |
          ⟨heq, hanswer, hrouter⟩
        · exact .inl ⟨name', decision, by rw [heq]; rfl, hanswer⟩
        · exact .inr (.inl ⟨by rw [heq]; rfl, hanswer⟩)
        · exact .inr (.inr (.inl ⟨by rw [heq]; rfl, hanswer⟩))
        · exact .inr (.inr (.inr ⟨by rw [heq]; rfl, hanswer, hrouter⟩))
    · refine .inr (.inr (.inl ⟨?_, ?_⟩))
      · simp only [List.map_cons, attempts, tryTier, hselect, settle, List.map_nil]
      · simp only [tryTier, hselect]
    · refine .inl ⟨name, decision, ?_, ?_⟩
      · simp only [List.map_cons, attempts, tryTier, hselect, settle, List.map_nil]
      · simp only [tryTier, hselect]

/-- The loops over the tiers and their providers are one pass over the positions. -/
theorem tryTiers_settles (h : FallbackHandler) (s : σ) (tiers : List TierConfig) :
    (h.tryTiers select req s tiers).called = (settle (attempts select req s (positions tiers))).1 ∧
    (h.tryTiers select req s tiers).answer =
      (settle (attempts select req s (positions tiers))).2.map marked ∧
    (h.tryTiers select req s tiers).recorded =
      marksOf h.metrics (settle (attempts select req s (positions tiers))).2 := by
  induction tiers generalizing s with
  | nil => exact ⟨rfl, rfl, rfl⟩
  | cons tier tiers ih =>
    have hpositions : positions (tier :: tiers) = tier.providers.map (tier.tier, ·) ++ positions tiers :=
      List.flatMap_cons ..
    rw [hpositions, attempts_append]
    have hcases := tryTier_settles select req tier.tier s tier.providers
    rcases htried : tryTier select req s tier.providers with ⟨s', called, answer⟩
    rw [htried] at hcases
    rcases hcases with ⟨name, decision, heq, rfl⟩ | ⟨heq, rfl⟩ | ⟨heq, rfl⟩ | ⟨heq, rfl, hrouter⟩
    · have hrun : h.tryTiers select req s (tier :: tiers) =
          ⟨s', called.map (tier.tier, ·), if h.metrics then [(decision.provider, tier.tier)] else [],
            .ok { decision with takeoverMark := true }⟩ := by
        simp only [FallbackHandler.tryTiers, htried]
      rw [settle_append_of_stopped heq nofun, hrun]
      exact ⟨rfl, rfl, rfl⟩
    · have hrun : h.tryTiers select req s (tier :: tiers) =
          ⟨s', called.map (tier.tier, ·), [], .error .rateLimitExceeded⟩ := by
        simp only [FallbackHandler.tryTiers, htried]
      rw [settle_append_of_stopped heq nofun, hrun]
      exact ⟨rfl, rfl, rfl⟩
    · have hrun : h.tryTiers select req s (tier :: tiers) =
          ⟨s', called.map (tier.tier, ·), [], .error .panicked⟩ := by
        simp only [FallbackHandler.tryTiers, htried]
      rw [settle_append_of_stopped heq nofun, hrun]
      exact ⟨rfl, rfl, rfl⟩
    · dsimp only at hrouter
      rw [settle_append_of_failed heq, ← hrouter]
      obtain ⟨hcalled, hanswer, hrecorded⟩ := ih s'
      simp only [FallbackHandler.tryTiers, htried]
      exact ⟨by rw [hcalled], hanswer, hrecorded⟩

variable (select req) in
theorem handle_settles (h : FallbackHandler) (s : σ) :
    (h.handle select s req).called = (settle (attempts select req s (positions h.tiers))).1 ∧
    (h.handle select s req).answer = (settle (attempts select req s (positions h.tiers))).2.map marked ∧
    (h.handle select s req).recorded =
      marksOf h.metrics (settle (attempts select req s (positions h.tiers))).2 := by
  unfold FallbackHandler.handle
  split
  next hempty =>
    rw [hempty]
    exact ⟨rfl, rfl, rfl⟩
  next => exact tryTiers_settles h s h.tiers

end

/-- What `Handle` does for the answers that the router would give to all the positions. -/
structure FallsBack (metrics : Bool) (answers : List ((Int × String) × Except String (Option (RoutingDecision K))))
    (outcome : Outcome σ K) : Prop where
  inOrder : outcome.called <+: answers.map Prod.fst
  success : ∀ passed position decision rest, answers = passed ++ (position, .ok (some decision)) :: rest →
    (∀ x ∈ passed, GoesOn x.2) →
    outcome.answer = .ok { decision with takeoverMark := true } ∧
      outcome.called = passed.map Prod.fst ++ [position] ∧
      outcome.recorded = if metrics then [(decision.provider, position.1)] else []
  rateLimit : ∀ passed position err rest, answers = passed ++ (position, .error err) :: rest →
    (∀ x ∈ passed, GoesOn x.2) → isRateLimitError err = true →
    outcome.called = passed.map Prod.fst ++ [position] ∧ outcome.recorded = []
  rateLimitExceeded : outcome.answer = .error .rateLimitExceeded ↔
    ∃ passed position err rest, answers = passed ++ (position, .error err) :: rest ∧
      (∀ x ∈ passed, GoesOn x.2) ∧ isRateLimitError err = true
  allTiersFailed : outcome.answer = .error .allTiersFailed ↔ ∀ x ∈ answers, GoesOn x.2
  exhausted : (∀ x ∈ answers, GoesOn x.2) →
    outcome.called = answers.map Prod.fst ∧ outcome.recorded = []

theorem fallsBack_of_settle {metrics : Bool}
    {answers : List ((Int × String) × Except String (Option (RoutingDecision K)))} {outcome : Outcome σ K}
    (hcalled : outcome.called = (settle answers).1) (hanswer : outcome.answer = (settle answers).2.map marked)
    (hrecorded : outcome.recorded = marksOf metrics (settle answers).2) :
    FallsBack metrics answers outcome where
  inOrder := by
    rw [hcalled]
    rcases settle_cases answers with ⟨passed, position, decision, rest, rfl, hpassed⟩ |
      ⟨passed, position, err, rest, rfl, hpassed, hlimit⟩ | ⟨passed, position, rest, rfl, hpassed⟩ | hall
    · rw [settle_success hpassed]
      exact ⟨rest.map Prod.fst, by simp⟩
    · rw [settle_rateLimit hpassed hlimit]
      exact ⟨rest.map Prod.fst, by simp⟩
    · rw [settle_nil hpassed]
      exact ⟨rest.map Prod.fst, by simp⟩
    · rw [settle_exhausted hall]
  success passed position decision rest heq hpassed := by
    rw [heq, settle_success hpassed] at hcalled hanswer hrecorded
    exact ⟨hanswer, hcalled, hrecorded⟩
  rateLimit passed position err rest heq hpassed hlimit := by
    rw [heq, settle_rateLimit hpassed hlimit] at hcalled hrecorded
    exact ⟨hcalled, hrecorded⟩
  rateLimitExceeded := by
    rw [hanswer]
    constructor
    · intro h
      rcases settle_cases answers with ⟨passed, position, decision, rest, rfl, hpassed⟩ | hlimited |
        ⟨passed, position, rest, rfl, hpassed⟩ | hall
      · rw [settle_success hpassed] at h
        cases h
      · exact hlimited
      · rw [settle_nil hpassed] at h
        cases h
      · rw [settle_exhausted hall] at h
        cases h
    · rintro ⟨passed, position, err, rest, rfl, hpassed, hlimit⟩
      rw [settle_rateLimit hpassed hlimit]
      rfl
  allTiersFailed := by
    rw [hanswer]
    constructor
    · intro h
      rcases settle_cases answers with ⟨passed, position, decision, rest, rfl, hpassed⟩ |
        ⟨passed, position, err, rest, rfl, hpassed, hlimit⟩ | ⟨passed, position, rest, rfl, hpassed⟩ | hall
      · rw [settle_success hpassed] at h
        cases h
      · rw [settle_rateLimit hpassed hlimit] at h
        cases h
      · rw [settle_nil hpassed] at h
        cases h
      · exact hall
    · intro hall
      rw [settle_exhausted hall]
      rfl
  exhausted hall := by
    rw [settle_exhausted hall] at hcalled hrecorded
    exact ⟨hcalled, hrecorded⟩

/-- Whatever the tiers are and whatever the router answers from call to call, the positions are gone over
in order up to the first success, rate limit or answer without a decision. -/
theorem handle_fallsBack (h : FallbackHandler)
    (select : σ → RoutingRequest K → String → σ × Except String (Option (RoutingDecision K))) (s : σ)
    (req : RoutingRequest K) :
    (h.handle select s req).called <+: positions h.tiers ∧
    FallsBack h.metrics (attempts select req s (positions h.tiers)) (h.handle select s req) := by
  obtain ⟨hcalled, hanswer, hrecorded⟩ := handle_settles select req h s
  have hfalls := fallsBack_of_settle hcalled hanswer hrecorded
  refine ⟨?_, hfalls⟩
  have horder := hfalls.inOrder
  rwa [attempts_positions] at horder

end

/-- A router that always answers. -/
def answering (_ : Unit) (_ : RoutingRequest ℚ) (name : String) :
    Unit × Except String (Option (RoutingDecision ℚ)) :=
  ((), .ok (some ⟨name, "fallback", 1, 100, 1, false⟩))

/-- A handler as it is made has no collector: its success records no takeover mark. -/
theorem handle_without_metrics :
    let outcome := (FallbackHandler.mk [⟨1, ["a"]⟩] newFallbackHandler.metrics).handle answering ()
      ⟨"gpt-4", 0, 0, 0⟩
    outcome.answer = .ok ⟨"a", "fallback", 1, 100, 1, true⟩ ∧ outcome.called = [(1, "a")] ∧
      outcome.recorded ≠ [("a", 1)] := by
  decide

end SupplyPlatform.Gateway.Fallback
