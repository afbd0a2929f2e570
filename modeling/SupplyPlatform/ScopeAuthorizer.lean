import SupplyPlatform.Lib.Strings

namespace SupplyPlatform

open Strings

/-- The loop over the scopes that the three matchers share; `cut` is what `strings.TrimSuffix` takes off
a wildcard before it is compared. -/
def anyScope (cut : String) (scopes : List String) (required : String) : Bool :=
  scopes.any (fun scope => decide (scope = required) ||
    (hasSuffix scope ":*" && hasPrefix required (trimSuffix scope cut)))

def Gateway.hasScope (scopes : List String) (required : String) : Bool :=
  anyScope ":*" scopes required

def TokenRuntime.hasScope (scopes : List String) (required : String) : Bool :=
  anyScope "*" scopes required

/-- `model.Principal`. -/
structure Principal where
  requestID : String
  tokenID : String
  subjectID : String
  role : String
  scope : List String
  deriving DecidableEq

def Principal.hasScope (p : Principal) (required : String) : Bool :=
  if required = "" then true else anyScope "*" p.scope required

/-- The rule of the scopes: a scope stands for itself, and `p:*` for everything that starts with `p:`. -/
def Grants (scope required : String) : Prop :=
  scope = required ∨ ∃ p rest, scope = p ++ ":*" ∧ required = p ++ ":" ++ rest

theorem anyScope_iff {cut : String} {scopes : List String} {required : String} :
    anyScope cut scopes required = true ↔ ∃ scope ∈ scopes, scope = required ∨
      ∃ p, scope = p ++ ":*" ∧ ∃ rest, required = trimSuffix scope cut ++ rest := by
  simp only [anyScope, List.any_eq_true, Bool.or_eq_true, decide_eq_true_eq, Bool.and_eq_true,
    hasSuffix_iff, hasPrefix_iff, exists_and_right]

theorem anyScope_star_iff {scopes : List String} {required : String} :
    anyScope "*" scopes required = true ↔ ∃ scope ∈ scopes, Grants scope required := by
  have cut : ∀ p : String, trimSuffix (p ++ ":*") "*" = p ++ ":" := fun p => by
    rw [show p ++ ":*" = (p ++ ":") ++ "*" by rw [String.append_assoc]; rfl]
    exact trimSuffix_append _ _
  rw [anyScope_iff]
  constructor
  · rintro ⟨scope, hs, rfl | ⟨p, rfl, rest, hr⟩⟩
    · exact ⟨scope, hs, .inl rfl⟩
    · exact ⟨_, hs, .inr ⟨p, rest, rfl, by rw [cut] at hr; exact hr⟩⟩
  · rintro ⟨scope, hs, rfl | ⟨p, rest, rfl, hr⟩⟩
    · exact ⟨scope, hs, .inl rfl⟩
    · exact ⟨_, hs, .inr ⟨p, rfl, rest, by rw [cut]; exact hr⟩⟩

/-- The gateway cuts the colon off with the star. -/
theorem anyScope_colon_star_iff {scopes : List String} {required : String} :
    anyScope ":*" scopes required = true ↔
      required ∈ scopes ∨ ∃ p rest, p ++ ":*" ∈ scopes ∧ required = p ++ rest := by
  rw [anyScope_iff]
  constructor
  · rintro ⟨scope, hs, rfl | ⟨p, rfl, rest, hr⟩⟩
    · exact .inl hs
    · exact .inr ⟨p, rest, hs, by rw [trimSuffix_append] at hr; exact hr⟩
  · rintro (hs | ⟨p, rest, hs, hr⟩)
    · exact ⟨required, hs, .inl rfl⟩
    · exact ⟨_, hs, .inr ⟨p, rfl, rest, by rw [trimSuffix_append]; exact hr⟩⟩

theorem anyScope_colon_star_of_grants {scopes : List String} {required : String}
    (h : ∃ scope ∈ scopes, Grants scope required) : anyScope ":*" scopes required = true := by
  obtain ⟨scope, hs, rfl | ⟨p, rest, rfl, rfl⟩⟩ := h
  · exact anyScope_colon_star_iff.mpr (.inl hs)
  · exact anyScope_colon_star_iff.mpr (.inr ⟨p, ":" ++ rest, hs, String.append_assoc⟩)

/-- The matchers agree on the scopes of `p`, and on what the rule says. -/
def MatchersFollowRule (p : Principal) (required : String) : Prop :=
  Gateway.hasScope p.scope required = TokenRuntime.hasScope p.scope required ∧
    TokenRuntime.hasScope p.scope required = p.hasScope required ∧
    (p.hasScope required = true ↔ ∃ scope ∈ p.scope, Grants scope required)

theorem matchersFollowRule_iff (p : Principal) (required : String) (h : required ≠ "") :
    MatchersFollowRule p required ↔
      ((∀ q rest, q ++ ":*" ∈ p.scope → required ≠ q ++ rest) ∨
        ∃ scope ∈ p.scope, Grants scope required) := by
  have own : p.hasScope required = anyScope "*" p.scope required := if_neg h
  unfold MatchersFollowRule
  rw [own, anyScope_star_iff]
  simp only [TokenRuntime.hasScope, Gateway.hasScope, and_true]
  constructor
  · intro agree
    by_cases loose : ∃ q rest, q ++ ":*" ∈ p.scope ∧ required = q ++ rest
    · have matched := anyScope_colon_star_iff.mpr (.inr loose)
      exact .inr (anyScope_star_iff.mp (agree ▸ matched))
    · exact .inl (fun q rest hq hr => loose ⟨q, rest, hq, hr⟩)
  · intro cond
    apply Bool.eq_iff_iff.mpr
    rw [anyScope_star_iff]
    refine ⟨fun matched => ?_, anyScope_colon_star_of_grants⟩
    rcases cond with closed | granted
    · rcases anyScope_colon_star_iff.mp matched with hs | ⟨q, rest, hq, hr⟩
      · exact ⟨required, hs, .inl rfl⟩
      · exact absurd hr (closed q rest hq)
    · exact granted

theorem matchersFollowRule_supply :
    MatchersFollowRule ⟨"req-1", "tok-1", "sub-1", "viewer", ["supply:*"]⟩ "supply:read" :=
  (matchersFollowRule_iff _ _ (by decide)).mpr
    (.inr ⟨"supply:*", List.mem_singleton.mpr rfl, .inr ⟨"supply", "read", by decide, by decide⟩⟩)

theorem matchers_differ_supplychain :
    ¬ MatchersFollowRule ⟨"req-1", "tok-1", "sub-1", "viewer", ["supply:*"]⟩ "supplychain:write" := by
  intro h
  have agree := h.1
  revert agree
  decide

/-- The parts of `AuthMiddlewareConfig` that decide which paths are protected. -/
structure PathConfig where
  protectedPrefixes : List String
  excludedPrefixes : List String
  deriving DecidableEq

namespace PathConfig

/-- `withDefaults`, with the excluded prefixes of the one who calls it. -/
def withDefaults (excluded : List String) (cfg : PathConfig) : PathConfig where
  protectedPrefixes :=
    if cfg.protectedPrefixes = [] then ["/api/v1/supply", "/api/v1/platform"]
    else cfg.protectedPrefixes
  excludedPrefixes := if cfg.excludedPrefixes = [] then excluded else cfg.excludedPrefixes

def shouldProtect (cfg : PathConfig) (path : String) : Bool :=
  if cfg.excludedPrefixes.any (hasPrefix path) then false
  else cfg.protectedPrefixes.any (hasPrefix path)

end PathConfig

def TokenRuntime.withDefaults (cfg : PathConfig) : PathConfig :=
  cfg.withDefaults ["/healthz", "/metrics", "/readyz"]

def Gateway.withDefaults (cfg : PathConfig) : PathConfig :=
  cfg.withDefaults ["/health", "/healthz", "/metrics", "/readyz"]

/-- `requiredScopeForRoute`, the same function in both systems. -/
def requiredScopeForRoute (path method : String) : String :=
  if path = "/api/v1/supply" ∨ hasPrefix path "/api/v1/supply/" then
    if method = "GET" ∨ method = "HEAD" ∨ method = "OPTIONS" then "supply:read" else "supply:write"
  else if path = "/api/v1/platform" ∨ hasPrefix path "/api/v1/platform/" then "platform:admin"
  else ""

/-- `ScopeRoleAuthorizer.Authorize`, over the matcher of the system it stands in. -/
def authorizeWith (matcher : List String → String → Bool) (path method : String)
    (scopes : List String) (role : String) : Bool :=
  if role = "admin" then true
  else if requiredScopeForRoute path method = "" then true
  else matcher scopes (requiredScopeForRoute path method)

def TokenRuntime.authorize : String → String → List String → String → Bool :=
  authorizeWith TokenRuntime.hasScope

def Gateway.authorize : String → String → List String → String → Bool :=
  authorizeWith Gateway.hasScope

theorem requiredScopeForRoute_eq_empty {path method : String} :
    requiredScopeForRoute path method = "" ↔
      ¬ (path = "/api/v1/supply" ∨ hasPrefix path "/api/v1/supply/" = true) ∧
        ¬ (path = "/api/v1/platform" ∨ hasPrefix path "/api/v1/platform/" = true) := by
  unfold requiredScopeForRoute
  split
  next h =>
    split <;> simp [h]
  next h =>
    split
    next h' => simp [h']
    next h' => exact ⟨fun _ => ⟨h, h'⟩, fun _ => rfl⟩

theorem authorizeWith_nil {matcher : List String → String → Bool} {path method role : String}
    (hm : ∀ required, matcher [] required = false) (hr : role ≠ "admin") :
    authorizeWith matcher path method [] role = decide (requiredScopeForRoute path method = "") := by
  unfold authorizeWith
  rw [if_neg hr]
  split
  next h => exact (decide_eq_true h).symm
  next h => rw [hm, decide_eq_false h]

/-- The defaults exclude nothing that they protect. -/
theorem shouldProtect_withDefaults (excluded : List String) (path : String)
    (apart : ∀ e ∈ excluded, ∀ b ∈ ["/api/v1/supply", "/api/v1/platform"],
      hasPrefix e b = false ∧ hasPrefix b e = false) :
    (PathConfig.withDefaults excluded ⟨[], []⟩).shouldProtect path =
      (hasPrefix path "/api/v1/supply" || hasPrefix path "/api/v1/platform") := by
  have protect : ∀ b ∈ ["/api/v1/supply", "/api/v1/platform"], hasPrefix path b = true →
      excluded.any (hasPrefix path) = false := by
    intro b hb hpath
    apply List.any_eq_false.mpr
    intro e he hpe
    have := apart e he b hb
    rcases hasPrefix_or_hasPrefix hpe hpath with h | h <;> simp [h] at this
  simp only [PathConfig.shouldProtect, PathConfig.withDefaults, if_true, List.any_cons, List.any_nil,
    Bool.or_false]
  cases hs : hasPrefix path "/api/v1/supply" with
  | true => rw [protect _ (by simp) hs]; rfl
  | false =>
    cases hp : hasPrefix path "/api/v1/platform" with
    | true => rw [protect _ (by simp) hp]; rfl
    | false => simp

/-- Where the defaults of both systems protect `path`, neither lets a principal through that is not
admin and has no scopes. -/
def ProtectedDemandsScope (path method : String) : Prop :=
  ∀ role, role ≠ "admin" →
    ((TokenRuntime.withDefaults ⟨[], []⟩).shouldProtect path = true →
      TokenRuntime.authorize path method [] role = false) ∧
    ((Gateway.withDefaults ⟨[], []⟩).shouldProtect path = true →
      Gateway.authorize path method [] role = false)

theorem protectedDemandsScope_iff_required {path method : String} :
    ProtectedDemandsScope path method ↔
      (hasPrefix path "/api/v1/supply" = true ∨ hasPrefix path "/api/v1/platform" = true →
        requiredScopeForRoute path method ≠ "") := by
  have runtime := shouldProtect_withDefaults ["/healthz", "/metrics", "/readyz"] path
    (by decide)
  have gateway := shouldProtect_withDefaults ["/health", "/healthz", "/metrics", "/readyz"] path
    (by decide)
  have runtimeNone : ∀ required, TokenRuntime.hasScope [] required = false := fun _ => rfl
  have gatewayNone : ∀ required, Gateway.hasScope [] required = false := fun _ => rfl
  simp only [ProtectedDemandsScope, TokenRuntime.withDefaults, Gateway.withDefaults, runtime, gateway,
    TokenRuntime.authorize, Gateway.authorize, Bool.or_eq_true]
  constructor
  · intro h hpath
    have refused := (h "viewer" (by decide)).1 hpath
    rw [authorizeWith_nil runtimeNone (show "viewer" ≠ "admin" by decide)] at refused
    exact of_decide_eq_false refused
  · intro h role hrole
    refine ⟨fun hpath => ?_, fun hpath => ?_⟩
    · rw [authorizeWith_nil runtimeNone hrole]
      exact decide_eq_false (h hpath)
    · rw [authorizeWith_nil gatewayNone hrole]
      exact decide_eq_false (h hpath)

/-- The two bases of the protected paths start no common path. -/
theorem not_hasPrefix_both {path : String} (hs : hasPrefix path "/api/v1/supply" = true)
    (hp : hasPrefix path "/api/v1/platform" = true) : False := by
  rcases hasPrefix_or_hasPrefix hs hp with h | h <;> revert h <;> decide

theorem protectedDemandsScope_iff (path method : String) :
    ProtectedDemandsScope path method ↔
      ∀ base ∈ ["/api/v1/supply", "/api/v1/platform"], ∀ c rest,
        path = base ++ String.ofList (c :: rest) → c = '/' := by
  have supplySlash : "/api/v1/supply/" = "/api/v1/supply" ++ String.singleton '/' := by decide
  have platformSlash : "/api/v1/platform/" = "/api/v1/platform" ++ String.singleton '/' := by
    decide
  rw [protectedDemandsScope_iff_required, ne_eq, requiredScopeForRoute_eq_empty, ← not_or, not_not]
  simp only [List.forall_mem_cons, List.not_mem_nil, false_implies, implies_true, and_true]
  constructor
  · intro h
    constructor
    · intro c rest hpath
      have hs : hasPrefix path "/api/v1/supply" = true := hasPrefix_iff.mpr ⟨_, hpath⟩
      rcases h (.inl hs) with hroute | hroute
      · exact (eq_or_hasPrefix_iff supplySlash hs).mp hroute c rest hpath
      · exact (not_hasPrefix_both hs (hasPrefix_of_longer platformSlash hroute)).elim
    · intro c rest hpath
      have hp : hasPrefix path "/api/v1/platform" = true := hasPrefix_iff.mpr ⟨_, hpath⟩
      rcases h (.inr hp) with hroute | hroute
      · exact (not_hasPrefix_both (hasPrefix_of_longer supplySlash hroute) hp).elim
      · exact (eq_or_hasPrefix_iff platformSlash hp).mp hroute c rest hpath
  · rintro ⟨hsupply, hplatform⟩ (hs | hp)
    · exact .inl ((eq_or_hasPrefix_iff supplySlash hs).mpr hsupply)
    · exact .inr ((eq_or_hasPrefix_iff platformSlash hp).mpr hplatform)

theorem supplychain_path_demands_no_scope : ¬ ProtectedDemandsScope "/api/v1/supplychain" "POST" := by
  intro h
  have refused := (h "viewer" (by decide)).1 (by decide)
  revert refused
  decide

end SupplyPlatform
