namespace SupplyPlatform.Iam.ScopeAuth

/-- The claims that the guards read. -/
structure IAMTokenClaims where
  subjectID : String
  role : String
  scope : List String
  tenantID : Int
  userType : String
  deriving DecidableEq

/-- What `writeAuthError` sends. -/
structure AuthError where
  status : Nat
  code : String
  message : String
  deriving DecidableEq

/-- The entry of the log for an access with the wildcard scope. -/
structure WildcardAccess where
  subjectID : String
  role : String
  requiredScope : String
  tenantID : Int
  userType : String
  deriving DecidableEq

/-- A guard runs the next handler, after what it has logged, or it answers itself. -/
inductive Guarded
  | next (logged : Option WildcardAccess)
  | refused (err : AuthError)
  deriving DecidableEq

def Guarded.runsNext : Guarded → Bool
  | .next _ => true
  | .refused _ => false

def errContextMissing : AuthError := ⟨401, "AUTH_CONTEXT_MISSING", "authentication context is missing"⟩

def hasScope (scopes : List String) (target : String) : Bool :=
  scopes.any (fun scope => scope = target || scope = "*")

def hasAnyScope (scopes targets : List String) : Bool :=
  scopes.any (fun scope => targets.any (fun target => scope = target || scope = "*"))

def hasWildcardScope (scopes : List String) : Bool :=
  scopes.any (fun scope => scope = "*")

/-- The check functions, which differ in what they ask of the scopes held. -/
def checkScopes (granted : List String → Bool) : Option IAMTokenClaims → Bool
  | none => false
  | some claims => granted claims.scope

def checkScope (claims : Option IAMTokenClaims) (requiredScope : String) : Bool :=
  checkScopes (fun held => if requiredScope = "" then false else hasScope held requiredScope) claims

def checkAllScopes (claims : Option IAMTokenClaims) (requiredScopes : List String) : Bool :=
  checkScopes (fun held =>
    if requiredScopes.length = 0 then true else requiredScopes.all (hasScope held)) claims

def checkAnyScope (claims : Option IAMTokenClaims) (requiredScopes : List String) : Bool :=
  checkScopes (fun held =>
    if requiredScopes.length = 0 then true else requiredScopes.any (hasScope held)) claims

def logWildcardScopeAccess (claims : IAMTokenClaims) (requiredScope : String) : Option WildcardAccess :=
  if hasWildcardScope claims.scope then
    some ⟨claims.subjectID, claims.role, requiredScope, claims.tenantID, claims.userType⟩
  else none

/-- The guards, which differ in when they refuse, in their message and in the scope they log. -/
def requireScopes (denied : List String → Bool) (message logged : String) :
    Option IAMTokenClaims → Guarded
  | none => .refused errContextMissing
  | some claims =>
    if denied claims.scope then .refused ⟨403, "AUTH_SCOPE_DENIED", message⟩
    else .next (logWildcardScopeAccess claims logged)

def requireScope (claims : Option IAMTokenClaims) (requiredScope : String) : Guarded :=
  requireScopes (fun held => requiredScope ≠ "" && !hasScope held requiredScope)
    "required scope is not granted" requiredScope claims

def requireAllScopes (claims : Option IAMTokenClaims) (requiredScopes : List String) : Guarded :=
  requireScopes (fun held => requiredScopes.any (fun scope => !hasScope held scope))
    "required scope is not granted" "" claims

def requireAnyScope (claims : Option IAMTokenClaims) (requiredScopes : List String) : Guarded :=
  requireScopes (fun held => requiredScopes.length = 0 || !hasAnyScope held requiredScopes)
    "none of the required scopes are granted" "" claims

/-- The rule of the scopes held: a scope covers itself, and the wildcard covers every scope. -/
def Covers (held : List String) (required : String) : Prop :=
  required ∈ held ∨ "*" ∈ held

theorem hasScope_iff {held : List String} {required : String} :
    hasScope held required = true ↔ Covers held required := by
  simp only [hasScope, Covers, List.any_eq_true, Bool.or_eq_true, decide_eq_true_eq]
  constructor
  · rintro ⟨scope, hmem, rfl | rfl⟩
    · exact .inl hmem
    · exact .inr hmem
  · rintro (h | h)
    · exact ⟨required, h, .inl rfl⟩
    · exact ⟨"*", h, .inr rfl⟩

/-- The other order of the two loops decides the same. -/
theorem hasAnyScope_eq_any (held targets : List String) :
    hasAnyScope held targets = targets.any (hasScope held) := by
  apply Bool.eq_iff_iff.mpr
  simp only [hasAnyScope, hasScope, List.any_eq_true]
  constructor
  · rintro ⟨scope, hscope, target, htarget, h⟩
    exact ⟨target, htarget, scope, hscope, h⟩
  · rintro ⟨target, htarget, scope, hscope, h⟩
    exact ⟨scope, hscope, target, htarget, h⟩

@[simp] theorem requireScopes_none (denied : List String → Bool) (message logged : String) :
    requireScopes denied message logged none = .refused errContextMissing := rfl

/-- A guard runs the next handler for just the claims that its own test lets pass. -/
theorem requireScopes_runsNext (denied : List String → Bool) (message logged : String)
    (claims : IAMTokenClaims) :
    (requireScopes denied message logged (some claims)).runsNext = !denied claims.scope := by
  rw [requireScopes]
  cases hdenied : denied claims.scope with
  | true => rfl
  | false => rfl

/-- What a check and a guard agree on comes down to their tests of the scopes held. -/
theorem runsNext_eq_check_iff {denied granted : List String → Bool} {message logged : String}
    {claims : Option IAMTokenClaims} :
    (requireScopes denied message logged claims).runsNext = checkScopes granted claims ↔
      ∀ c ∈ claims, (!denied c.scope) = granted c.scope := by
  cases claims with
  | none => simp [checkScopes, Guarded.runsNext]
  | some c => simp [requireScopes_runsNext, checkScopes]

theorem requireScope_agrees_iff (claims : Option IAMTokenClaims) (requiredScope : String) :
    (requireScope claims requiredScope).runsNext = checkScope claims requiredScope ↔
      claims = none ∨ requiredScope ≠ "" := by
  unfold requireScope checkScope
  rw [runsNext_eq_check_iff]
  by_cases hempty : requiredScope = ""
  · -- the guard asks nothing, the check lets nobody pass
    cases claims with
    | none => simp
    | some c => simp [hempty]
  · simp [hempty]

theorem requireAllScopes_agrees (claims : Option IAMTokenClaims) (requiredScopes : List String) :
    (requireAllScopes claims requiredScopes).runsNext = checkAllScopes claims requiredScopes := by
  apply runsNext_eq_check_iff.mpr
  intro c _
  cases requiredScopes with
  | nil => rfl
  | cons scope rest => simp [List.all_eq_not_any_not]

theorem requireAnyScope_agrees_iff (claims : Option IAMTokenClaims) (requiredScopes : List String) :
    (requireAnyScope claims requiredScopes).runsNext = checkAnyScope claims requiredScopes ↔
      claims = none ∨ requiredScopes ≠ [] := by
  unfold requireAnyScope checkAnyScope
  rw [runsNext_eq_check_iff]
  cases requiredScopes with
  | nil =>
    -- the guard refuses an empty list, the check lets everybody pass
    cases claims with
    | none => simp
    | some c => simp
  | cons scope rest => simp [hasAnyScope_eq_any]

/-- The guards and the checks decide alike for these claims and requirements. -/
structure GuardsAgree (claims : Option IAMTokenClaims) (requiredScope : String)
    (requiredScopes : List String) : Prop where
  scope : (requireScope claims requiredScope).runsNext = checkScope claims requiredScope
  all : (requireAllScopes claims requiredScopes).runsNext = checkAllScopes claims requiredScopes
  any : (requireAnyScope claims requiredScopes).runsNext = checkAnyScope claims requiredScopes

theorem guardsAgree_iff (claims : Option IAMTokenClaims) (requiredScope : String)
    (requiredScopes : List String) :
    GuardsAgree claims requiredScope requiredScopes ↔
      claims = none ∨ (requiredScope ≠ "" ∧ requiredScopes ≠ []) := by
  constructor
  · intro h
    have hscope := (requireScope_agrees_iff claims requiredScope).mp h.scope
    have hany := (requireAnyScope_agrees_iff claims requiredScopes).mp h.any
    rcases hscope with hnone | hscope
    · exact .inl hnone
    · exact hany.imp_right (fun hne => ⟨hscope, hne⟩)
  · intro h
    refine ⟨(requireScope_agrees_iff _ _).mpr ?_, requireAllScopes_agrees _ _,
      (requireAnyScope_agrees_iff _ _).mpr ?_⟩
    · exact h.imp_right And.left
    · exact h.imp_right And.right

/-- A caller who may read gets through the guard that asks for no scope, and fails its check. -/
theorem empty_scope_guard_passes :
    (requireScope (some ⟨"user:high01", "viewer", ["platform:read"], 1, ""⟩) "").runsNext = true ∧
    checkScope (some ⟨"user:high01", "viewer", ["platform:read"], 1, ""⟩) "" = false ∧
    ¬GuardsAgree (some ⟨"user:high01", "viewer", ["platform:read"], 1, ""⟩) "" ["platform:read"] := by
  refine ⟨rfl, rfl, fun h => ?_⟩
  have := h.scope
  cases this

end SupplyPlatform.Iam.ScopeAuth
