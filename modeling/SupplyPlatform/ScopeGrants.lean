import Mathlib.Order.UpperLower.Closure
import SupplyPlatform.Lib.Separators

namespace SupplyPlatform.TokenScope

/-- `Scope`, in text `domain:resource:action`. -/
structure Scope where
  domain : String
  resource : String
  action : String
  deriving DecidableEq

structure InvalidScopeError where
  scope : String
  reason : String
  deriving DecidableEq

def validDomains : List String := ["supply", "billing", "iam", "audit", "admin"]

def isValidDomain (domain : String) : Bool := validDomains.any (fun d => d = domain)

def validActions : List String := ["read", "write", "delete", "manage", "execute"]

def isValidAction (action : String) : Bool := validActions.any (fun a => a = action)

/-- `ParseScope` of the three parts. -/
def scopeOfParts (scopeStr domain resource action : String) : Except InvalidScopeError Scope :=
  if isValidDomain domain = false then .error ⟨scopeStr, "invalid domain: " ++ domain⟩
  else if isValidAction action = false then .error ⟨scopeStr, "invalid action: " ++ action⟩
  else .ok ⟨domain, resource, action⟩

def parseScope (scopeStr : String) : Except InvalidScopeError Scope :=
  match scopeStr.toList.splitOn ':' with
  | [domain, resource, action] =>
    scopeOfParts scopeStr (String.ofList domain) (String.ofList resource) (String.ofList action)
  | _ => .error ⟨scopeStr, "must be in format domain:resource:action"⟩

/-- The tests `HasScope` makes of one scope of the user. -/
def Scope.grants (u required : Scope) : Bool :=
  (u.domain = required.domain && u.resource = required.resource && u.action = required.action) ||
  (u.domain = required.domain && u.resource = required.resource && u.action = "manage") ||
  (u.domain = "admin" && u.resource = "admin" && u.action = "manage")

/-- A text that is no scope is passed over. -/
def grantsText (required : Scope) (userScopeStr : String) : Bool :=
  match parseScope userScopeStr with
  | .error _ => false
  | .ok userScope => userScope.grants required

def hasScope (userScopes : List String) (required : Scope) : Bool :=
  userScopes.any (grantsText required)

def hasAnyScope (userScopes : List String) (requiredScopes : List Scope) : Bool :=
  requiredScopes.any (hasScope userScopes)

def hasAllScopes (userScopes : List String) (requiredScopes : List Scope) : Bool :=
  requiredScopes.all (hasScope userScopes)

def adminAll : Scope := ⟨"admin", "admin", "manage"⟩

/-- `RoleScopes`. -/
def roleScopes : List (String × List String) :=
  [("viewer", ["supply:accounts:read", "supply:packages:read", "supply:orders:read", "supply:usage:read",
    "billing:accounts:read", "billing:ledgers:read", "audit:events:read"]),
   ("operator", ["supply:accounts:read", "supply:accounts:write", "supply:packages:read",
    "supply:packages:write", "supply:orders:read", "supply:orders:write", "supply:usage:read",
    "billing:accounts:read", "billing:settlements:read"]),
   ("admin", ["supply:accounts:manage", "supply:packages:manage", "supply:orders:manage",
    "billing:accounts:read", "billing:settlements:read", "billing:settlements:write", "iam:users:read",
    "iam:users:write", "audit:events:read"]),
   ("owner", ["admin:admin:manage"])]

def getScopesForRole (role : String) : List String := (roleScopes.lookup role).getD []

/-- The text of a scope. -/
def Scope.text (s : Scope) : String := s.domain ++ ":" ++ s.resource ++ ":" ++ s.action

/-- What `ParseScope` takes for a scope. -/
structure Scope.Valid (s : Scope) : Prop where
  domain : s.domain ∈ validDomains
  action : s.action ∈ validActions
  resource : ':' ∉ s.resource.toList

theorem isValidDomain_iff {domain : String} : isValidDomain domain = true ↔ domain ∈ validDomains := by
  simp [isValidDomain]

theorem isValidAction_iff {action : String} : isValidAction action = true ↔ action ∈ validActions := by
  simp [isValidAction]

theorem scopeOfParts_ok {scopeStr domain resource action : String} {s : Scope} :
    scopeOfParts scopeStr domain resource action = .ok s ↔
      domain ∈ validDomains ∧ action ∈ validActions ∧ s = ⟨domain, resource, action⟩ := by
  rw [← isValidDomain_iff, ← isValidAction_iff, scopeOfParts]
  cases isValidDomain domain with
  | false => simp
  | true =>
    cases isValidAction action with
    | false => simp
    | true => simp [eq_comm]

theorem colon_not_mem_of_valid {s : Scope} (h : s.Valid) :
    ∀ part ∈ [s.domain.toList, s.resource.toList, s.action.toList], ':' ∉ part := by
  have hdomains : ∀ d ∈ validDomains, ':' ∉ d.toList := by decide
  have hactions : ∀ a ∈ validActions, ':' ∉ a.toList := by decide
  intro part hpart
  simp only [List.mem_cons, List.not_mem_nil, or_false] at hpart
  rcases hpart with rfl | rfl | rfl
  · exact hdomains _ h.domain
  · exact h.resource
  · exact hactions _ h.action

theorem text_toList (s : Scope) :
    s.text.toList = [':'].intercalate [s.domain.toList, s.resource.toList, s.action.toList] := by
  simp [Scope.text, List.intercalate]

/-- What `ParseScope` returns is valid and has the text it was given; every valid scope is returned for
its own text. -/
theorem parseScope_ok {scopeStr : String} {s : Scope} :
    parseScope scopeStr = .ok s ↔ s.Valid ∧ s.text = scopeStr := by
  constructor
  · intro h
    unfold parseScope at h
    split at h
    next domain resource action hparts =>
      obtain ⟨hdomain, haction, rfl⟩ := scopeOfParts_ok.mp h
      have hresource : ':' ∉ resource := by
        apply Separators.sep_not_mem_of_mem_splitOn (l := scopeStr.toList)
        rw [hparts]
        exact List.mem_cons_of_mem _ List.mem_cons_self
      refine ⟨⟨hdomain, haction, by rwa [String.toList_ofList]⟩, String.toList_inj.mp ?_⟩
      rw [text_toList, String.toList_ofList, String.toList_ofList, String.toList_ofList, ← hparts,
        List.intercalate_splitOn]
    next => cases h
  · rintro ⟨hvalid, rfl⟩
    have hparts : s.text.toList.splitOn ':' = [s.domain.toList, s.resource.toList, s.action.toList] := by
      rw [text_toList, List.splitOn_intercalate ':' (colon_not_mem_of_valid hvalid) (List.cons_ne_nil _ _)]
    unfold parseScope
    rw [hparts]
    simp only [String.ofList_toList]
    exact scopeOfParts_ok.mpr ⟨hvalid.domain, hvalid.action, rfl⟩

theorem parseScope_error {scopeStr : String} {e : InvalidScopeError} (h : parseScope scopeStr = .error e) :
    e.scope = scopeStr := by
  unfold parseScope at h
  split at h
  next =>
    unfold scopeOfParts at h
    split at h
    next =>
      cases h
      rfl
    next =>
      split at h
      next =>
        cases h
        rfl
      next => cases h
  next =>
    cases h
    rfl

/-- A text is parsed exactly when it is the text of a valid scope, which then is the scope returned; an
error repeats the text, and is given only for what is no such text. -/
theorem parseScope_reads_back (scopeStr : String) :
    (∀ s, parseScope scopeStr = .ok s ↔ s.Valid ∧ s.text = scopeStr) ∧
      ∀ e, parseScope scopeStr = .error e → e.scope = scopeStr ∧ ∀ s : Scope, s.Valid → s.text ≠ scopeStr := by
  refine ⟨fun s => parseScope_ok, fun e h => ⟨parseScope_error h, fun s hvalid htext => ?_⟩⟩
  rw [parseScope_ok.mpr ⟨hvalid, htext⟩] at h
  cases h

theorem grants_iff {u required : Scope} :
    u.grants required = true ↔
      u = adminAll ∨ u.domain = required.domain ∧ u.resource = required.resource ∧
        (u.action = required.action ∨ u.action = "manage") := by
  obtain ⟨domain, resource, action⟩ := u
  simp only [Scope.grants, adminAll, Bool.or_eq_true, Bool.and_eq_true, decide_eq_true_eq, Scope.mk.injEq]
  tauto

/-- A scope is below the scopes that grant it. -/
instance : Preorder Scope where
  le required u := u.grants required = true
  le_refl u := grants_iff.mpr (.inr ⟨rfl, rfl, .inl rfl⟩)
  le_trans a b c hba hcb := by
    rw [grants_iff] at hba hcb ⊢
    rcases hcb with rfl | ⟨hdomain, hresource, haction⟩
    · exact .inl rfl
    · rcases hba with rfl | ⟨hdomain', hresource', haction'⟩
      · refine .inl (Scope.mk.injEq .. ▸ ⟨hdomain, hresource, ?_⟩)
        exact haction.elim id id
      · refine .inr ⟨hdomain.trans hdomain', hresource.trans hresource', ?_⟩
        rcases haction with haction | haction
        · rw [haction]
          exact haction'
        · exact .inr haction

/-- The scopes that a list of texts names. -/
def parsedScopes (userScopes : List String) : List Scope :=
  userScopes.filterMap (fun userScopeStr => (parseScope userScopeStr).toOption)

theorem mem_parsedScopes {userScopes : List String} {u : Scope} :
    u ∈ parsedScopes userScopes ↔ u.Valid ∧ u.text ∈ userScopes := by
  rw [parsedScopes, List.mem_filterMap]
  constructor
  · rintro ⟨text, hmem, hparsed⟩
    cases hok : parseScope text with
    | error e =>
      rw [hok] at hparsed
      cases hparsed
    | ok v =>
      rw [hok] at hparsed
      cases hparsed
      obtain ⟨hvalid, rfl⟩ := parseScope_ok.mp hok
      exact ⟨hvalid, hmem⟩
  · rintro ⟨hvalid, hmem⟩
    exact ⟨u.text, hmem, by rw [parseScope_ok.mpr ⟨hvalid, rfl⟩]; rfl⟩

/-- A user has what is below one of the scopes named. -/
theorem hasScope_iff {userScopes : List String} {required : Scope} :
    hasScope userScopes required = true ↔ required ∈ lowerClosure {u | u ∈ parsedScopes userScopes} := by
  rw [hasScope, List.any_eq_true, mem_lowerClosure]
  constructor
  · rintro ⟨text, hmem, hgrants⟩
    unfold grantsText at hgrants
    split at hgrants
    next => cases hgrants
    next u hparsed =>
      obtain ⟨hvalid, rfl⟩ := parseScope_ok.mp hparsed
      exact ⟨u, mem_parsedScopes.mpr ⟨hvalid, hmem⟩, hgrants⟩
  · rintro ⟨u, hu, hgrants⟩
    obtain ⟨hvalid, hmem⟩ := mem_parsedScopes.mp hu
    refine ⟨u.text, hmem, ?_⟩
    rw [grantsText, parseScope_ok.mpr ⟨hvalid, rfl⟩]
    exact hgrants

theorem hasAllScopes_iff {userScopes : List String} {requiredScopes : List Scope} :
    hasAllScopes userScopes requiredScopes = true ↔
      lowerClosure {u | u ∈ requiredScopes} ≤ lowerClosure {u | u ∈ parsedScopes userScopes} := by
  rw [hasAllScopes, List.all_eq_true, lowerClosure_le]
  exact forall₂_congr fun _ _ => hasScope_iff

theorem adminAll_mem_iff {userScopes : List String} :
    adminAll ∈ parsedScopes userScopes ↔ "admin:admin:manage" ∈ userScopes := by
  have hvalid : adminAll.Valid := ⟨by decide, by decide, by decide⟩
  rw [mem_parsedScopes, show adminAll.text = "admin:admin:manage" from rfl]
  exact and_iff_right hvalid

/-- To have every scope that another list of scopes names is to have every scope the other list gives; and
all scopes there are come with one text alone. -/
theorem hasAllScopes_iff_gives_as_much (userScopes others : List String) :
    (hasAllScopes userScopes (parsedScopes others) = true ↔
      ∀ required, hasScope others required = true → hasScope userScopes required = true) ∧
    ((∀ required, hasScope userScopes required = true) ↔ "admin:admin:manage" ∈ userScopes) := by
  constructor
  · rw [hasAllScopes_iff]
    exact forall_congr' fun _ => imp_congr hasScope_iff.symm hasScope_iff.symm
  · rw [← adminAll_mem_iff]
    constructor
    · intro hall
      obtain ⟨u, hu, hgrants⟩ := mem_lowerClosure.mp (hasScope_iff.mp (hall adminAll))
      rcases grants_iff.mp hgrants with rfl | ⟨hdomain, hresource, haction⟩
      · exact hu
      · have hsame : u = adminAll := Scope.mk.injEq .. ▸ ⟨hdomain, hresource, haction.elim id id⟩
        rwa [hsame] at hu
    · intro hmem required
      exact hasScope_iff.mpr (mem_lowerClosure.mpr ⟨adminAll, hmem, grants_iff.mpr (.inl rfl)⟩)

/-- Every scope that a role has by default is one. -/
theorem getScopesForRole_valid {role text : String} (h : text ∈ getScopesForRole role) :
    ∃ s : Scope, s.Valid ∧ s.text = text := by
  have hall : ∀ entry ∈ roleScopes, ∀ text ∈ entry.2, (parseScope text).isOk = true := by decide
  unfold getScopesForRole at h
  cases hrole : roleScopes.lookup role with
  | none =>
    rw [hrole] at h
    cases h
  | some scopes =>
    rw [hrole, Option.getD_some] at h
    obtain ⟨others, rest, hentries, -⟩ := List.lookup_eq_some_iff.mp hrole
    have hentry : (role, scopes) ∈ roleScopes := by
      rw [hentries]
      exact List.mem_append_right _ List.mem_cons_self
    have hok := hall _ hentry text h
    cases hparsed : parseScope text with
    | error e =>
      rw [hparsed] at hok
      cases hok
    | ok s => exact ⟨s, parseScope_ok.mp hparsed⟩

/-- An owner has every scope there is, and any of some scopes unless none is asked for. -/
theorem owner_has_scopes (required : Scope) (requiredScopes : List Scope) :
    hasScope (getScopesForRole "owner") required = true ∧
      hasAllScopes (getScopesForRole "owner") requiredScopes = true ∧
      (hasAnyScope (getScopesForRole "owner") requiredScopes = true ↔ requiredScopes ≠ []) := by
  have hhas : ∀ s, hasScope (getScopesForRole "owner") s = true := by
    intro s
    refine hasScope_iff.mpr (mem_lowerClosure.mpr ⟨adminAll, ?_, grants_iff.mpr (.inl rfl)⟩)
    exact adminAll_mem_iff.mpr (by decide)
  refine ⟨hhas required, List.all_eq_true.mpr fun s _ => hhas s, ?_⟩
  cases requiredScopes with
  | nil => exact iff_of_false Bool.false_ne_true (fun h => h rfl)
  | cons s rest =>
    refine iff_of_true ?_ (List.cons_ne_nil _ _)
    rw [hasAnyScope, List.any_cons, hhas, Bool.true_or]

end SupplyPlatform.TokenScope
