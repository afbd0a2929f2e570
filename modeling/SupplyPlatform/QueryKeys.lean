import SupplyPlatform.BruteForce
import SupplyPlatform.WebRequest

namespace SupplyPlatform

open Strings

/-- What a query filter makes of a request that it does not let through. -/
structure Rejection where
  event : AuditEvent
  response : ErrorResponse
  deriving DecidableEq

def queryKeyEvent (requestID route clientIP : String) (now : Time) : AuditEvent :=
  { eventName := "token.query_key.rejected", requestID := requestID, tokenID := "", subjectID := "",
    route := route, resultCode := "QUERY_KEY_NOT_ALLOWED", clientIP := clientIP, createdAt := now }

/-- `strings.ToLower`, over the `unicode.ToLower` of one character. -/
def toLower (lower : Char → Char) (s : String) : String := String.ofList (s.toList.map lower)

namespace Supply

/-- Whether `sanitizeRoute` sees a path traversal. -/
def traverses : List Char → Bool
  | a :: b :: rest =>
    (a = '.' && (b = '.' || b = '/' || b = '\\')) || a = '\\' || traverses (b :: rest)
  | _ => false

def sanitizeRoute (route : String) : String :=
  if traverses route.toList then "/sanitized"
  else if route.toList.contains '\x00' || route.toList.contains '\n' || route.toList.contains '\r' then
    "/sanitized"
  else route

def blockedParams : List String := ["key", "api_key", "token", "secret", "password", "credential"]

/-- A name that may stand for a key, whatever else is in it. -/
def suspicious (lower : Char → Char) (param : String) : Bool :=
  contains (toLower lower param) "key" || contains (toLower lower param) "token" ||
    contains (toLower lower param) "secret"

def rejectQueryKey (r : WebRequest) (now : Time) (message : String) : Rejection where
  event := queryKeyEvent r.xRequestID (sanitizeRoute r.path)
    (getClientIP ⟨r.path, r.remoteAddr, none, none⟩) now
  response := ⟨401, "", "QUERY_KEY_NOT_ALLOWED", message⟩

/-- `QueryKeyRejectMiddleware`; `none` is a request that goes on to the next handler. -/
def queryKeyReject (lower : Char → Char) (r : WebRequest) (now : Time) : Option Rejection :=
  if Auth.shouldBypassAuth r.path then none
  else if blockedParams.any (fun param => r.values param ≠ []) then
    some (rejectQueryKey r now "external query key is not allowed, use Authorization header")
  else if r.names.any (fun param => suspicious lower param && 20 < (r.get param).utf8ByteSize) then
    some (rejectQueryKey r now "suspicious query parameter detected")
  else none

end Supply

namespace TokenRuntime

def disallowedQueryKeys : List String := ["key", "api_key", "token"]

/-- `externalQueryKey`: of several names it returns any one, and its caller looks only at whether there
is one. -/
def externalQueryKey (lower : Char → Char) (r : WebRequest) : Option String :=
  r.names.find? (fun key => disallowedQueryKeys.any (fun disallowed => toLower lower key = disallowed))

def queryKeyReject (lower : Char → Char) (r : WebRequest) (now : Time) : Option Rejection :=
  match externalQueryKey lower r with
  | none => none
  | some _ =>
    let requestID := (r.ensureRequestID now).2
    some ⟨queryKeyEvent requestID r.path (extractClientIP r) now,
      ⟨401, requestID, "QUERY_KEY_NOT_ALLOWED", "query key ingress is not allowed"⟩⟩

end TokenRuntime

namespace Gateway

def hasExternalQueryKey (lower : Char → Char) (r : WebRequest) : Bool :=
  r.names.any (fun key => toLower lower key = "key" || toLower lower key = "api_key" ||
    toLower lower key = "token" || toLower lower key = "access_token")

def queryKeyReject (lower : Char → Char) (trustedProxies : List String) (r : WebRequest) (now : Time) :
    Option Rejection :=
  if hasExternalQueryKey lower r then
    let requestID := r.requestID.getD ""
    some ⟨queryKeyEvent requestID r.path (extractClientIP trustedProxies r) now,
      ⟨401, requestID, "QUERY_KEY_NOT_ALLOWED", "query key not allowed"⟩⟩
  else none

end Gateway

section

variable {lower : Char → Char} {r : WebRequest}

/-- A name of the query is one of `keys`, in whatever letter case. -/
def NamesKey (lower : Char → Char) (r : WebRequest) (keys : List String) : Prop :=
  ∃ name ∈ r.names, toLower lower name ∈ keys

/-- A name of the query is blocked by the supply service, letter for letter. -/
def NamesBlocked (r : WebRequest) : Prop := ∃ name ∈ r.names, name ∈ Supply.blockedParams

/-- A name of the query is suspicious and its first value is longer than 20 bytes. -/
def HidesKey (lower : Char → Char) (r : WebRequest) : Prop :=
  ∃ name ∈ r.names, Supply.suspicious lower name = true ∧ 20 < (r.get name).utf8ByteSize

theorem WebRequest.values_ne_nil {name : String} : r.values name ≠ [] ↔ name ∈ r.names := by
  simp only [WebRequest.values, WebRequest.names, ne_eq, List.map_eq_nil_iff, List.filter_eq_nil_iff,
    decide_eq_true_eq, List.mem_map]
  push Not
  rfl

theorem Supply.queryKeyReject_isSome {now : Time} (hp : Auth.shouldBypassAuth r.path = false) :
    (Supply.queryKeyReject lower r now).isSome = true ↔ NamesBlocked r ∨ HidesKey lower r := by
  have blocked : Supply.blockedParams.any (fun param => r.values param ≠ []) = true ↔ NamesBlocked r := by
    simp only [List.any_eq_true, decide_eq_true_eq, WebRequest.values_ne_nil, NamesBlocked]
    exact ⟨fun ⟨x, hb, hn⟩ => ⟨x, hn, hb⟩, fun ⟨x, hn, hb⟩ => ⟨x, hb, hn⟩⟩
  have long : r.names.any (fun param => Supply.suspicious lower param &&
      20 < (r.get param).utf8ByteSize) = true ↔ HidesKey lower r := by
    simp only [List.any_eq_true, Bool.and_eq_true, decide_eq_true_eq, HidesKey]
  unfold Supply.queryKeyReject
  rw [hp, if_neg Bool.false_ne_true, ← blocked, ← long]
  split
  next h => exact iff_of_true rfl (.inl h)
  next h =>
    split
    next h' => exact iff_of_true rfl (.inr h')
    next h' => simp only [Option.isSome_none, Bool.false_eq_true, h, h', or_self]

theorem TokenRuntime.queryKeyReject_isSome {now : Time} :
    (TokenRuntime.queryKeyReject lower r now).isSome = true ↔
      NamesKey lower r ["key", "api_key", "token"] := by
  have found : (TokenRuntime.externalQueryKey lower r).isSome = true ↔
      NamesKey lower r ["key", "api_key", "token"] := by
    simp only [TokenRuntime.externalQueryKey, List.find?_isSome, List.any_eq_true, decide_eq_true_eq,
      TokenRuntime.disallowedQueryKeys, NamesKey, exists_eq_right']
  rw [← found]
  unfold TokenRuntime.queryKeyReject
  cases TokenRuntime.externalQueryKey lower r <;> rfl

theorem Gateway.queryKeyReject_isSome {trustedProxies : List String} {now : Time} :
    (Gateway.queryKeyReject lower trustedProxies r now).isSome = true ↔
      NamesKey lower r ["key", "api_key", "token"] ∨ NamesKey lower r ["access_token"] := by
  have found : Gateway.hasExternalQueryKey lower r = true ↔
      NamesKey lower r ["key", "api_key", "token"] ∨ NamesKey lower r ["access_token"] := by
    simp only [Gateway.hasExternalQueryKey, List.any_eq_true, Bool.or_eq_true, decide_eq_true_eq,
      NamesKey, List.mem_cons, List.not_mem_nil, or_false, ← exists_or, ← and_or_left, or_assoc]
  rw [← found]
  unfold Gateway.queryKeyReject
  split
  next h => simp [h]
  next h => simp [h]

end

/-- The three filters let the request through, or none of them does. -/
def FiltersAgree (lower : Char → Char) (trustedProxies : List String) (r : WebRequest) (now : Time) :
    Prop :=
  (Supply.queryKeyReject lower r now).isSome = (TokenRuntime.queryKeyReject lower r now).isSome ∧
    (TokenRuntime.queryKeyReject lower r now).isSome =
      (Gateway.queryKeyReject lower trustedProxies r now).isSome

theorem filtersAgree_iff (lower : Char → Char) (trustedProxies : List String) (r : WebRequest)
    (now : Time) (hp : Auth.shouldBypassAuth r.path = false) :
    FiltersAgree lower trustedProxies r now ↔
      (NamesKey lower r ["key", "api_key", "token"] ∧ (NamesBlocked r ∨ HidesKey lower r)) ∨
      (¬ NamesKey lower r ["key", "api_key", "token"] ∧ ¬ NamesKey lower r ["access_token"] ∧
        ¬ NamesBlocked r ∧ ¬ HidesKey lower r) := by
  have agree : FiltersAgree lower trustedProxies r now ↔ _ ∧ _ :=
    and_congr Bool.eq_iff_iff Bool.eq_iff_iff
  rw [agree, Supply.queryKeyReject_isSome hp, TokenRuntime.queryKeyReject_isSome,
    Gateway.queryKeyReject_isSome]
  by_cases hk : NamesKey lower r ["key", "api_key", "token"]
  · simp only [hk, iff_true, true_or, and_true, true_and, not_true_eq_false, false_and, or_false]
  · simp only [hk, iff_false, false_or, false_iff, false_and, not_false_eq_true, true_and, not_or]
    exact ⟨fun ⟨h, h'⟩ => ⟨h', h.1, h.2⟩, fun ⟨h', h⟩ => ⟨h, h'⟩⟩

def sampleRequest (query : List (String × String)) : WebRequest where
  method := "GET"
  path := "/api/v1/supply/accounts"
  query := query
  xRequestID := "req-1"
  xForwardedFor := ""
  authorization := "Bearer tok"
  remoteAddr := "10.0.0.7:4711"
  requestID := some "req-1"

theorem filtersAgree_lower_case_key :
    FiltersAgree Char.toLower [] (sampleRequest [("key", "abc")]) 0 :=
  (filtersAgree_iff Char.toLower [] (sampleRequest [("key", "abc")]) 0 (by decide)).mpr
    (.inl ⟨⟨"key", List.mem_singleton.mpr rfl, by decide⟩,
      .inl ⟨"key", List.mem_singleton.mpr rfl, by decide⟩⟩)

/-- In upper case the supply service lets a short key through, the gateway alone knows `access_token`,
and the supply service alone `secret`. -/
theorem filters_disagree : Auth.shouldBypassAuth (sampleRequest []).path = false ∧
    ¬ FiltersAgree Char.toLower [] (sampleRequest [("KEY", "abc")]) 0 ∧
    ¬ FiltersAgree Char.toLower [] (sampleRequest [("access_token", "abc")]) 0 ∧
    ¬ FiltersAgree Char.toLower [] (sampleRequest [("secret", "x")]) 0 := by
  unfold FiltersAgree
  decide

end SupplyPlatform
