import SupplyPlatform.Lib.UrlQuery

namespace SupplyPlatform.QueryWhitelist

open Bytes UrlQuery

/-- The names of `GetAllowedQueryParams`. -/
def getAllowedQueryParams : List Text :=
  ["page", "page_size", "limit", "offset", "sort", "order", "filter", "search", "start_date", "end_date",
    "from", "to", "format", "fields", "debug"].map ascii

def sensitiveKeywords : List Text :=
  ["key", "token", "secret", "password", "credential", "auth", "jwt", "signature", "private"].map ascii

def apiKeyPrefixes : List Text :=
  ["sk-", "sk_", "ak-", "ak_", "pk-", "pk_", "ghp_", "github_", "xoxb-", "AIza"].map ascii

structure QueryKeyValidationResult where
  allowed : Bool
  blockedParam : Text
  reason : String
  deriving DecidableEq

/-- `toLower` is `strings.ToLower`. -/
def isQueryParamAllowed (toLower : Text → Text) (param : Text) (whitelist : List Text) : Bool :=
  (whitelist.map toLower).contains (toLower param)

def containsSensitiveKeyword (param : Text) : Bool := sensitiveKeywords.any (contains param)

/-- A byte of a longer character is no hex digit, and neither is the character. -/
def isHexString (s : Text) : Bool := s.all isHexDigit && 32 ≤ s.length

def looksLikeAPIKey (toLower : Text → Text) (value : Text) : Bool :=
  apiKeyPrefixes.any (hasPrefix (toLower value)) || (32 ≤ value.length && isHexString value)

def isSuspiciousQueryValue (toLower : Text → Text) (param value : Text) : Bool :=
  if value = [] then false
  else if hasPrefix value (ascii "eyJ") && value.count 46 = 2 then true
  else if hasPrefix value (ascii "Bearer ") || hasPrefix value (ascii "bearer ") then true
  else if 20 < value.length && looksLikeAPIKey toLower value then true
  else 20 < value.length && containsSensitiveKeyword (toLower param)

/-- What `detectBlockedParams` stops at. -/
def flagged (toLower : Text → Text) (query : Values) (param : Text) : Bool :=
  containsSensitiveKeyword (toLower param) || isSuspiciousQueryValue toLower param (get query param)

/-- `order` is the order of the iteration over the names. -/
def detectBlockedParams (toLower : Text → Text) (query : Values) (whitelist : List Text)
    (order : List Text) : Bool :=
  order.any (fun param => !isQueryParamAllowed toLower param whitelist && flagged toLower query param)

/-- The names are gone over once to detect and again to report, in orders of their own. -/
def validateQueryParams (toLower : Text → Text) (rawQuery : Text) (detect report : List Text) :
    QueryKeyValidationResult :=
  match parseQuery rawQuery with
  | none => ⟨false, [], "invalid query string"⟩
  | some parsed =>
    if detectBlockedParams toLower parsed getAllowedQueryParams detect then
      match report.find? (fun param => !isQueryParamAllowed toLower param getAllowedQueryParams) with
      | some param => ⟨false, param, "query parameter not in whitelist or suspicious"⟩
      | none => ⟨true, [], ""⟩
    else ⟨true, [], ""⟩

variable (toLower : Text → Text)

/-- A parameter of the query outside the whitelist. -/
def Outside (query : List (Text × Text)) (param : Text) : Prop :=
  (∃ value, (param, value) ∈ query) ∧ isQueryParamAllowed toLower param getAllowedQueryParams = false

/-- The prefixes of keys as they are once lowered. -/
def loweredPrefixes : List Text :=
  ["sk-", "sk_", "ak-", "ak_", "pk-", "pk_", "ghp_", "github_", "xoxb-", "aiza"].map ascii

/-- The rule for values: a JWT, a bearer token, or a long text that starts like a key in any letter case
or is a hash. -/
def SuspiciousValue (value : Text) : Prop :=
  (ascii "eyJ" <+: value ∧ value.count 46 = 2) ∨ ascii "Bearer " <+: value ∨ ascii "bearer " <+: value ∨
    (20 < value.length ∧ ((∃ start ∈ loweredPrefixes, start <+: toLower value) ∨
      (32 ≤ value.length ∧ ∀ b ∈ value, isHexDigit b = true)))

/-- The rule for parameters: the name has a sensitive word, or one of the values is suspicious. -/
def Blockable (query : List (Text × Text)) (param : Text) : Prop :=
  (∃ word ∈ sensitiveKeywords, word <:+: toLower param) ∨
    ∃ value, (param, value) ∈ query ∧ SuspiciousValue toLower value

/-- In whatever orders the names are gone over, the query is refused just where the rule has a parameter
outside the whitelist to block, and what is reported is such a parameter. -/
def FollowsRule (rawQuery : Text) (query : List (Text × Text)) : Prop :=
  ∀ detect report, Maps.Enumerates (collect query) detect → Maps.Enumerates (collect query) report →
    ((validateQueryParams toLower rawQuery detect report).allowed = false ↔
      ∃ param, Outside toLower query param ∧ Blockable toLower query param) ∧
    ((validateQueryParams toLower rawQuery detect report).allowed = false →
      Outside toLower query (validateQueryParams toLower rawQuery detect report).blockedParam ∧
        Blockable toLower query (validateQueryParams toLower rawQuery detect report).blockedParam)

/-- The detection misses no parameter the rule blocks unless it stops at another one, and where it stops
at one, the rule blocks all those outside the whitelist. -/
structure Uniform (query : List (Text × Text)) : Prop where
  noticed : (∃ param, Outside toLower query param ∧ Blockable toLower query param) →
    ∃ param, Outside toLower query param ∧ flagged toLower (collect query) param = true
  all : (∃ param, Outside toLower query param ∧ flagged toLower (collect query) param = true) →
    ∀ param, Outside toLower query param → Blockable toLower query param

variable {toLower : Text → Text} {rawQuery : Text} {query : List (Text × Text)}

theorem mem_order_iff {order : List Text} (h : Maps.Enumerates (collect query) order) {param : Text} :
    param ∈ order ↔ ∃ value, (param, value) ∈ query := by
  rw [h.mem_iff, has_collect]

theorem outside_iff {order : List Text} (h : Maps.Enumerates (collect query) order) {param : Text} :
    Outside toLower query param ↔
      param ∈ order ∧ (!isQueryParamAllowed toLower param getAllowedQueryParams) = true := by
  rw [Outside, mem_order_iff h, Bool.not_eq_true']

theorem detectBlockedParams_iff {order : List Text} (h : Maps.Enumerates (collect query) order) :
    detectBlockedParams toLower (collect query) getAllowedQueryParams order = true ↔
      ∃ param, Outside toLower query param ∧ flagged toLower (collect query) param = true := by
  simp only [detectBlockedParams, List.any_eq_true, Bool.and_eq_true, outside_iff h, and_assoc]

/-- Where the detection stops, some parameter outside the whitelist is reported. -/
theorem validateQueryParams_of_detected {detect report : List Text} (hparse : pairs rawQuery = some query)
    (hreport : Maps.Enumerates (collect query) report)
    (hdetected : detectBlockedParams toLower (collect query) getAllowedQueryParams detect = true)
    (hsome : ∃ param, Outside toLower query param) :
    ∃ param, Outside toLower query param ∧
      report.find? (fun param => !isQueryParamAllowed toLower param getAllowedQueryParams) = some param ∧
      validateQueryParams toLower rawQuery detect report =
        ⟨false, param, "query parameter not in whitelist or suspicious"⟩ := by
  have hparsed : parseQuery rawQuery = some (collect query) := by rw [parseQuery, hparse, Option.map_some]
  cases hfind : report.find? (fun param => !isQueryParamAllowed toLower param getAllowedQueryParams) with
  | none =>
    obtain ⟨param, hout⟩ := hsome
    obtain ⟨hmem, hnot⟩ := (outside_iff hreport).mp hout
    exact absurd hnot (List.find?_eq_none.mp hfind param hmem)
  | some param =>
    have hnot : (!isQueryParamAllowed toLower param getAllowedQueryParams) = true :=
      List.find?_some (p := fun param => !isQueryParamAllowed toLower param getAllowedQueryParams) hfind
    refine ⟨param, (outside_iff hreport).mpr ⟨List.mem_of_find?_eq_some hfind, hnot⟩, rfl, ?_⟩
    simp only [validateQueryParams, hparsed, hdetected, if_true, hfind]

theorem validateQueryParams_of_not_detected {detect report : List Text}
    (hparse : pairs rawQuery = some query)
    (hdetected : detectBlockedParams toLower (collect query) getAllowedQueryParams detect = false) :
    validateQueryParams toLower rawQuery detect report = ⟨true, [], ""⟩ := by
  have hparsed : parseQuery rawQuery = some (collect query) := by rw [parseQuery, hparse, Option.map_some]
  simp only [validateQueryParams, hparsed, hdetected, Bool.false_eq_true, if_false]

theorem allowed_eq_false_iff {detect report : List Text} (hparse : pairs rawQuery = some query)
    (hdetect : Maps.Enumerates (collect query) detect) (hreport : Maps.Enumerates (collect query) report) :
    (validateQueryParams toLower rawQuery detect report).allowed = false ↔
      ∃ param, Outside toLower query param ∧ flagged toLower (collect query) param = true := by
  rw [← detectBlockedParams_iff hdetect]
  cases hdetected : detectBlockedParams toLower (collect query) getAllowedQueryParams detect with
  | false => simp [validateQueryParams_of_not_detected hparse hdetected]
  | true =>
    obtain ⟨flag, hout, -⟩ := (detectBlockedParams_iff hdetect).mp hdetected
    obtain ⟨_, -, -, hresult⟩ := validateQueryParams_of_detected hparse hreport hdetected ⟨flag, hout⟩
    simp [hresult]

/-- Any parameter outside the whitelist is reported in some order. -/
theorem exists_report {param : Text} (hout : Outside toLower query param) :
    ∃ report, Maps.Enumerates (collect query) report ∧
      report.find? (fun param => !isQueryParamAllowed toLower param getAllowedQueryParams) =
        some param := by
  obtain ⟨order, horder⟩ := Maps.exists_enumerates (collect query)
  obtain ⟨hmem, hnot⟩ := (outside_iff horder).mp hout
  refine ⟨param :: order.erase param, horder.perm (List.perm_cons_erase hmem).symm, ?_⟩
  exact List.find?_cons_of_pos
    (p := fun param => !isQueryParamAllowed toLower param getAllowedQueryParams) hnot

theorem followsRule_iff (hparse : pairs rawQuery = some query) :
    FollowsRule toLower rawQuery query ↔ Uniform toLower query := by
  constructor
  · intro h
    obtain ⟨order, horder⟩ := Maps.exists_enumerates (collect query)
    refine ⟨fun hblock => ?_, fun hflagged param hout => ?_⟩
    · exact (allowed_eq_false_iff hparse horder horder).mp ((h order order horder horder).1.mpr hblock)
    · -- in this order the parameter itself is the one reported
      obtain ⟨report, hreport, hfind⟩ := exists_report hout
      have hrefused : (validateQueryParams toLower rawQuery order report).allowed = false :=
        (allowed_eq_false_iff hparse horder hreport).mpr hflagged
      obtain ⟨reported, -, hfound, hresult⟩ := validateQueryParams_of_detected hparse hreport
        ((detectBlockedParams_iff horder).mpr hflagged) ⟨param, hout⟩
      obtain ⟨-, hblock⟩ := (h order report horder hreport).2 hrefused
      rw [hresult] at hblock
      cases hfind.symm.trans hfound
      exact hblock
  · intro h detect report hdetect hreport
    have hrefused : (validateQueryParams toLower rawQuery detect report).allowed = false ↔
        ∃ param, Outside toLower query param ∧ flagged toLower (collect query) param = true :=
      allowed_eq_false_iff hparse hdetect hreport
    refine ⟨⟨fun hno => ?_, fun hblock => hrefused.mpr (h.noticed hblock)⟩, fun hno => ?_⟩
    · obtain ⟨param, hout, hflag⟩ := hrefused.mp hno
      exact ⟨param, hout, h.all ⟨param, hout, hflag⟩ param hout⟩
    · obtain ⟨flag, hout, hflag⟩ := hrefused.mp hno
      obtain ⟨param, hparam, -, hresult⟩ := validateQueryParams_of_detected hparse hreport
        ((detectBlockedParams_iff hdetect).mpr ⟨flag, hout, hflag⟩) ⟨flag, hout⟩
      rw [hresult]
      exact ⟨hparam, h.all ⟨flag, hout, hflag⟩ param hparam⟩

/-- The lower case of ASCII letters. -/
def lowerASCII (s : Text) : Text := s.map (fun b => if between 'A' 'Z' b then b + 32 else b)

def sampleUniform : Text := ascii "page=2&api_key=sk-1234567890"

theorem followsRule_sample :
    FollowsRule lowerASCII sampleUniform
      [(ascii "page", ascii "2"), (ascii "api_key", ascii "sk-1234567890")] := by
  refine (followsRule_iff (by decide +kernel)).mpr ⟨fun _ => ?_, fun _ param hout => ?_⟩
  · exact ⟨ascii "api_key", ⟨⟨_, List.mem_cons_of_mem _ List.mem_cons_self⟩, by decide +kernel⟩,
      by decide +kernel⟩
  · obtain ⟨⟨value, hmem⟩, hnot⟩ := hout
    rcases List.mem_cons.mp hmem with hpage | hmem
    · have hallowed : isQueryParamAllowed lowerASCII (ascii "page") getAllowedQueryParams = true := by
        decide +kernel
      rw [(Prod.mk.inj hpage).1, hallowed] at hnot
      cases hnot
    · rw [(Prod.mk.inj (List.mem_singleton.mp hmem)).1]
      exact .inl ⟨ascii "key", by decide +kernel, by decide +kernel⟩

/-- A key as the second value of a parameter. -/
def repeatedParam : Text := ascii "user=1&user=sk-1234567890abcdefghijklmnop"

def repeatedPairs : List (Text × Text) :=
  [(ascii "user", ascii "1"), (ascii "user", ascii "sk-1234567890abcdefghijklmnop")]

/-- A parameter with nothing suspicious, and a key behind it. -/
def mixedParams : Text := ascii "color=red&api_key=1"

def mixedPairs : List (Text × Text) := [(ascii "color", ascii "red"), (ascii "api_key", ascii "1")]

/-- The key in a second value is let through; and of two parameters the harmless one is reported. -/
theorem repeated_and_mixed_params :
    pairs repeatedParam = some repeatedPairs ∧
    (validateQueryParams lowerASCII repeatedParam [ascii "user"] [ascii "user"]).allowed = true ∧
    ¬FollowsRule lowerASCII repeatedParam repeatedPairs ∧
    pairs mixedParams = some mixedPairs ∧
    (validateQueryParams lowerASCII mixedParams [ascii "color", ascii "api_key"]
      [ascii "color", ascii "api_key"]).blockedParam = ascii "color" ∧
    ¬Blockable lowerASCII mixedPairs (ascii "color") := by
  have hpassed : (validateQueryParams lowerASCII repeatedParam [ascii "user"] [ascii "user"]).allowed =
      true := by decide +kernel
  refine ⟨by decide +kernel, hpassed, fun h => ?_, by decide +kernel, by decide +kernel, ?_⟩
  · have horder : Maps.Enumerates (collect repeatedPairs) [ascii "user"] := by decide +kernel
    have hblock : SuspiciousValue lowerASCII (ascii "sk-1234567890abcdefghijklmnop") :=
      .inr (.inr (.inr ⟨by decide +kernel, .inl ⟨ascii "sk-", by decide +kernel, by decide +kernel⟩⟩))
    have hrefused := (h _ _ horder horder).1.mpr ⟨ascii "user",
      ⟨⟨_, List.mem_cons_self⟩, by decide +kernel⟩,
      .inr ⟨_, List.mem_cons_of_mem _ List.mem_cons_self, hblock⟩⟩
    rw [hpassed] at hrefused
    cases hrefused
  · rintro (⟨word, hword, hin⟩ | ⟨value, hvalue, hsuspicious⟩)
    · have hplain : ∀ word ∈ sensitiveKeywords, ¬word <:+: lowerASCII (ascii "color") := by decide +kernel
      exact hplain word hword hin
    · have hother : ascii "color" ≠ ascii "api_key" := by decide +kernel
      obtain rfl : value = ascii "red" := by simpa [mixedPairs, hother] using hvalue
      rcases hsuspicious with ⟨hjwt, -⟩ | hbearer | hbearer | ⟨hlong, -⟩
      · revert hjwt
        decide +kernel
      · revert hbearer
        decide +kernel
      · revert hbearer
        decide +kernel
      · revert hlong
        decide +kernel

end SupplyPlatform.QueryWhitelist
