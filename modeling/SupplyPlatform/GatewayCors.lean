import SupplyPlatform.QueryKeys

namespace SupplyPlatform.Gateway

open Strings

section

-- `unicode.ToLower`, what the cases of a letter have in common, and the host name that `url.Parse` yields
variable (lower fold : Char → Char) (hostname : String → Option String)

def originHost (origin : String) : String :=
  match hostname origin with
  | none => ""
  | some host => toLower lower host

/-- The loop of `isOriginAllowed`. -/
def tryOrigins (origin : String) : List String → Bool
  | [] => false
  | allowed :: rest =>
    if allowed = "*" then true
    else if equalFold fold allowed origin then true
    else if hasPrefix allowed "*." then
      let domain := String.ofList (allowed.toList.drop 2)
      let host := originHost lower hostname origin
      if host = "" then tryOrigins origin rest
      else if equalFold fold host domain || hasSuffix host ("." ++ domain) then true
      else tryOrigins origin rest
    else tryOrigins origin rest

def isOriginAllowed (origin : String) (allowedOrigins : List String) : Bool :=
  if origin = "" then false else tryOrigins lower fold hostname origin allowedOrigins

/-- The host is the domain or lies under it, ignoring letter case. -/
def Under (host domain : String) : Prop :=
  equalFold fold host domain = true ∨
    ∃ head tail, host = head ++ tail ∧ equalFold fold tail ("." ++ domain) = true

/-- The host as the code has it, in lower case, is the domain ignoring letter case, or it ends in the domain
as it is spelled. -/
def Spelled (host domain : String) : Prop :=
  toLower lower host ≠ "" ∧ (equalFold fold (toLower lower host) domain = true ∨
    ∃ head, toLower lower host = head ++ ("." ++ domain))

/-- An entry lets an origin in, with what a wildcard asks of the host and the domain. -/
def LetsIn (wildcard : String → String → Prop) (origin entry : String) : Prop :=
  entry = "*" ∨ equalFold fold entry origin = true ∨
    ∃ domain host, entry = "*." ++ domain ∧ hostname origin = some host ∧ wildcard host domain

/-- A wildcard that the host is under, though not as the domain is spelled. -/
def Missed (origin entry : String) : Prop :=
  ∃ domain host, entry = "*." ++ domain ∧ hostname origin = some host ∧
    Under fold host domain ∧ ¬Spelled lower fold host domain

/-- A wildcard that the host in lower case matches, though the host itself is not under it: one of its
letters is another letter in lower case. -/
def Taken (origin entry : String) : Prop :=
  ∃ domain host, entry = "*." ++ domain ∧ hostname origin = some host ∧
    Spelled lower fold host domain ∧ ¬Under fold host domain

end

section

variable {lower fold : Char → Char} {hostname : String → Option String} {origin entry : String}

theorem spelled_iff {host domain : String} (hhost : toLower lower host ≠ "") :
    Spelled lower fold host domain ↔
      (equalFold fold (toLower lower host) domain || hasSuffix (toLower lower host) ("." ++ domain)) = true := by
  rw [Bool.or_eq_true, hasSuffix_iff]
  exact and_iff_right hhost

/-- What the loop does with an entry that is neither a star nor the origin. -/
theorem wildcard_letsIn_iff (hstar : entry ≠ "*") (hsame : equalFold fold entry origin = false) :
    LetsIn fold hostname (Spelled lower fold) origin entry ↔
      hasPrefix entry "*." = true ∧ originHost lower hostname origin ≠ "" ∧
        (equalFold fold (originHost lower hostname origin) (String.ofList (entry.toList.drop 2)) ||
          hasSuffix (originHost lower hostname origin)
            ("." ++ String.ofList (entry.toList.drop 2))) = true := by
  constructor
  · rintro (hstar' | hsame' | ⟨domain, host, rfl, hhost, hspelled⟩)
    · exact absurd hstar' hstar
    · rw [hsame] at hsame'
      cases hsame'
    · have hdomain : String.ofList (("*." ++ domain).toList.drop 2) = domain :=
        String.toList_inj.mp (by simp)
      rw [hdomain]
      simp only [originHost, hhost]
      exact ⟨hasPrefix_iff.mpr ⟨domain, rfl⟩, hspelled.1, (spelled_iff hspelled.1).mp hspelled⟩
  · rintro ⟨hstart, hne, hmatch⟩
    cases hhost : hostname origin with
    | none =>
      simp only [originHost, hhost] at hne
      exact absurd rfl hne
    | some host =>
      simp only [originHost, hhost] at hne hmatch
      exact .inr (.inr ⟨_, host, (append_drop_of_hasPrefix hstart).symm, hhost,
        (spelled_iff hne).mpr hmatch⟩)

theorem tryOrigins_iff {allowedOrigins : List String} :
    tryOrigins lower fold hostname origin allowedOrigins = true ↔
      ∃ entry ∈ allowedOrigins, LetsIn fold hostname (Spelled lower fold) origin entry := by
  induction allowedOrigins with
  | nil => exact ⟨nofun, fun ⟨_, hmem, _⟩ => nomatch hmem⟩
  | cons allowed rest ih =>
    rw [List.exists_mem_cons_iff, ← ih, tryOrigins]
    by_cases hstar : allowed = "*"
    · rw [if_pos hstar]
      exact iff_of_true rfl (.inl (.inl hstar))
    · rw [if_neg hstar]
      cases hsame : equalFold fold allowed origin with
      | true =>
        rw [if_pos rfl]
        exact iff_of_true rfl (.inl (.inr (.inl hsame)))
      | false =>
        rw [if_neg Bool.false_ne_true, wildcard_letsIn_iff hstar hsame]
        dsimp only
        cases hstart : hasPrefix allowed "*." with
        | false => simp
        | true =>
          by_cases hne : originHost lower hostname origin = ""
          · simp [hne]
          · simp only [if_true, hne, if_false, ne_eq, not_false_eq_true, true_and]
            split
            next hmatch => exact iff_of_true rfl (.inl hmatch)
            next hmatch => exact (or_iff_right hmatch).symm

theorem isOriginAllowed_iff {allowedOrigins : List String} :
    isOriginAllowed lower fold hostname origin allowedOrigins = true ↔
      origin ≠ "" ∧ ∃ entry ∈ allowedOrigins, LetsIn fold hostname (Spelled lower fold) origin entry := by
  unfold isOriginAllowed
  split
  next hempty => exact ⟨nofun, fun h => absurd hempty h.1⟩
  next hne => exact tryOrigins_iff.trans (and_iff_right hne).symm

theorem letsIn_or_missed (h : LetsIn fold hostname (Under fold) origin entry) :
    LetsIn fold hostname (Spelled lower fold) origin entry ∨ Missed lower fold hostname origin entry := by
  rcases h with hstar | hsame | ⟨domain, host, hentry, hhost, hunder⟩
  · exact .inl (.inl hstar)
  · exact .inl (.inr (.inl hsame))
  · by_cases hspelled : Spelled lower fold host domain
    · exact .inl (.inr (.inr ⟨domain, host, hentry, hhost, hspelled⟩))
    · exact .inr ⟨domain, host, hentry, hhost, hunder, hspelled⟩

theorem letsIn_or_taken (h : LetsIn fold hostname (Spelled lower fold) origin entry) :
    LetsIn fold hostname (Under fold) origin entry ∨ Taken lower fold hostname origin entry := by
  rcases h with hstar | hsame | ⟨domain, host, hentry, hhost, hspelled⟩
  · exact .inl (.inl hstar)
  · exact .inl (.inr (.inl hsame))
  · by_cases hunder : Under fold host domain
    · exact .inl (.inr (.inr ⟨domain, host, hentry, hhost, hunder⟩))
    · exact .inr ⟨domain, host, hentry, hhost, hspelled, hunder⟩

theorem Missed.letsIn (h : Missed lower fold hostname origin entry) :
    LetsIn fold hostname (Under fold) origin entry := by
  obtain ⟨domain, host, hentry, hhost, hunder, -⟩ := h
  exact .inr (.inr ⟨domain, host, hentry, hhost, hunder⟩)

theorem Taken.letsIn (h : Taken lower fold hostname origin entry) :
    LetsIn fold hostname (Spelled lower fold) origin entry := by
  obtain ⟨domain, host, hentry, hhost, hspelled, -⟩ := h
  exact .inr (.inr ⟨domain, host, hentry, hhost, hspelled⟩)

/-- The answer is the one the allow list has for the origin exactly when a wildcard that is missed, for the
spelling of its domain, comes with an entry that is not, and likewise for one that is taken wrongly. A host
that only ends with the letters of a domain is never let in by its wildcard. -/
theorem origin_allowed_iff (lower fold : Char → Char) (hostname : String → Option String) (origin : String)
    (allowedOrigins : List String) :
    ((isOriginAllowed lower fold hostname origin allowedOrigins = true ↔
        origin ≠ "" ∧ ∃ entry ∈ allowedOrigins, LetsIn fold hostname (Under fold) origin entry) ↔
      origin = "" ∨
        ((∃ entry ∈ allowedOrigins, Missed lower fold hostname origin entry) →
          ∃ entry ∈ allowedOrigins, LetsIn fold hostname (Spelled lower fold) origin entry) ∧
        ((∃ entry ∈ allowedOrigins, Taken lower fold hostname origin entry) →
          ∃ entry ∈ allowedOrigins, LetsIn fold hostname (Under fold) origin entry)) ∧
    (isOriginAllowed lower fold hostname origin allowedOrigins = true →
      ∃ entry ∈ allowedOrigins, LetsIn fold hostname (Spelled lower fold) origin entry) := by
  refine ⟨?_, fun h => (isOriginAllowed_iff.mp h).2⟩
  rw [isOriginAllowed_iff]
  by_cases hempty : origin = ""
  · exact iff_of_true (iff_of_false (fun h => h.1 hempty) (fun h => h.1 hempty)) (.inl hempty)
  · rw [and_iff_right hempty, and_iff_right hempty, or_iff_right hempty]
    constructor
    · intro hsame
      exact ⟨fun ⟨entry, hmem, hmissed⟩ => hsame.mpr ⟨entry, hmem, hmissed.letsIn⟩,
        fun ⟨entry, hmem, htaken⟩ => hsame.mp ⟨entry, hmem, htaken.letsIn⟩⟩
    · rintro ⟨hmissed, htaken⟩
      constructor
      · rintro ⟨entry, hmem, hin⟩
        rcases letsIn_or_taken hin with hunder | htaken'
        · exact ⟨entry, hmem, hunder⟩
        · exact htaken ⟨entry, hmem, htaken'⟩
      · rintro ⟨entry, hmem, hin⟩
        have hcases : LetsIn fold hostname (Spelled lower fold) origin entry ∨
            Missed lower fold hostname origin entry := letsIn_or_missed hin
        rcases hcases with hspelled | hmissed'
        · exact ⟨entry, hmem, hspelled⟩
        · exact hmissed ⟨entry, hmem, hmissed'⟩

end

/-- The host names of two origins. -/
def sampleHostname (origin : String) : Option String :=
  if origin = "https://api.example.com" then some "api.example.com"
  else if origin = "https://badexample.com" then some "badexample.com"
  else none

/-- A host under the domain is turned away for the capital letters of the allow list. -/
theorem capital_domain_missed :
    isOriginAllowed Char.toLower Char.toLower sampleHostname "https://api.example.com" ["*.Example.COM"] =
      false ∧
    LetsIn Char.toLower sampleHostname (Under Char.toLower) "https://api.example.com" "*.Example.COM" ∧
    isOriginAllowed Char.toLower Char.toLower sampleHostname "https://badexample.com" ["*.example.com"] =
      false := by
  refine ⟨by decide, .inr (.inr ⟨"Example.COM", "api.example.com", rfl, rfl, .inr ?_⟩),
    by decide⟩
  exact ⟨"api", ".example.com", rfl, by decide⟩

end SupplyPlatform.Gateway
