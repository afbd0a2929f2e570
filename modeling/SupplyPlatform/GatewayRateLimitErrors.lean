import SupplyPlatform.GatewayFallback
import SupplyPlatform.OpenAIAdapter

namespace SupplyPlatform.Gateway

/-- `Error` of a `ProviderError`. -/
def ProviderError.error (e : ProviderError) : String := e.code ++ ": " ++ e.message

namespace Fallback

open Strategy Strings OpenAIAdapter

/-- The spellings that `containsRateLimit` looks for. -/
def phrases : List String := ["rate limit", "ratelimit", "too many requests"]

/-- One of the phrases stands in the text, each letter in lower case. -/
def InLowerCase (err : String) : Prop := ∃ phrase ∈ phrases, phrase.toList <:+: err.toList

/-- One of the phrases stands in the text, its letters in any case. -/
def Mentions (lower : Char → Char) (err : String) : Prop :=
  ∃ phrase ∈ phrases, ∃ part, part <:+: err.toList ∧ part.map lower = phrase.toList

/-- `MapError` makes the error for a provider's text that has `rate_limit` in it. -/
def Mapped (err : String) : Prop :=
  ∃ text, containsBytes text (bytes "rate_limit") = true ∧ err = (mapError text).error

/-- The errors for a provider's rate limit. -/
def ForRateLimit (lower : Char → Char) (err : String) : Prop := Mapped err ∨ Mentions lower err

theorem isRateLimitError_iff {err : String} : isRateLimitError err = true ↔ InLowerCase err := by
  have hfound : isRateLimitError err = true → InLowerCase err := by
    intro h
    obtain ⟨_, h⟩ := Bool.and_eq_true_iff.mp h
    rcases Bool.or_eq_true_iff.mp h with h | h
    · rcases Bool.or_eq_true_iff.mp h with h | h
      · exact ⟨"rate limit", by decide, contains_iff.mp h⟩
      · exact ⟨"ratelimit", by decide, contains_iff.mp h⟩
    · exact ⟨"too many requests", by decide, contains_iff.mp h⟩
  refine ⟨hfound, ?_⟩
  rintro ⟨phrase, hphrase, hin⟩
  have hsome : ∀ phrase ∈ phrases, 0 < phrase.toList.length := by decide
  have hlength : 0 < err.length := by
    rw [← String.length_toList]
    exact (hsome phrase hphrase).trans_le hin.length_le
  have hcontains := contains_iff.mpr hin
  simp only [phrases, List.mem_cons, List.not_mem_nil, or_false] at hphrase
  unfold isRateLimitError
  rcases hphrase with rfl | rfl | rfl
  · simp [hlength, hcontains]
  · simp [hlength, hcontains]
  · simp [hlength, hcontains]

/-- `MapError` has a capital letter in the message of a rate limit, and no phrase in the others. -/
theorem mapError_not_isRateLimitError (text : Bytes) :
    isRateLimitError (mapError text).error = false := by
  unfold mapError
  split
  · decide
  · split
    · decide
    · split
      · decide
      · split
        · decide
        · decide

section

variable {σ K : Type}

/-- The call ends with the rate limit at this position, the next one is not asked. -/
def StopsAt (outcome : Outcome σ K) (passed : List ((Int × String) × Except String (Option (RoutingDecision K))))
    (position : Int × String) : Prop :=
  outcome.answer = .error .rateLimitExceeded ∧ outcome.called = passed.map Prod.fst ++ [position]

theorem stopsAt_iff {select : σ → RoutingRequest K → String → σ × Except String (Option (RoutingDecision K))}
    {req : RoutingRequest K} {h : FallbackHandler} {s : σ} {position : Int × String} {err : String}
    {passed rest : List ((Int × String) × Except String (Option (RoutingDecision K)))}
    (hattempts : attempts select req s (positions h.tiers) = passed ++ (position, .error err) :: rest)
    (hpassed : ∀ x ∈ passed, GoesOn x.2) :
    StopsAt (h.handle select s req) passed position ↔ isRateLimitError err = true := by
  obtain ⟨hcalled, hanswer, -⟩ := handle_settles select req h s
  rw [hattempts] at hcalled hanswer
  constructor
  · rintro ⟨hstop, hlast⟩
    by_contra hother
    have hgoes : GoesOn (Except.error err : Except String (Option (RoutingDecision K))) :=
      ⟨err, rfl, Bool.not_eq_true _ ▸ hother⟩
    rw [settle_passed hpassed, settle_goesOn hgoes] at hcalled hanswer
    rw [hlast] at hcalled
    -- nobody was asked behind this position, so there was nobody left to limit the rate
    have hnobody : (settle rest).1 = [] := by simpa using hcalled
    rw [hstop] at hanswer
    rcases settle_cases rest with ⟨later, next, decision, rest', rfl, hlater⟩ |
      ⟨later, next, err', rest', rfl, hlater, hlimit⟩ | ⟨later, next, rest', rfl, hlater⟩ | hall
    · rw [settle_success hlater] at hnobody
      simp at hnobody
    · rw [settle_rateLimit hlater hlimit] at hnobody
      simp at hnobody
    · rw [settle_nil hlater] at hnobody
      simp at hnobody
    · rw [settle_exhausted hall] at hanswer
      cases hanswer
  · intro hlimit
    rw [settle_rateLimit hpassed hlimit] at hcalled hanswer
    exact ⟨hanswer, hcalled⟩

/-- A call stops at the rate limit of a provider where the text spells it in lower case, which no text of
`MapError` does. -/
theorem stops_at_rate_limit_iff (lower : Char → Char)
    (select : σ → RoutingRequest K → String → σ × Except String (Option (RoutingDecision K))) (req : RoutingRequest K)
    (h : FallbackHandler) (s : σ) :
    (∀ err, Mapped err → isRateLimitError err = false ∧ ¬InLowerCase err) ∧
    (∀ err, ForRateLimit lower err → (isRateLimitError err = true ↔ InLowerCase err)) ∧
    ∀ passed position err rest,
      attempts select req s (positions h.tiers) = passed ++ (position, .error err) :: rest →
      (∀ x ∈ passed, GoesOn x.2) → ForRateLimit lower err →
      (StopsAt (h.handle select s req) passed position ↔ InLowerCase err) := by
  refine ⟨?_, fun err _ => isRateLimitError_iff, ?_⟩
  · rintro err ⟨text, -, rfl⟩
    have hother := mapError_not_isRateLimitError text
    refine ⟨hother, fun hin => ?_⟩
    rw [isRateLimitError_iff.mpr hin] at hother
    cases hother
  · intro passed position err rest hattempts hpassed _
    rw [stopsAt_iff hattempts hpassed, isRateLimitError_iff]

end

/-- A router whose first provider has run into its rate limit. -/
def limited (_ : Unit) (_ : RoutingRequest ℚ) (name : String) :
    Unit × Except String (Option (RoutingDecision ℚ)) :=
  if name = "a" then ((), .error (mapError (bytes "rate_limit_exceeded")).error)
  else ((), .ok (some ⟨name, "fallback", 1, 100, 1, false⟩))

/-- The next tier is asked after the rate limit of the first one. -/
theorem falls_through_rate_limit :
    ForRateLimit Char.toLower (mapError (bytes "rate_limit_exceeded")).error ∧
    isRateLimitError (mapError (bytes "rate_limit_exceeded")).error = false ∧
    Mentions Char.toLower "429 Too Many Requests" ∧ isRateLimitError "429 Too Many Requests" = false ∧
    ((FallbackHandler.mk [⟨1, ["a"]⟩, ⟨2, ["b"]⟩] false).handle limited () ⟨"gpt-4", 0, 0, 0⟩).called =
      [(1, "a"), (2, "b")] := by
  refine ⟨.inl ⟨bytes "rate_limit_exceeded", ?_, rfl⟩, ?_,
    ⟨"too many requests", by decide, "Too Many Requests".toList, ⟨"429 ".toList, [], ?_⟩, ?_⟩, ?_, ?_⟩
  all_goals decide

end Fallback

end SupplyPlatform.Gateway
