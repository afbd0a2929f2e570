import Mathlib.Data.List.Induction
import SupplyPlatform.ComplianceRules
import SupplyPlatform.Lib.Maps
import SupplyPlatform.Lib.Strings

namespace SupplyPlatform.Compliance

open Transition

variable {R : Type} {regexp : Regexp R}

theorem matcherResults_snoc (content : String) (before : List Matcher) (matcher : Matcher) :
    matcherResults regexp content (before ++ [matcher]) = matcherResults regexp content before ++
      [matcherResult regexp content before.length matcher] := by
  simp [matcherResults, List.zipIdx_append]

theorem length_matcherResults (content : String) (matchers : List Matcher) :
    (matcherResults regexp content matchers).length = matchers.length := by
  simp [matcherResults]

theorem any_matcherResults (content : String) (matchers : List Matcher) :
    (matcherResults regexp content matchers).any (·.isMatch) = true ↔
      ∃ matcher ∈ matchers, matcher.type = "regex_match" ∧
        occurs regexp matcher.pattern content = true := by
  induction matchers using List.reverseRecOn with
  | nil => simp [matcherResults]
  | append_singleton before matcher ih =>
    rw [matcherResults_snoc, List.any_append, Bool.or_eq_true, ih]
    simp [matcherResult, or_and_right, exists_or]

/-- Only what the package compiled is cached. -/
def CacheSound (regexp : Regexp R) (compiledPatterns : Cache R) : Prop :=
  ∀ pattern regex, compiledPatterns pattern = some regex → regexp.compile pattern = .ok regex

/-- A running call has the results of the matchers behind it, and it extracts only what has matched. -/
structure RunningSound (regexp : Regexp R) (c : Running) : Prop where
  results : ∃ before, c.rule.matchers = before ++ c.rest ∧
    c.results = matcherResults regexp c.content before
  extracts : c.stage = .extractCached ∨ c.stage = .extractLocked → ∀ matcher rest,
    c.rest = matcher :: rest → occurs regexp matcher.pattern c.content = true

def CallSound (regexp : Regexp R) : Call → Prop
  | .idle => True
  | .running c => RunningSound regexp c
  | .returned rule content result => result.ruleID = rule.id ∧
      result.matchers = matcherResults regexp content rule.matchers ∧
      result.matched = result.matchers.any (·.isMatch)

/-- What the section under the write lock leaves and hands on, for a cache that holds what was compiled. -/
theorem compileLocked_sound {compiledPatterns : Cache R} (h : CacheSound regexp compiledPatterns)
    (pattern : String) : CacheSound regexp (compileLocked regexp compiledPatterns pattern).1 ∧
      (compileLocked regexp compiledPatterns pattern).2 = (regexp.compile pattern).toOption := by
  unfold compileLocked
  split
  next regex hcached =>
    rw [h pattern regex hcached]
    exact ⟨h, rfl⟩
  next hnone =>
    split
    next err herr => rw [herr]; exact ⟨h, rfl⟩
    next regex hregex =>
      rw [hregex]
      refine ⟨fun p r hp => ?_, rfl⟩
      rcases Maps.update_some_cases hp with ⟨rfl, rfl⟩ | ⟨-, hold⟩
      · exact hregex
      · exact h p r hold

theorem occurs_of_compile {pattern : String} {regex : R} (h : regexp.compile pattern = .ok regex)
    (content : String) : occurs regexp pattern content = regexp.matchString regex content ∧
      found regexp pattern content = regexp.findString regex content := by
  simp only [occurs, found, h, and_self]

theorem compile_of_toOption {pattern : String} {regex : R}
    (h : (regexp.compile pattern).toOption = some regex) : regexp.compile pattern = .ok regex := by
  cases hc : regexp.compile pattern with
  | ok r =>
    rw [hc] at h
    exact congrArg Except.ok (Option.some.inj h)
  | error err =>
    rw [hc] at h
    cases h

theorem occurs_of_toOption {pattern : String} (h : (regexp.compile pattern).toOption = none)
    (content : String) : occurs regexp pattern content = false ∧ found regexp pattern content = "" := by
  cases hc : regexp.compile pattern with
  | ok regex =>
    rw [hc] at h
    cases h
  | error err => simp only [occurs, found, hc, and_self]

section

variable {c : Running} {matcher : Matcher} {rest : List Matcher}

/-- A call that reports what the matcher has without a cache goes on soundly. -/
theorem RunningSound.report (h : RunningSound regexp c) (hrest : c.rest = matcher :: rest)
    {isMatch : Bool} {matchValue : String}
    (hmatch : isMatch = (matcher.type = "regex_match" && occurs regexp matcher.pattern c.content))
    (hvalue : matchValue = if isMatch then found regexp matcher.pattern c.content else "") :
    RunningSound regexp (c.report matcher isMatch matchValue) := by
  obtain ⟨before, hsplit, hresults⟩ := h.results
  have hlength : c.results.length = before.length := by rw [hresults, length_matcherResults]
  constructor
  · refine ⟨before ++ [matcher], ?_, ?_⟩
    · change c.rule.matchers = before ++ [matcher] ++ c.rest.tail
      rw [hsplit, hrest, List.append_assoc]
      rfl
    · change c.results ++ _ = matcherResults regexp c.content (before ++ [matcher])
      rw [matcherResults_snoc, ← hresults, hlength, hvalue, hmatch]
      rfl
  · rintro (hstage | hstage)
    · cases hstage
    · cases hstage

theorem RunningSound.answered (h : RunningSound regexp c) (hrest : c.rest = matcher :: rest)
    (htype : matcher.type = "regex_match") {isMatch : Bool}
    (hmatch : isMatch = occurs regexp matcher.pattern c.content) :
    RunningSound regexp (c.answered matcher isMatch) := by
  unfold Running.answered
  split
  next hyes =>
    refine ⟨h.results, fun _ m rest' hm => ?_⟩
    have hm : c.rest = m :: rest' := hm
    rw [hrest] at hm
    obtain ⟨rfl, -⟩ := List.cons.inj hm
    exact hmatch.symm.trans hyes
  next hno =>
    have hfalse : occurs regexp matcher.pattern c.content = false := by
      rw [← hmatch]
      exact Bool.not_eq_true _ ▸ hno
    exact h.report hrest (by simp [htype, hfalse]) rfl

theorem RunningSound.matchLocked (h : RunningSound regexp c) :
    RunningSound regexp { c with stage := .matchLocked } := by
  refine ⟨h.results, ?_⟩
  rintro (hstage | hstage)
  · cases hstage
  · cases hstage

theorem RunningSound.extractLocked (h : RunningSound regexp c) (hstage : c.stage = .extractCached) :
    RunningSound regexp { c with stage := .extractLocked } :=
  ⟨h.results, fun _ => h.extracts (.inl hstage)⟩

end

/-- One step of a call keeps the cache and the call sound, whatever other calls have left in the cache. -/
theorem advance_sound {compiledPatterns : Cache R} {c : Running}
    (hcache : CacheSound regexp compiledPatterns) (h : RunningSound regexp c) :
    CacheSound regexp (advance regexp compiledPatterns c).1 ∧
      CallSound regexp (advance regexp compiledPatterns c).2 := by
  rcases hrest : c.rest with _ | ⟨matcher, rest⟩
  · obtain ⟨before, hsplit, hresults⟩ := h.results
    rw [hrest, List.append_nil] at hsplit
    simp only [advance, hrest]
    exact ⟨hcache, rfl, hsplit ▸ hresults, rfl⟩
  · by_cases htype : matcher.type = "regex_match"
    · obtain ⟨hlocked, hcompiled⟩ := compileLocked_sound hcache matcher.pattern
      cases hstage : c.stage with
      | matchCached =>
        cases hregex : compiledPatterns matcher.pattern with
        | none =>
          simp only [advance, hrest, htype, hstage, hregex, ne_eq, not_true_eq_false, if_false]
          exact ⟨hcache, hrest ▸ h.matchLocked⟩
        | some regex =>
          have hoccurs := (occurs_of_compile (hcache _ _ hregex) c.content).1
          simp only [advance, hrest, htype, hstage, hregex, ne_eq, not_true_eq_false, if_false]
          exact ⟨hcache, h.answered hrest htype hoccurs.symm⟩
      | matchLocked =>
        rcases hsection : compileLocked regexp compiledPatterns matcher.pattern with ⟨compiled, answer⟩
        rw [hsection] at hlocked hcompiled
        cases answer with
        | none =>
          have hoccurs := (occurs_of_toOption hcompiled.symm c.content).1
          simp only [advance, hrest, htype, hstage, hsection, ne_eq, not_true_eq_false, if_false]
          exact ⟨hlocked, h.answered hrest htype hoccurs.symm⟩
        | some regex =>
          have hregex := compile_of_toOption hcompiled.symm
          have hoccurs := (occurs_of_compile hregex c.content).1
          simp only [advance, hrest, htype, hstage, hsection, ne_eq, not_true_eq_false, if_false]
          exact ⟨hlocked, h.answered hrest htype hoccurs.symm⟩
      | extractCached =>
        have hmatch := h.extracts (.inl hstage) matcher rest hrest
        cases hregex : compiledPatterns matcher.pattern with
        | none =>
          simp only [advance, hrest, htype, hstage, hregex, ne_eq, not_true_eq_false, if_false]
          exact ⟨hcache, hrest ▸ h.extractLocked hstage⟩
        | some regex =>
          have hfound := (occurs_of_compile (hcache _ _ hregex) c.content).2
          simp only [advance, hrest, htype, hstage, hregex, ne_eq, not_true_eq_false, if_false]
          exact ⟨hcache, h.report hrest (by simp [htype, hmatch]) hfound.symm⟩
      | extractLocked =>
        have hmatch := h.extracts (.inr hstage) matcher rest hrest
        rcases hsection : compileLocked regexp compiledPatterns matcher.pattern with ⟨compiled, answer⟩
        rw [hsection] at hlocked hcompiled
        cases answer with
        | none =>
          have hfound := (occurs_of_toOption hcompiled.symm c.content).2
          simp only [advance, hrest, htype, hstage, hsection, ne_eq, not_true_eq_false, if_false]
          exact ⟨hlocked, h.report hrest (by simp [htype, hmatch]) hfound.symm⟩
        | some regex =>
          have hfound := (occurs_of_compile (compile_of_toOption hcompiled.symm) c.content).2
          simp only [advance, hrest, htype, hstage, hsection, ne_eq, not_true_eq_false, if_false]
          exact ⟨hlocked, h.report hrest (by simp [htype, hmatch]) hfound.symm⟩
    · simp only [advance, hrest, htype, ne_eq, not_false_eq_true, if_true]
      exact ⟨hcache, h.report hrest (by simp [htype]) rfl⟩

structure EngineSound (regexp : Regexp R) (e : RuleEngine R) : Prop where
  cache : CacheSound regexp e.compiledPatterns
  calls : ∀ n, CallSound regexp (e.call n)

theorem EngineSound.new : EngineSound regexp (RuleEngine.new : RuleEngine R) := ⟨nofun, fun _ => trivial⟩

theorem begun_sound (rule : Rule) (content : String) : RunningSound regexp (begun rule content) := by
  refine ⟨⟨[], rfl, rfl⟩, ?_⟩
  rintro (hstage | hstage)
  · cases hstage
  · cases hstage

theorem EngineSound.step {e t : RuleEngine R} {action : Action} (h : EngineSound regexp e)
    (hstep : step regexp e action = some t) : EngineSound regexp t := by
  have hset : ∀ n (x : Call), CallSound regexp x → ∀ m, CallSound regexp (Function.update e.call n x m) := by
    intro n x hx m
    by_cases hm : m = n
    · rw [hm, Function.update_self]
      exact hx
    · rw [Function.update_of_ne hm]
      exact h.calls m
  cases action with
  | start n rule content =>
    simp only [Compliance.step] at hstep
    cases hcall : e.call n with
    | idle =>
      rw [hcall] at hstep
      cases hstep
      exact ⟨h.cache, hset n _ (begun_sound rule content)⟩
    | running c =>
      rw [hcall] at hstep
      cases hstep
    | returned rule' content' result =>
      rw [hcall] at hstep
      cases hstep
  | advance n =>
    simp only [Compliance.step] at hstep
    cases hcall : e.call n with
    | idle =>
      rw [hcall] at hstep
      cases hstep
    | running c =>
      rw [hcall] at hstep
      cases hstep
      have hc := h.calls n
      rw [hcall] at hc
      obtain ⟨hcache, hnext⟩ := advance_sound h.cache hc
      exact ⟨hcache, hset n _ hnext⟩
    | returned rule content result =>
      rw [hcall] at hstep
      cases hstep

def Stage.rank : Stage → Nat
  | .matchCached => 3
  | .matchLocked => 2
  | .extractCached => 1
  | .extractLocked => 0

/-- More steps than a running call has left. -/
def Running.remaining (c : Running) : Nat := 4 * c.rest.length + c.stage.rank

/-- The same call, nearer to its end. -/
def Nearer (c next : Running) : Prop :=
  next.rule = c.rule ∧ next.content = c.content ∧ next.remaining < c.remaining

section

variable {c : Running} {matcher : Matcher} {rest : List Matcher}

theorem nearer_report (hrest : c.rest = matcher :: rest) (isMatch : Bool) (matchValue : String) :
    Nearer c (c.report matcher isMatch matchValue) := by
  refine ⟨rfl, rfl, ?_⟩
  simp only [Running.remaining, Running.report, hrest, List.tail_cons, List.length_cons, Stage.rank]
  omega

theorem nearer_stage {stage : Stage} (h : stage.rank < c.stage.rank) :
    Nearer c { c with stage := stage } := by
  refine ⟨rfl, rfl, ?_⟩
  simp only [Running.remaining]
  omega

theorem nearer_answered (hrest : c.rest = matcher :: rest) (hstage : 1 < c.stage.rank) (isMatch : Bool) :
    Nearer c (c.answered matcher isMatch) := by
  unfold Running.answered
  split
  next => exact nearer_stage hstage
  next => exact nearer_report hrest false ""

end

/-- A step of a call ends it or brings it nearer to its end. -/
theorem advance_progress (regexp : Regexp R) (compiledPatterns : Cache R) (c : Running) :
    (∃ result, (advance regexp compiledPatterns c).2 = .returned c.rule c.content result) ∨
    ∃ next, (advance regexp compiledPatterns c).2 = .running next ∧ Nearer c next := by
  unfold advance
  split
  next hrest => exact .inl ⟨_, rfl⟩
  next matcher rest hrest =>
    right
    split
    next => exact ⟨_, rfl, nearer_report hrest false ""⟩
    next =>
      split
      next hstage =>
        split
        next regex _ => exact ⟨_, rfl, nearer_answered hrest (by rw [hstage]; decide) _⟩
        next => exact ⟨_, rfl, nearer_stage (by rw [hstage]; decide)⟩
      next hstage =>
        split
        next compiled regex _ => exact ⟨_, rfl, nearer_answered hrest (by rw [hstage]; decide) _⟩
        next compiled _ => exact ⟨_, rfl, nearer_answered hrest (by rw [hstage]; decide) _⟩
      next hstage =>
        split
        next regex _ => exact ⟨_, rfl, nearer_report hrest true _⟩
        next => exact ⟨_, rfl, nearer_stage (by rw [hstage]; decide)⟩
      next hstage =>
        split
        next compiled regex _ => exact ⟨_, rfl, nearer_report hrest true _⟩
        next compiled _ => exact ⟨_, rfl, nearer_report hrest true ""⟩

/-- A running call returns when it goes on alone, from whatever the others have left. -/
theorem call_returns (regexp : Regexp R) {n : Nat} (fuel : Nat) {e : RuleEngine R} {c : Running}
    (hcall : e.call n = .running c) (hfuel : c.remaining < fuel) :
    ∃ t k result, exec (step regexp) e (List.replicate k (.advance n)) = some t ∧
      t.call n = .returned c.rule c.content result := by
  induction fuel generalizing e c with
  | zero => exact absurd hfuel (Nat.not_lt_zero _)
  | succ fuel ih =>
    have hstep : step regexp e (.advance n) = some ⟨(advance regexp e.compiledPatterns c).1,
        Function.update e.call n (advance regexp e.compiledPatterns c).2⟩ := by
      simp only [step, hcall]
    rcases advance_progress regexp e.compiledPatterns c with ⟨result, hreturned⟩ |
      ⟨next, hrunning, hrule, hcontent, hless⟩
    · exact ⟨_, 1, result, Option.bind_eq_some_iff.mpr ⟨_, hstep, rfl⟩,
        (Function.update_self ..).trans hreturned⟩
    · obtain ⟨t, k, result, hrun, hresult⟩ := ih (c := next)
        (e := ⟨(advance regexp e.compiledPatterns c).1,
          Function.update e.call n (advance regexp e.compiledPatterns c).2⟩)
        ((Function.update_self ..).trans hrunning) (by omega)
      rw [hrule, hcontent] at hresult
      exact ⟨t, k + 1, result, Option.bind_eq_some_iff.mpr ⟨_, hstep, hrun⟩, hresult⟩

theorem validateMatchers_compile {ruleID : String} {i : Nat} {matchers : List Matcher}
    (h : validateMatchers regexp ruleID i matchers = .ok ()) :
    ∀ matcher ∈ matchers, ∃ regex, regexp.compile matcher.pattern = .ok regex := by
  induction matchers generalizing i with
  | nil => exact nofun
  | cons matcher matchers ih =>
    unfold validateMatchers at h
    split at h
    next => cases h
    next =>
      split at h
      next => cases h
      next =>
        split at h
        next => cases h
        next regex hregex => exact List.forall_mem_cons.mpr ⟨⟨regex, hregex⟩, ih h⟩

theorem validateRule_compile {l : RuleLoader R} {rule : Rule} (h : l.validateRule regexp rule = .ok ()) :
    ∀ matcher ∈ rule.matchers, ∃ regex, regexp.compile matcher.pattern = .ok regex := by
  unfold RuleLoader.validateRule at h
  iterate 6
    split at h
    next => cases h
  next => exact validateMatchers_compile h

/-- Every `Match` of an accepted rule returns, and what it has returned is what the rule's patterns have for
the content alone. -/
structure Reports (regexp : Regexp R) (l : RuleLoader R) (e : RuleEngine R) : Prop where
  compiles : ∀ rule, l.validateRule regexp rule = .ok () →
    ∀ matcher ∈ rule.matchers, ∃ regex, regexp.compile matcher.pattern = .ok regex
  matched : ∀ n rule content result, e.call n = .returned rule content result →
    l.validateRule regexp rule = .ok () →
    (result.matched = true ↔ ∃ matcher ∈ rule.matchers, matcher.type = "regex_match" ∧
      occurs regexp matcher.pattern content = true)
  results : ∀ n rule content result, e.call n = .returned rule content result →
    result.ruleID = rule.id ∧ result.matchers = matcherResults regexp content rule.matchers
  returns : ∀ n c, e.call n = .running c → ∃ t k result,
    exec (step regexp) e (List.replicate k (.advance n)) = some t ∧
      t.call n = .returned c.rule c.content result

theorem EngineSound.reports {e : RuleEngine R} (h : EngineSound regexp e) (l : RuleLoader R) :
    Reports regexp l e where
  compiles _ haccepted := validateRule_compile haccepted
  matched n rule content result hcall _ := by
    have hc := h.calls n
    rw [hcall] at hc
    obtain ⟨-, hresults, hmatched⟩ := hc
    rw [hmatched, hresults, any_matcherResults]
  results n rule content result hcall := by
    have hc := h.calls n
    rw [hcall] at hc
    exact ⟨hc.1, hc.2.1⟩
  returns n c hcall := call_returns regexp (c.remaining + 1) hcall (Nat.lt_succ_self _)

/-- Whatever calls an engine has answered and is answering, each is answered as if it were the first. -/
theorem match_reports_throughout (regexp : Regexp R) (l : RuleLoader R) (actions : List Action) :
    Throughout (step regexp) (Reports regexp l) RuleEngine.new actions := by
  apply throughout_of_invariant (I := EngineSound regexp)
  · exact fun _ _ _ h hstep => h.step hstep
  · exact fun _ h => h.reports l
  · exact .new

/-- Patterns that are plain texts, and the one that the loader compiles for the ids of rules. -/
def plainRegexp : Regexp String where
  compile pattern := .ok pattern
  matchString pattern content :=
    if pattern = "^[A-Z]\x7b2,4\x7d-[A-Z]\x7b2,10\x7d(-[A-Z0-9-]\x7b1,20\x7d)?$" then content = "CRED-EXPOSE"
    else Strings.contains content pattern
  findString pattern content := if Strings.contains content pattern then pattern else ""

def keywordRule : Rule := ⟨"CRED-EXPOSE", "credentials", "P0", [⟨"keyword", "sk-"⟩], "block"⟩

/-- A rule that the loader accepts and whose pattern occurs is not reported, for the type of its matcher. -/
theorem keyword_never_matched :
    ∃ l, newRuleLoader plainRegexp = some l ∧ l.validateRule plainRegexp keywordRule = .ok () ∧
      occurs plainRegexp "sk-" "key sk-1234" = true ∧
      ∃ e result, exec (step plainRegexp) RuleEngine.new
          [.start 0 keywordRule "key sk-1234", .advance 0, .advance 0] = some e ∧
        e.call 0 = .returned keywordRule "key sk-1234" result ∧ result.matched = false := by
  refine ⟨_, rfl, by decide, by decide, _, _, rfl, rfl, rfl⟩

end SupplyPlatform.Compliance
