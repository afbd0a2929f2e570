import Mathlib.Logic.Function.Basic
import SupplyPlatform.Lib.Runs

namespace SupplyPlatform.Compliance

structure Matcher where
  type : String
  pattern : String
  deriving DecidableEq

/-- `primary` is `Action.Primary`. -/
structure Rule where
  id : String
  name : String
  severity : String
  matchers : List Matcher
  primary : String
  deriving DecidableEq

structure MatcherResult where
  matcherIndex : Nat
  matcherType : String
  pattern : String
  matchValue : String
  isMatch : Bool
  deriving DecidableEq

structure MatchResult where
  matched : Bool
  ruleID : String
  matchers : List MatcherResult
  deriving DecidableEq

/-- The package `regexp`, with its compiled patterns; `compile` may refuse one with an error. -/
structure Regexp (R : Type) where
  compile : String → Except String R
  matchString : R → String → Bool
  findString : R → String → String

section

variable {R : Type} (regexp : Regexp R)

structure RuleLoader (R : Type) where
  ruleIDPattern : R

/-- `NewRuleLoader`, with a pattern that never matches if its own does not compile; `none` is the panic of
`MustCompile`. -/
def newRuleLoader : Option (RuleLoader R) :=
  match regexp.compile "^[A-Z]\x7b2,4\x7d-[A-Z]\x7b2,10\x7d(-[A-Z0-9-]\x7b1,20\x7d)?$" with
  | .ok pattern => some ⟨pattern⟩
  | .error _ => (regexp.compile "a^").toOption.map RuleLoader.mk

def RuleLoader.validateRuleID (l : RuleLoader R) (ruleID : String) : Bool :=
  regexp.matchString l.ruleIDPattern ruleID

/-- The loop of `validateRule` over the matchers, from the `i`-th one on. -/
def validateMatchers (ruleID : String) : Nat → List Matcher → Except String Unit
  | _, [] => .ok ()
  | i, matcher :: rest =>
    if matcher.type = "" then
      .error ("missing required field: matchers[" ++ toString i ++ "].type for rule " ++ ruleID)
    else if matcher.pattern = "" then
      .error ("missing required field: matchers[" ++ toString i ++ "].pattern for rule " ++ ruleID)
    else
      match regexp.compile matcher.pattern with
      | .error err =>
        .error ("invalid regex pattern in matchers[" ++ toString i ++ "] for rule " ++ ruleID ++ ": " ++ err)
      | .ok _ => validateMatchers ruleID (i + 1) rest

/-- The type of a matcher is only asked to be there. -/
def RuleLoader.validateRule (l : RuleLoader R) (rule : Rule) : Except String Unit :=
  if rule.id = "" then .error "missing required field: id"
  else if rule.name = "" then .error ("missing required field: name for rule " ++ rule.id)
  else if rule.severity = "" then .error ("missing required field: severity for rule " ++ rule.id)
  else if rule.matchers = [] then .error ("missing required field: matchers for rule " ++ rule.id)
  else if rule.primary = "" then .error ("missing required field: action.primary for rule " ++ rule.id)
  else if l.validateRuleID regexp rule.id = false then
    .error ("invalid rule ID format: " ++ rule.id ++
      " (expected format: \x7bCategory\x7d-\x7bSubCategory\x7d[-\x7bDetail\x7d])")
  else validateMatchers regexp rule.id 0 rule.matchers

/-- Where a call of `Match` stands in its current matcher: at the lookup under the read lock or at the section
under the write lock, of `matchRegex` or of `extractMatch`. -/
inductive Stage
  | matchCached
  | matchLocked
  | extractCached
  | extractLocked
  deriving DecidableEq

/-- A call of `Match`, with the results so far and the matchers that are left. -/
structure Running where
  rule : Rule
  content : String
  results : List MatcherResult
  rest : List Matcher
  stage : Stage
  deriving DecidableEq

/-- The calls that have not begun, that run, and that have returned. -/
inductive Call
  | idle
  | running (c : Running)
  | returned (rule : Rule) (content : String) (result : MatchResult)
  deriving DecidableEq

/-- The compiled patterns; each entry of the map is a slice of one. -/
abbrev Cache (R : Type) := String → Option R

/-- The double check and the compilation under the write lock. -/
def compileLocked (compiledPatterns : Cache R) (pattern : String) : Cache R × Option R :=
  match compiledPatterns pattern with
  | some regex => (compiledPatterns, some regex)
  | none =>
    match regexp.compile pattern with
    | .error _ => (compiledPatterns, none)
    | .ok regex => (Function.update compiledPatterns pattern (some regex), some regex)

def Running.report (c : Running) (matcher : Matcher) (isMatch : Bool) (matchValue : String) : Running :=
  { c with
    results := c.results ++
      [⟨c.results.length, matcher.type, matcher.pattern, matchValue, isMatch⟩]
    rest := c.rest.tail
    stage := .matchCached }

/-- What `Match` does with the answer of `matchRegex`. -/
def Running.answered (c : Running) (matcher : Matcher) (isMatch : Bool) : Running :=
  if isMatch then { c with stage := .extractCached } else c.report matcher false ""

/-- One step of a call, up to its next lock. -/
def advance (compiledPatterns : Cache R) (c : Running) : Cache R × Call :=
  match c.rest with
  | [] =>
    (compiledPatterns,
      .returned c.rule c.content ⟨c.results.any (·.isMatch), c.rule.id, c.results⟩)
  | matcher :: _ =>
    if matcher.type ≠ "regex_match" then (compiledPatterns, .running (c.report matcher false ""))
    else
      match c.stage with
      | .matchCached =>
        match compiledPatterns matcher.pattern with
        | some regex =>
          (compiledPatterns, .running (c.answered matcher (regexp.matchString regex c.content)))
        | none => (compiledPatterns, .running { c with stage := .matchLocked })
      | .matchLocked =>
        match compileLocked regexp compiledPatterns matcher.pattern with
        | (compiled, some regex) =>
          (compiled, .running (c.answered matcher (regexp.matchString regex c.content)))
        | (compiled, none) => (compiled, .running (c.answered matcher false))
      | .extractCached =>
        match compiledPatterns matcher.pattern with
        | some regex =>
          (compiledPatterns, .running (c.report matcher true (regexp.findString regex c.content)))
        | none => (compiledPatterns, .running { c with stage := .extractLocked })
      | .extractLocked =>
        match compileLocked regexp compiledPatterns matcher.pattern with
        | (compiled, some regex) =>
          (compiled, .running (c.report matcher true (regexp.findString regex c.content)))
        -- the error of `extractMatch` is dropped
        | (compiled, none) => (compiled, .running (c.report matcher true ""))

structure RuleEngine (R : Type) where
  compiledPatterns : Cache R
  call : Nat → Call

def RuleEngine.new : RuleEngine R := ⟨fun _ => none, fun _ => .idle⟩

inductive Action
  | start (n : Nat) (rule : Rule) (content : String)
  | advance (n : Nat)
  deriving DecidableEq

def begun (rule : Rule) (content : String) : Running := ⟨rule, content, [], rule.matchers, .matchCached⟩

/-- Calls run side by side: each takes its own steps, over the patterns that all of them share. -/
def step (e : RuleEngine R) : Action → Option (RuleEngine R)
  | .start n rule content =>
    match e.call n with
    | .idle => some { e with call := Function.update e.call n (.running (begun rule content)) }
    | _ => none
  | .advance n =>
    match e.call n with
    | .running c =>
      some ⟨(advance regexp e.compiledPatterns c).1,
        Function.update e.call n (advance regexp e.compiledPatterns c).2⟩
    | _ => none

/-- The pattern occurs in the content, as the package has it. -/
def occurs (pattern content : String) : Bool :=
  match regexp.compile pattern with
  | .ok regex => regexp.matchString regex content
  | .error _ => false

def found (pattern content : String) : String :=
  match regexp.compile pattern with
  | .ok regex => regexp.findString regex content
  | .error _ => ""

/-- What a matcher reports when nothing is cached. -/
def matcherResult (content : String) (i : Nat) (matcher : Matcher) : MatcherResult :=
  let isMatch := matcher.type = "regex_match" && occurs regexp matcher.pattern content
  ⟨i, matcher.type, matcher.pattern, if isMatch then found regexp matcher.pattern content else "", isMatch⟩

def matcherResults (content : String) (matchers : List Matcher) : List MatcherResult :=
  matchers.zipIdx.map (fun x => matcherResult regexp content x.2 x.1)

end

end SupplyPlatform.Compliance
