import Mathlib.Logic.Function.Basic
import SupplyPlatform.OpenAIAdapter

namespace SupplyPlatform.Gateway

inductive JsonValue
  | text (value : String)
  | messages (value : List Message)
  | number (value : ℚ)
  | integer (value : Int)
  | texts (value : List String)
  | bool (value : Bool)
  deriving DecidableEq

/-- The JSON object in the body, by the names of its members. -/
def ProviderRequest.members (r : ProviderRequest) (name : String) : Option JsonValue :=
  if name = "model" then some (.text r.model)
  else if name = "messages" then some (.messages r.messages)
  else if name = "temperature" then r.temperature.map .number
  else if name = "max_tokens" then r.maxTokens.map .integer
  else if name = "top_p" then r.topP.map .number
  else if name = "stop" then r.stop.map .texts
  else if name = "stream" then r.stream.map .bool
  else none

namespace OpenAIAdapter

variable {a : OpenAIAdapter} {model : String} {messages : List Message} {options : CompletionOptions}

theorem chatRequest_top_p : (a.chatRequest model messages options).members "top_p" =
    if 0 < options.topP then some (.number options.topP) else none := by
  change Option.map JsonValue.number (if 0 < options.topP then some options.topP else none) = _
  split
  · rfl
  · rfl

theorem chatRequest_stop : (a.chatRequest model messages options).members "stop" =
    if options.stop ≠ [] then some (.texts options.stop) else none := by
  change Option.map JsonValue.texts (if options.stop ≠ [] then some options.stop else none) = _
  split
  · rfl
  · rfl

theorem streamRequest_top_p : (a.streamRequest model messages options).members "top_p" = none := rfl

theorem streamRequest_stop : (a.streamRequest model messages options).members "stop" = none := rfl

theorem streamRequest_stream :
    (a.streamRequest model messages options).members "stream" = some (.bool true) := rfl

/-- The two builders disagree on these three members alone. -/
theorem streamRequest_members {name : String} (hstream : name ≠ "stream") (htop : name ≠ "top_p")
    (hstop : name ≠ "stop") : (a.streamRequest model messages options).members name =
      (a.chatRequest model messages options).members name := by
  unfold ProviderRequest.members
  rw [if_neg htop, if_neg htop, if_neg hstop, if_neg hstop, if_neg hstream, if_neg hstream]
  rfl

/-- The body of a call that streams is the one of a call that does not, with `stream`, where neither
`top_p` nor `stop` is asked for. -/
theorem stream_sends_same_iff (a : OpenAIAdapter) (model : String) (messages : List Message)
    (options : CompletionOptions) :
    ((a.streamRequest model messages options).members =
        Function.update (a.chatRequest model messages options).members "stream" (some (.bool true)) ∧
      ∀ name value, (a.chatRequest model messages options).members name = some value →
        (a.streamRequest model messages options).members name = some value) ↔
    options.topP ≤ 0 ∧ options.stop = [] := by
  constructor
  · rintro ⟨hsame, -⟩
    have htop := congrFun hsame "top_p"
    have hstop := congrFun hsame "stop"
    rw [Function.update_of_ne (by decide), chatRequest_top_p, streamRequest_top_p] at htop
    rw [Function.update_of_ne (by decide), chatRequest_stop, streamRequest_stop] at hstop
    constructor
    · by_contra hpos
      rw [if_pos (Rat.not_le.mp hpos)] at htop
      cases htop
    · by_contra hsome
      rw [if_pos hsome] at hstop
      cases hstop
  · rintro ⟨htop, hstop⟩
    have hsame : ∀ name, name ≠ "stream" → (a.streamRequest model messages options).members name =
        (a.chatRequest model messages options).members name := by
      intro name hname
      by_cases hnameTop : name = "top_p"
      · rw [hnameTop, streamRequest_top_p, chatRequest_top_p, if_neg (Rat.not_lt.mpr htop)]
      · by_cases hnameStop : name = "stop"
        · rw [hnameStop, streamRequest_stop, chatRequest_stop, if_neg (not_not.mpr hstop)]
        · exact streamRequest_members hname hnameTop hnameStop
    refine ⟨funext fun name => ?_, fun name value hvalue => ?_⟩
    · by_cases hname : name = "stream"
      · rw [hname, Function.update_self, streamRequest_stream]
      · rw [Function.update_of_ne hname, hsame name hname]
    · have hname : name ≠ "stream" := by
        rintro rfl
        cases hvalue
      rw [hsame name hname, hvalue]

/-- A stop text and a `top_p` that are asked for with streaming do not go out. -/
theorem stream_drops_options :
    let a : OpenAIAdapter := ⟨"https://api.openai.com", "key", ["gpt-4"]⟩
    let options : CompletionOptions := ⟨0, 0, 1 / 2, true, ["\n"]⟩
    (a.streamRequest "gpt-4" [⟨"user", "hi", ""⟩] options).members ≠
      Function.update (a.chatRequest "gpt-4" [⟨"user", "hi", ""⟩] options).members "stream"
        (some (.bool true)) ∧
    (a.chatRequest "gpt-4" [⟨"user", "hi", ""⟩] options).members "stop" = some (.texts ["\n"]) ∧
    (a.streamRequest "gpt-4" [⟨"user", "hi", ""⟩] options).members "stop" = none := by
  dsimp only
  refine ⟨fun hsame => ?_, rfl, rfl⟩
  cases congrFun hsame "stop"

end OpenAIAdapter

end SupplyPlatform.Gateway
