import Mathlib.Data.Rat.Defs
import SupplyPlatform.Database

namespace SupplyPlatform.Gateway

/-- `gwerror.ErrorCode`. -/
inductive ErrorCode
  | authInvalidToken
  | authInsufficientPermission
  | authMfaRequired
  | billingInsufficientBalance
  | billingChargeFailed
  | billingRefundFailed
  | billingDiscrepancy
  | routerNoProviderAvailable
  | routerAllProvidersFailed
  | routerTimeout
  | providerInvalidKey
  | providerRateLimit
  | providerQuotaExceeded
  | providerModelNotFound
  | providerError
  | rateLimitExceeded
  | rateLimitTokenExceeded
  | rateLimitBurstExceeded
  | commonInvalidRequest
  | commonResourceNotFound
  | commonInternalError
  | commonServiceUnavailable
  | commonRequestTooLarge
  deriving DecidableEq

def ErrorCode.text : ErrorCode → String
  | authInvalidToken => "AUTH_001"
  | authInsufficientPermission => "AUTH_002"
  | authMfaRequired => "AUTH_003"
  | billingInsufficientBalance => "BILLING_001"
  | billingChargeFailed => "BILLING_002"
  | billingRefundFailed => "BILLING_003"
  | billingDiscrepancy => "BILLING_004"
  | routerNoProviderAvailable => "ROUTER_001"
  | routerAllProvidersFailed => "ROUTER_002"
  | routerTimeout => "ROUTER_003"
  | providerInvalidKey => "PROVIDER_001"
  | providerRateLimit => "PROVIDER_002"
  | providerQuotaExceeded => "PROVIDER_003"
  | providerModelNotFound => "PROVIDER_004"
  | providerError => "PROVIDER_005"
  | rateLimitExceeded => "RATE_LIMIT_001"
  | rateLimitTokenExceeded => "RATE_LIMIT_002"
  | rateLimitBurstExceeded => "RATE_LIMIT_003"
  | commonInvalidRequest => "COMMON_001"
  | commonResourceNotFound => "COMMON_002"
  | commonInternalError => "COMMON_003"
  | commonServiceUnavailable => "COMMON_004"
  | commonRequestTooLarge => "COMMON_005"

/-- The `HTTPStatus` of `ErrorDefinitions`, which has every code. -/
def ErrorCode.httpStatus : ErrorCode → Int
  | authInvalidToken => 401
  | authInsufficientPermission => 403
  | authMfaRequired => 403
  | billingInsufficientBalance => 402
  | billingChargeFailed => 500
  | billingRefundFailed => 500
  | billingDiscrepancy => 500
  | routerNoProviderAvailable => 503
  | routerAllProvidersFailed => 503
  | routerTimeout => 504
  | providerInvalidKey => 401
  | providerRateLimit => 429
  | providerQuotaExceeded => 402
  | providerModelNotFound => 404
  | providerError => 502
  | rateLimitExceeded => 429
  | rateLimitTokenExceeded => 429
  | rateLimitBurstExceeded => 429
  | commonInvalidRequest => 400
  | commonResourceNotFound => 404
  | commonInternalError => 500
  | commonServiceUnavailable => 503
  | commonRequestTooLarge => 413

structure GatewayError where
  code : ErrorCode
  message : String
  requestID : String
  deriving DecidableEq

def newGatewayError (code : ErrorCode) (message : String) : GatewayError := ⟨code, message, ""⟩

def GatewayError.withRequestID (e : GatewayError) (requestID : String) : GatewayError :=
  { e with requestID := requestID }

structure ProviderError where
  code : String
  message : String
  httpStatus : Int
  retryable : Bool
  deriving DecidableEq

/-- An `error`, with its dynamic type: `*GatewayError`, `ProviderError`, or one that `fmt` or `net/http`
makes. -/
inductive GoError
  | gateway (e : GatewayError)
  | provider (e : ProviderError)
  | other (text : String)
  deriving DecidableEq

/-- The type assertion `err.(*gwerror.GatewayError)`; `none` is its panic. -/
def GoError.asGatewayError : GoError → Option GatewayError
  | gateway e => some e
  | provider _ => none
  | other _ => none

structure Message where
  role : String
  content : String
  name : String
  deriving DecidableEq

structure CompletionOptions where
  temperature : ℚ
  maxTokens : Int
  topP : ℚ
  stream : Bool
  stop : List String
  deriving DecidableEq

structure Usage where
  promptTokens : Int
  completionTokens : Int
  totalTokens : Int
  deriving DecidableEq

/-- `none` is a nil `Message`. -/
structure Choice where
  index : Int
  message : Option Message
  finishReason : String
  deriving DecidableEq

structure CompletionResponse where
  id : String
  object : String
  created : Int
  model : String
  choices : List Choice
  usage : Usage
  deriving DecidableEq

structure Delta where
  role : String
  content : String
  deriving DecidableEq

structure StreamChoice where
  index : Int
  delta : Option Delta
  finishReason : String
  deriving DecidableEq

structure StreamChunk where
  id : String
  object : String
  created : Int
  model : String
  choices : List StreamChoice
  deriving DecidableEq

/-- The element of `choices` that a body or a line of the provider is decoded into. -/
structure RawChoice where
  role : String
  content : String
  finishReason : String
  deriving DecidableEq

structure RawChunk where
  id : String
  object : String
  created : Int
  model : String
  choices : List RawChoice
  deriving DecidableEq

structure RawCompletion where
  chunk : RawChunk
  usage : Usage
  deriving DecidableEq

abbrev Bytes := List UInt8

def bytes (s : String) : Bytes := s.toUTF8.data.toList

/-- What `encoding/json` makes of a text: `errorDetail` is the object under `error` as `%v` prints it. -/
structure Json where
  errorDetail : Bytes → Option Bytes
  completion : Bytes → Except String RawCompletion
  chunk : Bytes → Option RawChunk

/-- `read` is what `io.ReadAll` returns, and `lines` are the lines that the scanner yields before the
body or the request's context ends. -/
structure Body where
  read : Bytes
  readError : Option String
  lines : List Bytes
  deriving DecidableEq

/-- What a call of the adapter meets on the way to the provider and back. -/
inductive Exchange
  | marshalError (err : String)
  | requestError (err : String)
  | transportError (err : String)
  | answered (statusCode : Int) (body : Body)
  deriving DecidableEq

/-- The request that goes out; a field that is `none` is not in the body. -/
structure ProviderRequest where
  url : String
  authorization : String
  model : String
  messages : List Message
  temperature : Option ℚ
  maxTokens : Option Int
  topP : Option ℚ
  stop : Option (List String)
  stream : Option Bool
  deriving DecidableEq

structure OpenAIAdapter where
  baseURL : String
  apiKey : String
  models : List String
  deriving DecidableEq

namespace OpenAIAdapter

def providerName (_ : OpenAIAdapter) : String := "openai"

def supportedModels (a : OpenAIAdapter) : List String := a.models

def containsBytes (s substr : Bytes) : Bool := s.tails.any (substr.isPrefixOf ·)

def mapError (errStr : Bytes) : ProviderError :=
  if containsBytes errStr (bytes "invalid_api_key") then ⟨"PROVIDER_001", "Invalid API key", 401, false⟩
  else if containsBytes errStr (bytes "rate_limit") then
    ⟨"PROVIDER_002", "Rate limit exceeded", 429, true⟩
  else if containsBytes errStr (bytes "quota") then ⟨"PROVIDER_003", "Quota exceeded", 402, false⟩
  else if containsBytes errStr (bytes "model_not_found") then ⟨"PROVIDER_004", "Model not found", 404, false⟩
  else ⟨"PROVIDER_005", "Provider error", 502, true⟩

def chatRequest (a : OpenAIAdapter) (model : String) (messages : List Message)
    (options : CompletionOptions) : ProviderRequest where
  url := a.baseURL ++ "/v1/chat/completions"
  authorization := "Bearer " ++ a.apiKey
  model := model
  messages := messages
  temperature := if 0 < options.temperature then some options.temperature else none
  maxTokens := if 0 < options.maxTokens then some options.maxTokens else none
  topP := if 0 < options.topP then some options.topP else none
  stop := if options.stop ≠ [] then some options.stop else none
  stream := none

/-- The streaming request leaves `top_p` and `stop` out. -/
def streamRequest (a : OpenAIAdapter) (model : String) (messages : List Message)
    (options : CompletionOptions) : ProviderRequest :=
  { a.chatRequest model messages options with topP := none, stop := none, stream := some true }

def convertResponse (result : RawCompletion) : CompletionResponse where
  id := result.chunk.id
  object := result.chunk.object
  created := result.chunk.created
  model := result.chunk.model
  choices := result.chunk.choices.map (fun c => ⟨0, some ⟨c.role, c.content, ""⟩, c.finishReason⟩)
  usage := result.usage

/-- What `ChatCompletion` returns. -/
def chatCompletion (json : Json) : Exchange → Except GoError CompletionResponse
  | .marshalError err => .error (.other ("failed to marshal request: " ++ err))
  | .requestError err => .error (.other ("failed to create request: " ++ err))
  | .transportError err => .error (.other err)
  | .answered statusCode body =>
    match body.readError with
    | some err => .error (.other ("failed to read response: " ++ err))
    | none =>
      if statusCode ≠ 200 then
        match json.errorDetail body.read with
        | some detail => .error (.provider (mapError detail))
        | none => .error (.provider (mapError (bytes ("unexpected status: " ++ toString statusCode))))
      else
        match json.completion body.read with
        | .error err => .error (.other ("failed to parse response: " ++ err))
        | .ok result => .ok (convertResponse result)

def convertChunk (chunk : RawChunk) : StreamChunk where
  id := chunk.id
  object := chunk.object
  created := chunk.created
  model := chunk.model
  choices := chunk.choices.map (fun c => ⟨0, some ⟨c.role, c.content⟩, c.finishReason⟩)

/-- The goroutine's loop over the lines of the body. -/
def streamChunks (json : Json) : List Bytes → List StreamChunk
  | [] => []
  | line :: rest =>
    if line.length < 6 then streamChunks json rest
    else if line.take 5 ≠ bytes "data:" then streamChunks json rest
    else if line.drop 6 = bytes "[DONE]" then []
    else
      match json.chunk (line.drop 6) with
      | none => streamChunks json rest
      | some chunk => convertChunk chunk :: streamChunks json rest

/-- What `ChatCompletionStream` returns; the channel is the list of what is sent on it. -/
def chatCompletionStream (json : Json) : Exchange → Except GoError (List StreamChunk)
  | .marshalError err => .error (.other ("failed to marshal request: " ++ err))
  | .requestError err => .error (.other ("failed to create request: " ++ err))
  | .transportError err => .error (.other err)
  | .answered statusCode body =>
    if statusCode ≠ 200 then
      -- the error of `io.ReadAll` is dropped
      .error (.provider (mapError
        (bytes ("unexpected status: " ++ toString statusCode ++ ", body: ") ++ body.read)))
    else .ok (streamChunks json body.lines)

/-- The provider answers with status 200, and a call that does not stream can read and decode the body. -/
def Succeeds (json : Json) (stream : Bool) (net : Exchange) : Prop :=
  ∃ body, net = .answered 200 body ∧
    (stream = false → body.readError = none ∧ ∃ result, json.completion body.read = .ok result)

theorem not_succeeds_of_body {json : Json} {statusCode : Int} {body : Body}
    (h : statusCode = 200 → ¬(body.readError = none ∧ ∃ result, json.completion body.read = .ok result)) :
    ¬Succeeds json false (.answered statusCode body) := by
  rintro ⟨_, he, hok⟩
  cases he
  exact h rfl (hok rfl)

/-- All that a call can return: no error of the adapter is a `*GatewayError`. -/
theorem chatCompletion_cases (json : Json) (net : Exchange) :
    (¬Succeeds json false net ∧
      ∃ err, chatCompletion json net = .error err ∧ err.asGatewayError = none) ∨
    (Succeeds json false net ∧ ∃ result, chatCompletion json net = .ok (convertResponse result)) := by
  cases net with
  | marshalError err => exact .inl ⟨(fun ⟨_, he, _⟩ => nomatch he), _, rfl, rfl⟩
  | requestError err => exact .inl ⟨(fun ⟨_, he, _⟩ => nomatch he), _, rfl, rfl⟩
  | transportError err => exact .inl ⟨(fun ⟨_, he, _⟩ => nomatch he), _, rfl, rfl⟩
  | answered statusCode body =>
    unfold chatCompletion
    dsimp only
    split
    next err herr =>
      refine .inl ⟨not_succeeds_of_body (fun _ ⟨hread, _⟩ => ?_), _, rfl, rfl⟩
      cases herr.symm.trans hread
    next hread =>
      split
      next hstatus =>
        have hno : ¬Succeeds json false (.answered statusCode body) :=
          not_succeeds_of_body (fun h200 => absurd h200 hstatus)
        split
        · exact .inl ⟨hno, _, rfl, rfl⟩
        · exact .inl ⟨hno, _, rfl, rfl⟩
      next hstatus =>
        split
        next err herr =>
          refine .inl ⟨not_succeeds_of_body (fun _ ⟨_, _, hok⟩ => ?_), _, rfl, rfl⟩
          cases herr.symm.trans hok
        next result hok =>
          have h200 : statusCode = 200 := not_not.mp hstatus
          subst h200
          exact .inr ⟨⟨body, rfl, fun _ => ⟨hread, result, hok⟩⟩, _, rfl⟩

theorem chatCompletionStream_cases (json : Json) (net : Exchange) :
    (¬Succeeds json true net ∧
      ∃ err, chatCompletionStream json net = .error err ∧ err.asGatewayError = none) ∨
    (Succeeds json true net ∧ ∃ chunks, chatCompletionStream json net = .ok chunks) := by
  cases net with
  | marshalError err => exact .inl ⟨(fun ⟨_, he, _⟩ => nomatch he), _, rfl, rfl⟩
  | requestError err => exact .inl ⟨(fun ⟨_, he, _⟩ => nomatch he), _, rfl, rfl⟩
  | transportError err => exact .inl ⟨(fun ⟨_, he, _⟩ => nomatch he), _, rfl, rfl⟩
  | answered statusCode body =>
    unfold chatCompletionStream
    dsimp only
    split
    next hstatus =>
      refine .inl ⟨?_, _, rfl, rfl⟩
      rintro ⟨_, he, _⟩
      cases he
      exact hstatus rfl
    next hstatus =>
      have h200 : statusCode = 200 := not_not.mp hstatus
      subst h200
      exact .inr ⟨⟨body, rfl, fun h => nomatch h⟩, _, rfl⟩

end OpenAIAdapter

end SupplyPlatform.Gateway
