import SupplyPlatform.GatewayHealth
import SupplyPlatform.QueryKeys

namespace SupplyPlatform.Gateway

open Strings

structure ProviderConfig where
  name : String
  type : String
  baseURL : String
  apiKey : String
  models : List String
  deriving DecidableEq

structure Config where
  strategy : String
  providers : List ProviderConfig
  deriving DecidableEq

def resolveStrategy (lower : Char → Char) (strategy : String) : LoadBalancerStrategy :=
  if toLower lower (trimSpace strategy) = "round_robin" then .roundRobin
  else if toLower lower (trimSpace strategy) = "weighted" then .weighted
  else if toLower lower (trimSpace strategy) = "availability" then .availability
  else .latency

/-- "at least one provider must be configured", "provider name is required" and
"unsupported provider type", with the type quoted. -/
inductive BuildError
  | noProvider
  | nameRequired
  | unsupportedType (type : String)
  deriving DecidableEq

def buildProvider (lower : Char → Char) (cfg : ProviderConfig) : Except BuildError OpenAIAdapter :=
  if trimSpace cfg.name = "" then .error .nameRequired
  else if toLower lower (trimSpace cfg.type) = "" ∨ toLower lower (trimSpace cfg.type) = "openai" then
    let baseURL := trimSpace cfg.baseURL
    .ok ⟨if baseURL = "" then "https://api.openai.com" else baseURL, cfg.apiKey, cfg.models⟩
  else .error (.unsupportedType cfg.type)

/-- The loop of `buildRouter`: a provider is registered under its name as it is configured. -/
def registerAll (lower : Char → Char) (now : Time) :
    List ProviderConfig → Router → Except BuildError Router
  | [], r => .ok r
  | cfg :: rest, r =>
    match buildProvider lower cfg with
    | .error err => .error err
    | .ok provider => registerAll lower now rest (r.registerProvider cfg.name provider now)

def buildRouter (lower : Char → Char) (cfg : Config) (now : Time) : Except BuildError Router :=
  if cfg.providers = [] then .error .noProvider
  else registerAll lower now cfg.providers (.newRouter (resolveStrategy lower cfg.strategy))

structure ChatCompletionRequest where
  model : String
  messages : List Message
  temperature : ℚ
  maxTokens : Int
  topP : ℚ
  stream : Bool
  stop : List String
  deriving DecidableEq

structure CompletionRequest where
  model : String
  prompt : String
  maxTokens : Int
  temperature : ℚ
  topP : ℚ
  stream : Bool
  stop : List String
  deriving DecidableEq

/-- What the JSON decoder makes of the limited body; `remaining` is what the limit has left by then. -/
inductive Decoded (ρ : Type)
  | ok (req : ρ)
  | error (err : String) (remaining : Int)
  deriving DecidableEq

structure HttpRequest (ρ : Type) where
  xRequestID : String
  body : Decoded ρ
  deriving DecidableEq

/-- A choice of `model.ChatCompletionResponse`. -/
structure ChatChoice where
  index : Int
  role : String
  content : String
  finishReason : String
  deriving DecidableEq

/-- `model.Choice1`. -/
structure TextChoice where
  text : String
  index : Int
  finishReason : String
  deriving DecidableEq

/-- `model.ChatCompletionResponse` and `model.CompletionResponse`, which differ in their choices. -/
structure ApiResponse (κ : Type) where
  id : String
  object : String
  created : Int
  model : String
  choices : List κ
  usage : Usage
  deriving DecidableEq

inductive Response
  | jsonError (httpStatus : Int) (requestID message type code : String)
  | chat (requestID : String) (body : ApiResponse ChatChoice)
  | completion (requestID : String) (body : ApiResponse TextChoice)
  | eventStream (requestID : String) (chunks : List StreamChunk)
  deriving DecidableEq

/-- What a handler does, in order: calls of a provider, with the name it is registered under, calls of
`RecordResult`, responses, and the panic that ends it. -/
inductive Event
  | called (registered : String) (request : ProviderRequest)
  | recorded (providerName : String) (success : Bool) (latencyMs : Int)
  | responded (response : Response)
  | panicked
  deriving DecidableEq

/-- What a handler meets besides its request: the id `generateRequestID` makes, the order in which the
providers are ranged over, the random number, the exchange with the provider, the time it takes, and
whether the writer is an `http.Flusher`. -/
structure Surroundings where
  generatedID : String
  order : List String
  random : ℚ
  exchange : Exchange
  elapsedMs : Int
  now : Time
  flusher : Bool
  deriving DecidableEq

def requestIDOf {ρ : Type} (request : HttpRequest ρ) (env : Surroundings) : String :=
  if request.xRequestID = "" then env.generatedID else request.xRequestID

def writeError (e : GatewayError) : Event :=
  .responded (.jsonError e.code.httpStatus e.requestID e.message "gateway_error" e.code.text)

/-- `h.writeError(w, r, err.(*gwerror.GatewayError).WithRequestID(requestID))`. -/
def writeAsserted (err : GoError) (requestID : String) : Event :=
  match err.asGatewayError with
  | none => .panicked
  | some e => writeError (e.withRequestID requestID)

def writeDecodeError (err : String) (remaining : Int) (invalid requestID : String) : Event :=
  if err = "http: request body too large" ∨ remaining ≤ 0 then
    writeError ((newGatewayError .commonRequestTooLarge
      "request body exceeds maximum size limit").withRequestID requestID)
  else writeError ((newGatewayError .commonInvalidRequest invalid).withRequestID requestID)

def handleStream (json : Json) (env : Surroundings) (registered : String) (provider : OpenAIAdapter)
    (model : String) (messages : List Message) (options : CompletionOptions) (requestID : String) :
    List Event :=
  .called registered (provider.streamRequest model messages options) ::
    match OpenAIAdapter.chatCompletionStream json env.exchange with
    | .error err => [writeAsserted err requestID]
    | .ok chunks =>
      if env.flusher then [.responded (.eventStream requestID chunks)]
      else [writeError ((newGatewayError .commonInternalError
        "streaming not supported").withRequestID requestID)]

/-- A nil message makes the conversion panic. -/
def convertChat (response : CompletionResponse) : Option (ApiResponse ChatChoice) :=
  (response.choices.mapM (fun c : Choice => c.message.map
    (fun m => (⟨c.index, m.role, m.content, c.finishReason⟩ : ChatChoice)))).map (fun choices =>
      ⟨response.id, "chat.completion", response.created, response.model, choices, response.usage⟩)

def convertText (response : CompletionResponse) : Option (ApiResponse TextChoice) :=
  (response.choices.zipIdx.mapM (fun c : Choice × Nat => c.1.message.map
    (fun m => (⟨m.content, c.2, c.1.finishReason⟩ : TextChoice)))).map (fun choices =>
      ⟨response.id, "text_completion", response.created, response.model, choices, response.usage⟩)

def chatCompletionsHandle (json : Json) (r : Router) (request : HttpRequest ChatCompletionRequest)
    (env : Surroundings) : Router × List Event :=
  let requestID := requestIDOf request env
  match request.body with
  | .error err remaining => (r, [writeDecodeError err remaining ("invalid request body: " ++ err) requestID])
  | .ok req =>
    if req.messages = [] then
      (r, [writeError ((newGatewayError .commonInvalidRequest
        "messages is required").withRequestID requestID)])
    else
      match r.selectProvider env.order env.random req.model with
      | (r, .error err) => (r, [writeAsserted (.gateway err) requestID])
      | (r, .ok name) =>
        match r.providers.lookup name with
        | none => (r, [.panicked])
        | some provider =>
          let options : CompletionOptions :=
            ⟨req.temperature, req.maxTokens, req.topP, req.stream, req.stop⟩
          if req.stream then
            (r, handleStream json env name provider req.model req.messages options requestID)
          else
            let called := Event.called name (provider.chatRequest req.model req.messages options)
            match OpenAIAdapter.chatCompletion json env.exchange with
            | .error err =>
              (r.recordResult provider.providerName false env.elapsedMs env.now,
                [called, .recorded provider.providerName false env.elapsedMs, writeAsserted err requestID])
            | .ok response =>
              (r.recordResult provider.providerName true env.elapsedMs env.now,
                [called, .recorded provider.providerName true env.elapsedMs,
                  match convertChat response with
                  | none => .panicked
                  | some body => .responded (.chat requestID body)])

/-- It records no result. -/
def completionsHandle (json : Json) (r : Router) (request : HttpRequest CompletionRequest)
    (env : Surroundings) : Router × List Event :=
  let requestID := requestIDOf request env
  match request.body with
  | .error err remaining => (r, [writeDecodeError err remaining "invalid request body" requestID])
  | .ok req =>
    let messages : List Message := [⟨"user", req.prompt, ""⟩]
    match r.selectProvider env.order env.random req.model with
    | (r, .error err) => (r, [writeAsserted (.gateway err) requestID])
    | (r, .ok name) =>
      match r.providers.lookup name with
      | none => (r, [.panicked])
      | some provider =>
        let options : CompletionOptions :=
          ⟨req.temperature, req.maxTokens, req.topP, req.stream, req.stop⟩
        if req.stream then
          (r, handleStream json env name provider req.model messages options requestID)
        else
          let called := Event.called name (provider.chatRequest req.model messages options)
          match OpenAIAdapter.chatCompletion json env.exchange with
          | .error err => (r, [called, writeAsserted err requestID])
          | .ok response =>
            (r, [called,
              match convertText response with
              | none => .panicked
              | some body => .responded (.completion requestID body)])

/-- A request to one of the two endpoints. -/
inductive Request
  | chat (request : HttpRequest ChatCompletionRequest)
  | completion (request : HttpRequest CompletionRequest)
  deriving DecidableEq

def handle (json : Json) (r : Router) (request : Request) (env : Surroundings) : Router × List Event :=
  match request with
  | .chat request => chatCompletionsHandle json r request env
  | .completion request => completionsHandle json r request env

end SupplyPlatform.Gateway
