import SupplyPlatform.GatewayHandler

namespace SupplyPlatform.Gateway

open OpenAIAdapter Transition

/-- Whether a decoded request asks for a stream. -/
def Request.stream : Request → Bool
  | .chat ⟨_, .ok req⟩ => req.stream
  | .completion ⟨_, .ok req⟩ => req.stream
  | _ => false

/-- A chat completion, as against a completion. -/
def Request.isChat : Request → Bool
  | .chat _ => true
  | .completion _ => false

/-- The provider that a request is routed to, by the name it is registered under. -/
def routed (r : Router) (request : Request) (env : Surroundings) : Option String :=
  match request with
  | .chat ⟨_, .ok req⟩ =>
    if req.messages = [] then none else (r.selectProvider env.order env.random req.model).2.toOption
  | .completion ⟨_, .ok req⟩ => (r.selectProvider env.order env.random req.model).2.toOption
  | _ => none

/-- How a handler ends after the call: with a response when the call succeeds, and otherwise in the
type assertion. -/
def Ends (success : Prop) (last : Event) : Prop :=
  (success ∧ ∃ response, last = .responded response) ∨ (¬success ∧ last = .panicked)

/-- What a handler does with a request. -/
inductive Handled (json : Json) (r : Router) (request : Request) (env : Surroundings) :
    Router × List Event → Prop
  | unrouted {t : Router} {response : Response} (hnone : routed r request env = none)
      (hproviders : t.providers = r.providers) (hhealth : t.health = r.health) :
      Handled json r request env (t, [.responded response])
  | unrecorded {t : Router} {name : String} {health : ProviderHealth} {sent : ProviderRequest}
      {last : Event} (hsome : routed r request env = some name)
      (hentry : r.health.lookup name = some health)
      (hpath : request.isChat = false ∨ request.stream = true)
      (hproviders : t.providers = r.providers) (hhealth : t.health = r.health)
      (hends : Ends (Succeeds json request.stream env.exchange) last) :
      Handled json r request env (t, [.called name sent, last])
  | recorded {t : Router} {name : String} {health : ProviderHealth} {sent : ProviderRequest}
      {success : Bool} {last : Event} (hsome : routed r request env = some name)
      (hentry : r.health.lookup name = some health)
      (hpath : request.isChat = true ∧ request.stream = false)
      (hproviders : t.providers = r.providers)
      (hhealth : t.health = (r.recordResult "openai" success env.elapsedMs env.now).health)
      (hends : Ends (Succeeds json request.stream env.exchange) last) :
      Handled json r request env
        (t, [.called name sent, .recorded "openai" success env.elapsedMs, last])

theorem writeDecodeError_eq (err : String) (remaining : Int) (invalid requestID : String) :
    ∃ response, writeDecodeError err remaining invalid requestID = .responded response := by
  unfold writeDecodeError
  split
  · exact ⟨_, rfl⟩
  · exact ⟨_, rfl⟩

theorem writeAsserted_of_none {err : GoError} (h : err.asGatewayError = none) (requestID : String) :
    writeAsserted err requestID = .panicked := by
  simp only [writeAsserted, h]

theorem handleStream_ends (json : Json) (env : Surroundings) (name : String) (provider : OpenAIAdapter)
    (model : String) (messages : List Message) (options : CompletionOptions) (requestID : String) :
    ∃ sent last, handleStream json env name provider model messages options requestID =
      [.called name sent, last] ∧ Ends (Succeeds json true env.exchange) last := by
  unfold handleStream
  rcases chatCompletionStream_cases json env.exchange with ⟨hno, err, herr, hass⟩ | ⟨hyes, chunks, hok⟩
  · rw [herr]
    exact ⟨_, _, rfl, .inr ⟨hno, writeAsserted_of_none hass requestID⟩⟩
  · rw [hok]
    dsimp only
    split
    · exact ⟨_, _, rfl, .inl ⟨hyes, _, rfl⟩⟩
    · exact ⟨_, _, rfl, .inl ⟨hyes, _, rfl⟩⟩

theorem exists_mapM {α β : Type} {f : α → Option β} {xs : List α} (h : ∀ x ∈ xs, ∃ y, f x = some y) :
    ∃ ys, xs.mapM f = some ys := by
  induction xs with
  | nil => exact ⟨[], rfl⟩
  | cons x xs ih =>
    obtain ⟨y, hy⟩ := h x List.mem_cons_self
    obtain ⟨ys, hys⟩ := ih (fun z hz => h z (List.mem_cons_of_mem _ hz))
    exact ⟨y :: ys, by simp [List.mapM_cons, hy, hys]⟩

/-- The adapter gives every choice a message. -/
theorem message_of_mem {result : RawCompletion} {c : Choice} (h : c ∈ (convertResponse result).choices) :
    ∃ m, c.message = some m := by
  obtain ⟨raw, _, rfl⟩ := List.mem_map.mp h
  exact ⟨_, rfl⟩

theorem convertChat_convertResponse (result : RawCompletion) :
    ∃ body, convertChat (convertResponse result) = some body := by
  have hall : ∃ choices, (convertResponse result).choices.mapM (fun c : Choice => c.message.map
      (fun m => (⟨c.index, m.role, m.content, c.finishReason⟩ : ChatChoice))) = some choices := by
    refine exists_mapM (fun c hc => ?_)
    obtain ⟨m, hm⟩ := message_of_mem hc
    exact ⟨_, by rw [hm]; rfl⟩
  obtain ⟨choices, hchoices⟩ := hall
  exact ⟨_, by unfold convertChat; rw [hchoices]; rfl⟩

theorem convertText_convertResponse (result : RawCompletion) :
    ∃ body, convertText (convertResponse result) = some body := by
  have hall : ∃ choices, (convertResponse result).choices.zipIdx.mapM
      (fun c : Choice × Nat => c.1.message.map
        (fun m => (⟨m.content, c.2, c.1.finishReason⟩ : TextChoice))) = some choices := by
    refine exists_mapM (fun c hc => ?_)
    obtain ⟨m, hm⟩ := message_of_mem (List.fst_mem_of_mem_zipIdx hc)
    exact ⟨_, by rw [hm]; rfl⟩
  obtain ⟨choices, hchoices⟩ := hall
  exact ⟨_, by unfold convertText; rw [hchoices]; rfl⟩

/-- A conversion that no answer of the adapter makes panic leaves two ends. -/
theorem chatCompletion_ends (json : Json) (net : Exchange) (requestID : String) {κ : Type}
    {convert : CompletionResponse → Option κ} (answer : κ → Response)
    (hconvert : ∀ result, ∃ body, convert (convertResponse result) = some body) :
    (∃ err, OpenAIAdapter.chatCompletion json net = .error err ∧
      Ends (Succeeds json false net) (writeAsserted err requestID)) ∨
    ∃ response body, OpenAIAdapter.chatCompletion json net = .ok response ∧ convert response = some body ∧
      Ends (Succeeds json false net) (.responded (answer body)) := by
  rcases chatCompletion_cases json net with ⟨hno, err, herr, hass⟩ | ⟨hyes, result, hok⟩
  · exact .inl ⟨err, herr, .inr ⟨hno, writeAsserted_of_none hass requestID⟩⟩
  · obtain ⟨body, hbody⟩ := hconvert result
    exact .inr ⟨_, body, hok, hbody, .inl ⟨hyes, _, rfl⟩⟩

/-- What a selection gives the handler. -/
theorem selectProvider_cases (r : Router) (order : List String) (random : ℚ) (model : String) :
    ∃ t, t.providers = r.providers ∧ t.health = r.health ∧
      ((∃ err, r.selectProvider order random model = (t, .error err)) ∨
        ∃ name provider health, r.selectProvider order random model = (t, .ok name) ∧
          r.providers.lookup name = some provider ∧ r.health.lookup name = some health) := by
  obtain ⟨hproviders, hhealth⟩ := r.selectProvider_router order random model
  refine ⟨_, hproviders, hhealth, ?_⟩
  cases hsel : (r.selectProvider order random model).2 with
  | error err => exact .inl ⟨err, by rw [← hsel]⟩
  | ok name =>
    obtain ⟨⟨provider, hp⟩, health, hh⟩ :=
      Router.exists_of_available (Router.selectProvider_available hsel)
    exact .inr ⟨name, provider, health, by rw [← hsel], hp, hh⟩

theorem recordResult_health_congr {r t : Router} (h : t.health = r.health) (name : String)
    (success : Bool) (latencyMs : Int) (now : Time) :
    (t.recordResult name success latencyMs now).health =
      (r.recordResult name success latencyMs now).health := by
  unfold Router.recordResult
  rw [h]
  split
  · exact h
  · rfl

theorem chatCompletionsHandle_handled (json : Json) (r : Router)
    (request : HttpRequest ChatCompletionRequest) (env : Surroundings) :
    Handled json r (.chat request) env (chatCompletionsHandle json r request env) := by
  obtain ⟨xRequestID, body⟩ := request
  cases body with
  | error err remaining =>
    obtain ⟨response, hw⟩ := writeDecodeError_eq err remaining ("invalid request body: " ++ err)
      (requestIDOf ⟨xRequestID, (.error err remaining : Decoded ChatCompletionRequest)⟩ env)
    simp only [chatCompletionsHandle, hw]
    exact .unrouted rfl rfl rfl
  | ok req =>
    simp only [chatCompletionsHandle]
    split
    next hm => exact .unrouted (by simp [routed, hm]) rfl rfl
    next hm =>
      obtain ⟨t, hproviders, hhealth, ⟨err, hsel⟩ | ⟨name, provider, health, hsel, hp, hh⟩⟩ :=
        selectProvider_cases r env.order env.random req.model
      · rw [hsel]
        exact .unrouted (by simp [routed, hm, hsel, Except.toOption]) hproviders hhealth
      · rw [hsel]
        simp only [hproviders, hp]
        have hsome : routed r (.chat ⟨xRequestID, .ok req⟩) env = some name := by
          simp [routed, hm, hsel, Except.toOption]
        cases hs : req.stream with
        | true =>
          obtain ⟨sent, last, hev, hends⟩ := handleStream_ends json env name provider req.model
            req.messages ⟨req.temperature, req.maxTokens, req.topP, true, req.stop⟩
            (requestIDOf ⟨xRequestID, .ok req⟩ env)
          simp only [if_true, hev]
          refine .unrecorded hsome hh (.inr hs) hproviders hhealth ?_
          simpa only [Request.stream, hs] using hends
        | false =>
          simp only [Bool.false_eq_true, if_false]
          rcases chatCompletion_ends json env.exchange (requestIDOf ⟨xRequestID, .ok req⟩ env)
            (Response.chat (requestIDOf ⟨xRequestID, .ok req⟩ env)) convertChat_convertResponse with
            ⟨err, herr, hends⟩ | ⟨response, body, hok, hbody, hends⟩
          · rw [herr]
            refine .recorded hsome hh ⟨rfl, hs⟩ (by simpa using hproviders)
              (recordResult_health_congr hhealth _ _ _ _) ?_
            simpa only [Request.stream, hs] using hends
          · rw [hok]
            simp only [hbody]
            refine .recorded hsome hh ⟨rfl, hs⟩ (by simpa using hproviders)
              (recordResult_health_congr hhealth _ _ _ _) ?_
            simpa only [Request.stream, hs] using hends

theorem completionsHandle_handled (json : Json) (r : Router)
    (request : HttpRequest CompletionRequest) (env : Surroundings) :
    Handled json r (.completion request) env (completionsHandle json r request env) := by
  obtain ⟨xRequestID, body⟩ := request
  cases body with
  | error err remaining =>
    obtain ⟨response, hw⟩ := writeDecodeError_eq err remaining "invalid request body"
      (requestIDOf ⟨xRequestID, (.error err remaining : Decoded CompletionRequest)⟩ env)
    simp only [completionsHandle, hw]
    exact .unrouted rfl rfl rfl
  | ok req =>
    simp only [completionsHandle]
    obtain ⟨t, hproviders, hhealth, ⟨err, hsel⟩ | ⟨name, provider, health, hsel, hp, hh⟩⟩ :=
      selectProvider_cases r env.order env.random req.model
    · rw [hsel]
      exact .unrouted (by simp [routed, hsel, Except.toOption]) hproviders hhealth
    · rw [hsel]
      simp only [hproviders, hp]
      have hsome : routed r (.completion ⟨xRequestID, .ok req⟩) env = some name := by
        simp [routed, hsel, Except.toOption]
      cases hs : req.stream with
      | true =>
        obtain ⟨sent, last, hev, hends⟩ := handleStream_ends json env name provider req.model
          [⟨"user", req.prompt, ""⟩] ⟨req.temperature, req.maxTokens, req.topP, true, req.stop⟩
          (requestIDOf ⟨xRequestID, .ok req⟩ env)
        simp only [if_true, hev]
        refine .unrecorded hsome hh (.inl rfl) hproviders hhealth ?_
        simpa only [Request.stream, hs] using hends
      | false =>
        simp only [Bool.false_eq_true, if_false]
        rcases chatCompletion_ends json env.exchange (requestIDOf ⟨xRequestID, .ok req⟩ env)
          (Response.completion (requestIDOf ⟨xRequestID, .ok req⟩ env)) convertText_convertResponse with
          ⟨err, herr, hends⟩ | ⟨response, body, hok, hbody, hends⟩
        · rw [herr]
          refine .unrecorded hsome hh (.inl rfl) hproviders hhealth ?_
          simpa only [Request.stream, hs] using hends
        · rw [hok]
          simp only [hbody]
          refine .unrecorded hsome hh (.inl rfl) hproviders hhealth ?_
          simpa only [Request.stream, hs] using hends

/-- All that the handlers do, over every router, request and surroundings. -/
theorem handle_handled (json : Json) (r : Router) (request : Request) (env : Surroundings) :
    Handled json r request env (handle json r request env) := by
  cases request with
  | chat request => exact chatCompletionsHandle_handled json r request env
  | completion request => exact completionsHandle_handled json r request env

def Event.isResponse : Event → Bool
  | .responded _ => true
  | _ => false

def Event.isRecord : Event → Bool
  | .recorded _ _ _ => true
  | _ => false

/-- The handler finishes with one response. -/
def Answered (events : List Event) : Prop :=
  events.countP Event.isResponse = 1 ∧ Event.panicked ∉ events

/-- A handler finishes with exactly one response and does not panic exactly when the request is routed to
no provider, or the provider's call returns no error. -/
theorem handlers_answer_iff (json : Json) (r : Router) (request : Request) (env : Surroundings) :
    Answered (handle json r request env).2 ↔
      (∀ name, routed r request env = some name → Succeeds json request.stream env.exchange) := by
  have hhandled := handle_handled json r request env
  generalize handle json r request env = done at hhandled
  cases hhandled with
  | unrouted hnone _ _ =>
    refine ⟨fun _ name hname => ?_, fun _ => ⟨rfl, by simp⟩⟩
    rw [hnone] at hname
    cases hname
  | unrecorded hsome _ _ _ _ hends =>
    rcases hends with ⟨hyes, response, rfl⟩ | ⟨hno, rfl⟩
    · exact ⟨fun _ _ _ => hyes, fun _ => ⟨rfl, by simp⟩⟩
    · exact ⟨fun h => absurd (by simp) h.2, fun h => absurd (h _ hsome) hno⟩
  | recorded hsome _ _ _ _ hends =>
    rcases hends with ⟨hyes, response, rfl⟩ | ⟨hno, rfl⟩
    · exact ⟨fun _ _ _ => hyes, fun _ => ⟨rfl, by simp⟩⟩
    · exact ⟨fun h => absurd (by simp) h.2, fun h => absurd (h _ hsome) hno⟩

/-- Nothing is decoded. -/
def sampleJson : Json := ⟨fun _ => none, fun _ => .error "unexpected end of JSON input", fun _ => none⟩

def sampleChat : HttpRequest ChatCompletionRequest :=
  ⟨"req-1", .ok ⟨"gpt-4", [⟨"user", "hello", ""⟩], 0, 0, 0, false, []⟩⟩

/-- The provider that is registered as `name` cannot be reached. -/
def sampleDown (name : String) : Surroundings :=
  ⟨"chatcmpl-1", [name], 0, .transportError "connection refused", 30, 0, true⟩

/-- When the provider cannot be reached, the type assertion panics and nothing is answered. -/
theorem unreachable_provider_panics :
    Event.panicked ∈ (handle sampleJson Router.sampleRouter (.chat sampleChat) (sampleDown "openai")).2 ∧
      (handle sampleJson Router.sampleRouter (.chat sampleChat) (sampleDown "openai")).2.countP
        Event.isResponse = 0 ∧
      ¬Answered (handle sampleJson Router.sampleRouter (.chat sampleChat) (sampleDown "openai")).2 := by
  have hp : Event.panicked ∈
      (handle sampleJson Router.sampleRouter (.chat sampleChat) (sampleDown "openai")).2 := by
    decide
  exact ⟨hp, by decide, fun h => h.2 hp⟩

/-- Every call of a provider is followed by one `RecordResult`, which updates the entry that the provider
is registered under; no other entry changes. -/
structure Accounted (before : Router) (events : List Event) (after : Router) : Prop where
  recorded : ∀ pre name sent post, events = pre ++ .called name sent :: post →
    ∃ success latencyMs health now,
      post.filter Event.isRecord = [.recorded name success latencyMs] ∧
      before.health.lookup name = some health ∧
      after.health.lookup name = some (health.record success latencyMs now)
  others : ∀ name, (∀ sent, Event.called name sent ∉ events) →
    after.health.lookup name = before.health.lookup name

/-- The request is routed to no provider, or it is a chat completion without streaming that is routed to
the provider registered as "openai". -/
def Recordable (r : Router) (request : Request) (env : Surroundings) : Prop :=
  ∀ name, routed r request env = some name →
    name = "openai" ∧ request.isChat = true ∧ request.stream = false

theorem accounted_iff_recordable (json : Json) (r : Router) (request : Request) (env : Surroundings) :
    Accounted r (handle json r request env).2 (handle json r request env).1 ↔
      Recordable r request env := by
  have hhandled := handle_handled json r request env
  generalize handle json r request env = done at hhandled
  cases hhandled with
  | unrouted hnone _ hhealth =>
    refine ⟨fun _ name hname => ?_, fun _ => ⟨fun pre name sent post he => ?_, fun name _ => ?_⟩⟩
    · rw [hnone] at hname
      cases hname
    · have hmem : Event.called name sent ∈ pre ++ .called name sent :: post := by simp
      rw [← he] at hmem
      simp at hmem
    · rw [hhealth]
  | @unrecorded t name health sent last hsome _ hpath _ _ hends =>
    refine ⟨fun h => ?_, fun h => ?_⟩
    · obtain ⟨success, latencyMs, _, _, hrec, -⟩ := h.recorded [] name sent [last] rfl
      rcases hends with ⟨_, response, rfl⟩ | ⟨_, rfl⟩
      · cases hrec
      · cases hrec
    · obtain ⟨_, hchat, hstream⟩ := h name hsome
      rcases hpath with hp | hp
      · rw [hp] at hchat
        cases hchat
      · rw [hp] at hstream
        cases hstream
  | @recorded t name health sent success last hsome hentry hpath _ hhealth hends =>
    have hlast : last.isRecord = false ∧ ∀ n s, last ≠ .called n s := by
      rcases hends with ⟨_, response, rfl⟩ | ⟨_, rfl⟩
      · exact ⟨rfl, nofun⟩
      · exact ⟨rfl, nofun⟩
    refine ⟨fun h n hn => ?_, fun h => ?_⟩
    · obtain ⟨success', latencyMs, _, _, hrec, -⟩ :=
        h.recorded [] name sent [.recorded "openai" success env.elapsedMs, last] rfl
      cases Option.some.inj (hsome.symm.trans hn)
      simp only [List.filter_cons, hlast.1] at hrec
      cases hrec
      exact ⟨rfl, hpath⟩
    · obtain ⟨rfl, -⟩ := h name hsome
      refine ⟨fun pre n s post he => ?_, fun n hn => ?_⟩
      · cases pre with
        | nil =>
          obtain ⟨hcalled, rfl⟩ := List.cons.inj he
          cases hcalled
          refine ⟨success, env.elapsedMs, health, env.now, ?_, hentry, ?_⟩
          · rw [List.filter_cons_of_pos rfl, List.filter_cons_of_neg (by simp [hlast.1])]
            rfl
          · rw [hhealth]
            exact Router.recordResult_self hentry _ _ _
        | cons e pre =>
          have htail : [Event.recorded "openai" success env.elapsedMs, last] =
              pre ++ .called n s :: post := (List.cons.inj he).2
          have hmem : Event.called n s ∈ pre ++ .called n s :: post := by simp
          rw [← htail] at hmem
          simp only [List.mem_cons, reduceCtorEq, List.not_mem_nil, or_false, false_or] at hmem
          exact absurd hmem.symm (hlast.2 n s)
      · have hne : "openai" ≠ n := by
          rintro rfl
          exact hn sent List.mem_cons_self
        rw [hhealth]
        exact Router.recordResult_of_ne hne _ _ _

/-- A request with its surroundings, as the handlers meet it. -/
structure Arrival where
  request : Request
  env : Surroundings
  deriving DecidableEq

/-- The providers are ranged over in some order, each once. -/
def serveStep (json : Json) (r : Router) (a : Arrival) : Option Router :=
  if a.env.order.Nodup ∧ a.env.order.toFinset = r.providers.keys then
    some (handle json r a.request a.env).1
  else none

/-- The router's providers are those of the configuration, each under its configured name. -/
def Configured (lower : Char → Char) (cfg : Config) (r : Router) : Prop :=
  ∀ name provider, r.providers.lookup name = some provider →
    ∃ p ∈ cfg.providers, p.name = name ∧ buildProvider lower p = .ok provider

theorem handle_providers (json : Json) (r : Router) (request : Request) (env : Surroundings) :
    (handle json r request env).1.providers = r.providers := by
  have hhandled := handle_handled json r request env
  generalize handle json r request env = done at hhandled
  cases hhandled with
  | unrouted _ hproviders _ => exact hproviders
  | unrecorded _ _ _ hproviders _ _ => exact hproviders
  | recorded _ _ _ hproviders _ _ => exact hproviders

theorem Configured.step {lower : Char → Char} {cfg : Config} {json : Json} {r t : Router} {a : Arrival}
    (h : Configured lower cfg r) (hs : serveStep json r a = some t) : Configured lower cfg t := by
  unfold serveStep at hs
  split at hs
  next =>
    cases hs
    unfold Configured
    rw [handle_providers]
    exact h
  next => cases hs

theorem Configured.registerAll {lower : Char → Char} {cfg : Config} {now : Time} {r t : Router}
    {todo : List ProviderConfig} (hsub : ∀ p ∈ todo, p ∈ cfg.providers) (h : Configured lower cfg r)
    (hall : Gateway.registerAll lower now todo r = .ok t) : Configured lower cfg t := by
  induction todo generalizing r with
  | nil => cases hall; exact h
  | cons p rest ih =>
    simp only [Gateway.registerAll] at hall
    split at hall
    next => cases hall
    next provider hp =>
      refine ih (fun q hq => hsub q (List.mem_cons_of_mem _ hq)) (fun name found hf => ?_) hall
      rcases Maps.lookup_insert_cases hf with ⟨rfl, rfl⟩ | ⟨-, hf⟩
      · exact ⟨p, hsub p List.mem_cons_self, rfl, hp⟩
      · exact h name found hf

theorem Configured.build {lower : Char → Char} {cfg : Config} {now : Time} {r : Router}
    (h : buildRouter lower cfg now = .ok r) : Configured lower cfg r := by
  unfold buildRouter at h
  split at h
  next => cases h
  next =>
    refine Configured.registerAll (fun _ hp => hp) (fun name provider hf => ?_) h
    rw [Router.newRouter, Finmap.lookup_empty] at hf
    cases hf

/-- For every configuration and every sequence of requests, each call of a provider has its result filed
under the name that the provider is configured with exactly when each request meets `Recordable`. -/
theorem results_accounted_iff {lower : Char → Char} {cfg : Config} {now : Time} {r : Router}
    (hbuild : buildRouter lower cfg now = .ok r) (json : Json) (arrivals : List Arrival) :
    EachStep (serveStep json) (fun r a => Configured lower cfg r ∧
        Accounted r (handle json r a.request a.env).2 (handle json r a.request a.env).1) r arrivals ↔
      EachStep (serveStep json) (fun r a => Recordable r a.request a.env) r arrivals := by
  refine eachStep_congr (fun _ _ _ h hs => Configured.step h hs) (fun r a t h _ => ?_)
    (Configured.build hbuild) arrivals
  rw [accounted_iff_recordable]
  exact and_iff_right h

/-- Two providers, the first of them registered as "openai". -/
def sampleConfig : Config :=
  ⟨"latency", [⟨"openai", "openai", "", "key-1", ["gpt-4"]⟩, ⟨"backup", "", "", "key-2", ["gpt-3.5-turbo"]⟩]⟩

/-- A chat completion for the model, while no provider can be reached. -/
def sampleArrival (model : String) : Arrival :=
  ⟨.chat ⟨"req-1", .ok ⟨model, [⟨"user", "hello", ""⟩], 0, 0, 0, false, []⟩⟩,
    ⟨"chatcmpl-1", ["backup", "openai"], 0, .transportError "connection refused", 30, 0, true⟩⟩

theorem exists_sampleRouter {β : Type} {f : Router → β} {b : β}
    (h : (buildRouter Char.toLower sampleConfig 0).toOption.map f = some b) :
    ∃ r, buildRouter Char.toLower sampleConfig 0 = .ok r ∧ f r = b := by
  obtain ⟨r, hr, hf⟩ := Option.map_eq_some_iff.mp h
  cases hbuild : buildRouter Char.toLower sampleConfig 0 with
  | error err =>
    rw [hbuild] at hr
    cases hr
  | ok built =>
    rw [hbuild] at hr
    cases hr
    exact ⟨_, rfl, hf⟩

/-- A chat completion that goes to "openai" is accounted for. -/
theorem results_accounted_openai :
    ∃ r, buildRouter Char.toLower sampleConfig 0 = .ok r ∧
      (serveStep sampleJson r (sampleArrival "gpt-4")).isSome = true ∧
      EachStep (serveStep sampleJson) (fun r a => Configured Char.toLower sampleConfig r ∧
        Accounted r (handle sampleJson r a.request a.env).2 (handle sampleJson r a.request a.env).1)
        r [sampleArrival "gpt-4"] := by
  obtain ⟨r, hbuild, hr⟩ := exists_sampleRouter (b := (true, some "openai"))
    (f := fun r => ((serveStep sampleJson r (sampleArrival "gpt-4")).isSome,
      routed r (sampleArrival "gpt-4").request (sampleArrival "gpt-4").env)) (by decide)
  obtain ⟨hstep, hrouted⟩ := Prod.mk.inj hr
  refine ⟨r, hbuild, hstep, (results_accounted_iff hbuild sampleJson _).mpr (fun t _ => ⟨?_, trivial⟩)⟩
  intro name hname
  cases Option.some.inj (hrouted.symm.trans hname)
  exact ⟨rfl, rfl, rfl⟩

/-- One that goes to "backup" is counted as a failure of "openai", and not of "backup". -/
theorem misfiled_result :
    ∃ r t, buildRouter Char.toLower sampleConfig 0 = .ok r ∧
      serveStep sampleJson r (sampleArrival "gpt-3.5-turbo") = some t ∧
      (t.health.lookup "openai").map ProviderHealth.failureRate = some (1 / 10) ∧
      t.health.lookup "backup" = r.health.lookup "backup" ∧
      ¬Accounted r (handle sampleJson r (sampleArrival "gpt-3.5-turbo").request
        (sampleArrival "gpt-3.5-turbo").env).2 t := by
  obtain ⟨r, hbuild, hr⟩ := exists_sampleRouter (b := (some (some (1 / 10), true), some "backup"))
    (f := fun r => ((serveStep sampleJson r (sampleArrival "gpt-3.5-turbo")).map (fun t =>
        ((t.health.lookup "openai").map ProviderHealth.failureRate,
          decide (t.health.lookup "backup" = r.health.lookup "backup"))),
      routed r (sampleArrival "gpt-3.5-turbo").request (sampleArrival "gpt-3.5-turbo").env))
    (by decide +kernel)
  obtain ⟨hstep, hrouted⟩ := Prod.mk.inj hr
  obtain ⟨t, ht, hend⟩ := Option.map_eq_some_iff.mp hstep
  obtain ⟨hopenai, hbackup⟩ := Prod.mk.inj hend
  refine ⟨r, t, hbuild, ht, hopenai, of_decide_eq_true hbackup, fun hacc => ?_⟩
  have hserved : t = (handle sampleJson r (sampleArrival "gpt-3.5-turbo").request
      (sampleArrival "gpt-3.5-turbo").env).1 := by
    unfold serveStep at ht
    split at ht
    next => exact (Option.some.inj ht).symm
    next => cases ht
  rw [hserved, accounted_iff_recordable] at hacc
  exact absurd (hacc "backup" hrouted).1 (by decide)

end SupplyPlatform.Gateway
