import SupplyPlatform.GatewayAnswers
import SupplyPlatform.Lib.JsonDecoder

namespace SupplyPlatform.Gateway

open Readers JsonDecoder OpenAIAdapter

def maxRequestBytes : Nat := 1 * 1024 * 1024

/-- The reader of a request's body that stops at a limit, over what the server gives as the body. -/
structure MaxBytesReader (τ : Type) where
  reader : τ
  remaining : Int
  deriving DecidableEq

namespace MaxBytesReader

variable {τ : Type} (src : Source τ UInt8)

def read (m : MaxBytesReader τ) (k : Nat) : MaxBytesReader τ × List UInt8 × Bool :=
  if m.remaining ≤ 0 then (m, [], true)
  else
    let p := if (k : Int) > m.remaining then m.remaining.toNat else k
    let result := src.read m.reader p
    (⟨result.1, m.remaining - result.2.1.length⟩, result.2.1, result.2.2)

def yields (m : MaxBytesReader τ) : List UInt8 := (src.yields m.reader).take m.remaining.toNat

theorem read_cases (m : MaxBytesReader τ) (k : Nat) :
    (m.remaining ≤ 0 ∧ read src m k = (m, [], true)) ∨
    (0 < m.remaining ∧ ∃ p ≤ k, (p : Int) ≤ m.remaining ∧ (0 < k → 0 < p) ∧
      read src m k = (⟨(src.read m.reader p).1, m.remaining - (src.read m.reader p).2.1.length⟩,
        (src.read m.reader p).2.1, (src.read m.reader p).2.2)) := by
  unfold read
  split
  next h => exact .inl ⟨h, rfl⟩
  next h =>
    refine .inr ⟨by omega, _, ?_, ?_, ?_, rfl⟩
    · split
      · omega
      · exact Nat.le_refl k
    · split
      · omega
      · omega
    · intro hk
      split
      · omega
      · exact hk

theorem read_yields (m : MaxBytesReader τ) (k : Nat) :
    (read src m k).2.1 ++ yields src (read src m k).1 = yields src m := by
  rcases read_cases src m k with ⟨_, heq⟩ | ⟨hpos, p, _, hp, _, heq⟩
  · rw [heq]
    rfl
  · rw [heq]
    unfold yields
    dsimp only
    have happend := src.read_yields m.reader p
    have hlength := src.read_length m.reader p
    have hfits : (src.read m.reader p).2.1.length ≤ m.remaining.toNat := by omega
    have hrest : (m.remaining - (src.read m.reader p).2.1.length).toNat =
        m.remaining.toNat - (src.read m.reader p).2.1.length := by omega
    rw [← happend, List.take_append, List.take_of_length_le hfits, hrest]

theorem read_length (m : MaxBytesReader τ) (k : Nat) : (read src m k).2.1.length ≤ k := by
  rcases read_cases src m k with ⟨_, heq⟩ | ⟨_, p, hpk, _, _, heq⟩
  · rw [heq]
    exact Nat.zero_le k
  · rw [heq]
    exact (src.read_length m.reader p).trans hpk

theorem read_eof (m : MaxBytesReader τ) (k : Nat) (h : (read src m k).2.2 = true) :
    yields src (read src m k).1 = [] := by
  rcases read_cases src m k with ⟨hzero, heq⟩ | ⟨_, p, _, _, _, heq⟩
  · rw [heq]
    unfold yields
    rw [Int.toNat_of_nonpos hzero, List.take_zero]
  · rw [heq] at h ⊢
    unfold yields
    dsimp only at h ⊢
    rw [src.read_eof m.reader p h, List.take_nil]

theorem read_left (m : MaxBytesReader τ) (k : Nat) (hk : 0 < k) :
    (read src m k).2.2 = true ∨ src.left (read src m k).1.reader < src.left m.reader := by
  rcases read_cases src m k with ⟨_, heq⟩ | ⟨_, p, _, _, hp, heq⟩
  · rw [heq]
    exact .inl rfl
  · rw [heq]
    exact src.read_left m.reader p (hp hk)

def source : Source (MaxBytesReader τ) UInt8 where
  read := read src
  yields := yields src
  left m := src.left m.reader
  read_yields := read_yields src
  read_length := read_length src
  read_eof := read_eof src
  read_left := read_left src

/-- What the limit has left and what the body has left go down together. -/
theorem read_difference (m : MaxBytesReader τ) (k : Nat) :
    (read src m k).1.remaining - (src.yields (read src m k).1.reader).length =
      m.remaining - (src.yields m.reader).length := by
  rcases read_cases src m k with ⟨_, heq⟩ | ⟨_, p, _, _, _, heq⟩
  · rw [heq]
  · rw [heq]
    dsimp only
    have happend := congrArg List.length (src.read_yields m.reader p)
    rw [List.length_append] at happend
    omega

end MaxBytesReader

/-- A decoder of requests; neither its scanner nor what it makes of values has an error with the text of
`http.MaxBytesReader`. -/
structure RequestDecoder (σ ρ : Type) extends Decoder σ ρ where
  step_error : ∀ state c err, toDecoder.step state c = .failed err → err ≠ "http: request body too large"
  unmarshal_error : ∀ value err, toDecoder.unmarshal value = .error err →
    err ≠ "http: request body too large"

theorem RequestDecoder.other_error {σ ρ : Type} (d : RequestDecoder σ ρ) {text : List UInt8} {err : String}
    (h : d.decodeText text = .error err) : err ≠ "http: request body too large" := by
  rcases d.decodeText_error h with ⟨state, c, hstep⟩ | rfl | ⟨value, hvalue⟩
  · exact d.step_error state c err hstep
  · unfold eofError
    split
    · decide
    · decide
  · exact d.unmarshal_error value err hvalue

/-- What the handler gets to see of a decoding, with what the limit has left by then. -/
def decodedOf {ρ : Type} (remaining : Int) : Except String ρ → Decoded ρ
  | .ok req => .ok req
  | .error err => .error err remaining

/-- `json.NewDecoder(limitedBody).Decode(&req)`. -/
def decodeBody {σ ρ τ : Type} (d : Decoder σ ρ) (src : Source τ UInt8) (fuel : Nat) (body : τ) :
    Option (Decoded ρ) :=
  (d.decode (MaxBytesReader.source src) fuel ⟨body, maxRequestBytes⟩).map (fun result =>
    decodedOf result.1.remaining result.2)

/-- The answer COMMON_REQUEST_TOO_LARGE. -/
def Event.TooLarge : Event → Prop
  | .responded (.jsonError _ _ _ _ code) => code = ErrorCode.commonRequestTooLarge.text
  | _ => False

def AnswersTooLarge (events : List Event) : Prop := ∃ e ∈ events, e.TooLarge

@[simp] theorem Event.called_tooLarge {registered : String} {request : ProviderRequest} :
    (Event.called registered request).TooLarge ↔ False := Iff.rfl

@[simp] theorem Event.recorded_tooLarge {name : String} {success : Bool} {latencyMs : Int} :
    (Event.recorded name success latencyMs).TooLarge ↔ False := Iff.rfl

@[simp] theorem Event.panicked_tooLarge : Event.panicked.TooLarge ↔ False := Iff.rfl

@[simp] theorem Event.chat_tooLarge {requestID : String} {body : ApiResponse ChatChoice} :
    (Event.responded (.chat requestID body)).TooLarge ↔ False := Iff.rfl

@[simp] theorem Event.completion_tooLarge {requestID : String} {body : ApiResponse TextChoice} :
    (Event.responded (.completion requestID body)).TooLarge ↔ False := Iff.rfl

@[simp] theorem Event.eventStream_tooLarge {requestID : String} {chunks : List StreamChunk} :
    (Event.responded (.eventStream requestID chunks)).TooLarge ↔ False := Iff.rfl

@[simp] theorem answersTooLarge_nil : AnswersTooLarge [] ↔ False :=
  iff_of_false (fun ⟨_, he, _⟩ => nomatch he) id

@[simp] theorem answersTooLarge_cons {e : Event} {events : List Event} :
    AnswersTooLarge (e :: events) ↔ e.TooLarge ∨ AnswersTooLarge events := by
  unfold AnswersTooLarge
  simp only [List.mem_cons, exists_eq_or_imp]

theorem ErrorCode.text_tooLarge {code : ErrorCode} :
    code.text = ErrorCode.commonRequestTooLarge.text ↔ code = .commonRequestTooLarge := by
  refine ⟨fun h => ?_, fun h => by rw [h]⟩
  cases code
  case commonRequestTooLarge => rfl
  all_goals exact absurd h (by decide)

theorem writeError_tooLarge {e : GatewayError} :
    (writeError e).TooLarge ↔ e.code = .commonRequestTooLarge := ErrorCode.text_tooLarge

theorem writeDecodeError_tooLarge {err invalid requestID : String} {remaining : Int} :
    (writeDecodeError err remaining invalid requestID).TooLarge ↔
      err = "http: request body too large" ∨ remaining ≤ 0 := by
  unfold writeDecodeError
  split
  next h => exact iff_of_true (writeError_tooLarge.mpr rfl) h
  next h => exact iff_of_false (fun he => nomatch writeError_tooLarge.mp he) h

theorem writeAsserted_gateway_tooLarge {e : GatewayError} {requestID : String}
    (h : e.code = .routerNoProviderAvailable) :
    (writeAsserted (.gateway e) requestID).TooLarge ↔ False := by
  refine iff_false_intro (fun he => ?_)
  cases h.symm.trans (writeError_tooLarge.mp he)

namespace Router

variable {r : Router} {candidates : List String} {err : GatewayError}

theorem selectByLatency_code (h : r.selectByLatency candidates = .error err) :
    err.code = .routerNoProviderAvailable := by
  unfold selectByLatency at h
  split at h
  · cases h
    rfl
  · cases h

theorem selectByAvailability_code (h : r.selectByAvailability candidates = .error err) :
    err.code = .routerNoProviderAvailable := by
  unfold selectByAvailability at h
  split at h
  · cases h
    rfl
  · cases h

theorem selectByRoundRobin_code (h : (r.selectByRoundRobin candidates).2 = .error err) :
    err.code = .routerNoProviderAvailable := by
  unfold selectByRoundRobin at h
  split at h
  · cases h
    rfl
  · cases h

theorem selectByWeight_code {random : ℚ} (h : r.selectByWeight random candidates = .error err) :
    err.code = .routerNoProviderAvailable := by
  unfold selectByWeight at h
  dsimp only at h
  split at h
  · cases h
  · cases candidates with
    | nil =>
      cases h
      rfl
    | cons first rest => cases h

/-- A failed selection is answered with one code. -/
theorem selectProvider_code {order : List String} {random : ℚ} {model : String}
    (h : (r.selectProvider order random model).2 = .error err) :
    err.code = .routerNoProviderAvailable := by
  unfold selectProvider at h
  split at h
  next =>
    cases h
    rfl
  next =>
    split at h
    next => exact selectByLatency_code h
    next => exact selectByRoundRobin_code h
    next => exact selectByWeight_code h
    next => exact selectByAvailability_code h
    next => exact selectByLatency_code h

end Router

theorem handleStream_not_tooLarge (json : Json) (env : Surroundings) (name : String)
    (provider : OpenAIAdapter) (model : String) (messages : List Message) (options : CompletionOptions)
    (requestID : String) :
    ¬AnswersTooLarge (handleStream json env name provider model messages options requestID) := by
  unfold handleStream
  rcases chatCompletionStream_cases json env.exchange with ⟨_, err, herr, hass⟩ | ⟨_, chunks, hok⟩
  · rw [herr]
    simp [writeAsserted_of_none hass]
  · rw [hok]
    dsimp only
    split
    · simp
    · simp only [answersTooLarge_cons, Event.called_tooLarge, answersTooLarge_nil, writeError_tooLarge]
      rintro (h | h | h)
      · exact h
      · cases h
      · exact h

/-- How a handler comes to say that a request is too large: of a decode error, and of nothing else. -/
structure SaysTooLarge {ρ : Type} (handler : HttpRequest ρ → List Event) : Prop where
  of_error : ∀ xRequestID err remaining, AnswersTooLarge (handler ⟨xRequestID, .error err remaining⟩) ↔
    err = "http: request body too large" ∨ remaining ≤ 0
  of_ok : ∀ xRequestID req, ¬AnswersTooLarge (handler ⟨xRequestID, .ok req⟩)

theorem chatCompletionsHandle_saysTooLarge (json : Json) (r : Router) (env : Surroundings) :
    SaysTooLarge (fun request => (chatCompletionsHandle json r request env).2) where
  of_error xRequestID err remaining := by
    simp only [chatCompletionsHandle, answersTooLarge_cons, answersTooLarge_nil, or_false,
      writeDecodeError_tooLarge]
  of_ok xRequestID req := by
    simp only [chatCompletionsHandle]
    split
    next => simp [writeError_tooLarge, newGatewayError, GatewayError.withRequestID]
    next =>
      obtain ⟨t, hproviders, _, ⟨err, hsel⟩ | ⟨name, provider, _, hsel, hp, _⟩⟩ :=
        selectProvider_cases r env.order env.random req.model
      · rw [hsel]
        simp [writeAsserted_gateway_tooLarge (Router.selectProvider_code (congrArg Prod.snd hsel))]
      · rw [hsel]
        simp only [hproviders, hp]
        split
        next => exact handleStream_not_tooLarge json env name provider _ _ _ _
        next =>
          rcases chatCompletion_cases json env.exchange with ⟨_, err, herr, hass⟩ | ⟨_, result, hok⟩
          · rw [herr]
            simp [writeAsserted_of_none hass]
          · obtain ⟨body, hbody⟩ := convertChat_convertResponse result
            rw [hok]
            simp [hbody]

theorem completionsHandle_saysTooLarge (json : Json) (r : Router) (env : Surroundings) :
    SaysTooLarge (fun request => (completionsHandle json r request env).2) where
  of_error xRequestID err remaining := by
    simp only [completionsHandle, answersTooLarge_cons, answersTooLarge_nil, or_false,
      writeDecodeError_tooLarge]
  of_ok xRequestID req := by
    simp only [completionsHandle]
    obtain ⟨t, hproviders, _, ⟨err, hsel⟩ | ⟨name, provider, _, hsel, hp, _⟩⟩ :=
      selectProvider_cases r env.order env.random req.model
    · rw [hsel]
      simp [writeAsserted_gateway_tooLarge (Router.selectProvider_code (congrArg Prod.snd hsel))]
    · rw [hsel]
      simp only [hproviders, hp]
      split
      next => exact handleStream_not_tooLarge json env name provider _ _ _ _
      next =>
        rcases chatCompletion_cases json env.exchange with ⟨_, err, herr, hass⟩ | ⟨_, result, hok⟩
        · rw [herr]
          simp [writeAsserted_of_none hass]
        · obtain ⟨body, hbody⟩ := convertText_convertResponse result
          rw [hok]
          simp [hbody]

section Judged

variable {σ ρ τ : Type} (d : Decoder σ ρ) (src : Source τ UInt8)

/-- The part of a body that the limit lets through. -/
def visible (body : τ) : List UInt8 := (src.yields body).take maxRequestBytes

/-- It does not begin with a request. -/
def Undecodable (body : τ) : Prop := ∃ err, d.decodeText (visible src body) = .error err

/-- The reads up to the one that brings the last byte the decoder has to see. -/
def reads (fuel : Nat) (body : τ) : Option (MaxBytesReader τ) :=
  readUntil (MaxBytesReader.source src) (d.needed (visible src body)) fuel ⟨body, maxRequestBytes⟩ 0 0

/-- These reads take as many bytes of the body as the limit allows. -/
def ReadToLimit (body : τ) : Prop :=
  ∃ fuel m, reads d src fuel body = some m ∧
    (src.yields m.reader).length + maxRequestBytes ≤ (src.yields body).length

/-- A body is judged by its length when it is shorter than the limit, when it is as long and either holds a
request or is not read to its end, and when it is longer, holds no request within the limit and is read
up to the limit. -/
def WellJudged (body : τ) : Prop :=
  (src.yields body).length < maxRequestBytes ∨
  (src.yields body).length = maxRequestBytes ∧ ¬(Undecodable d src body ∧ ReadToLimit d src body) ∨
  maxRequestBytes < (src.yields body).length ∧ Undecodable d src body ∧ ReadToLimit d src body

variable {d src}

theorem yields_start (body : τ) :
    MaxBytesReader.yields src ⟨body, (maxRequestBytes : Int)⟩ = visible src body := by
  unfold MaxBytesReader.yields visible
  rw [Int.toNat_natCast]

theorem decodeBody_eq (fuel : Nat) (body : τ) :
    decodeBody d src fuel body =
      (reads d src fuel body).map (fun m => decodedOf m.remaining (d.decodeText (visible src body))) := by
  unfold decodeBody reads
  rw [d.decode_eq, Option.map_map]
  have hyields : (MaxBytesReader.source src).yields ⟨body, (maxRequestBytes : Int)⟩ = visible src body :=
    yields_start body
  rw [hyields]
  rfl

/-- What is left of the limit is what is left of the body, but for the difference there is at first. -/
theorem remaining_eq {fuel : Nat} {body : τ} {m : MaxBytesReader τ} (h : reads d src fuel body = some m) :
    m.remaining - (src.yields m.reader).length = maxRequestBytes - (src.yields body).length :=
  readUntil_preserves (P := fun m => m.remaining - (src.yields m.reader).length =
    maxRequestBytes - (src.yields body).length) (MaxBytesReader.source src)
    (fun m k hm => (MaxBytesReader.read_difference src m k).trans hm) rfl h

theorem reads_terminates {fuel : Nat} {body : τ} (hfuel : src.left body < fuel) :
    ∃ m, reads d src fuel body = some m :=
  readUntil_terminates (MaxBytesReader.source src) (Nat.zero_le 0) hfuel

theorem readToLimit_iff {fuel : Nat} {body : τ} {m : MaxBytesReader τ} (h : reads d src fuel body = some m) :
    ReadToLimit d src body ↔ m.remaining ≤ 0 := by
  have hremaining := remaining_eq h
  constructor
  · rintro ⟨more, m', hm', hle⟩
    have hsame : m' = m := by
      rcases Nat.le_total fuel more with hf | hf
      · exact Option.some.inj (hm'.symm.trans (readUntil_mono _ hf h))
      · exact Option.some.inj ((readUntil_mono _ hf hm').symm.trans h)
    rw [hsame] at hle
    omega
  · intro hle
    exact ⟨fuel, m, h, by omega⟩

/-- A body too short for the limit is never read up to it. -/
theorem le_of_readToLimit {body : τ} (h : ReadToLimit d src body) :
    maxRequestBytes ≤ (src.yields body).length := by
  obtain ⟨fuel, m, _, hle⟩ := h
  omega

/-- A handler gets its body decoded, and says that it is too large when no request is found in what was read
of it and the reads went up to the limit. -/
theorem tooLarge_iff {handler : HttpRequest ρ → List Event} (hs : SaysTooLarge handler)
    (d : RequestDecoder σ ρ) {fuel : Nat} {body : τ} (hfuel : src.left body < fuel) :
    ∃ decoded, decodeBody d.toDecoder src fuel body = some decoded ∧ ∀ xRequestID,
      (AnswersTooLarge (handler ⟨xRequestID, decoded⟩) ↔
        Undecodable d.toDecoder src body ∧ ReadToLimit d.toDecoder src body) := by
  obtain ⟨m, hm⟩ := reads_terminates (d := d.toDecoder) hfuel
  refine ⟨decodedOf m.remaining (d.decodeText (visible src body)), ?_, fun xRequestID => ?_⟩
  · rw [decodeBody_eq, hm]
    rfl
  · rw [readToLimit_iff hm]
    unfold Undecodable
    cases htext : d.decodeText (visible src body) with
    | ok req => exact iff_of_false (hs.of_ok xRequestID req) (fun ⟨⟨err, he⟩, _⟩ => nomatch he)
    | error err =>
      have hother := d.other_error htext
      rw [decodedOf, hs.of_error]
      exact ⟨fun h => ⟨⟨err, rfl⟩, h.resolve_left hother⟩, fun h => .inr h.2⟩

theorem wellJudged_iff {body : τ} :
    WellJudged d src body ↔
      (Undecodable d src body ∧ ReadToLimit d src body ↔ maxRequestBytes < (src.yields body).length) := by
  have hle := @le_of_readToLimit σ ρ τ d src body
  unfold WellJudged
  constructor
  · rintro (h | ⟨h, hno⟩ | ⟨h, hyes⟩)
    · exact iff_of_false (fun hr => absurd (hle hr.2) (by omega)) (by omega)
    · exact iff_of_false hno (by omega)
    · exact iff_of_true hyes h
  · intro h
    rcases Nat.lt_trichotomy (src.yields body).length maxRequestBytes with hn | hn | hn
    · exact .inl hn
    · exact .inr (.inl ⟨hn, fun hr => absurd (h.mp hr) (by omega)⟩)
    · exact .inr (.inr ⟨hn, h.mpr hn⟩)

/-- A longer body whose first value is still open at the limit is judged by its length. -/
theorem wellJudged_of_open {body : τ} {state : σ} (hlong : maxRequestBytes < (src.yields body).length)
    (hmore : d.scan 0 d.start (visible src body) = .more state) (hends : d.ends state = false) :
    WellJudged d src body := by
  have hneeded : d.needed (visible src body) = (visible src body).length + 1 := by
    unfold Decoder.needed
    rw [hmore]
    rfl
  have hvalue : d.valueOf (visible src body) = .error (eofError (visible src body)) := by
    rw [d.valueOf_of_more hmore, hends, if_neg Bool.false_ne_true]
  obtain ⟨m, hm⟩ := reads_terminates (d := d) (Nat.lt_succ_self (src.left body))
  have hempty : MaxBytesReader.yields src m = [] := by
    refine readUntil_exhausts (MaxBytesReader.source src) ?_ hm
    have hyields : (MaxBytesReader.source src).yields ⟨body, (maxRequestBytes : Int)⟩ = visible src body :=
      yields_start body
    rw [hneeded, hyields]
    omega
  have hremaining := remaining_eq hm
  have hzero : m.remaining ≤ 0 := by
    rcases List.take_eq_nil_iff.mp hempty with h | h
    · omega
    · rw [h, List.length_nil] at hremaining
      omega
  refine .inr (.inr ⟨hlong, ⟨eofError (visible src body), ?_⟩, (readToLimit_iff hm).mpr hzero⟩)
  unfold Decoder.decodeText
  rw [hvalue]
  rfl

end Judged

/-- What reads of a limited body bring: the beginning of what the limit lets through, all of it when they
report the end, which enough of them do. -/
def YieldsLimited {τ : Type} (src : Source τ UInt8) (limit : Nat) (body : τ) : Prop :=
  ∀ sizes : List Nat,
    let result := (MaxBytesReader.source src).readMany sizes ⟨body, limit⟩
    let first := (src.yields body).take (min (src.yields body).length limit)
    result.2.1 <+: first ∧ (result.2.2 = true → result.2.1 = first) ∧
      ((∀ k ∈ sizes, 0 < k) → src.left body < sizes.length → result.2.2 = true)

theorem yieldsLimited {τ : Type} (src : Source τ UInt8) (limit : Nat) (body : τ) :
    YieldsLimited src limit body := by
  intro sizes
  have hyields : (MaxBytesReader.source src).yields ⟨body, (limit : Int)⟩ =
      (src.yields body).take (min (src.yields body).length limit) := by
    rw [Nat.min_comm, ← List.take_take, List.take_length]
    exact congrArg (fun n => (src.yields body).take n) (Int.toNat_natCast limit)
  dsimp only
  rw [← hyields]
  exact ⟨Source.readMany_prefix _ _ _, Source.readMany_whole _, fun hpos hleft =>
    Source.readMany_ends _ hpos hleft⟩

/-- A handler gets its body decoded and answers COMMON_REQUEST_TOO_LARGE for the longer bodies alone, if and
only if the body is one that is judged by its length. -/
def JudgesExactly {σ ρ τ : Type} (handler : HttpRequest ρ → List Event) (d : RequestDecoder σ ρ)
    (src : Source τ UInt8) : Prop :=
  ∀ fuel body xRequestID, src.left body < fuel →
    ∃ decoded, decodeBody d.toDecoder src fuel body = some decoded ∧
      ((AnswersTooLarge (handler ⟨xRequestID, decoded⟩) ↔ maxRequestBytes < (src.yields body).length) ↔
        WellJudged d.toDecoder src body)

theorem SaysTooLarge.judgesExactly {σ ρ τ : Type} {handler : HttpRequest ρ → List Event}
    (h : SaysTooLarge handler) (d : RequestDecoder σ ρ) (src : Source τ UInt8) :
    JudgesExactly handler d src := by
  intro fuel body xRequestID hfuel
  obtain ⟨decoded, hdecoded, hiff⟩ := tooLarge_iff h d hfuel
  exact ⟨decoded, hdecoded, by rw [hiff, wellJudged_iff]⟩

/-- The limited reader yields the first bytes of every body up to its limit, and each handler judges a body by
its length exactly when it holds no request within the limit and the reads go that far, or it is short
enough. -/
theorem bodyLimit_judged_iff {σ τ : Type} (src : Source τ UInt8) (json : Json) (r : Router)
    (env : Surroundings) (chat : RequestDecoder σ ChatCompletionRequest)
    (completion : RequestDecoder σ CompletionRequest) :
    (∀ (limit : Nat) (body : τ), YieldsLimited src limit body) ∧
      JudgesExactly (fun request => (chatCompletionsHandle json r request env).2) chat src ∧
      JudgesExactly (fun request => (completionsHandle json r request env).2) completion src :=
  ⟨yieldsLimited src, (chatCompletionsHandle_saysTooLarge json r env).judgesExactly chat src,
    (completionsHandle_saysTooLarge json r env).judgesExactly completion src⟩

/-- It knows the empty object alone. -/
def emptyObject : RequestDecoder Bool ChatCompletionRequest where
  start := false
  step
    | false, c => if c = 123 then .more true else .failed "invalid character"
    | true, c => if c = 125 then .ended else .failed "invalid character"
  ends _ := false
  unmarshal _ := .ok ⟨"", [], 0, 0, 0, false, []⟩
  step_error opened c err h := by
    cases opened with
    | false =>
      dsimp only at h
      split at h
      · cases h
      · cases h
        decide
    | true =>
      dsimp only at h
      split at h
      · cases h
      · cases h
        decide
  unmarshal_error _ _ h := nomatch h

/-- An empty object, and a megabyte of spaces behind it. -/
def paddedBody : Scripted UInt8 := ⟨123 :: 125 :: List.replicate maxRequestBytes 32, []⟩

/-- The spaces behind a request are not read, and the body is taken for a short one. -/
theorem padded_body_accepted :
    ¬∀ (σ τ : Type) (src : Source τ UInt8) (d : RequestDecoder σ ChatCompletionRequest) (json : Json)
      (r : Router) (env : Surroundings) (fuel : Nat) (body : τ) (xRequestID : String)
      (decoded : Decoded ChatCompletionRequest), decodeBody d.toDecoder src fuel body = some decoded →
      (AnswersTooLarge (chatCompletionsHandle json r ⟨xRequestID, decoded⟩ env).2 ↔
        maxRequestBytes < (src.yields body).length) := by
  intro h
  have hiff := h Bool (Scripted UInt8) (Scripted.source UInt8) emptyObject sampleJson
    (.newRouter .latency) (sampleDown "") 1 paddedBody "" (.ok ⟨"", [], 0, 0, 0, false, []⟩) rfl
  have hlength : ((Scripted.source UInt8).yields paddedBody).length = maxRequestBytes + 2 := by
    change (123 :: 125 :: List.replicate maxRequestBytes 32).length = maxRequestBytes + 2
    rw [List.length_cons, List.length_cons, List.length_replicate]
  exact (chatCompletionsHandle_saysTooLarge _ _ _).of_ok _ _ (hiff.mpr (by omega))

end SupplyPlatform.Gateway
