import SupplyPlatform.GatewayHandler
import SupplyPlatform.Lib.JsonDecoder
import SupplyPlatform.Lib.LineScanner

namespace SupplyPlatform.Gateway

open JsonDecoder LineScanner

/-- `bufio.MaxScanTokenSize`. -/
def maxScanTokenSize : Nat := 64 * 1024

/-- The lines that the goroutine's scanner yields of a body. -/
def scannedLines (stream : List Line) : List Bytes :=
  scanLines maxScanTokenSize [] (stream.flatMap Line.ended)

namespace OpenAIAdapter

/-- What the goroutine sends for a line that it reads. -/
def sent (json : Json) (text : Bytes) : Option StreamChunk :=
  if text.length < 6 then none
  else if text.take 5 ≠ bytes "data:" then none
  else (json.chunk (text.drop 6)).map convertChunk

def takenForDone (text : Bytes) : Bool :=
  !decide (text.length < 6) && decide (text.take 5 = bytes "data:") && decide (text.drop 6 = bytes "[DONE]")

def tooLong (line : Line) : Bool := !decide (line.held.length < maxScanTokenSize)

/-- The goroutine and its scanner. -/
def goroutine (json : Json) : Follower Line StreamChunk where
  stops line := tooLong line || takenForDone line.text
  gives line := sent json line.text

theorem streamChunks_cons (json : Json) (text : Bytes) (rest : List Bytes) :
    streamChunks json (text :: rest) =
      if takenForDone text then [] else (sent json text).toList ++ streamChunks json rest := by
  rw [streamChunks]
  unfold sent takenForDone
  by_cases hlength : text.length < 6
  · simp [hlength]
  · by_cases hdata : text.take 5 = bytes "data:"
    · by_cases hdone : text.drop 6 = bytes "[DONE]"
      · simp [hlength, hdata, hdone]
      · cases hchunk : json.chunk (text.drop 6) with
        | none => simp [hlength, hdata, hdone]
        | some raw => simp [hlength, hdata, hdone]
    · simp [hlength, hdata]

theorem streamChunks_scannedLines (json : Json) (stream : List Line) :
    streamChunks json (scannedLines stream) = (goroutine json).follow stream := by
  unfold scannedLines
  rw [scanLines_ended]
  induction stream with
  | nil => rfl
  | cons line stream ih =>
    cases hlong : tooLong line with
    | true =>
      have hnot : ¬line.held.length < maxScanTokenSize := by simpa [tooLong] using hlong
      rw [Follower.follow_cons_of_stops (by simp [goroutine, hlong])]
      simp [hnot, streamChunks]
    | false =>
      have hfits : line.held.length < maxScanTokenSize := by simpa [tooLong] using hlong
      rw [List.takeWhile_cons_of_pos (by simpa using hfits), List.map_cons, streamChunks_cons, ih]
      cases hdone : takenForDone line.text with
      | true => rw [if_pos rfl, Follower.follow_cons_of_stops (by simp [goroutine, hdone])]
      | false =>
        rw [if_neg Bool.false_ne_true, Follower.follow_cons (by simp [goroutine, hlong, hdone])]
        rfl

end OpenAIAdapter

/-- What `encoding/json` makes of chunks, with the `index` that a payload gives its choices by their place, 0
where it gives none. Space in front of a value changes nothing, and an object without its opening brace
is no value. -/
structure ChunkJson extends Json where
  index : Bytes → Nat → Int
  chunk_space : ∀ c p, isSpace c = true → toJson.chunk (c :: p) = toJson.chunk p
  chunk_brace : ∀ p raw, toJson.chunk (123 :: p) = some raw → toJson.chunk p = none

/-- `json.Marshal` of a chunk, which is an object. -/
structure ChunkMarshal where
  text : StreamChunk → Bytes
  brace : ∀ chunk, (text chunk).head? = some 123

/-- What follows the colon, without the one space that may stand there. -/
def payloadOf (rest : Bytes) : Bytes := if rest.head? = some 32 then rest.tail else rest

def payload (text : Bytes) : Option Bytes :=
  if text.take 5 = bytes "data:" then some (payloadOf (text.drop 5)) else none

def isObject (p : Bytes) : Bool := (p.dropWhile isSpace).head? = some 123

def StreamChunk.indexed (chunk : StreamChunk) (index : Nat → Int) : StreamChunk :=
  { chunk with choices := chunk.choices.mapIdx (fun i choice => { choice with index := index i }) }

/-- The chunk that a payload stands for, if it is a chunk object. -/
def chunkOf (json : ChunkJson) (p : Bytes) : Option StreamChunk :=
  if isObject p then
    (json.chunk p).map (fun raw => (OpenAIAdapter.convertChunk raw).indexed (json.index p))
  else none

/-- The chunk that is due for a line. -/
def due (json : ChunkJson) (text : Bytes) : Option StreamChunk := (payload text).bind (chunkOf json)

/-- Who reads the stream as it is meant, up to the payload [DONE]. -/
def meant (json : ChunkJson) : Follower Line StreamChunk where
  stops line := decide (payload line.text = some (bytes "[DONE]"))
  gives line := due json line.text

/-- The payload decodes to the chunk that it stands for, if it decodes. -/
def Faithful (json : ChunkJson) (p : Bytes) : Prop :=
  ∀ raw, json.chunk p = some raw → isObject p = true ∧ ∀ i < raw.choices.length, json.index p i = 0

/-- The goroutine makes of a line what is due for it: with space behind the colon, when the payload stands
for what it decodes to; without, when the payload is no chunk object, and none without its first byte. -/
def WellRead (json : ChunkJson) (text : Bytes) : Prop :=
  text.take 5 = bytes "data:" →
    match text.drop 5 with
    | [] => True
    | c :: q =>
      if isSpace c then Faithful json (payloadOf (c :: q))
      else chunkOf json (c :: q) = none ∧ json.chunk q = none

theorem indexed_eq_self {chunk : StreamChunk} {index : Nat → Int}
    (hzero : ∀ choice ∈ chunk.choices, choice.index = 0) :
    chunk.indexed index = chunk ↔ ∀ i < chunk.choices.length, index i = 0 := by
  obtain ⟨id, object, created, model, choices⟩ := chunk
  simp only [StreamChunk.indexed, StreamChunk.mk.injEq, true_and]
  rw [List.ext_getElem_iff]
  simp only [List.length_mapIdx, List.getElem_mapIdx, true_and]
  constructor
  · intro h i hi
    have hchoice := congrArg StreamChoice.index (h i hi hi)
    exact hchoice.trans (hzero _ (List.getElem_mem hi))
  · intro h i hi _
    rw [h i hi, ← hzero _ (List.getElem_mem hi)]

theorem faithful_iff {json : ChunkJson} {p : Bytes} :
    (json.chunk p).map OpenAIAdapter.convertChunk = chunkOf json p ↔ Faithful json p := by
  unfold Faithful chunkOf
  cases hraw : json.chunk p with
  | none => simp
  | some raw =>
    have hzero : ∀ choice ∈ (OpenAIAdapter.convertChunk raw).choices, choice.index = 0 := by
      intro choice hmem
      obtain ⟨c, _, rfl⟩ := List.mem_map.mp hmem
      rfl
    have hlength : (OpenAIAdapter.convertChunk raw).choices.length = raw.choices.length :=
      List.length_map _
    cases hobject : isObject p with
    | false => simp
    | true =>
      simp only [Option.map_some, if_true, Option.some.injEq, forall_eq', true_and]
      rw [eq_comm, indexed_eq_self hzero, hlength]

/-- What stands behind the colon is what the goroutine cuts at, but for its first byte. -/
theorem data_cases {text : Bytes} (hdata : text.take 5 = bytes "data:") :
    (text.length < 6 ∧ text.drop 5 = []) ∨
      ∃ c q, ¬text.length < 6 ∧ text.drop 5 = c :: q ∧ text.drop 6 = q := by
  have hfive : (bytes "data:").length = 5 := by decide
  have hlength := congrArg List.length hdata
  rw [List.length_take, hfive] at hlength
  cases hrest : text.drop 5 with
  | nil =>
    have hle := List.drop_eq_nil_iff.mp hrest
    exact .inl ⟨by omega, rfl⟩
  | cons c q =>
    have hq : text.drop 6 = q := by rw [← List.tail_drop, hrest, List.tail_cons]
    have hlong := congrArg List.length hrest
    rw [List.length_drop, List.length_cons] at hlong
    exact .inr ⟨c, q, by omega, rfl, hq⟩

/-- An object does not decode without its opening brace. -/
theorem chunk_cut_of_some {json : ChunkJson} {c : UInt8} {q : Bytes} {chunk : StreamChunk}
    (hc : isSpace c = false) (h : chunkOf json (c :: q) = some chunk) : json.chunk q = none := by
  unfold chunkOf at h
  split at h
  next hobject =>
    unfold isObject at hobject
    rw [List.dropWhile_cons_of_neg (by rw [hc]; exact Bool.false_ne_true), List.head?_cons] at hobject
    obtain ⟨raw, hraw, _⟩ := Option.map_eq_some_iff.mp h
    rw [Option.some.inj (of_decide_eq_true hobject)] at hraw
    exact json.chunk_brace q raw hraw
  next => cases h

theorem sent_eq_due_iff {json : ChunkJson} {text : Bytes} :
    OpenAIAdapter.sent json.toJson text = due json text ↔ WellRead json text := by
  unfold WellRead due payload OpenAIAdapter.sent
  by_cases hdata : text.take 5 = bytes "data:"
  · rcases data_cases hdata with ⟨hlength, hrest⟩ | ⟨c, q, hlength, hrest, hq⟩
    · have hnone : chunkOf json (payloadOf []) = none := rfl
      simp [hdata, hlength, hrest, hnone]
    · simp only [hdata, hlength, hrest, hq, if_true, if_false, ne_eq, not_true, Option.bind_some,
        forall_const]
      cases hc : isSpace c with
      | true =>
        rw [if_pos rfl, ← faithful_iff]
        have hsame : json.chunk (payloadOf (c :: q)) = json.chunk q := by
          unfold payloadOf
          split
          · rfl
          · exact json.chunk_space c q hc
        rw [hsame]
      | false =>
        rw [if_neg Bool.false_ne_true]
        have hpayload : payloadOf (c :: q) = c :: q := by
          unfold payloadOf
          rw [if_neg]
          intro h
          cases h
          cases hc
        rw [hpayload]
        constructor
        · intro h
          cases hdue : chunkOf json (c :: q) with
          | none =>
            rw [hdue] at h
            exact ⟨rfl, Option.map_eq_none_iff.mp h⟩
          | some chunk =>
            rw [hdue, chunk_cut_of_some hc hdue] at h
            cases h
        · rintro ⟨hnone, hcut⟩
          rw [hcut, hnone]
          rfl
  · have hnot : ¬text.take 5 = bytes "data:" := hdata
    simp [hnot]

/-- The lines before the first that stops the goroutine or is the payload [DONE]. -/
def heard (json : ChunkJson) (stream : List Line) : List Line :=
  Follower.together (OpenAIAdapter.goroutine json.toJson) (meant json) stream

/-- The lines from there on. -/
def behind (json : ChunkJson) (stream : List Line) : List Line :=
  Follower.apart (OpenAIAdapter.goroutine json.toJson) (meant json) stream

/-- The lines are read as they are meant up to the first line that stops the goroutine or is the payload
[DONE]; no chunk is due behind a line that is too long or taken for [DONE], and nothing is read behind a
[DONE] that is not taken for it. -/
structure ReadAsMeant (json : ChunkJson) (stream : List Line) : Prop where
  well_read : ∀ line ∈ heard json stream, WellRead json line.text
  none_due : ∀ line ∈ (behind json stream).takeWhile (fun line => !(meant json).stops line),
    due json line.text = none
  none_sent : ∀ line ∈ (behind json stream).takeWhile
    (fun line => !(OpenAIAdapter.goroutine json.toJson).stops line),
    OpenAIAdapter.sent json.toJson line.text = none

theorem agree_iff {json : ChunkJson} {stream : List Line} :
    Follower.Agree (OpenAIAdapter.goroutine json.toJson) (meant json) stream ↔ ReadAsMeant json stream := by
  constructor
  · rintro ⟨halike, hleft, hright⟩
    exact ⟨fun line hline => sent_eq_due_iff.mp (halike line hline), Follower.follow_eq_nil.mp hright,
      Follower.follow_eq_nil.mp hleft⟩
  · rintro ⟨hread, hdue, hsent⟩
    exact ⟨fun line hline => sent_eq_due_iff.mpr (hread line hline), Follower.follow_eq_nil.mpr hsent,
      Follower.follow_eq_nil.mpr hdue⟩

/-- Every line fits, a space follows the colon of every data line, and the payloads stand for what they
decode to: the stream is read as it is meant. -/
theorem readAsMeant_of_spaced {json : ChunkJson} {stream : List Line}
    (hfits : ∀ line ∈ stream, line.held.length < maxScanTokenSize)
    (hspaced : ∀ line ∈ stream, line.text.take 5 = bytes "data:" →
      ∃ p, line.text.drop 5 = 32 :: p ∧ Faithful json p) : ReadAsMeant json stream := by
  refine agree_iff.mp (Follower.agree_of_alike (fun line hline => ?_) (fun line hline => ?_))
  · have hshort : OpenAIAdapter.tooLong line = false := by simpa [OpenAIAdapter.tooLong] using hfits line hline
    simp only [OpenAIAdapter.goroutine, meant, hshort, Bool.false_or]
    unfold OpenAIAdapter.takenForDone payload
    by_cases hdata : line.text.take 5 = bytes "data:"
    · obtain ⟨p, hrest, _⟩ := hspaced line hline hdata
      rcases data_cases hdata with ⟨_, hnil⟩ | ⟨c, q, hlength, hcons, hq⟩
      · rw [hrest] at hnil
        cases hnil
      · rw [hrest] at hcons
        cases hcons
        simp [hdata, hlength, hrest, hq, payloadOf]
    · simp [hdata]
  · refine sent_eq_due_iff.mpr (fun hdata => ?_)
    obtain ⟨p, hrest, hfaithful⟩ := hspaced line hline hdata
    rw [hrest]
    exact hfaithful

def frame (marshal : ChunkMarshal) (chunk : StreamChunk) : Bytes :=
  bytes "data: " ++ marshal.text chunk ++ bytes "\n\n"

def doneFrame : Bytes := bytes "data: [DONE]\n\n"

/-- The loop of `handleStream` over the channel, and what it writes behind it. -/
def writeStream (marshal : ChunkMarshal) : List StreamChunk → List Bytes
  | [] => [doneFrame]
  | chunk :: rest => frame marshal chunk :: writeStream marshal rest

/-- The writes of an event stream. -/
def Event.streamed (marshal : ChunkMarshal) : Event → List Bytes
  | .responded (.eventStream _ chunks) => writeStream marshal chunks
  | _ => []

theorem writeStream_eq (marshal : ChunkMarshal) (chunks : List StreamChunk) :
    writeStream marshal chunks = chunks.map (frame marshal) ++ [doneFrame] := by
  induction chunks with
  | nil => rfl
  | cons chunk rest ih => rw [writeStream, ih, List.map_cons, List.cons_append]

theorem frame_ne_doneFrame (marshal : ChunkMarshal) (chunk : StreamChunk) :
    frame marshal chunk ≠ doneFrame := by
  intro h
  have hdone : doneFrame = bytes "data: " ++ bytes "[DONE]\n\n" := by decide
  unfold frame at h
  rw [hdone, List.append_assoc] at h
  have htext := congrArg List.head? (List.append_cancel_left h)
  rw [List.head?_append, marshal.brace] at htext
  revert htext
  decide

/-- The handler writes the chunks in their order and then [DONE], once. -/
def WritesBack (json : Json) (marshal : ChunkMarshal) (lines : List Bytes) (chunks : List StreamChunk) :
    Prop :=
  ∀ (env : Surroundings) (registered : String) (provider : OpenAIAdapter) (model : String)
    (messages : List Message) (options : CompletionOptions) (requestID : String) (read : Bytes)
    (readError : Option String), env.exchange = .answered 200 ⟨read, readError, lines⟩ →
    env.flusher = true →
    (handleStream json env registered provider model messages options requestID).flatMap
      (Event.streamed marshal) = chunks.map (frame marshal) ++ [doneFrame] ∧
    doneFrame ∉ chunks.map (frame marshal)

theorem writesBack (json : Json) (marshal : ChunkMarshal) (lines : List Bytes) :
    WritesBack json marshal lines (OpenAIAdapter.streamChunks json lines) := by
  intro env registered provider model messages options requestID read readError hexchange hflusher
  refine ⟨?_, ?_⟩
  · have hstream : OpenAIAdapter.chatCompletionStream json env.exchange =
        .ok (OpenAIAdapter.streamChunks json lines) := by
      rw [hexchange]
      rfl
    unfold handleStream
    rw [hstream]
    simp only [hflusher, if_true]
    rw [← writeStream_eq]
    simp [Event.streamed]
  · intro h
    obtain ⟨chunk, _, hchunk⟩ := List.mem_map.mp h
    exact frame_ne_doneFrame marshal chunk hchunk

/-- After each line the chunks that are due by then have been sent, and the handler writes them back. -/
structure Streams (json : ChunkJson) (marshal : ChunkMarshal) (stream : List Line) : Prop where
  sent : ∀ k, OpenAIAdapter.streamChunks json.toJson (scannedLines (stream.take k)) =
    (meant json).follow (stream.take k)
  written : WritesBack json.toJson marshal (scannedLines stream) ((meant json).follow stream)

/-- A stream is delivered, one chunk for each chunk object up to [DONE], exactly when it is read as it is
meant. -/
theorem streams_iff (json : ChunkJson) (marshal : ChunkMarshal) (stream : List Line) :
    Streams json marshal stream ↔ ReadAsMeant json stream := by
  rw [← agree_iff, ← Follower.forall_follow_take_iff]
  constructor
  · intro h k
    rw [← OpenAIAdapter.streamChunks_scannedLines]
    exact h.sent k
  · intro h
    have hall := h stream.length
    rw [List.take_length, ← OpenAIAdapter.streamChunks_scannedLines] at hall
    refine ⟨fun k => ?_, ?_⟩
    · rw [OpenAIAdapter.streamChunks_scannedLines]
      exact h k
    · rw [← hall]
      exact writesBack json.toJson marshal (scannedLines stream)

/-- It knows one chunk object. -/
def sampleChunks : ChunkJson where
  errorDetail _ := none
  completion _ := .error "unexpected end of JSON input"
  chunk p := if p.dropWhile isSpace = bytes "\x7b\"id\":\"x\"\x7d" then some ⟨"x", "", 0, "", []⟩ else none
  index _ _ := 0
  chunk_space c p h := by rw [List.dropWhile_cons_of_pos h]
  chunk_brace p raw h := by
    split at h
    next hp =>
      have htail : bytes "\x7b\"id\":\"x\"\x7d" = 123 :: bytes "\"id\":\"x\"\x7d" := by decide
      rw [List.dropWhile_cons_of_neg (by decide), htail] at hp
      rw [List.tail_eq_of_cons_eq hp]
      decide
    next => cases h

theorem faithful_sampleChunks (p : Bytes) : Faithful sampleChunks p := by
  intro raw hraw
  simp only [sampleChunks] at hraw
  split at hraw
  next hp =>
    refine ⟨?_, fun _ _ => rfl⟩
    unfold isObject
    rw [hp]
    decide
  next => cases hraw

/-- A string that needs no escape. -/
def quoted (text : String) : String := "\"" ++ text ++ "\""

def Delta.marshalled (delta : Delta) : String :=
  "\x7b\"Role\":" ++ quoted delta.role ++ ",\"Content\":" ++ quoted delta.content ++ "\x7d"

def StreamChoice.marshalled (choice : StreamChoice) : String :=
  "\x7b\"Index\":" ++ toString choice.index ++
    ",\"Delta\":" ++ choice.delta.elim "null" Delta.marshalled ++
    ",\"FinishReason\":" ++ quoted choice.finishReason ++ "\x7d"

/-- `json.Marshal` of chunks whose strings need no escape; the structs have no tags. -/
def plainMarshal : ChunkMarshal where
  text chunk := 123 :: bytes ("\"ID\":" ++ quoted chunk.id ++
    ",\"Object\":" ++ quoted chunk.object ++
    ",\"Created\":" ++ toString chunk.created ++
    ",\"Model\":" ++ quoted chunk.model ++
    ",\"Choices\":[" ++ ",".intercalate (chunk.choices.map StreamChoice.marshalled) ++ "]\x7d")
  brace _ := rfl

example : (plainMarshal.text ⟨"x", "", 7, "", [⟨0, some ⟨"", "hi"⟩, "stop"⟩]⟩) =
    bytes ("\x7b\"ID\":\"x\",\"Object\":\"\",\"Created\":7,\"Model\":\"\",\"Choices\":[" ++
      "\x7b\"Index\":0,\"Delta\":\x7b\"Role\":\"\",\"Content\":\"hi\"\x7d,\"FinishReason\":\"stop\"\x7d]\x7d") := by
  decide

/-- A comment, a chunk with the space, a blank line, the chunk again and [DONE]. -/
def spacedStream : List Line :=
  [⟨bytes ": open", true, by decide, by decide⟩,
    ⟨bytes "data: \x7b\"id\":\"x\"\x7d", true, by decide, by decide⟩,
    ⟨[], false, by decide, by decide⟩,
    ⟨bytes "data: \x7b\"id\":\"x\"\x7d", false, by decide, by decide⟩,
    ⟨bytes "data: [DONE]", false, by decide, by decide⟩]

theorem streams_sample :
    Streams sampleChunks plainMarshal spacedStream ∧
      (meant sampleChunks).follow spacedStream = [⟨"x", "", 0, "", []⟩, ⟨"x", "", 0, "", []⟩] := by
  refine ⟨(streams_iff _ _ _).mpr (readAsMeant_of_spaced ?_ ?_), ?_⟩
  · decide
  · have hspaced : ∀ line ∈ spacedStream, line.text.take 5 = bytes "data:" →
        (line.text.drop 5).head? = some 32 := by decide
    intro line hline hdata
    obtain ⟨p, hp⟩ := List.head?_eq_some_iff.mp (hspaced line hline hdata)
    exact ⟨p, hp, faithful_sampleChunks p⟩
  · decide

/-- A chunk without the space, and [DONE]. -/
def unspacedStream : List Line :=
  [⟨bytes "data:\x7b\"id\":\"x\"\x7d", false, by decide, by decide⟩,
    ⟨bytes "data: [DONE]", false, by decide, by decide⟩]

/-- The chunk is lost when no space follows the colon. -/
theorem unspaced_chunk_lost :
    (meant sampleChunks).follow unspacedStream = [⟨"x", "", 0, "", []⟩] ∧
      OpenAIAdapter.streamChunks sampleChunks.toJson (scannedLines unspacedStream) = [] := by
  decide

end SupplyPlatform.Gateway
