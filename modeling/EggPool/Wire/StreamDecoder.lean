import EggPool.Lib.Run
import EggPool.Wire.Sse
import EggPool.Wire.StreamEvent

/-!
# Decoding a stream, and only watching it

A stream decoder has two ways in. `push` turns the bytes of a provider into canonical
events, which are encoded again for the client. `observe_native_push` leaves the bytes to
the caller and only records how the stream ended and what it used; it does not read the
payload of a frame whose name says that it carries neither.

Both ways are the same machine on the facts they share. What a frame contributes to the
summary is the usage and the errors among its events, and for the Responses dialect these
depend on the frame alone: on its name and its payload, not on the table of identities
that only the translating side keeps complete. So the two sides stay equal in everything
but that table.

A decoder that has returned an error is not used again here; the state it is left in is
not described.
-/

namespace EggPool.Wire

open EggPool.Lib CanonicalEvent UsageAccumulator

inductive TerminalEvidence where
  | openaiDone | responsesCompleted | responsesIncomplete | responsesFailed | anthropicMessageStop
  | geminiCompleted | geminiIncomplete | providerError
  deriving DecidableEq, Repr

inductive StreamTerminalOutcome where
  | success | incomplete | providerError | malformed | eofBeforeBody | eofAfterPartialBody
  deriving DecidableEq, Repr

structure StreamTerminalSummary where
  outcome : StreamTerminalOutcome
  evidence : Option TerminalEvidence
  (sawPayload sawTerminalEvent sawUsageCompletion missingFinalUsage incompleteFrameAtEof : Bool)
  (parserErrorCount bytesObserved : Nat)
  usage : Option CanonicalUsage
  deriving DecidableEq, Repr

inductive StreamError where
  | framing (error : SseDecodeError)
  | malformedEvent (reason : CodecReasonCode)
  deriving DecidableEq, Repr

/-- What one observed piece of a stream reports to the caller that forwards it. -/
structure NativeStreamObservation where
  sawTerminalEvent : Bool
  terminalEvidence : Option TerminalEvidence
  deriving DecidableEq, Repr

structure StreamEventDecoder where
  adapter : StreamAdapterKind
  framing : SseDecoder
  usage : UsageAccumulator
  evidence : Option TerminalEvidence
  (sawPayload sawTerminalEvent : Bool)
  (parserErrorCount bytesObserved : Nat)
  (postTerminalData finalized framingError : Bool)
  sourceIdentity : Option SourceIdentityState

/-- Whether a frame has a `data` field with anything in it. -/
def carriesDecodablePayload (frame : SseFrame) : Bool :=
  if frame.isCommentOnly || !frame.fields.any (fun field => field.1 == "data") then false
  else !(trim frame.data).isEmpty

/-- Whether the name of a frame leaves room for a terminal outcome or for final usage. -/
def carriesObservableFacts (adapter : StreamAdapterKind) (frame : SseFrame) : Bool :=
  if adapter ≠ .openaiResponsesSse then true
  else
    match frame.event with
    | none => true
    | some "response.completed" => true
    | some "response.incomplete" => true
    | some "response.failed" => true
    | some "error" => true
    | some _ => false

/-- A frame as the JSON object the dialects read. -/
def frameValue (frame : SseFrame) : Value :=
  .object (("data", .string frame.data) ::
    match frame.event with
    | some event => [("event", .string event)]
    | none => [])

/-- The end of a Responses stream, by the name of the frame. -/
def responsesEvidence (eventName : String) : Option TerminalEvidence :=
  match eventName with
  | "response.completed" => some .responsesCompleted
  | "response.incomplete" => some .responsesIncomplete
  | "response.failed" => some .responsesFailed
  | "error" => some .providerError
  | _ => none

def terminalEvidence (adapter : StreamAdapterKind) (frame : SseFrame)
    (events : List CanonicalEvent) : Option TerminalEvidence :=
  let eventName := frame.event.getD ""
  let finish := events.findSome? (·.finishReason)
  let onError := if eventName = "error" then some TerminalEvidence.providerError else none
  match adapter with
  | .openaiChatSse => if isOpenaiDone frame.data then some .openaiDone else onError
  | .anthropicMessagesSse =>
    if eventName = "message_stop" then some .anthropicMessageStop else onError
  | .openaiResponsesSse => responsesEvidence eventName
  | .geminiInteractionsSse =>
    if eventName = "interaction.completed" then
      some (if finish = some "completed" || finish = some "requires_action" then .geminiCompleted
        else .geminiIncomplete)
    else onError
  | .geminiGenerateContentSse =>
    finish.map fun reason => if reason = "STOP" then .geminiCompleted else .geminiIncomplete

namespace StreamEventDecoder

def withLimit (adapter : StreamAdapterKind) (maxFrameBytes : Nat) : StreamEventDecoder where
  adapter := adapter
  framing := SseDecoder.new maxFrameBytes
  usage := .empty
  evidence := none
  sawPayload := false
  sawTerminalEvent := false
  parserErrorCount := 0
  bytesObserved := 0
  postTerminalData := false
  finalized := false
  framingError := false
  sourceIdentity :=
    match adapter with
    | .openaiResponsesSse => some .empty
    | .geminiGenerateContentSse => some .empty
    | _ => none

variable (d : StreamEventDecoder)

/-- A frame with data was seen; after the end of the stream that is one too many. -/
def notePayload (frame : SseFrame) : StreamEventDecoder :=
  { d with
    sawPayload := d.sawPayload || !frame.data.isEmpty
    postTerminalData := d.postTerminalData || (d.sawTerminalEvent && !frame.data.isEmpty) }

/-- The first terminal stands, a second one is data after the end, an error overrides. -/
def noteTerminal (evidence : Option TerminalEvidence) (sawError : Bool) : StreamEventDecoder :=
  let d :=
    match evidence with
    | some evidence =>
      if d.sawTerminalEvent then { d with postTerminalData := true }
      else { d with evidence := some evidence, sawTerminalEvent := true }
    | none => d
  if sawError then { d with evidence := some .providerError, sawTerminalEvent := true } else d

def observeTerminal (frame : SseFrame) (events : List CanonicalEvent) : StreamEventDecoder :=
  d.noteTerminal (terminalEvidence d.adapter frame events)
    (events.any fun event => event.eventType == .error)

/-- The terminal of an observed frame, with the evidence the frame carried. -/
def observeNativeTerminal (frame : SseFrame) (sawError : Bool) :
    StreamEventDecoder × Option TerminalEvidence :=
  let evidence := responsesEvidence (frame.event.getD "")
  (d.noteTerminal evidence sawError,
    evidence.or (if sawError then some .providerError else none))

/-- Fold the usage of one event; Anthropic restates running totals. -/
def foldUsage (event : CanonicalEvent) : StreamEventDecoder :=
  match event.usage with
  | none => d
  | some usage =>
    if d.adapter = .anthropicMessagesSse then
      { d with usage := d.usage.mergeCumulative usage (event.eventType == .usage) }
    else { d with usage := d.usage.merge usage (event.eventType == .usage) }

variable (json : SerdeJson)

/-- One turn of the loop of `decode_frames`. -/
def decodeFrame (d : StreamEventDecoder) (frame : SseFrame) :
    Except StreamError (StreamEventDecoder × List CanonicalEvent) :=
  if !carriesDecodablePayload frame then .ok (d, [])
  else
    let d := d.notePayload frame
    match decodeStreamEventInto json d.adapter (frameValue frame) d.sourceIdentity with
    | .error e => .error (.malformedEvent e.reason)
    | .ok (ids, events) =>
      let d := { d with sourceIdentity := ids }.observeTerminal frame events
      .ok (events.foldl foldUsage d, events)

def decodeFrames (json : SerdeJson) (d : StreamEventDecoder) :
    List SseFrame → Except StreamError (StreamEventDecoder × List CanonicalEvent)
  | [] => .ok (d, [])
  | frame :: frames =>
    match d.decodeFrame json frame with
    | .error e => .error e
    | .ok (d, events) =>
      match d.decodeFrames json frames with
      | .error e => .error e
      | .ok (d, more) => .ok (d, events ++ more)

/-- `NativeObservationSink` after the events of a frame: their usage, and if one was an error. -/
def observationSink (events : List CanonicalEvent) : UsageAccumulator × Bool :=
  (events.foldl UsageAccumulator.mergeEvent .empty,
    events.any fun event => event.eventType == .error)

/-- One turn of the loop of `observe_frames`: a payload that cannot be read is counted. -/
def observeFrame (d : StreamEventDecoder) (frame : SseFrame) :
    StreamEventDecoder × Option TerminalEvidence :=
  if !carriesDecodablePayload frame then (d, none)
  else
    let d := d.notePayload frame
    if !carriesObservableFacts d.adapter frame then (d, none)
    else
      match decodeStreamEventInto json d.adapter (frameValue frame) d.sourceIdentity with
      | .error _ =>
        ({ d with parserErrorCount := d.parserErrorCount + 1, framingError := true }, none)
      | .ok (ids, events) =>
        let (usage, sawError) := observationSink events
        { d with sourceIdentity := ids, usage := d.usage.absorb usage }.observeNativeTerminal
          frame sawError

def observeFrames (json : SerdeJson) (d : StreamEventDecoder) :
    List SseFrame → StreamEventDecoder × Option TerminalEvidence
  | [] => (d, none)
  | frame :: frames =>
    let (d, observed) := d.observeFrame json frame
    let (d, later) := d.observeFrames json frames
    (d, observed.or later)

def outcome : StreamTerminalOutcome :=
  if d.framingError || d.parserErrorCount > 0 then .malformed
  else
    match d.evidence with
    | some .openaiDone => .success
    | some .responsesCompleted => .success
    | some .anthropicMessageStop => .success
    | some .geminiCompleted => .success
    | some .responsesIncomplete => .incomplete
    | some .responsesFailed => .incomplete
    | some .geminiIncomplete => .incomplete
    | some .providerError => .providerError
    | none => if !d.sawPayload then .eofBeforeBody else .eofAfterPartialBody

def summary (incompleteFrameAtEof : Bool) : StreamTerminalSummary where
  outcome := d.outcome
  evidence := d.evidence
  sawPayload := d.sawPayload
  sawTerminalEvent := d.sawTerminalEvent
  sawUsageCompletion := d.usage.complete
  missingFinalUsage := d.outcome == .success && !d.usage.complete
  incompleteFrameAtEof := incompleteFrameAtEof
  parserErrorCount := d.parserErrorCount + d.postTerminalData.toNat
  bytesObserved := d.bytesObserved
  usage := d.usage.reported

/-- The bytes of a piece are counted before they are framed. -/
def countBytes (bytes : List UInt8) : StreamEventDecoder :=
  { d with bytesObserved := saturatingAdd d.bytesObserved bytes.length }

def push (d : StreamEventDecoder) (bytes : List UInt8) :
    Except StreamError (StreamEventDecoder × List CanonicalEvent) :=
  if d.finalized then .error (.framing .finished)
  else
    let d := d.countBytes bytes
    match d.framing.feed bytes with
    | .error e => .error (.framing e)
    | .ok (framing, frames) => { d with framing := framing }.decodeFrames json frames

def observeNativePush (d : StreamEventDecoder) (bytes : List UInt8) :
    Except StreamError (StreamEventDecoder × NativeStreamObservation) :=
  if d.finalized then .error (.framing .finished)
  else
    let d := d.countBytes bytes
    match d.framing.feed bytes with
    | .error e => .error (.framing e)
    | .ok (framing, frames) =>
      let (d, observed) := { d with framing := framing }.observeFrames json frames
      .ok (d, ⟨observed.isSome, observed⟩)

/-- Flush framing: the events of the last record and the summary. -/
def finalizeEvents (d : StreamEventDecoder) :
    Except StreamError (StreamEventDecoder × List CanonicalEvent × StreamTerminalSummary) :=
  if d.finalized then .ok (d, [], d.summary false)
  else
    match d.framing.finish with
    | .error e => .error (.framing e)
    | .ok (framing, result) =>
      match { d with finalized := true, framing := framing }.decodeFrames json result.frames with
      | .error e => .error e
      | .ok (d, events) => .ok (d, events, d.summary result.incompleteFrame)

def finalizeObserved (d : StreamEventDecoder) :
    Except StreamError (StreamEventDecoder × StreamTerminalSummary) :=
  if d.finalized then .ok (d, d.summary false)
  else
    match d.framing.finish with
    | .error e => .error (.framing e)
    | .ok (framing, result) =>
      let (d, _) :=
        { d with finalized := true, framing := framing }.observeFrames json result.frames
      .ok (d, d.summary result.incompleteFrame)

/-- Push the pieces of a stream one after another, up to the first error. -/
def pushAll (json : SerdeJson) (d : StreamEventDecoder) :
    List (List UInt8) → Except StreamError (StreamEventDecoder × List CanonicalEvent)
  | [] => .ok (d, [])
  | bytes :: chunks =>
    match d.push json bytes with
    | .error e => .error e
    | .ok (d, events) =>
      match d.pushAll json chunks with
      | .error e => .error e
      | .ok (d, more) => .ok (d, events ++ more)

def observeAll (json : SerdeJson) (d : StreamEventDecoder) :
    List (List UInt8) → Except StreamError (StreamEventDecoder × List NativeStreamObservation)
  | [] => .ok (d, [])
  | bytes :: chunks =>
    match d.observeNativePush json bytes with
    | .error e => .error e
    | .ok (d, observation) =>
      match d.observeAll json chunks with
      | .error e => .error e
      | .ok (d, more) => .ok (d, observation :: more)

/-- A whole stream translated: every event, and the summary. -/
def translateStream (adapter : StreamAdapterKind) (maxFrameBytes : Nat)
    (chunks : List (List UInt8)) :
    Except StreamError (List CanonicalEvent × StreamTerminalSummary) :=
  match (withLimit adapter maxFrameBytes).pushAll json chunks with
  | .error e => .error e
  | .ok (d, events) =>
    match d.finalizeEvents json with
    | .error e => .error e
    | .ok (_, more, summary) => .ok (events ++ more, summary)

/-- A whole stream observed on its way through. -/
def observeStream (adapter : StreamAdapterKind) (maxFrameBytes : Nat) (chunks : List (List UInt8)) :
    Except StreamError (List NativeStreamObservation × StreamTerminalSummary) :=
  match (withLimit adapter maxFrameBytes).observeAll json chunks with
  | .error e => .error e
  | .ok (d, observations) =>
    match d.finalizeObserved json with
    | .error e => .error e
    | .ok (_, summary) => .ok (observations, summary)

end StreamEventDecoder

/-! ## The facts of a frame -/

/-- An event that the summary of a stream depends on. -/
def CanonicalEvent.isFact (event : CanonicalEvent) : Bool :=
  event.usage.isSome || event.eventType == .error

/-- The facts of a Responses payload, by the name it goes under. -/
def responsesFacts (name : String) (payload : Map) : List CanonicalEvent :=
  let response := (object (payload.get "response")).getD payload
  match name with
  | "response.completed" => usageEvents (response.get "usage") .openai
  | "response.incomplete" => usageEvents (response.get "usage") .openai
  | "response.failed" => usageEvents (response.get "usage") .openai
  | "error" => [errorEvent payload]
  | _ => []

theorem filter_usageEvents (v : Option Value) (protocol : UsageProtocol) :
    (usageEvents v protocol).filter CanonicalEvent.isFact = usageEvents v protocol := by
  unfold usageEvents
  split <;> rfl

variable (payload : Map)

theorem filter_responsesTerminal {et : CanonicalEventType} (h : et ≠ .error) (r : String) :
    (responsesTerminal payload et r).filter CanonicalEvent.isFact =
      usageEvents (((object (payload.get "response")).getD payload).get "usage") .openai := by
  unfold responsesTerminal
  rw [List.filter_append, filter_usageEvents]
  simp [isFact, canonicalEvent, h]

theorem filter_responsesDelta {et : CanonicalEventType} (h : et ≠ .error) :
    (responsesDelta et payload).filter CanonicalEvent.isFact = [] := by
  unfold responsesDelta
  split <;> simp [isFact, canonicalEvent, h]

variable (state : Option SourceIdentityState)

theorem filter_responsesArgumentsDelta :
    (responsesArgumentsDelta payload state).filter CanonicalEvent.isFact = [] := by
  unfold responsesArgumentsDelta
  split <;> rfl

theorem filter_responsesItemDone :
    (responsesItemDone payload state).2.filter CanonicalEvent.isFact = [] := by
  unfold responsesItemDone
  split
  · rfl
  dsimp only
  split
  · split <;> rfl
  · rfl

/-- **The facts of a payload do not depend on the table of identities.** -/
theorem filter_decodeOpenaiResponses (f payload : Map) (state : Option SourceIdentityState) :
    (decodeOpenaiResponses f payload state).2.filter CanonicalEvent.isFact =
      responsesFacts (dialectName f payload) payload := by
  unfold decodeOpenaiResponses
  split
  case h_1 hn => rw [hn]; rfl
  case h_2 hn | h_3 hn | h_4 hn => rw [hn]; exact filter_responsesDelta payload (by decide)
  case h_5 hn => rw [hn, responsesItemAdded]; split <;> rfl
  case h_6 hn | h_7 hn => rw [hn]; exact filter_responsesArgumentsDelta payload state
  case h_8 hn => rw [hn]; exact filter_responsesItemDone payload state
  case h_9 hn | h_10 hn | h_11 hn =>
    rw [hn]
    exact filter_responsesTerminal payload (by decide) _
  case h_12 hn => rw [hn]; rfl
  case h_13 =>
    unfold responsesFacts
    split <;> first | rfl | contradiction

/-- What the Responses dialect makes of a frame. -/
def responsesFrame (json : SerdeJson) (frame : SseFrame) : Except CodecError (List CanonicalEvent) :=
  match payloadValue json (frameValue frame) with
  | .error e => .error e
  | .ok (payload, marker) =>
    if marker.any isOpenaiDone then .ok []
    else .ok (responsesFacts (frame.event.getD ((string (payload.get "type")).getD "")) payload)

theorem dialectName_frame (f : SseFrame) (payload m : Map) (h : (frameValue f).asObject = some m) :
    dialectName m payload = f.event.getD ((string (payload.get "type")).getD "") := by
  cases h
  cases f.event with
  | none | some => rfl

theorem facts_of_decode (json : SerdeJson) (frame : SseFrame) (state : Option SourceIdentityState) :
    (decodeStreamEventInto json .openaiResponsesSse (frameValue frame) state).map
      (fun out => out.2.filter CanonicalEvent.isFact) = responsesFrame json frame := by
  unfold decodeStreamEventInto responsesFrame
  obtain ⟨members, hmem⟩ : ∃ members, (frameValue frame).asObject = some members := ⟨_, rfl⟩
  rw [hmem]
  cases payloadValue json (frameValue frame) with
  | error e => rfl
  | ok out =>
    obtain ⟨payload, mar⟩ := out
    dsimp only
    split
    · rfl
    · rw [Except.map, filter_decodeOpenaiResponses, dialectName_frame frame payload members hmem]

variable {f : SseFrame}

/-- **A frame that is not read has no facts.** -/
theorem facts_of_skipped {json : SerdeJson} {fa : List CanonicalEvent}
    (hs : carriesObservableFacts .openaiResponsesSse f = false)
    (h : responsesFrame json f = .ok fa) : fa = [] ∧ responsesEvidence (f.event.getD "") = none:= by
  unfold carriesObservableFacts at hs
  rw [if_neg (not_not_intro rfl)] at hs
  split at hs <;> try cases hs
  rename_i name hc hi hf he hev
  have hn : ∀ payload, responsesFacts name payload = [] := by
    unfold responsesFacts
    split <;> simp_all
  constructor
  · unfold responsesFrame at h
    rw [hev] at h
    split at h
    · cases h
    split at h
    · cases h
      rfl
    rw [Option.getD_some, hn] at h
    cases h
    rfl
  · unfold responsesEvidence
    split <;> simp_all

/-! ## Both sides record the same -/

theorem foldl_mergeEvent_filter (ev : List CanonicalEvent) : ∀ u : UsageAccumulator,
    (ev.filter CanonicalEvent.isFact).foldl UsageAccumulator.mergeEvent u =
      ev.foldl UsageAccumulator.mergeEvent u := by
  induction ev with
  | nil => intro u; rfl
  | cons eve ev ih =>
    intro u
    rw [List.foldl_cons]
    cases hf : eve.isFact with
    | true => rw [List.filter_cons_of_pos hf, List.foldl_cons, ih]
    | false =>
      have hu : eve.usage = none := by
        unfold isFact at hf
        simp at hf
        exact hf.1
      rw [List.filter_cons_of_neg (by rw [hf]; exact Bool.false_ne_true), ih]
      simp [mergeEvent, hu]

theorem any_error_filter (ev : List CanonicalEvent) :
    (ev.filter CanonicalEvent.isFact).any (fun event => event.eventType == .error) =
      ev.any fun event => event.eventType == .error := by
  rw [List.any_filter]
  congr 1
  funext event
  unfold isFact
  cases event.eventType == .error <;> simp

namespace StreamEventDecoder

variable (d : StreamEventDecoder)

/-- A decoder with another table of identities. -/
def withIdentity (ids : Option SourceIdentityState) : StreamEventDecoder :=
  { d with sourceIdentity := ids }

/-- A decoder with other counters. -/
def withUsage (usage : UsageAccumulator) : StreamEventDecoder :=
  { d with usage := usage }

/-- What a Responses frame with these facts leaves behind. -/
def record (frame : SseFrame) (facts : List CanonicalEvent) : StreamEventDecoder :=
  (d.noteTerminal (responsesEvidence (frame.event.getD ""))
    (facts.any fun event => event.eventType == .error)).withUsage
      (facts.foldl UsageAccumulator.mergeEvent d.usage)

theorem noteTerminal_eq (evidence : Option TerminalEvidence)
    (s : Bool) : d.noteTerminal evidence s = { d with
        evidence :=
          if s then some .providerError
          else if d.sawTerminalEvent then d.evidence else evidence.or d.evidence
        sawTerminalEvent := d.sawTerminalEvent || evidence.isSome || s
        postTerminalData := d.postTerminalData || (d.sawTerminalEvent && evidence.isSome) } := by
  obtain ⟨_, _, _, _, _, sawTerminalEvent, _, _, postTerminalData, _, _, _⟩ := d
  cases evidence <;> cases s <;> cases sawTerminalEvent <;> cases postTerminalData <;> rfl

/-- The usage of an event, as the dialect counts it. -/
def mergeUsage (adapter : StreamAdapterKind) (u : UsageAccumulator) (event : CanonicalEvent) :
    UsageAccumulator :=
  match event.usage with
  | none => u
  | some usage =>
    if adapter = .anthropicMessagesSse then u.mergeCumulative usage (event.eventType == .usage)
    else u.merge usage (event.eventType == .usage)

theorem foldl_foldUsage (ev : List CanonicalEvent) : ∀ d : StreamEventDecoder,
    ev.foldl foldUsage d = d.withUsage (ev.foldl (mergeUsage d.adapter) d.usage) := by
  induction ev with
  | nil => intro d; rfl
  | cons eve ev ih =>
    intro d
    have ho : d.foldUsage eve = d.withUsage (mergeUsage d.adapter d.usage eve) := by
      unfold foldUsage mergeUsage
      split
      · rfl
      · split <;> rfl
    rw [List.foldl_cons, ho, ih]
    rfl

variable {json : SerdeJson} {d d' : StreamEventDecoder} {ev : List CanonicalEvent}

/-- **The translating side records the facts of each frame.** -/
theorem decodeFrame_records (ha : d.adapter = .openaiResponsesSse)
    (hp : carriesDecodablePayload f = true) (h : d.decodeFrame json f = .ok (d', ev)) :
    ∃ fa ids, responsesFrame json f = .ok fa ∧
      d' = ((d.notePayload f).record f fa).withIdentity ids := by
  unfold decodeFrame at h
  rw [hp, Bool.not_true, if_neg Bool.false_ne_true] at h
  have hn : (d.notePayload f).adapter = .openaiResponsesSse := ha
  dsimp only at h
  split at h
  · cases h
  rename_i ids eve' hd
  cases h
  rw [hn] at hd
  refine ⟨ev.filter isFact, ids, ?_, ?_⟩
  · rw [← facts_of_decode json f (d.notePayload f).sourceIdentity, hd]
    rfl
  -- Responses usage adds up, and the end is told by the name of the frame
  have hm : mergeUsage .openaiResponsesSse = mergeEvent := by
    funext u event
    unfold mergeUsage mergeEvent
    cases event.usage <;> rfl
  rw [foldl_foldUsage, observeTerminal, record, foldl_mergeEvent_filter, any_error_filter,
    noteTerminal_eq, noteTerminal_eq, ← hm]
  simp only [hn]
  rfl

/-- **So does the observing side**, for the frames it reads and for those it skips. -/
theorem observeFrame_records {d : StreamEventDecoder} {frame : SseFrame}
    {fa : List CanonicalEvent} (ha : d.adapter = .openaiResponsesSse)
    (hp : carriesDecodablePayload frame = true)
    (hf : responsesFrame json frame = .ok fa) : ∃ ids, (d.observeFrame json frame).1 =
      ((d.notePayload frame).record frame fa).withIdentity ids := by
  have hn : (d.notePayload frame).adapter = .openaiResponsesSse := ha
  have hm : carriesObservableFacts (d.notePayload frame).adapter frame =
      carriesObservableFacts .openaiResponsesSse frame := by rw [hn]
  unfold observeFrame
  rw [hp, Bool.not_true, if_neg Bool.false_ne_true]
  dsimp only
  rw [hm]
  cases ho : carriesObservableFacts .openaiResponsesSse frame with
  | false =>
    obtain ⟨rfl, hv⟩ := facts_of_skipped ho hf
    refine ⟨(d.notePayload frame).sourceIdentity, ?_⟩
    unfold record
    rw [hv]
    rfl
  | true =>
    rw [Bool.not_true, if_neg Bool.false_ne_true]
    rw [← facts_of_decode json frame (d.notePayload frame).sourceIdentity] at hf
    split
    · rename_i he
      rw [hn] at he
      rw [he] at hf
      cases hf
    · rename_i ids events hd
      rw [hn] at hd
      rw [hd] at hf
      cases hf
      refine ⟨ids, ?_⟩
      unfold record observationSink observeNativeTerminal
      dsimp only
      rw [foldl_mergeEvent_filter, any_error_filter, absorb_foldl, noteTerminal_eq, noteTerminal_eq]
      rfl

/-! ## A stream is decoded frame by frame -/

theorem decodeFrames_append (json : SerdeJson) (fr b : List SseFrame) :
    ∀ d : StreamEventDecoder, d.decodeFrames json (fr ++ b) = match d.decodeFrames json fr with
      | .error e => .error e
      | .ok (d, events) => (d.decodeFrames json b).map fun out => (out.1, events ++ out.2) := by
  induction fr with
  | nil =>
    intro d
    rcases hb : d.decodeFrames json b with e | ⟨d', more⟩ <;>
      simp [decodeFrames, hb, Except.map]
  | cons f fr ih =>
    intro d
    rw [List.cons_append, decodeFrames, decodeFrames]
    rcases d.decodeFrame json f with e | ⟨d₁, first⟩
    · rfl
    dsimp only
    rw [ih]
    rcases d₁.decodeFrames json fr with e | ⟨d₂, more⟩
    · rfl
    dsimp only
    rcases d₂.decodeFrames json b with e | ⟨d₃, last⟩ <;>
      simp [Except.map]

theorem decodeFrame_adapter (h : d.decodeFrame json f = .ok (d', ev)) : d'.adapter = d.adapter := by
  unfold decodeFrame at h
  split at h
  · cases h
    rfl
  dsimp only at h
  split at h
  · nomatch h
  cases h
  rw [foldl_foldUsage, observeTerminal, noteTerminal_eq]
  rfl

/-- A decoder that has framed other bytes. -/
def moved (framing : SseDecoder) (bytesObserved : Nat) (finalized : Bool)
    (d : StreamEventDecoder) : StreamEventDecoder :=
  { d with framing := framing, bytesObserved := bytesObserved, finalized := finalized }

section Moved

variable (json) (framing : SseDecoder) (bytesObserved : Nat) (finalized : Bool)

/-- Decoding has nothing to do with framing. -/
theorem decodeFrame_moved (d : StreamEventDecoder) (f : SseFrame) :
    (d.moved framing bytesObserved finalized).decodeFrame json f =
      (d.decodeFrame json f).map (Prod.map (moved framing bytesObserved finalized) id) := by
  unfold decodeFrame
  split
  · rfl
  simp only [foldl_foldUsage, observeTerminal, noteTerminal_eq, notePayload, moved]
  rcases decodeStreamEventInto json d.adapter (frameValue f) d.sourceIdentity with
    e | ⟨ids, events⟩ <;> rfl

theorem decodeFrames_moved (fr : List SseFrame) : ∀ d : StreamEventDecoder,
    (d.moved framing bytesObserved finalized).decodeFrames json fr =
      (d.decodeFrames json fr).map (Prod.map (moved framing bytesObserved finalized) id) := by
  induction fr with
  | nil => intro d; rfl
  | cons f fr ih =>
    intro d
    rw [decodeFrames, decodeFrames, decodeFrame_moved]
    rcases d.decodeFrame json f with e | ⟨d₁, first⟩
    · rfl
    · simp only [Except.map, Prod.map, ih]
      rcases d₁.decodeFrames json fr with e | ⟨d₂, more⟩ <;> rfl

end Moved

/-- **Pushing pieces decodes the frames that framing finds in them**, or fails with it. -/
theorem pushAll_cases (json : SerdeJson) (c : List (List UInt8)) : ∀ {d : StreamEventDecoder},
    d.finalized = false →
    (∃ framing frames bytesObserved, d.framing.feedAll c = .ok (framing, frames) ∧
      d.pushAll json c =
        (d.decodeFrames json frames).map (Prod.map (moved framing bytesObserved false) id)) ∨
    (∃ e, d.framing.feedAll c = .error e) ∧ ∃ e, d.pushAll json c = .error e := by
  induction c with
  | nil =>
    intro d ho
    refine .inl ⟨d.framing, [], d.bytesObserved, rfl, ?_⟩
    simp [pushAll, decodeFrames, Except.map, moved, ← ho]
  | cons bytes c ih =>
    intro d ho
    rw [SseDecoder.feedAll, pushAll, push, ho, if_neg Bool.false_ne_true]
    dsimp only [countBytes]
    rcases hf : d.framing.feed bytes with e | ⟨fra₁, frm₁⟩
    · exact .inr ⟨⟨e, rfl⟩, _, rfl⟩
    dsimp only
    have hp := decodeFrames_moved json fra₁ (saturatingAdd d.bytesObserved bytes.length)
      false frm₁ d
    rw [moved, ho.symm] at hp
    rw [hp]
    rcases hr : d.decodeFrames json frm₁ with e | ⟨d₁, events⟩
    · rcases fra₁.feedAll c with e' | ⟨framing, frames⟩
      · exact .inr ⟨⟨e', rfl⟩, _, rfl⟩
      refine .inl ⟨framing, _, 0, rfl, ?_⟩
      rw [decodeFrames_append, hr]
      rfl
    · rcases ih (d := d₁.moved fra₁ (saturatingAdd d.bytesObserved bytes.length) false) rfl with
        ⟨framing, frames, bytesObserved, hf, hp⟩ | ⟨⟨e, hf⟩, e', hp⟩
      · refine .inl ⟨framing, frm₁ ++ frames, bytesObserved, ?_, ?_⟩
        · rw [show fra₁.feedAll c = _ from hf]
        simp only [ho, Except.map, Prod.map, hp, decodeFrames_moved, decodeFrames_append, hr]
        rcases d₁.decodeFrames json frames with e | ⟨d₂, more⟩ <;> rfl
      · refine .inr ⟨⟨e, ?_⟩, e', ?_⟩
        · rw [show fra₁.feedAll c = _ from hf]
        · simp only [ho, Except.map, Prod.map, hp]

/-- **A stream is translated by decoding its frames**, or fails where its framing does. -/
theorem translateStream_cases (json : SerdeJson) (a : StreamAdapterKind) (m : Nat)
    (c : List (List UInt8)) : (∃ frames r framing bytesObserved i,
      SseDecoder.decodeChunks m c = .ok (frames, r) ∧
      translateStream json a m c = ((withLimit a m).decodeFrames json frames).map fun out =>
          (out.2, (out.1.moved framing bytesObserved true).summary i)) ∨
    (∃ e, SseDecoder.decodeChunks m c = .error e) ∧ ∃ e, translateStream json a m c = .error e:= by
  unfold translateStream SseDecoder.decodeChunks
  rcases pushAll_cases json c (d := withLimit a m) rfl with
    ⟨framing, frames, bytesObserved, hf, hp⟩ | ⟨⟨e, hf⟩, e', hp⟩
  · rw [show (SseDecoder.new m).feedAll c = _ from hf, hp]
    dsimp only
    rcases hr : (withLimit a m).decodeFrames json frames with e | ⟨d, events⟩
    · rcases framing.finish with e' | ⟨fra', res⟩
      · exact .inr ⟨⟨e', rfl⟩, e, rfl⟩
      refine .inl ⟨_, _, fra', 0, false, rfl, ?_⟩
      rw [decodeFrames_append, hr]
      rfl
    · have hn : (d.moved framing bytesObserved false).finalizeEvents json =
          match framing.finish with
          | .error e => .error (.framing e)
          | .ok (framing, res) =>
            ((d.decodeFrames json res.frames).map (Prod.map (moved framing bytesObserved true)
              id)).map fun out => (out.1, out.2, out.1.summary res.incompleteFrame) := by
        refine (if_neg Bool.false_ne_true).trans ?_
        dsimp only [moved]
        rcases framing.finish with e | ⟨fra', res⟩
        · rfl
        dsimp only
        rw [← decodeFrames_moved, moved]
        rcases decodeFrames json _ res.frames with e | ⟨d', more⟩ <;> rfl
      dsimp only [Except.map, Prod.map]
      rw [hn]
      rcases framing.finish with e | ⟨fra', res⟩
      · exact .inr ⟨⟨e, rfl⟩, _, rfl⟩
      refine .inl ⟨_, _, fra', bytesObserved, res.incompleteFrame, rfl, ?_⟩
      rw [decodeFrames_append, hr]
      dsimp only
      rcases d.decodeFrames json res.frames with e | ⟨d', more⟩ <;> rfl
  · rw [show (SseDecoder.new m).feedAll c = _ from hf, hp]
    exact .inr ⟨⟨e, rfl⟩, e', rfl⟩

/-! ## The observer follows the translator -/

/-- The observing side knows what the translating side knows, identities apart. -/
structure Follows (t n : StreamEventDecoder) : Prop where
  responses : t.adapter = .openaiResponsesSse
  same : ∃ ids, n = t.withIdentity ids

variable {t n : StreamEventDecoder}

theorem Follows.summary_eq (h : Follows t n) (incomplete : Bool) :
    n.summary incomplete = t.summary incomplete := by
  obtain ⟨ids, rfl⟩ := h.same
  rfl

variable {t' : StreamEventDecoder}

theorem Follows.observeFrame (hl : Follows t n) (h : t.decodeFrame json f = .ok (t', ev)) :
    Follows t' (n.observeFrame json f).1 := by
  obtain ⟨hr, ids, rfl⟩ := hl
  cases hp : carriesDecodablePayload f with
  | false =>
    unfold decodeFrame at h
    unfold StreamEventDecoder.observeFrame
    rw [hp, Bool.not_false] at h ⊢
    cases h
    exact ⟨hr, ids, rfl⟩
  | true =>
    obtain ⟨fac, ids', hf, rfl⟩ := decodeFrame_records hr hp h
    obtain ⟨ids'', ho⟩ :=
      observeFrame_records (d := t.withIdentity ids) hr hp hf
    refine ⟨?_, ids'', ?_⟩
    · rwa [record, noteTerminal_eq]
    rw [ho, show (t.withIdentity ids).notePayload f =
      (t.notePayload f).withIdentity ids from rfl, record, record, noteTerminal_eq,
      noteTerminal_eq]
    rfl

theorem Follows.observeFrames {fr : List SseFrame} (hf : Follows t n)
    (h : t.decodeFrames json fr = .ok (t', ev)) : Follows t' (n.observeFrames json fr).1 := by
  fun_induction decodeFrames json t fr generalizing n ev with
  | case1 => cases h; exact hf
  | case4 t frame frames t₁ first ho t₂ more hr ih =>
    cases h
    exact ih (hf.observeFrame ho) hr
  | _ => cases h

theorem Follows.observeNativePush {b : List UInt8}
    (hl : Follows t n) (h : t.push json b = .ok (t', ev)) :
    ∃ n' observation, n.observeNativePush json b = .ok (n', observation) ∧ Follows t' n' := by
  obtain ⟨hr, ids, rfl⟩ := hl
  unfold push at h
  unfold StreamEventDecoder.observeNativePush
  split at h
  · cases h
  rename_i ho
  dsimp only at h
  split at h
  · cases h
  rename_i framing frames hf
  rw [if_neg (show ¬ (t.withIdentity ids).finalized = true from ho)]
  dsimp only
  rw [show ((t.withIdentity ids).countBytes b).framing.feed b = .ok (framing, frames) from hf]
  have hm : Follows { t.countBytes b with framing := framing }
      { (t.withIdentity ids).countBytes b with framing := framing } := ⟨hr, ids, rfl⟩
  exact ⟨_, _, rfl, hm.observeFrames h⟩

theorem Follows.observeAll {c : List (List UInt8)} (hf : Follows t n)
    (h : t.pushAll json c = .ok (t', ev)) :
    ∃ n' o, n.observeAll json c = .ok (n', o) ∧ Follows t' n' := by
  fun_induction pushAll json t c generalizing n ev with
  | case1 => cases h; exact ⟨n, [], rfl, hf⟩
  | case4 t bytes c t₁ first ho t₂ more hr ih =>
    cases h
    obtain ⟨n₁, observation, hb, hn⟩ := hf.observeNativePush ho
    obtain ⟨n', o, hall, hl⟩ := ih hn hr
    refine ⟨n', observation :: o, ?_, hl⟩
    unfold StreamEventDecoder.observeAll
    rw [hb]
    dsimp only
    rw [hall]
  | _ => cases h

theorem Follows.finalizeObserved {events : List CanonicalEvent}
    {su : StreamTerminalSummary} (hl : Follows t n)
    (h : t.finalizeEvents json = .ok (t', events, su)) :
    ∃ n', n.finalizeObserved json = .ok (n', su) := by
  obtain ⟨hr, ids, rfl⟩ := hl
  unfold finalizeEvents at h
  unfold StreamEventDecoder.finalizeObserved
  split at h
  · rename_i hd
    cases h
    rw [if_pos (show (t.withIdentity ids).finalized = true from hd)]
    exact ⟨_, rfl⟩
  · rename_i ho
    split at h
    · cases h
    rename_i framing res hf
    rw [if_neg (show ¬ (t.withIdentity ids).finalized = true from ho),
      show (t.withIdentity ids).framing.finish = .ok (framing, res) from hf]
    split at h
    · cases h
    rename_i hfr
    cases h
    have hm : Follows { t with finalized := true, framing := framing }
        { t.withIdentity ids with finalized := true, framing := framing } :=
      ⟨hr, ids, rfl⟩
    exact ⟨_, congrArg (fun s => Except.ok (_, s))
      ((hm.observeFrames hfr).summary_eq res.incompleteFrame)⟩

/--
**Watching a Responses stream tells as much as translating it.** Whenever the translation of
a stream runs to its end, so does the observation of the same pieces, and the summaries are
equal: the terminal evidence, the outcome, the usage and everything else.
-/
theorem observeStream_of_translateStream (json : SerdeJson) (maxFrameBytes : Nat)
    (chunks : List (List UInt8)) (events : List CanonicalEvent) (summary : StreamTerminalSummary)
    (h : translateStream json .openaiResponsesSse maxFrameBytes chunks = .ok (events, summary)) :
    ∃ observations,
      observeStream json .openaiResponsesSse maxFrameBytes chunks = .ok (observations, summary) := by
  unfold translateStream at h
  split at h
  · cases h
  rename_i hpush
  split at h
  · cases h
  rename_i hfinal
  cases h
  have hstart : Follows (withLimit .openaiResponsesSse maxFrameBytes)
      (withLimit .openaiResponsesSse maxFrameBytes) := ⟨rfl, some .empty, rfl⟩
  obtain ⟨n, observations, hobserve, hfollows⟩ := hstart.observeAll hpush
  obtain ⟨n', hfinal'⟩ := hfollows.finalizeObserved hfinal
  refine ⟨observations, ?_⟩
  unfold observeStream
  rw [hobserve]
  dsimp only
  rw [hfinal']

/-- A stream with one skipped frame, whose usage arrives with its end. -/
theorem observeStream_of_short_stream : let json : SerdeJson :=
      { fromStr := fun text =>
          if text = "u" then
            some (.object [("usage", .object [("input_tokens", .number (.posInt 3))])])
          else some (.object [("delta", .string text)])
        toText := fun _ => "" }
    let ascii : String → List UInt8 := fun text => text.toList.map fun c => UInt8.ofNat c.toNat
    let chunks := [ascii "event:response.output_text.delta\ndata:x\n\neve",
      ascii "nt:response.completed\ndata:u\n"]
    ∃ summary observations,
      observeStream json .openaiResponsesSse 64 chunks = .ok (observations, summary) ∧
        summary.outcome = .success ∧ summary.usage = some
          { inputTokens := some 3, totalTokens := some 3, cacheCounterStatus := .notReported } := by
  intro json ascii chunks
  have hrun : (translateStream json .openaiResponsesSse 64 chunks).toOption.any (fun out =>
      out.2.outcome = .success ∧ out.2.usage = some
        { inputTokens := some 3, totalTokens := some 3, cacheCounterStatus := .notReported }) =
      true := by
    decide +kernel
  obtain ⟨⟨events, summary⟩, h, hs⟩ := exists_ok_of_any hrun
  obtain ⟨observations, hobserve⟩ :=
    observeStream_of_translateStream json 64 chunks events summary h
  exact ⟨summary, observations, hobserve, of_decide_eq_true hs⟩

end StreamEventDecoder

end EggPool.Wire
