import EggPool.Wire.ChatStream

/-!
# Canonical events as a Messages stream

The encoder for Messages clients holds a completion back. `message_stop` has to be the last
frame and has to follow a `message_delta` with the stop reason and the final usage, and usage
may arrive after the completion. So a completion is only remembered, the next usage closes the
stream with it, and `flush` closes a stream in which none came.

What a sequence of events comes to is `messagesOutput_eq`: the frames of the events before the
first completion, those between it and the next usage, and the closing pair.
-/

namespace EggPool.Wire

open EggPool.Lib List

/-! ## The encoder -/

def canonicalEventName : CanonicalEventType → String
  | .responseStart => "response_start"
  | .contentStart => "content_start"
  | .textDelta => "text_delta"
  | .reasoningStart => "reasoning_start"
  | .reasoningDelta => "reasoning_delta"
  | .reasoningStop => "reasoning_stop"
  | .toolCallStart => "tool_call_start"
  | .toolCallArgumentsDelta => "tool_call_arguments_delta"
  | .toolCallStop => "tool_call_stop"
  | .contentStop => "content_stop"
  | .usage => "usage"
  | .responseComplete => "response_complete"
  | .responseIncomplete => "response_incomplete"
  | .error => "error"

/-- The four counters of a `message_delta`. -/
def messagesUsage : Option CanonicalUsage → Value
  | none => .object []
  | some usage =>
    .object [
      ("input_tokens", number (usage.inputTokens.getD 0)),
      ("output_tokens", number (usage.outputTokens.getD 0)),
      ("cache_read_input_tokens", number (usage.cacheReadInputTokens.getD 0)),
      ("cache_creation_input_tokens", number (usage.cacheCreationInputTokens.getD 0))]

def blockDelta (event : CanonicalEvent) (kind member : String) : ClientFrame where
  name := "content_block_delta"
  payload := [
    ("type", .string "content_block_delta"),
    ("index", number (event.index.getD 0)),
    ("delta", .object [("type", .string kind), (member, .string (event.delta.getD ""))])]

def messageStop : ClientFrame := ⟨"message_stop", [("type", .string "message_stop")]⟩

def encodeAnthropicEvent (event : CanonicalEvent) : ClientFrame :=
  match event.eventType with
  | .responseComplete => messageStop
  | .textDelta => blockDelta event "text_delta" "text"
  | .reasoningDelta => blockDelta event "thinking_delta" "thinking"
  | .toolCallArgumentsDelta => blockDelta event "input_json_delta" "partial_json"
  | .usage =>
    ⟨"message_delta",
      [("type", .string "message_delta"), ("usage", messagesUsage event.usage)]⟩
  -- the other events go under their canonical names
  | eventType =>
    ⟨canonicalEventName eventType, [("type", .string (canonicalEventName eventType))]⟩

/-- The closing `message_delta`, with the stop reason if there is one. -/
def closingDelta (stopReason : String) (usage : Option CanonicalUsage) : ClientFrame where
  name := "message_delta"
  payload := [
    ("type", .string "message_delta"),
    ("delta", .object
      (if stopReason.isEmpty then [] else [("stop_reason", .string stopReason)])),
    ("usage", messagesUsage usage)]

def anthropicTerminator (stopReason : String) (usage : Option CanonicalUsage) : List ClientFrame:=
  [closingDelta stopReason usage, messageStop]

structure ClientTerminalState where
  emitted : Bool := false
  deferredStop : Option String := none
  deriving DecidableEq, Repr

/-- `ClientStreamEncoder::encode_messages`. -/
def encodeMessages (t : ClientTerminalState) (event : CanonicalEvent) :
    ClientTerminalState × List ClientFrame :=
  if t.emitted then (t, [])
  else
    match event.eventType with
    | .responseComplete =>
      ({ t with deferredStop := t.deferredStop.or (some (event.finishReason.getD "")) }, [])
    | .usage =>
      match t.deferredStop with
      | none => (t, [encodeAnthropicEvent event])
      | some stopReason => (⟨true, none⟩, anthropicTerminator stopReason event.usage)
    | _ => (t, [encodeAnthropicEvent event])

/-- `ClientStreamEncoder::flush` of a Messages encoder; for chat it adds nothing. -/
def flushMessages (t : ClientTerminalState) : ClientTerminalState × List ClientFrame :=
  if t.emitted then (t, [])
  else
    match t.deferredStop with
    | none => (t, [])
    | some stopReason => (⟨true, none⟩, anthropicTerminator stopReason none)

/-- All events, then the end. -/
def messagesFrom (t : ClientTerminalState) : List CanonicalEvent → List ClientFrame
  | [] => (flushMessages t).2
  | event :: events => (encodeMessages t event).2 ++ messagesFrom (encodeMessages t event).1 events

variable (events : List CanonicalEvent)

/-- Everything a Messages client is sent. -/
def messagesOutput : List ClientFrame := messagesFrom {} events

/-- Everything a chat client is sent. -/
def chatOutput : List ChatOutput := encodeChatAll false events

/-! ## What a sequence comes to -/

/-- Nothing follows the closing pair. -/
theorem messagesFrom_emitted (ev : List CanonicalEvent) (s : Option String) :
    messagesFrom ⟨true, s⟩ ev = [] := by
  induction ev with
  | nil => rfl
  | cons eve ev ih => exact ih

theorem messagesFrom_cons_open {ev : CanonicalEvent} {t : ClientTerminalState}
    (ho : t.emitted = false) (hc : ev.eventType ≠ .responseComplete)
    (hu : ev.eventType ≠ .usage ∨ t.deferredStop = none) (events : List CanonicalEvent) :
    messagesFrom t (ev :: events) = encodeAnthropicEvent ev :: messagesFrom t events := by
  have he : encodeMessages t ev = (t, [encodeAnthropicEvent ev]) := by
    unfold encodeMessages
    rw [if_neg (by rw [ho]; exact Bool.false_ne_true)]
    split
    · contradiction
    · rename_i hev
      rw [hu.resolve_left (absurd hev)]
    · rfl
  rw [messagesFrom, he]
  rfl

/-- The final usage, if one comes after the completion. -/
def usageAfter : Option CanonicalUsage :=
  (events.find? (·.eventType = .usage)).bind (·.usage)

/-- What goes out between a completion and the usage that closes the stream. -/
def heldOpen : List ClientFrame :=
  ((events.takeWhile (·.eventType ≠ .usage)).filter (·.eventType ≠ .responseComplete)).map
    encodeAnthropicEvent

theorem messagesFrom_deferred (s : String) (ev : List CanonicalEvent) :
    messagesFrom ⟨false, some s⟩ ev = heldOpen ev ++ anthropicTerminator s (usageAfter ev) := by
  unfold heldOpen usageAfter
  induction ev with
  | nil => rfl
  | cons eve ev ih =>
    by_cases hu : eve.eventType = .usage
    · -- the usage closes the stream, and the rest is not sent
      have he : encodeMessages ⟨false, some s⟩ eve =
          (⟨true, none⟩, anthropicTerminator s eve.usage) := by
        unfold encodeMessages
        rw [if_neg Bool.false_ne_true, hu]
      rw [messagesFrom, he, messagesFrom_emitted, takeWhile_cons_of_neg (by simpa using hu),
    find?_cons_of_pos (by simpa using hu)]
      rfl
    rw [takeWhile_cons_of_pos (by simpa using hu), find?_cons_of_neg (by simpa using hu)]
    by_cases hc : eve.eventType = .responseComplete
    · have he : encodeMessages ⟨false, some s⟩ eve =
          (⟨false, some s⟩, []) := by
        unfold encodeMessages
        rw [hc]
        rfl
      rwa [messagesFrom, he, filter_cons_of_neg (by simpa using hc)]
    · rw [messagesFrom_cons_open rfl hc (.inl hu), ih,
        filter_cons_of_pos (by simpa using hc), map_cons, cons_append]

/-- **What a Messages client is sent.** -/
theorem messagesOutput_eq (ev : List CanonicalEvent) :
    messagesOutput ev = (ev.takeWhile isOpen).map encodeAnthropicEvent ++
      match ev.dropWhile isOpen with
      | [] => []
      | complete :: later => heldOpen later ++
          anthropicTerminator (complete.finishReason.getD "") (usageAfter later) := by
  unfold messagesOutput
  induction ev with
  | nil => rfl
  | cons eve ev ih =>
    by_cases hc : eve.eventType = .responseComplete
    · have hl : isOpen eve = false := by rw [isOpen, hc]; rfl
      have he : encodeMessages {} eve =
          (⟨false, some (eve.finishReason.getD "")⟩, []) := by
        unfold encodeMessages
        rw [hc]
        rfl
      rw [messagesFrom, he, messagesFrom_deferred,
        takeWhile_cons_of_neg (by rw [hl]; exact Bool.false_ne_true),
        dropWhile_cons_of_neg (by rw [hl]; exact Bool.false_ne_true)]
      rfl
    · have ho : isOpen eve = true := by simpa [isOpen] using hc
      rw [messagesFrom_cons_open rfl hc (.inr rfl), ih, takeWhile_cons_of_pos ho,
        dropWhile_cons_of_pos ho, map_cons, cons_append]

end EggPool.Wire
