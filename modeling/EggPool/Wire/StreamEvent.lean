import EggPool.Lib.Table
import EggPool.Lib.Text
import EggPool.Wire.Canonical

/-!
# Provider dialects

`decode_stream_event_into` turns the JSON of one framed event into canonical events. The
source hands it a sink and pushes events one by one; nothing is read back from the sink,
so a decoder here returns the list it pushes. The only failure is a payload that is not a
JSON object, and it comes before the first push.

Two dialects name one call in several frames and keep a table of identities between them.
-/

namespace EggPool.Wire

open EggPool.Lib

inductive StreamAdapterKind where
  | openaiChatSse | openaiResponsesSse | anthropicMessagesSse | geminiInteractionsSse
  | geminiGenerateContentSse
  deriving DecidableEq, Repr

inductive CodecReasonCode where
  | malformedSourceRequest | malformedProviderResponse | malformedProviderEvent
  | unsupportedWireProfile | unsupportedSemanticFeature | lossRejected | resourceLimitViolation
  deriving DecidableEq, Repr

/-- A codec failure; streams never fill in its field and surfaces. -/
structure CodecError where
  reason : CodecReasonCode
  deriving DecidableEq, Repr

/-- Identities that the frames of one stream have to agree on. -/
structure SourceIdentityState where
  itemToCall : Table (Prod.fst : String × String → String)
  completedCalls : Table (Prod.fst : String × Bool → String)
  nextSyntheticCall : Nat

namespace SourceIdentityState

/-- `SourceIdentityState::default()`. -/
def empty : SourceIdentityState := ⟨.empty, .empty, 0⟩

variable (state : SourceIdentityState)

def callOf (itemId : String) : Option String :=
  (state.itemToCall.get? itemId).map Prod.snd

def rememberItem (itemId callId : String) : SourceIdentityState :=
  { state with itemToCall := state.itemToCall.insert (itemId, callId) }

def isCompleted (callId : String) : Bool :=
  (state.completedCalls.get? callId).isSome

def complete (callId : String) : SourceIdentityState :=
  { state with completedCalls := state.completedCalls.insert (callId, true) }

end SourceIdentityState

def OPENAI_DONE_SENTINEL : String := "[DONE]"

def isOpenaiDone (data : String) : Bool :=
  trim data == OPENAI_DONE_SENTINEL

def MAX_PROVIDER_ERROR_MESSAGE_BYTES : Nat := 4 * 1024

variable (payload : Map)

def errorEvent : CanonicalEvent :=
  let error := (object (payload.get "error")).getD payload
  { canonicalEvent .error with
    errorType := boundedString (error.get "type") 256
    errorMessage := boundedString (error.get "message") MAX_PROVIDER_ERROR_MESSAGE_BYTES }

/-- The usage event of a payload, if there is a usage object in it. -/
def usageEvents (value : Option Value) (protocol : UsageProtocol) : List CanonicalEvent :=
  match usageFrom value protocol with
  | some usage => [{ canonicalEvent .usage with usage := some usage }]
  | none => []

/-! ## OpenAI chat -/

/-- The events of one entry of `tool_calls`: a start if it names the call, and a fragment. -/
def chatToolCall (call : Map) : List CanonicalEvent :=
  let function := object (call.get "function")
  let idx := index (call.get "index")
  let callId := string (call.get "id")
  let name := function.bind fun function => string (function.get "name")
  let arguments := function.bind fun function => string (function.get "arguments")
  (if callId.isSome || name.isSome then
    [{ canonicalEvent .toolCallStart with index := idx, callId := callId, name := name }]
  else []) ++
  (if arguments.isSome then
    [{ canonicalEvent .toolCallArgumentsDelta with
      index := idx, callId := callId, delta := arguments }]
  else [])

/-- A text that is there and not empty. -/
def chatText (eventType : CanonicalEventType) (value : Option Value) : List CanonicalEvent :=
  match string value with
  | some text => if text.isEmpty then [] else [{ canonicalEvent eventType with delta := some text }]
  | none => []

def chatDelta (delta : Map) : List CanonicalEvent :=
  chatText .textDelta (delta.get "content") ++
  chatText .reasoningDelta (delta.get "reasoning_content") ++
  (((array (delta.get "tool_calls")).getD []).filterMap Value.asObject).flatMap chatToolCall

def decodeOpenaiChat (frame payload : Map) : List CanonicalEvent :=
  if (string (frame.get "data")).any isOpenaiDone then []
  else if string (frame.get "event") == some "error" || payload.containsKey "error" then
    [errorEvent payload]
  else
    match array (payload.get "choices") with
    | none => usageEvents (payload.get "usage") .openai
    | some [] => usageEvents (payload.get "usage") .openai
    | some (choice :: _) =>
      match choice.asObject with
      | none => []
      | some choice =>
        (match object (choice.get "delta") with
          | some delta => chatDelta delta
          | none => []) ++
        (match string (choice.get "finish_reason") with
          | some reason =>
            [{ canonicalEvent .responseComplete with finishReason := some reason }]
          | none => [])

/-! ## OpenAI Responses -/

def isCallItem (item : Map) : Bool :=
  string (item.get "type") == some "function_call" ||
    string (item.get "type") == some "custom_tool_call"

/-- The item of a payload, if it is a call. -/
def callItem : Option Map :=
  (object (payload.get "item")).filter isCallItem

def invocationId (item : Map) : Option String :=
  (string (item.get "call_id")).or (string (item.get "id"))

def responsesDelta (eventType : CanonicalEventType) (payload : Map) : List CanonicalEvent :=
  match string (payload.get "delta") with
  | some delta => [{ canonicalEvent eventType with delta := some delta }]
  | none => []

variable (state : Option SourceIdentityState)

def responsesItemAdded : Option SourceIdentityState × List CanonicalEvent :=
  match callItem payload with
  | none => (state, [])
  | some item =>
    let state :=
      match state, string (item.get "id"), invocationId item with
      | some state, some itemId, some callId => some (state.rememberItem itemId callId)
      | state, _, _ => state
    (state, [{ canonicalEvent .toolCallStart with
      callId := invocationId item
      name := string (item.get "name") }])

def responsesArgumentsDelta : List CanonicalEvent :=
  match string (payload.get "delta") with
  | none => []
  | some delta =>
    let itemId := string (payload.get "item_id")
    let known := itemId.bind fun itemId => state.bind fun state => state.callOf itemId
    [{ canonicalEvent .toolCallArgumentsDelta with
      callId := known.or itemId
      delta := some delta }]

/-- A call that is done twice is reported once. -/
def responsesItemDone : Option SourceIdentityState × List CanonicalEvent :=
  match callItem payload with
  | none => (state, [])
  | some item =>
    let stop := { canonicalEvent .toolCallStop with
      callId := invocationId item
      name := string (item.get "name")
      arguments := (string (item.get "arguments")).or (string (item.get "input")) }
    match state, string (item.get "id"), invocationId item with
    | some state, some itemId, some callId =>
      let state := state.rememberItem itemId callId
      if state.isCompleted callId then (some state, [])
      else (some (state.complete callId), [stop])
    | state, _, _ => (state, [stop])

def responsesTerminal (eventType : CanonicalEventType) (reason : String) : List CanonicalEvent :=
  let response := (object (payload.get "response")).getD payload
  usageEvents (response.get "usage") .openai ++
    [{ canonicalEvent eventType with finishReason := some reason }]

/-- The name on the frame, else the one in the payload. -/
def dialectName (frame payload : Map) : String :=
  ((string (frame.get "event")).or (string (payload.get "type"))).getD ""

def decodeOpenaiResponses (frame payload : Map) (state : Option SourceIdentityState) :
    Option SourceIdentityState × List CanonicalEvent :=
  match dialectName frame payload with
  | "response.created" =>
    let response := (object (payload.get "response")).getD payload
    (state, [{ canonicalEvent .responseStart with
      responseId := string (response.get "id")
      model := string (response.get "model") }])
  | "response.output_text.delta" => (state, responsesDelta .textDelta payload)
  | "response.reasoning_summary_text.delta" => (state, responsesDelta .reasoningDelta payload)
  | "response.reasoning_content.delta" => (state, responsesDelta .reasoningDelta payload)
  | "response.output_item.added" => responsesItemAdded payload state
  | "response.function_call_arguments.delta" => (state, responsesArgumentsDelta payload state)
  | "response.custom_tool_call_input.delta" => (state, responsesArgumentsDelta payload state)
  | "response.output_item.done" => responsesItemDone payload state
  | "response.completed" => (state, responsesTerminal payload .responseComplete "completed")
  | "response.incomplete" => (state, responsesTerminal payload .responseIncomplete "incomplete")
  | "response.failed" => (state, responsesTerminal payload .responseIncomplete "failed")
  | "error" => (state, [errorEvent payload])
  | _ => (state, [])

/-! ## Anthropic messages -/

def anthropicMessageStart : List CanonicalEvent :=
  let message := object (payload.get "message")
  { canonicalEvent .responseStart with
    responseId := message.bind fun message => string (message.get "id")
    model := message.bind fun message => string (message.get "model") } ::
  usageEvents (message.bind fun message => message.get "usage") .anthropic

def anthropicBlockStart : List CanonicalEvent :=
  let event := { canonicalEvent .contentStart with index := index (payload.get "index") }
  match object (payload.get "content_block") with
  | some block =>
    if string (block.get "type") = some "tool_use" then
      [{ event with
        eventType := .toolCallStart
        callId := string (block.get "id")
        name := string (block.get "name") }]
    else [event]
  | none => [event]

def anthropicDeltaType (kind : String) : Option CanonicalEventType :=
  match kind with
  | "text_delta" => some .textDelta
  | "thinking_delta" => some .reasoningDelta
  | "input_json_delta" => some .toolCallArgumentsDelta
  | _ => none

def anthropicBlockDelta : List CanonicalEvent :=
  match object (payload.get "delta") with
  | none => []
  | some delta =>
    match anthropicDeltaType ((string (delta.get "type")).getD "") with
    | none => []
    | some eventType =>
      [{ canonicalEvent eventType with
        index := index (payload.get "index")
        delta := ((string (delta.get "text")).or (string (delta.get "thinking"))).or
          (string (delta.get "partial_json")) }]

def anthropicMessageDelta : List CanonicalEvent :=
  let stop := (object (payload.get "delta")).bind fun delta => string (delta.get "stop_reason")
  usageEvents (payload.get "usage") .anthropic ++
  match stop with
  | some stop => [{ canonicalEvent .responseComplete with finishReason := some stop }]
  | none => []

def decodeAnthropic (frame payload : Map) : List CanonicalEvent :=
  match dialectName frame payload with
  | "message_start" => anthropicMessageStart payload
  | "content_block_start" => anthropicBlockStart payload
  | "content_block_delta" => anthropicBlockDelta payload
  | "content_block_stop" =>
    [{ canonicalEvent .contentStop with index := index (payload.get "index") }]
  | "message_delta" => anthropicMessageDelta payload
  | "message_stop" => [canonicalEvent .responseComplete]
  | "error" => [errorEvent payload]
  | _ => []

/-! ## Gemini -/

def interactionsStepStart : List CanonicalEvent :=
  let event := { canonicalEvent .contentStart with index := index (payload.get "index") }
  match object (payload.get "step") with
  | some step =>
    if string (step.get "type") = some "function_call" then
      [{ event with
        eventType := .toolCallStart
        callId := string (step.get "id")
        name := string (step.get "name") }]
    else [event]
  | none => [event]

def interactionsDeltaType (kind : String) : Option CanonicalEventType :=
  match kind with
  | "text" => some .textDelta
  | "thought_summary" => some .reasoningDelta
  | "arguments_delta" => some .toolCallArgumentsDelta
  | _ => none

def interactionsStepDelta : List CanonicalEvent :=
  match object (payload.get "delta") with
  | none => []
  | some delta =>
    match interactionsDeltaType ((string (delta.get "type")).getD "") with
    | none => []
    | some eventType =>
      let content := (object (delta.get "content")).bind fun content => string (content.get "text")
      [{ canonicalEvent eventType with
        index := index (payload.get "index")
        delta := ((string (delta.get "text")).or content).or (string (delta.get "arguments")) }]

def interactionsCompleted : List CanonicalEvent :=
  let interaction := (object (payload.get "interaction")).getD payload
  let status := string (interaction.get "status")
  usageEvents (interaction.get "usage") .gemini ++
  [{ canonicalEvent
      (if status = some "completed" || status = some "requires_action" then .responseComplete
        else .responseIncomplete) with
    finishReason := status }]

def decodeInteractions (frame payload : Map) : List CanonicalEvent :=
  match ((string (frame.get "event")).or (string (payload.get "event_type"))).getD "" with
  | "interaction.created" =>
    let interaction := (object (payload.get "interaction")).getD payload
    [{ canonicalEvent .responseStart with
      responseId := string (interaction.get "id")
      model := string (interaction.get "model") }]
  | "step.start" => interactionsStepStart payload
  | "step.delta" => interactionsStepDelta payload
  | "step.stop" => [{ canonicalEvent .contentStop with index := index (payload.get "index") }]
  | "interaction.completed" => interactionsCompleted payload
  | "error" => [errorEvent payload]
  | _ => []

variable (json : SerdeJson)

/-- A call of `generateContent`: without an identity of its own it gets the next one. -/
def generateContentCall (call : Map) (state : Option SourceIdentityState) :
    Option SourceIdentityState × List CanonicalEvent :=
  let (state, callId) : Option SourceIdentityState × Option String :=
    match string (call.get "id"), state with
    | some id, state => (state, some id)
    | none, some state =>
      let serial := state.nextSyntheticCall
      (some { state with nextSyntheticCall := serial + 1 }, some s!"call_eggpool_{serial}")
    | none, none => (none, none)
  (state,
    [{ canonicalEvent .toolCallStart with callId := callId, name := string (call.get "name") },
      { canonicalEvent .toolCallArgumentsDelta with
        callId := callId
        delta := (string (call.get "args")).or
          (some (json.toText ((call.get "args").getD .null))) }])

def generateContentPart (part : Map) (state : Option SourceIdentityState) :
    Option SourceIdentityState × List CanonicalEvent :=
  let texts :=
    match string (part.get "text") with
    | some text =>
      [{ canonicalEvent
          (if (part.get "thought").bind Value.asBool = some true then .reasoningDelta
            else .textDelta) with
        delta := some text }]
    | none => []
  match object (part.get "functionCall") with
  | some call =>
    let (state, calls) := generateContentCall json call state
    (state, texts ++ calls)
  | none => (state, texts)

def generateContentParts (json : SerdeJson) :
    List Map → Option SourceIdentityState → Option SourceIdentityState × List CanonicalEvent
  | [], state => (state, [])
  | part :: parts, state =>
    let (state, events) := generateContentPart json part state
    let (state, more) := generateContentParts json parts state
    (state, events ++ more)

def decodeGenerateContent (payload : Map)
    (state : Option SourceIdentityState) : Option SourceIdentityState × List CanonicalEvent :=
  let candidate := ((array (payload.get "candidates")).bind List.head?).bind Value.asObject
  let content := candidate.bind fun candidate => object (candidate.get "content")
  let parts := (content.bind fun content => array (content.get "parts")).getD []
  let (state, events) := generateContentParts json (parts.filterMap Value.asObject) state
  let finish :=
    match candidate.bind fun candidate => string (candidate.get "finishReason") with
    | some reason =>
      [{ canonicalEvent (if reason = "STOP" then .responseComplete else .responseIncomplete) with
        finishReason := some reason }]
    | none => []
  (state, events ++ usageEvents (payload.get "usageMetadata") .gemini ++ finish)

/-! ## One event of any dialect -/

def malformedProviderEvent : CodecError := ⟨.malformedProviderEvent⟩

/-- The payload of a frame, or the marker that closes a chat stream. -/
def payloadValue (frame : Value) : Except CodecError (Map × Option String) :=
  match frame.asObject with
  | none => .error malformedProviderEvent
  | some members =>
    match (members.get "data").getD frame with
    | .object payload => .ok (payload, none)
    | .string text =>
      if isOpenaiDone text then .ok ([], some OPENAI_DONE_SENTINEL)
      else
        match (json.fromStr text).bind Value.asObject with
        | some payload => .ok (payload, none)
        | none => .error malformedProviderEvent
    | _ => .error malformedProviderEvent

def decodeStreamEventInto (adapter : StreamAdapterKind) (frame : Value)
    (state : Option SourceIdentityState) :
    Except CodecError (Option SourceIdentityState × List CanonicalEvent) :=
  match frame.asObject with
  | none => .error malformedProviderEvent
  | some members =>
    match payloadValue json frame with
    | .error e => .error e
    | .ok (payload, marker) =>
      if marker.any isOpenaiDone then
        .ok (state,
          if adapter = .openaiChatSse then [canonicalEvent .responseComplete] else [])
      else
        match adapter with
        | .openaiChatSse => .ok (state, decodeOpenaiChat members payload)
        | .openaiResponsesSse => .ok (decodeOpenaiResponses members payload state)
        | .anthropicMessagesSse => .ok (state, decodeAnthropic members payload)
        | .geminiInteractionsSse => .ok (state, decodeInteractions members payload)
        | .geminiGenerateContentSse => .ok (decodeGenerateContent json payload state)

end EggPool.Wire
