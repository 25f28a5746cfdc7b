import EggPool.Wire.StreamEvent

/-!
# Canonical events as a Responses stream

The encoder for Responses clients keeps the items it has opened: at most one message, at
most one reasoning item, and the calls by their identity. An event closes and opens items
as it needs, so one call of `encode` may build several frames.

A call that fails returns none of the frames it has built. What it has done to the state
stays: the Rust code works on `&mut self` and leaves through `?`. `Encoding` is such a call
at any point of it, so the frames that were built and the state are there in both cases,
and `encode` drops the frames of a failed one.

Counters are natural numbers; the source adds to them with saturation.
-/

namespace EggPool.Wire

open EggPool.Lib

inductive CanonicalToolKind where
  | function | freeform | deferredSearch
  deriving DecidableEq, Repr

/-- What the encoder reads of a declared tool. -/
structure CanonicalTool where
  name : String
  kind : CanonicalToolKind
  deriving DecidableEq, Repr

def MAX_TRANSLATED_ITEM_BYTES : Nat := 256 * 1024
def MAX_TRANSLATED_STREAM_BYTES : Nat := 512 * 1024
def MAX_ACTIVE_TOOL_CALLS : Nat := 32
def MAX_TOOL_SEARCH_QUERY_BYTES : Nat := 8 * 1024
def MAX_TOOL_SEARCH_ARGS_BYTES : Nat := 16 * 1024

/-- A message or a reasoning item that is open. -/
structure TranslatedTextItem where
  id : String
  outputIndex : Nat
  text : String
  deriving DecidableEq, Repr

structure TranslatedToolItem where
  (itemId callId name : String)
  outputIndex : Nat
  sourceIndex : Option Nat
  arguments : String
  toolKind : CanonicalToolKind
  deriving DecidableEq, Repr

/-- One server-sent event for the client. -/
structure ClientFrame where
  name : String
  payload : Map

variable (json : SerdeJson)

/-- The bytes of a frame. -/
def ClientFrame.sse (frame : ClientFrame) : List UInt8 :=
  ("event: " ++ frame.name ++ "\ndata: " ++ json.toText (.object frame.payload) ++
    "\n\n").toUTF8.toList

structure ResponsesEncoderState where
  responseId : String
  model : Option String
  (sequenceNumber nextOutputIndex nextItemId : Nat)
  (activeMessage activeReasoning : Option TranslatedTextItem)
  activeTools : Table TranslatedToolItem.callId
  toolKinds : Table (Prod.fst : String × CanonicalToolKind → String)
  indexToCall : Table (Prod.fst : Nat × String → Nat)
  retainedBytes : Nat
  usage : Option CanonicalUsage
  (created terminalEmitted : Bool)

/-- A call of the encoder: the state it has reached, the frames it has built, its failure. -/
structure Encoding where
  state : ResponsesEncoderState
  out : List ClientFrame
  error : Option CodecError

/-- The `?` of the source: go on unless the call has failed. -/
def Encoding.andThen (e : Encoding) (next : ResponsesEncoderState → Encoding) : Encoding :=
  match e.error with
  | some _ => e
  | none =>
    let later := next e.state
    ⟨later.state, e.out ++ later.out, later.error⟩

def resourceLimitViolation : CodecError := ⟨.resourceLimitViolation⟩

/-! ## Items as JSON -/

def number (n : Nat) : Value := .number (.posInt n)

def messageItem (item : TranslatedTextItem) (status : String) : Value :=
  .object [
    ("id", .string item.id),
    ("type", .string "message"),
    ("role", .string "assistant"),
    ("status", .string status),
    ("content", .array [.object [
      ("type", .string "output_text"), ("text", .string item.text), ("annotations", .array [])]])]

def reasoningItem (item : TranslatedTextItem) (status : String) : Value :=
  .object [
    ("id", .string item.id),
    ("type", .string "reasoning"),
    ("status", .string status),
    ("summary", .array [.object [("type", .string "summary_text"), ("text", .string item.text)]])]

def functionItem (item : TranslatedToolItem) (status : String) : Value :=
  match item.toolKind with
  | .freeform =>
    .object [
      ("id", .string item.itemId),
      ("type", .string "custom_tool_call"),
      ("call_id", .string item.callId),
      ("name", .string item.name),
      ("input", .string item.arguments),
      ("status", .string status)]
  | .deferredSearch =>
    .object [
      ("id", .string item.itemId),
      ("type", .string "tool_search_call"),
      ("execution", .string "client"),
      ("call_id", .string item.callId),
      ("status", .string status),
      ("arguments", .object (((json.fromStr item.arguments).bind Value.asObject).getD []))]
  | .function =>
    .object [
      ("id", .string item.itemId),
      ("type", .string "function_call"),
      ("call_id", .string item.callId),
      ("name", .string item.name),
      ("arguments", .string item.arguments),
      ("status", .string status)]

def putToken (out : Map) (key : String) (value : Option Nat) : Map :=
  match value with
  | some value => out.insert key (number value)
  | none => out

/-- `usage_value` for the OpenAI protocol. -/
def usageValue (usage : CanonicalUsage) : Value :=
  let out := putToken [] "prompt_tokens" usage.inputTokens
  let out := putToken out "completion_tokens" usage.outputTokens
  let out := putToken out "total_tokens" usage.totalTokens
  let details := putToken [] "cached_tokens" usage.cacheReadInputTokens
  let details := putToken details "cache_write_tokens" usage.cacheWriteInputTokens
  .object (if details.isEmpty then out else out.insert "prompt_tokens_details" (.object details))

/-! ## The arguments of a call that is closed -/

/-- A freeform call carries its input as the only member of an object. -/
def unwrapFreeformArguments (arguments : String) : Except CodecError String :=
  match (json.fromStr arguments).bind Value.asObject with
  | some members =>
    if members.length = 1 then
      match string (members.get "input") with
      | some input => .ok input
      | none => .error malformedProviderEvent
    else .error malformedProviderEvent
  | none => .error malformedProviderEvent

/-- A positive whole number of results, at most a thousand. -/
def isSearchLimit : Value → Bool
  | .number (.posInt n) => 0 < n && n ≤ 1000
  | .number (.float value) => 0 < value && value ≤ 1000 && value.den == 1
  | _ => false

def validateToolSearchArgumentsValue (value : Value) : Option String :=
  match value.asObject with
  | none => none
  | some members =>
    if members.length > 2 then none
    else if members.any (fun member => member.1.utf8ByteSize > 256 ||
        (member.1 ≠ "query" && member.1 ≠ "limit")) then none
    else
      match string (members.get "query") with
      | none => none
      | some query =>
        if (trim query).isEmpty || query.utf8ByteSize > MAX_TOOL_SEARCH_QUERY_BYTES then none
        else if !(members.get "limit").all isSearchLimit then none
        else
          let encoded := json.toText value
          if encoded.utf8ByteSize > MAX_TOOL_SEARCH_ARGS_BYTES then none else some encoded

def validateToolSearchArgumentsString (arguments : String) : Option String :=
  if arguments.utf8ByteSize > MAX_TOOL_SEARCH_ARGS_BYTES then none
  else
    match (json.fromStr arguments).bind (validateToolSearchArgumentsValue json) with
    | some _ => some arguments
    | none => none

def validateDeferredStreamArguments (arguments : String) : Except CodecError String :=
  match validateToolSearchArgumentsString json arguments with
  | some arguments => .ok arguments
  | none => .error malformedProviderEvent

namespace ResponsesEncoderState

/-- `ResponsesEncoderState::new`, for the serial number it draws. -/
def new (serial : Nat) (tools : List CanonicalTool) : ResponsesEncoderState where
  responseId := s!"resp_eggpool_{serial}"
  model := none
  sequenceNumber := 0
  nextOutputIndex := 0
  nextItemId := 0
  activeMessage := none
  activeReasoning := none
  activeTools := .empty
  toolKinds := tools.foldl (fun kinds tool => kinds.insert (tool.name, tool.kind)) .empty
  indexToCall := .empty
  retainedBytes := 0
  usage := none
  created := false
  terminalEmitted := false

variable (s : ResponsesEncoderState)

/-- Nothing to do. -/
def pass : Encoding := ⟨s, [], none⟩

def fail (error : CodecError) : Encoding := ⟨s, [], some error⟩

def itemId (tag : String) : String :=
  let serial := s.nextItemId
  s!"{tag}_eggpool_{serial}"

/-- The state once `item_id` and `output_index` have been drawn for a new item. -/
def drawItem : ResponsesEncoderState :=
  { s with nextItemId := s.nextItemId + 1, nextOutputIndex := s.nextOutputIndex + 1 }

/-- The frame that is built with the next sequence number. -/
def numbered (name : String) (payload : Map) : ClientFrame where
  name := name
  payload := (payload.insert "type" (.string name)).insert "sequence_number"
    (number s.sequenceNumber)

def frame (name : String) (payload : Map) : Encoding where
  state := { s with sequenceNumber := s.sequenceNumber + 1 }
  out := [s.numbered name payload]
  error := none

def responseFrame (name : String) (payload : Map) : Encoding :=
  s.frame name (payload.insert "response_id" (.string s.responseId))

def createdFrame : Encoding :=
  let response : Map :=
    [("id", .string s.responseId), ("object", .string "response"),
      ("status", .string "in_progress")]
  let response :=
    match s.model with
    | some model => response.insert "model" (.string model)
    | none => response
  { s with created := true }.frame "response.created" [("response", .object response)]

def ensureCreated (model : Option String) : Encoding :=
  let s := { s with model := s.model.or model }
  if s.created then s.pass else s.createdFrame

/-- Whether another piece of text fits into its item and into the stream. -/
def checkAppend (currentBytes : Nat) (delta : String) : Bool :=
  currentBytes + delta.utf8ByteSize ≤ MAX_TRANSLATED_ITEM_BYTES &&
    s.retainedBytes + delta.utf8ByteSize ≤ MAX_TRANSLATED_STREAM_BYTES

def retain (bytes : Nat) : ResponsesEncoderState :=
  { s with retainedBytes := s.retainedBytes + bytes }

def release (bytes : Nat) : ResponsesEncoderState :=
  { s with retainedBytes := s.retainedBytes - bytes }

/-! ## Closing items -/

/-- The frame that opens or closes an item. -/
def itemFrame (name : String) (outputIndex : Nat) (item : Value) : Encoding :=
  s.responseFrame name [("output_index", number outputIndex), ("item", item)]

def closeMessage (status : String) : Encoding :=
  match s.activeMessage with
  | none => s.pass
  | some item =>
    ({ s with activeMessage := none }.release item.text.utf8ByteSize).itemFrame
      "response.output_item.done" item.outputIndex (messageItem item status)

def closeReasoning (status : String) : Encoding :=
  match s.activeReasoning with
  | none => s.pass
  | some item =>
    ({ s with activeReasoning := none }.release item.text.utf8ByteSize).itemFrame
      "response.output_item.done" item.outputIndex (reasoningItem item status)

/-- Put other arguments in place of those of an item, if they fit. -/
def replaceArguments (item : TranslatedToolItem) (arguments : String) :
    ResponsesEncoderState × Except CodecError TranslatedToolItem :=
  let s := s.release item.arguments.utf8ByteSize
  if s.checkAppend 0 arguments then
    (s.retain arguments.utf8ByteSize, .ok { item with arguments := arguments })
  else (s, .error resourceLimitViolation)

/-- The complete arguments of a stop event stand for the accumulated ones. -/
def completeArguments (item : TranslatedToolItem)
    (complete : Option String) : ResponsesEncoderState × Except CodecError TranslatedToolItem :=
  match complete with
  | some arguments =>
    if item.arguments ≠ arguments then s.replaceArguments item arguments else (s, .ok item)
  | none => (s, .ok item)

/-- The arguments as the client is to see them. -/
def unwrapArguments (s : ResponsesEncoderState) (item : TranslatedToolItem) :
    ResponsesEncoderState × Except CodecError TranslatedToolItem :=
  let unwrapped :=
    match item.toolKind with
    | .function => none
    | .freeform => some (unwrapFreeformArguments json item.arguments)
    | .deferredSearch => some (validateDeferredStreamArguments json item.arguments)
  match unwrapped with
  | none => (s, .ok item)
  | some (.error e) => (s, .error e)
  | some (.ok arguments) => s.replaceArguments item arguments

/-- The event that states the arguments of a call as a whole; a search has none. -/
def argumentsDone (item : TranslatedToolItem) : Encoding :=
  match item.toolKind with
  | .deferredSearch => s.pass
  | .freeform =>
    s.responseFrame "response.custom_tool_call_input.done"
      [("item_id", .string item.itemId), ("output_index", number item.outputIndex),
        ("input", .string item.arguments)]
  | .function =>
    s.responseFrame "response.function_call_arguments.done"
      [("item_id", .string item.itemId), ("output_index", number item.outputIndex),
        ("arguments", .string item.arguments)]

/-- The frames that close a call whose arguments are settled. -/
def emitToolDone (s : ResponsesEncoderState) (item : TranslatedToolItem)
    (status : String) : Encoding :=
  ((s.release item.arguments.utf8ByteSize).argumentsDone item).andThen fun s =>
    s.itemFrame "response.output_item.done" item.outputIndex (functionItem json item status)

def closeTool (s : ResponsesEncoderState) (callId : Option String)
    (complete : Option String) (status : String) : Encoding :=
  match callId.bind s.activeTools.get? with
  | none => s.pass
  | some item =>
    -- from here on the call is no longer active, whatever becomes of it
    match { s with activeTools := s.activeTools.erase item.callId }.completeArguments item
        complete with
    | (s, .error e) => s.fail e
    | (s, .ok item) =>
      match s.unwrapArguments json item with
      | (s, .error e) => s.fail e
      | (s, .ok item) => s.emitToolDone json item status

def closeTools (json : SerdeJson) (s : ResponsesEncoderState) (status : String) :
    List String → Encoding
  | [] => s.pass
  | callId :: calls =>
    (s.closeTool json (some callId) none status).andThen fun s => s.closeTools json status calls

def closeAllTools (s : ResponsesEncoderState) (status : String) : Encoding :=
  s.closeTools json status (s.activeTools.rows.map (·.callId))

/-- Every item is closed before a stream ends. -/
def closeAll (s : ResponsesEncoderState) (status : String) : Encoding :=
  ((s.closeMessage status).andThen fun s => s.closeReasoning status).andThen fun s =>
    s.closeAllTools json status

def emitTerminal (name status : String) : Encoding :=
  if s.terminalEmitted then s.pass
  else
    let response : Map :=
      [("id", .string s.responseId), ("object", .string "response"), ("status", .string status),
        ("output", .array []),
        ("usage", match s.usage with
          | some usage => usageValue usage
          | none => .null)]
    let response :=
      match s.model with
      | some model => response.insert "model" (.string model)
      | none => response
    { s with terminalEmitted := true }.frame name [("response", .object response)]

/-! ## Opening items and adding to them -/

/-- A message item, opened for the first piece of its text. -/
def openMessage : Encoding :=
  if s.activeMessage.isNone then
    let item : TranslatedTextItem := ⟨s.itemId "msg", s.nextOutputIndex, ""⟩
    { s.drawItem with activeMessage := some item }.itemFrame "response.output_item.added"
      item.outputIndex (messageItem item "in_progress")
  else s.pass

def appendMessage (delta : String) : Encoding :=
  match s.activeMessage with
  | none => s.pass
  | some item =>
    if s.checkAppend item.text.utf8ByteSize delta then
      ({ s with activeMessage := some { item with text := item.text ++ delta } }.retain
        delta.utf8ByteSize).responseFrame "response.output_text.delta"
          [("item_id", .string item.id), ("output_index", number item.outputIndex),
            ("content_index", number 0), ("delta", .string delta)]
    else s.fail resourceLimitViolation

def openReasoning : Encoding :=
  if s.activeReasoning.isNone then
    let item : TranslatedTextItem := ⟨s.itemId "rs", s.nextOutputIndex, ""⟩
    { s.drawItem with activeReasoning := some item }.itemFrame "response.output_item.added"
      item.outputIndex (reasoningItem item "in_progress")
  else s.pass

def appendReasoning (delta : String) : Encoding :=
  match s.activeReasoning with
  | none => s.pass
  | some item =>
    if s.checkAppend item.text.utf8ByteSize delta then
      ({ s with activeReasoning := some { item with text := item.text ++ delta } }.retain
        delta.utf8ByteSize).responseFrame "response.reasoning_summary_text.delta"
          [("item_id", .string item.id), ("output_index", number item.outputIndex),
            ("summary_index", number 0), ("content_index", number 0), ("delta", .string delta)]
    else s.fail resourceLimitViolation

/-- The identity of a call that comes without one. -/
def syntheticCallId (index : Option Nat) : String :=
  let serial := index.getD s.nextItemId
  s!"call_eggpool_{serial}"

def isActive (callId : String) : Bool :=
  (s.activeTools.get? callId).isSome

/-- Open a call; one that is open already stays as it is. -/
def openTool (s : ResponsesEncoderState) (callId name : String)
    (sourceIndex : Option Nat) (toolKind : CanonicalToolKind)
    (indexToCall : Table (Prod.fst : Nat × String → Nat)) : Encoding :=
  if s.isActive callId then s.pass
  else if s.activeTools.size ≥ MAX_ACTIVE_TOOL_CALLS then s.fail resourceLimitViolation
  else
    let item : TranslatedToolItem :=
      ⟨s.itemId "fc", callId, name, s.nextOutputIndex, sourceIndex, "", toolKind⟩
    { s.drawItem with
      activeTools := s.activeTools.insert item
      indexToCall := indexToCall }.itemFrame "response.output_item.added" item.outputIndex
        (functionItem json item "in_progress")

/-- A call that starts: its kind is the one its name was declared with. -/
def startTool (s : ResponsesEncoderState) (event : CanonicalEvent) : Encoding :=
  let callId := event.callId.getD (s.syntheticCallId event.index)
  let name := event.name.getD ""
  s.openTool json callId name event.index (((s.toolKinds.get? name).map Prod.snd).getD .function)
    (match event.index with
      | some index => s.indexToCall.insert (index, callId)
      | none => s.indexToCall)

/-- The call an argument fragment belongs to. -/
def argumentsCallId (event : CanonicalEvent) : String :=
  (event.callId.or (event.index.bind fun index => (s.indexToCall.get? index).map Prod.snd)).getD
    (s.syntheticCallId event.index)

def appendArguments (callId delta : String) : Encoding :=
  match s.activeTools.get? callId with
  | none => s.pass
  | some item =>
    if s.checkAppend item.arguments.utf8ByteSize delta then
      let s := { s with
        activeTools := s.activeTools.update (fun item => item.callId = callId)
          (fun item => { item with arguments := item.arguments ++ delta }) (fun _ => rfl) }
      let s := s.retain delta.utf8ByteSize
      -- a search has no event for its fragments
      match item.toolKind with
      | .deferredSearch => s.pass
      | .freeform =>
        s.responseFrame "response.custom_tool_call_input.delta"
          [("item_id", .string item.itemId), ("output_index", number item.outputIndex),
            ("delta", .string delta)]
      | .function =>
        s.responseFrame "response.function_call_arguments.delta"
          [("item_id", .string item.itemId), ("output_index", number item.outputIndex),
            ("delta", .string delta)]
    else s.fail resourceLimitViolation

/-- The open call that a source index belongs to. -/
def callAtIndex (index : Option Nat) : Option String :=
  index.bind fun index =>
    (s.activeTools.rows.find? fun item => item.sourceIndex = some index).map (·.callId)

def errorPayload (event : CanonicalEvent) : Map :=
  [("error", .object [
    ("type", .string (event.errorType.getD "error")),
    ("message", .string (event.errorMessage.getD ""))])]

/-- What an event does once the stream is created. -/
def encodeEvent (s : ResponsesEncoderState) (event : CanonicalEvent) : Encoding :=
  match event.eventType with
  | .textDelta =>
    ((s.closeReasoning "completed").andThen openMessage).andThen fun s =>
      s.appendMessage (event.delta.getD "")
  | .reasoningDelta =>
    ((s.closeMessage "completed").andThen openReasoning).andThen fun s =>
      s.appendReasoning (event.delta.getD "")
  | .toolCallStart =>
    ((s.closeMessage "completed").andThen fun s => s.closeReasoning "completed").andThen fun s =>
      s.startTool json event
  | .toolCallArgumentsDelta =>
    let callId := s.argumentsCallId event
    (s.openTool json callId "" event.index .function s.indexToCall).andThen fun s =>
      s.appendArguments callId (event.delta.getD "")
  | .toolCallStop => s.closeTool json event.callId event.arguments "completed"
  | .contentStop => s.closeTool json (s.callAtIndex event.index) none "completed"
  | .responseComplete =>
    (s.closeAll json "completed").andThen fun s => s.emitTerminal "response.completed" "completed"
  | .responseIncomplete =>
    (s.closeAll json "incomplete").andThen fun s =>
      if event.finishReason = some "failed" then s.emitTerminal "response.failed" "failed"
      else s.emitTerminal "response.incomplete" "incomplete"
  | .error =>
    (s.closeAll json "incomplete").andThen fun s =>
      { s with terminalEmitted := true }.responseFrame "error" (errorPayload event)
  | .responseStart => s.pass
  | .usage => s.pass
  | .contentStart => s.pass
  | .reasoningStart => s.pass
  | .reasoningStop => s.pass

/-- The usage of an event replaces the usage of earlier ones. -/
def noteUsage (event : CanonicalEvent) : ResponsesEncoderState :=
  { s with usage := event.usage.or s.usage }

/-- `encode_responses` up to its return. -/
def encodeResponses (s : ResponsesEncoderState) (event : CanonicalEvent) : Encoding :=
  if s.terminalEmitted then s.pass
  else (s.ensureCreated event.model).andThen fun s => (s.noteUsage event).encodeEvent json event

/-- One call: the state it leaves, and the frames of a successful one. -/
def encode (s : ResponsesEncoderState) (event : CanonicalEvent) :
    ResponsesEncoderState × Except CodecError (List ClientFrame) :=
  let call := s.encodeResponses json event
  (call.state,
    match call.error with
    | some e => .error e
    | none => .ok call.out)

/-- Successful calls one after another, up to the first failure. -/
def encodeAll (json : SerdeJson) (s : ResponsesEncoderState) :
    List CanonicalEvent → Except CodecError (ResponsesEncoderState × List ClientFrame)
  | [] => .ok (s, [])
  | event :: events =>
    match s.encode json event with
    | (_, .error e) => .error e
    | (s, .ok frames) =>
      match s.encodeAll json events with
      | .error e => .error e
      | .ok (s, more) => .ok (s, frames ++ more)

end ResponsesEncoderState

end EggPool.Wire
