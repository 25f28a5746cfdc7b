import EggPool.Wire.Response

/-!
# Responses for the client

The other direction: a canonical response written for a chat, a Messages or a Responses
client. Chat gathers all texts into one member, all thoughts into another and all tool calls
into a list; the other two surfaces write one item for each block, in the order of the blocks.
-/

namespace EggPool.Wire.Finite

open EggPool.Lib

/-- All texts of the blocks of one kind, in one. -/
def joined (kind : CanonicalBlockKind) (output : List CanonicalOutputBlock) : String :=
  String.join ((output.filter fun block => block.kind == kind).filterMap (·.text))

/-- A member for a count that is there. -/
def insertToken (key : String) (value : Option Nat) : Map :=
  value.toList.map fun count => (key, .number (.posInt count))

/-- A member for an object that is not empty. -/
def insertDetails (key : String) (details : Map) : Map :=
  if details.isEmpty then [] else [(key, .object details)]

def encodeOpenaiUsage (usage : CanonicalUsage) : Value :=
  .object (insertToken "prompt_tokens" usage.inputTokens ++
    insertToken "completion_tokens" usage.outputTokens ++
    insertToken "total_tokens" usage.totalTokens ++
    insertDetails "prompt_tokens_details"
      (insertToken "cached_tokens" usage.cacheReadInputTokens ++
        insertToken "cache_write_tokens" usage.cacheWriteInputTokens) ++
    insertDetails "completion_tokens_details"
      (insertToken "reasoning_tokens" usage.reasoningTokens))

def encodeAnthropicUsage (usage : CanonicalUsage) : Value :=
  .object (insertToken "input_tokens" usage.inputTokens ++
    insertToken "output_tokens" usage.outputTokens ++
    insertToken "cache_read_input_tokens" usage.cacheReadInputTokens ++
    insertToken "cache_creation_input_tokens" usage.cacheCreationInputTokens)

/-- A count as `json!` writes it. -/
def countValue : Option Nat → Value
  | some count => .number (.posInt count)
  | none => .null

def encodeResponsesUsage (usage : CanonicalUsage) : Value :=
  .object [("input_tokens", countValue usage.inputTokens),
    ("output_tokens", countValue usage.outputTokens),
    ("total_tokens", countValue usage.totalTokens)]

/-- The member `usage`, if there is a report. -/
def usageMember (encode : CanonicalUsage → Value) (usage : Option CanonicalUsage) : Map :=
  usage.toList.map fun usage => ("usage", encode usage)

def chatFinishReason : String → String
  | "end_turn" => "stop"
  | "stop_sequence" => "stop"
  | "max_tokens" => "length"
  | "model_context_window_exceeded" => "length"
  | "tool_use" => "tool_calls"
  | "pause_turn" => "tool_calls"
  | "refusal" => "content_filter"
  | other => other

def anthropicStopReason : String → String
  | "stop" => "end_turn"
  | "length" => "max_tokens"
  | "tool_calls" => "tool_use"
  | "content_filter" => "refusal"
  | other => other

/-- A text, or `null` for none. -/
def textValue : Option String → Value
  | some text => .string text
  | none => .null

/-- `data:` and a payload in base 64. -/
def dataUri (media : MediaSource) (fallback : String) : Option String :=
  media.data.map fun data => "data:" ++ media.mediaType.getD fallback ++ ";base64," ++ data

/-! ## Chat -/

def wrappedArguments (json : SerdeJson) (arguments : Option String) (toolInput : Option Map)
    (kind : CanonicalToolKind) : String :=
  let text := (arguments.or (toolInput.map (compactJson json))).getD ""
  if kind = .freeform then json.toText (.object [("input", .string text)]) else text

/-- The entry of a content array for a block with media, if its kind has one. -/
def encodeOpenaiMedia (block : CanonicalOutputBlock) : Option Value :=
  block.media.bind fun media =>
    match block.kind with
    | .image =>
      let url := (media.uri.or (dataUri media "application/octet-stream")).getD ""
      some (.object [("type", .string "image_url"), ("image_url", .object (("url", .string url) ::
        media.detail.toList.map fun detail => ("detail", .string detail)))])
    | .document =>
      let data := (media.uri.or (media.fileId.or (dataUri media "application/pdf"))).getD ""
      some (.object [("type", .string "file"), ("file", .object
        [("filename", .string "document.pdf"), ("file_data", .string data)])])
    | _ => none

def encodeOpenaiContent (output : List CanonicalOutputBlock) : Value :=
  let text := joined .text output
  if output.any fun block => block.kind == .image || block.kind == .document then
    .array ((if text.isEmpty then []
      else [.object [("type", .string "text"), ("text", .string text)]]) ++
      output.filterMap encodeOpenaiMedia)
  else .string text

def encodeOpenaiToolCall (json : SerdeJson) (block : CanonicalOutputBlock) : Value :=
  .object [("id", .string (block.callId.getD "")), ("type", .string "function"),
    ("function", .object [("name", .string (block.name.getD "")),
      ("arguments", .string (wrappedArguments json block.arguments none block.toolKind))])]

/-- A member for a text that is not empty. -/
def textMember (key text : String) : Map :=
  if text.isEmpty then [] else [(key, .string text)]

def encodeOpenaiMessage (json : SerdeJson) (output : List CanonicalOutputBlock) : Map :=
  let calls := (output.filter fun block => block.kind == .toolCall).map (encodeOpenaiToolCall json)
  [("role", .string "assistant"), ("content", encodeOpenaiContent output)] ++
    textMember "reasoning_content" (joined .reasoning output) ++
    textMember "refusal" (joined .refusal output) ++
    if calls.isEmpty then [] else [("tool_calls", .array calls)]

def validateOutputBlocks (response : CanonicalResponse) (target : WireSurface) :
    Except CodecError Unit :=
  if response.output.any fun block => block.kind == .toolResult || block.kind == .audio then
    .error (codecError .unsupportedSemanticFeature "output.content" none (some target))
  else .ok ()

def openaiChoice (json : SerdeJson) (response : CanonicalResponse) : Map :=
  [("index", .number (.posInt 0)),
    ("message", .object (encodeOpenaiMessage json response.output)),
    ("finish_reason", textValue (response.finishReason.map chatFinishReason))]

def openaiBody (json : SerdeJson) (response : CanonicalResponse) : Map :=
  [("id", .string (response.responseId.getD "")), ("object", .string "chat.completion"),
    ("model", .string (response.model.getD "")),
    ("choices", .array [.object (openaiChoice json response)])] ++
    usageMember encodeOpenaiUsage response.usage

def encodeOpenaiResponse (json : SerdeJson) (response : CanonicalResponse) :
    Except CodecError (CodecOutput Value) := do
  validateOutputBlocks response .openaiChatCompletions
  .ok ⟨.object (openaiBody json response), []⟩

/-! ## Messages -/

/-- The arguments of a call as an object. -/
def callInput (json : SerdeJson) (block : CanonicalOutputBlock) : Except CodecError Value :=
  let malformed := codecError .malformedProviderResponse "output.tool_call.arguments" none
    (some .anthropicMessages)
  let arguments := block.arguments.getD "\x7b\x7d"
  if block.toolKind = .freeform then .ok (.object [("input", .string arguments)])
  else
    match json.fromStr arguments with
    | some (.object input) => .ok (.object input)
    | _ => .error malformed

/-- Where the media of a block come from; data are preferred. -/
def encodeAnthropicSource (kind : CanonicalBlockKind) (media : MediaSource) : Option Value :=
  match media.data, media.uri, media.fileId with
  | some data, _, _ =>
    let fallback := if kind = .document then "application/pdf" else "application/octet-stream"
    some (.object [("type", .string "base64"),
      ("media_type", .string (media.mediaType.getD fallback)), ("data", .string data)])
  | none, some uri, _ => some (.object [("type", .string "url"), ("url", .string uri)])
  | none, none, some fileId =>
    some (.object [("type", .string "file_id"), ("file_id", .string fileId)])
  | none, none, none => none

/-- The content entry of one block, with the notices it costs. -/
def encodeAnthropicBlock (json : SerdeJson) (block : CanonicalOutputBlock) :
    Except CodecError (Value × List AdaptationNotice) :=
  let unsupportedField (field : String) : CodecError :=
    codecError .unsupportedSemanticFeature field none (some .anthropicMessages)
  let text : Value :=
    .object [("type", .string "text"), ("text", .string (block.text.getD ""))]
  match block.kind with
  | .text => .ok (text, [])
  | .refusal => .ok (text,
      [notice "refusal_not_representable" "output.refusal" none (some .anthropicMessages)])
  | .reasoning => .ok (.object [("type", .string "thinking"),
      ("thinking", .string (block.text.getD ""))], [])
  | .toolCall => do
    let input ← callInput json block
    .ok (.object [("type", .string "tool_use"), ("id", .string (block.callId.getD "")),
      ("name", .string (block.name.getD "")), ("input", input)], [])
  | .toolResult => .error (unsupportedField "output.tool_result")
  | .image | .document =>
    match block.media.bind (encodeAnthropicSource block.kind) with
    | some source => .ok (.object [("type", .string
        (if block.kind = .document then "document" else "image")), ("source", source)], [])
    | none => .error (unsupportedField "output.content.media")
  | .audio => .error (unsupportedField "output.content")

def anthropicBody (response : CanonicalResponse) (content : List Value) : Map :=
  [("id", .string (response.responseId.getD "")), ("type", .string "message"),
    ("role", .string "assistant"), ("model", .string (response.model.getD "")),
    ("content", .array content),
    ("stop_reason", textValue (response.finishReason.map anthropicStopReason))] ++
    usageMember encodeAnthropicUsage response.usage

def encodeAnthropicResponse (json : SerdeJson) (response : CanonicalResponse) :
    Except CodecError (CodecOutput Value) := do
  let blocks ← collect (encodeAnthropicBlock json) response.output
  .ok ⟨.object (anthropicBody response (blocks.map Prod.fst)), blocks.flatMap Prod.snd⟩

/-! ## Responses -/

/-- A message item with one entry. -/
def messageItem (entry : Map) : Value :=
  .object [("type", .string "message"), ("role", .string "assistant"),
    ("content", .array [.object entry])]

/-- The arguments of a tool search; what is not an object counts as empty. -/
def searchInput (json : SerdeJson) (arguments : Option String) : Value :=
  match arguments.bind json.fromStr with
  | some (.object input) => .object input
  | _ => .object []

def encodeResponsesBlock (json : SerdeJson) (block : CanonicalOutputBlock) :
    Except CodecError Value :=
  let unsupportedField (field : String) : CodecError :=
    codecError .unsupportedSemanticFeature field none (some .openaiResponses)
  let text : Value := .string (block.text.getD "")
  match block.kind with
  | .text => .ok (messageItem [("type", .string "output_text"), ("text", text)])
  | .refusal => .ok (messageItem [("type", .string "refusal"), ("refusal", text)])
  | .reasoning => .ok (.object [("type", .string "reasoning"),
      ("summary", .array [.object [("type", .string "summary_text"), ("text", text)]])])
  | .toolCall =>
    match block.toolKind with
    | .freeform => .ok (.object [("type", .string "custom_tool_call"),
        ("call_id", .string (block.callId.getD "")), ("name", .string (block.name.getD "")),
        ("input", .string (block.arguments.getD ""))])
    | .deferredSearch => .ok (.object [("type", .string "tool_search_call"),
        ("execution", .string (if block.callId.isSome then "client" else "server")),
        ("call_id", textValue block.callId), ("status", .string "completed"),
        ("arguments", searchInput json block.arguments)])
    | .function => .ok (.object [("type", .string "function_call"),
        ("call_id", .string (block.callId.getD "")), ("name", .string (block.name.getD "")),
        ("arguments", .string (block.arguments.getD ""))])
  | .image | .document =>
    match block.media with
    | none => .error (unsupportedField "output.media")
    | some media =>
      let url := (media.uri.or (media.fileId.or (dataUri media "application/octet-stream"))).getD ""
      .ok (messageItem [("type", .string
        (if block.kind = .document then "output_file" else "output_image")), ("url", .string url)])
  | .toolResult | .audio => .error (unsupportedField "output")

def responsesBody (response : CanonicalResponse) (items : List Value) : Map :=
  [("id", .string (response.responseId.getD "")), ("object", .string "response"),
    ("status", .string (response.finishReason.getD "completed")),
    ("model", .string (response.model.getD "")), ("output", .array items)] ++
    usageMember encodeResponsesUsage response.usage

def encodeResponsesResponse (json : SerdeJson) (response : CanonicalResponse) :
    Except CodecError (CodecOutput Value) := do
  let items ← collect (encodeResponsesBlock json) response.output
  .ok ⟨.object (responsesBody response items), []⟩

/-! ## Any client -/

def encodeForClient (json : SerdeJson) (response : CanonicalResponse) :
    ClientSurface → Except CodecError (CodecOutput Value)
  | .chatCompletions => encodeOpenaiResponse json response
  | .messages => encodeAnthropicResponse json response
  | .responses => encodeResponsesResponse json response

/-- The provider response decoder of the surface that a client speaks. -/
def decodeForSurface (json : SerdeJson) (payload : Value) (status : Nat) :
    ClientSurface → Except CodecError (CodecOutput DecodedProviderPayload)
  | .chatCompletions => decodeOpenaiResponse payload status
  | .messages => decodeAnthropicResponse json payload status
  | .responses => decodeResponsesResponse json payload status

end EggPool.Wire.Finite
