import EggPool.Wire.FiniteUsage

/-!
# Finite responses

A provider's answer in one piece, read from the three OpenAI and Anthropic surfaces and
written for the three kinds of client. The source fills `output` block by block and stops at
the first error; nothing is read back, so a reader here returns the blocks of one item and
`collect` runs it along the list.
-/

namespace EggPool.Wire.Finite

open EggPool.Lib

structure CanonicalOutputBlock where
  kind : CanonicalBlockKind
  text : Option String := none
  media : Option MediaSource := none
  (callId name arguments : Option String := none)
  toolKind : CanonicalToolKind := .function
  deriving DecidableEq, Repr

structure ProviderErrorEvidence where
  status : Nat
  (errorType message : Option String)
  deriving DecidableEq, Repr

structure CanonicalResponse where
  (responseId model : Option String := none)
  output : List CanonicalOutputBlock
  finishReason : Option String := none
  usage : Option CanonicalUsage := none
  providerError : Option ProviderErrorEvidence := none
  deriving DecidableEq

inductive DecodedProviderPayload where
  | response (response : CanonicalResponse)
  | error (evidence : ProviderErrorEvidence)
  deriving DecidableEq

def textOutput (kind : CanonicalBlockKind) (text : String) : CanonicalOutputBlock where
  kind := kind
  text := some text

def toolCallOutput (callId name arguments : String) (toolKind : CanonicalToolKind) :
    CanonicalOutputBlock where
  kind := .toolCall
  callId := some callId
  name := some name
  arguments := some arguments
  toolKind := toolKind

def mediaOutput (kind : CanonicalBlockKind) (media : MediaSource) : CanonicalOutputBlock where
  kind := kind
  media := some media

/-! ## Errors of the provider -/

def truncateMessage (message : String) : String :=
  if message.utf8ByteSize ≤ MAX_PROVIDER_ERROR_MESSAGE_BYTES then message
  else String.ofList (takeBytes MAX_PROVIDER_ERROR_MESSAGE_BYTES message.toList)

/-- What both readers do with the member `error`, once they have it. -/
def errorEvidence (member : Option Value) (status : Nat) (surface : WireSurface) :
    Except CodecError (Option ProviderErrorEvidence) :=
  let malformed := codecError .malformedProviderResponse "error" (some surface) none
  match member with
  | none => if status ≥ 400 then .error malformed else .ok none
  | some raw =>
    match raw.asObject with
    | none => .error malformed
    | some error => do
      let errorType ← optionalString error "type"
      let message ← optionalString error "message"
      if errorType.isNone && message.isNone then .error malformed
      else .ok (some ⟨status, errorType, message.map truncateMessage⟩)

/-- The reader of chat and Messages responses. -/
def decodeProviderError (payload : Value) (status : Nat) (surface : WireSurface) :
    Except CodecError (Option ProviderErrorEvidence) :=
  match payload.asObject with
  | none => if status ≥ 400 then .error (responseError "error") else .ok none
  | some members => errorEvidence (members.get "error") status surface

/-- The reader of Responses responses, for which `null` is no error. -/
def providerError (payload : Value) (status : Nat) (surface : WireSurface) :
    Except CodecError (Option ProviderErrorEvidence) :=
  match payload.asObject with
  | none => if status ≥ 400 then .error (responseError "error") else .ok none
  | some members =>
    errorEvidence ((members.get "error").filter fun raw => !raw.isNull) status surface

def responseObject (payload : Value) (surface : WireSurface) : Except CodecError Map :=
  match payload.asObject with
  | some members => .ok members
  | none => .error (codecError .malformedProviderResponse "response" (some surface) none)

/-! ## Reading a chat response -/

/-- One entry of a content array. -/
def decodeOpenaiContentBlock (item : Value) : Except CodecError CanonicalOutputBlock := do
  let members ← itemObject item "message.content[]"
  let kind ← requiredString members "type" "message.content[].type"
  if kind == "image_url" || kind == "image" || kind == "file" then
    let media ← decodeResponseMedia members kind
    .ok (mediaOutput (if kind == "file" then .document else .image) media)
  else
    match kind with
    | "text" =>
      let text ← requiredString members "text" "message.content[].text"
      .ok (textOutput .text text)
    | "reasoning_content" | "reasoning" =>
      let text ← requiredString members "text" "message.content[].text"
      .ok (textOutput .reasoning text)
    | "refusal" =>
      let text ← requiredString members "refusal" "message.content[].refusal"
      .ok (textOutput .refusal text)
    | _ => .error (unsupported "message.content[].type" .openaiChatCompletions)

def decodeOpenaiContent : Option Value → Except CodecError (List CanonicalOutputBlock)
  | none => .ok []
  | some .null => .ok []
  | some (.string text) => .ok [textOutput .text text]
  | some (.array items) => collect decodeOpenaiContentBlock items
  | some _ => .error (responseError "message.content")

/-- A text that some providers repeat beside the content; the content's own block wins. -/
def decodeMirrored (blocks : List CanonicalOutputBlock) (kind : CanonicalBlockKind)
    (member : Option Value) (field : String) : Except CodecError (List CanonicalOutputBlock) :=
  if blocks.any fun block => block.kind == kind then .ok []
  else
    match member with
    | none => .ok []
    | some (.string text) => .ok [textOutput kind text]
    | some _ => .error (responseError field)

def decodeOpenaiMessageOutput (message : Map) : Except CodecError (List CanonicalOutputBlock):= do
  let blocks ← decodeOpenaiContent (message.get "content")
  let refusal ← decodeMirrored blocks .refusal (message.get "refusal") "message.refusal"
  let reasoning ←
    decodeMirrored blocks .reasoning (message.get "reasoning_content") "message.reasoning_content"
  .ok (blocks ++ refusal ++ reasoning)

def decodeOpenaiToolCall (item : Value) : Except CodecError CanonicalOutputBlock := do
  let members ← itemObject item "tool_calls[]"
  let id ← requiredString members "id" "tool_calls[].id"
  let function ← requiredObject members "function" "tool_calls[].function"
  let name ← requiredString function "name" "tool_calls[].function.name"
  let arguments ← requiredString function "arguments" "tool_calls[].function.arguments"
  .ok (toolCallOutput id name arguments .function)

/-- The tool calls of a message; only a member that is not there stands for none. -/
def decodeOpenaiToolCalls : Option Value → Except CodecError (List CanonicalOutputBlock)
  | none => .ok []
  | some (.array calls) => collect decodeOpenaiToolCall calls
  | some _ => .error (responseError "tool_calls")

/-- The only choice of a response. -/
def onlyChoice (members : Map) : Except CodecError Map := do
  let choices ← requiredArray members "choices" "choices"
  match choices with
  | [] => .error (responseError "choices")
  | [choice] => itemObject choice "choices[]"
  | _ => .error (unsupported "choices" .openaiChatCompletions)

theorem onlyChoice_eq_ok_iff {m c : Map} :
    onlyChoice m = .ok c ↔ m.get "choices" = some (.array [.object c]) := by
  unfold onlyChoice requiredArray
  cases m.get "choices" with
  | none => exact ⟨nofun, nofun⟩
  | some val => cases val with
    | array choices =>
      rcases choices with - | ⟨choice, - | -⟩
      · simp [Wire.array, Value.asArray, bind, Except.bind]
      · cases choice <;>
          simp [Wire.array, Value.asArray, itemObject, Value.asObject, bind, Except.bind]
      · simp [Wire.array, Value.asArray, bind, Except.bind]
    | _ => simp [Wire.array, Value.asArray, bind, Except.bind]

/-- What is read once the choice and its message are found. -/
def decodeOpenaiChoice (members choice message : Map) :
    Except CodecError (CodecOutput DecodedProviderPayload) := do
  let output ← decodeOpenaiMessageOutput message
  let calls ← decodeOpenaiToolCalls (message.get "tool_calls")
  let finishReason ← optionalString choice "finish_reason"
  let responseId ← optionalString members "id"
  let model ← optionalString members "model"
  .ok ⟨.response {
    responseId := responseId
    model := model
    output := output ++ calls
    finishReason := finishReason
    usage := decodeUsage chatFiniteUsage (members.get "usage") }, []⟩

theorem decodeOpenaiChoice_eq_ok {m c me : Map}
    {output ca : List CanonicalOutputBlock} {finishReason responseId model : Option String}
    (hout : decodeOpenaiMessageOutput me = .ok output)
    (hc : decodeOpenaiToolCalls (me.get "tool_calls") = .ok ca)
    (hf : optionalString c "finish_reason" = .ok finishReason)
    (hid : optionalString m "id" = .ok responseId) (hm : optionalString m "model" = .ok model) :
    decodeOpenaiChoice m c me = .ok ⟨.response {
      responseId := responseId
      model := model
      output := output ++ ca
      finishReason := finishReason
      usage := decodeUsage chatFiniteUsage (m.get "usage") }, []⟩ := by
  unfold decodeOpenaiChoice
  rw [hout, hc, hf, hid, hm]
  rfl

/-- The part of the decoder behind the check for errors. -/
def decodeOpenaiBody (members : Map) : Except CodecError (CodecOutput DecodedProviderPayload) := do
  let choice ← onlyChoice members
  let message ← requiredObject choice "message" "choices[].message"
  decodeOpenaiChoice members choice message

def decodeOpenaiResponse (payload : Value) (status : Nat) :
    Except CodecError (CodecOutput DecodedProviderPayload) := do
  match ← decodeProviderError payload status .openaiChatCompletions with
  | some error => .ok ⟨.error error, []⟩
  | none =>
    let members ← responseObject payload .openaiChatCompletions
    decodeOpenaiBody members

theorem decodeOpenaiResponse_of_no_error {members : Map} {s : Nat} (hs : s < 400)
    (h : members.get "error" = none) :
    decodeOpenaiResponse (.object members) s = decodeOpenaiBody members := by
  have hok : decodeProviderError (.object members) s .openaiChatCompletions = .ok none := by
    simp only [decodeProviderError, Value.asObject, h]
    exact if_neg (by omega)
  rw [decodeOpenaiResponse, hok]
  rfl

/-! ## Reading a Messages response -/

variable (json : SerdeJson)

def compactJson (members : Map) : String :=
  json.toText (.object members)

/-- One entry of `content`. -/
def decodeAnthropicBlock (item : Value) : Except CodecError CanonicalOutputBlock := do
  let members ← itemObject item "content[]"
  let kind ← requiredString members "type" "content[].type"
  match kind with
  | "text" =>
    let text ← requiredString members "text" "content[].text"
    .ok (textOutput .text text)
  | "image" =>
    let media ← decodeResponseMedia members "image"
    .ok (mediaOutput .image media)
  | "document" =>
    let media ← decodeResponseMedia members "document"
    .ok (mediaOutput .document media)
  | "thinking" =>
    let text ← requiredString members "thinking" "content[].thinking"
    .ok (textOutput .reasoning text)
  | "tool_use" =>
    let input ← requiredObject members "input" "content[].input"
    let id ← requiredString members "id" "content[].id"
    let name ← requiredString members "name" "content[].name"
    .ok (toolCallOutput id name (compactJson json input) .function)
  -- `redacted_thinking` has a branch of its own with the same error
  | _ => .error (unsupported "content[].type" .anthropicMessages)

def decodeAnthropicResponse (payload : Value) (status : Nat) :
    Except CodecError (CodecOutput DecodedProviderPayload) := do
  match ← decodeProviderError payload status .anthropicMessages with
  | some error => .ok ⟨.error error, []⟩
  | none =>
    let members ← responseObject payload .anthropicMessages
    let blocks ← requiredArray members "content" "content"
    let output ← collect (decodeAnthropicBlock json) blocks
    let responseId ← optionalString members "id"
    let model ← optionalString members "model"
    let finishReason ← optionalString members "stop_reason"
    .ok ⟨.response {
      responseId := responseId
      model := model
      output := output
      finishReason := finishReason
      usage := decodeUsage anthropicFiniteUsage (members.get "usage") }, []⟩

/-! ## Reading a Responses response -/

/-- One entry of a reasoning item's summary. -/
def decodeSummaryBlock (item : Value) : Except CodecError CanonicalOutputBlock := do
  let members ← itemObject item "output[].summary[]"
  if string (members.get "type") != some "summary_text" then
    .error (unsupported "output[].summary[].type" .openaiResponses)
  else
    let text ← requiredString members "text" "output[].summary[].text"
    .ok (textOutput .reasoning text)

/-- One entry of a message item's content. -/
def decodeResponsesContentBlock (item : Value) : Except CodecError CanonicalOutputBlock := do
  let members ← itemObject item "output[].content[]"
  match string (members.get "type") with
  | some "output_text" =>
    let text ← requiredString members "text" "output[].content[].text"
    .ok (textOutput .text text)
  | some "refusal" =>
    let text ← requiredString members "refusal" "output[].content[].refusal"
    .ok (textOutput .refusal text)
  | some "output_image" =>
    let media ← decodeResponseMedia members "image"
    .ok (mediaOutput .image media)
  | some "output_file" =>
    let media ← decodeResponseMedia members "file"
    .ok (mediaOutput .document media)
  | some _ => .error (unsupported "output[].content[].type" .openaiResponses)
  | none => .error (responseError "output[].content[].type")

/-- The arguments of a tool search, an object or a text. -/
def searchArguments : Option Value → Except CodecError String
  | some (.object arguments) => .ok (json.toText (.object arguments))
  | some (.string text) => .ok text
  | _ => .error (responseError "output[].arguments")

/-- One entry of `output`. -/
def decodeResponsesItem (item : Value) : Except CodecError (List CanonicalOutputBlock) := do
  let members ← itemObject item "output[]"
  match string (members.get "type") with
  | some "function_call" =>
    let callId ← requiredString members "call_id" "output[].call_id"
    let name ← requiredString members "name" "output[].name"
    let arguments ← requiredString members "arguments" "output[].arguments"
    .ok [toolCallOutput callId name arguments .function]
  | some "custom_tool_call" =>
    let callId ← requiredString members "call_id" "output[].call_id"
    let name ← requiredString members "name" "output[].name"
    let input ← requiredString members "input" "output[].input"
    .ok [toolCallOutput callId name input .freeform]
  | some "tool_search_call" =>
    let callId ← optionalString members "call_id"
    let arguments ← searchArguments json (members.get "arguments")
    .ok [{
      kind := .toolCall
      callId := callId
      name := some TOOL_SEARCH_TOOL_NAME
      arguments := some arguments
      toolKind := .deferredSearch }]
  | some "tool_search_output" =>
    let callId ← optionalString members "call_id"
    let tools ← requiredArray members "tools" "output[].tools"
    .ok [{
      kind := .toolResult
      text := some (json.toText (.array tools))
      callId := callId
      toolKind := .deferredSearch }]
  | some "reasoning" =>
    let summary ← requiredArray members "summary" "output[].summary"
    collect decodeSummaryBlock summary
  | some "message" =>
    let content ← requiredArray members "content" "output[].content"
    collect decodeResponsesContentBlock content
  | some _ => .error (unsupported "output[].type" .openaiResponses)
  | none => .error (responseError "output[].type")

def decodeResponsesResponse (payload : Value) (status : Nat) :
    Except CodecError (CodecOutput DecodedProviderPayload) := do
  match ← providerError payload status .openaiResponses with
  | some error => .ok ⟨.error error, []⟩
  | none =>
    let members ← responseObject payload .openaiResponses
    let items ← requiredArray members "output" "output"
    let output ← collect (decodeResponsesItem json) items
    let responseId ← optionalString members "id"
    let model ← optionalString members "model"
    let finishReason ← optionalString members "status"
    let usage ← decodeUsageStrict responsesFiniteUsage (members.get "usage")
    .ok ⟨.response {
      responseId := responseId
      model := model
      output := output.flatten
      finishReason := finishReason
      usage := usage }, []⟩

end EggPool.Wire.Finite
