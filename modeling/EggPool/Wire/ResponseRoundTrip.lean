import EggPool.Wire.ClientResponse

/-!
# What a client's response still says

A response that is written for a client and read back by the provider decoder of the same
surface is not the same response: chat gathers its blocks, names of finish reasons are
translated, counts are lost. What it says is the same: the texts, the thoughts and the
refusals, each in one, the tool calls in their order, the id and the model.
-/

namespace EggPool.Wire.Finite

open EggPool.Lib List

/-! ## What a response says -/

/-- A tool call with its arguments read as JSON. -/
structure SaidCall where
  (callId name : Option String)
  toolKind : CanonicalToolKind
  arguments : Option Value

def saidCall (json : SerdeJson) (block : CanonicalOutputBlock) : SaidCall :=
  ⟨block.callId, block.name, block.toolKind, block.arguments.bind json.fromStr⟩

def saidCalls (json : SerdeJson) (output : List CanonicalOutputBlock) : List SaidCall :=
  (output.filter fun block => block.kind == .toolCall).map (saidCall json)

/-- Two responses say the same; an absent id or model counts as empty. -/
structure SaysSame (json : SerdeJson) (response back : CanonicalResponse) : Prop where
  text : joined .text back.output = joined .text response.output
  reasoning : joined .reasoning back.output = joined .reasoning response.output
  refusal : joined .refusal back.output = joined .refusal response.output
  toolCalls : saidCalls json back.output = saidCalls json response.output
  responseId : back.responseId.getD "" = response.responseId.getD ""
  model : back.model.getD "" = response.model.getD ""

variable (kind : CanonicalBlockKind)

@[simp]
theorem joined_nil : joined kind [] = "" := rfl

@[simp]
theorem joined_cons (block : CanonicalOutputBlock)
    (output : List CanonicalOutputBlock) : joined kind (block :: output) =
      (if block.kind = kind then block.text.getD "" else "") ++ joined kind output := by
  unfold joined
  by_cases hk : block.kind = kind
  · rw [filter_cons_of_pos (by simpa using hk), if_pos hk]
    cases ht : block.text with
    | none => simp [ht]
    | some text => simp [ht]
  · rw [filter_cons_of_neg (by simpa using hk), if_neg hk]
    simp

@[simp]
theorem joined_append (l right : List CanonicalOutputBlock) :
    joined kind (l ++ right) = joined kind l ++ joined kind right := by
  unfold joined
  rw [filter_append, filterMap_append, String.join_append]

variable {kind : CanonicalBlockKind}

/-- Blocks of other kinds add nothing. -/
theorem joined_eq_empty {output : List CanonicalOutputBlock}
    (h : ∀ block ∈ output, block.kind ≠ kind) : joined kind output = "" := by
  have hn : (output.filter fun block => block.kind == kind) = [] := by
    rw [filter_eq_nil_iff]
    intro block hb
    simpa using h block hb
  rw [joined, hn]
  rfl

@[simp]
theorem saidCalls_append (json : SerdeJson) (l right : List CanonicalOutputBlock) :
    saidCalls json (l ++ right) = saidCalls json l ++ saidCalls json right := by
  unfold saidCalls
  rw [filter_append, map_append]

/-- A block that says the same as another. -/
structure SameBlock (json : SerdeJson) (block back : CanonicalOutputBlock) : Prop where
  kind : back.kind = block.kind
  text : block.kind ≠ .toolCall → back.text.getD "" = block.text.getD ""
  call : block.kind = .toolCall → saidCall json back = saidCall json block

variable {json : SerdeJson}

theorem joined_of_same {output b : List CanonicalOutputBlock}
    (h : List.Forall₂ (SameBlock json) output b) {kind : CanonicalBlockKind}
    (hk : kind ≠ .toolCall) : joined kind b = joined kind output := by
  induction h with
  | nil => rfl
  | @cons block b _ _ hb _ ih =>
    rw [joined_cons, joined_cons, hb.kind, ih]
    by_cases hs : block.kind = kind
    · rw [if_pos hs, if_pos hs, hb.text (hs ▸ hk)]
    · rw [if_neg hs, if_neg hs]

theorem saidCalls_of_same {output b : List CanonicalOutputBlock}
    (h : List.Forall₂ (SameBlock json) output b) : saidCalls json b = saidCalls json output:= by
  induction h with
  | nil => rfl
  | @cons block blo' _ _ hb _ ih =>
    unfold saidCalls at ih ⊢
    rw [filter_cons, filter_cons, hb.kind]
    by_cases hk : block.kind = .toolCall
    · rw [hk, beq_self_eq_true, if_pos rfl, if_pos rfl, map_cons, map_cons, hb.call hk, ih]
    · rw [if_neg (by simpa using hk), if_neg (by simpa using hk), ih]

/-! ## Responses that all surfaces can carry -/

/-- The arguments are a JSON object that survives being printed and read again. -/
structure ObjectArguments (json : SerdeJson) (arguments : String) (input : Map) : Prop where
  read : json.fromStr arguments = some (.object input)
  reread : json.fromStr (compactJson json input) = some (.object input)

/-- Text, thought, refusal or call of a function; a Messages client cannot be told a refusal. -/
inductive PlainBlock (json : SerdeJson) (surface : ClientSurface) (block : CanonicalOutputBlock) :
    Prop where
  | text (kind : block.kind = .text)
  | reasoning (kind : block.kind = .reasoning)
  | refusal (kind : block.kind = .refusal) (surface : surface ≠ .messages)
  | toolCall (kind : block.kind = .toolCall) (toolKind : block.toolKind = .function)
      (callId name arguments : String) (input : Map) (hasId : block.callId = some callId)
      (hasName : block.name = some name) (hasArguments : block.arguments = some arguments)
      (object : ObjectArguments json arguments input)

variable {block : CanonicalOutputBlock}

/-- The block that a text comes back as. -/
theorem sameBlock_text (hk : block.kind = kind)
    (hne : kind ≠ .toolCall) : SameBlock json block (textOutput kind (block.text.getD "")) :=
  ⟨hk.symm, fun _ => rfl, fun hc => absurd (hk.symm.trans hc) hne⟩

/-- The block that a call comes back as. -/
theorem sameBlock_call {c n a r : String}
    (hk : block.kind = .toolCall) (ht : block.toolKind = .function)
    (hid : block.callId = some c) (hn : block.name = some n) (ha : block.arguments = some a)
    (hr : json.fromStr r = json.fromStr a) :
    SameBlock json block (toolCallOutput c n r .function) := by
  refine ⟨hk.symm, fun hne => absurd hk hne, fun _ => ?_⟩
  simp [saidCall, toolCallOutput, ht, hid, hn, ha, hr]

/-! ## Responses clients -/

theorem responses_block (h : PlainBlock json .responses block) :
    ∃ item back, encodeResponsesBlock json block = .ok item ∧
      decodeResponsesItem json item = .ok back ∧ List.Forall₂ (SameBlock json) [block] back := by
  cases h with
  | text kind | reasoning kind | refusal kind =>
    refine ⟨_, [textOutput _ (block.text.getD "")], by rw [encodeResponsesBlock, kind], rfl, ?_⟩
    exact .cons (sameBlock_text kind (by decide)) .nil
  | toolCall kind tk ci name arg inp hid hn ha _ =>
    refine ⟨_, [toolCallOutput ci name arg .function],
      by rw [encodeResponsesBlock, kind, tk, hid, hn, ha], rfl, ?_⟩
    exact .cons (sameBlock_call kind tk hid hn ha rfl) .nil

theorem forall₂_flatten {α β : Type} {R : α → β → Prop} {l : List α} {ls : List (List β)}
    (h : List.Forall₂ (fun a l => List.Forall₂ R [a] l) l ls) : List.Forall₂ R l ls.flatten := by
  induction h with
  | nil => exact .nil
  | cons hf _ ih => exact rel_append hf ih

theorem optionalString_textValue {m : Map} {key : String} {text : Option String}
    (h : m.get key = some (textValue text)) : optionalString m key = .ok text := by
  unfold optionalString
  rw [h]
  cases text <;> rfl

theorem get_usageMember {en : CanonicalUsage → Value} {u : Option CanonicalUsage}
    {key : String} (h : key ≠ "usage") : Map.get (usageMember en u) key = none := by
  cases u <;> simp [usageMember, h]

variable {response : CanonicalResponse}

theorem responses_round_trip (h : ∀ block ∈ response.output, PlainBlock json .responses block) :
    ∃ body n back, encodeResponsesResponse json response = .ok ⟨body, n⟩ ∧
      decodeResponsesResponse json body 200 = .ok ⟨.response back, []⟩ ∧
      SaysSame json response back := by
  obtain ⟨ite, blo, hw, hr, hs⟩ :=
    collect_round fun block hb => responses_block (h block hb)
  have hf := forall₂_flatten hs
  obtain ⟨usage, hu⟩ : ∃ usage, decodeUsageStrict responsesFiniteUsage
      (Map.get (usageMember encodeResponsesUsage response.usage) "usage") = .ok usage := by
    cases response.usage with
    | none => exact ⟨none, rfl⟩
    | some usage => exact ⟨_, rfl⟩
  have he : encodeResponsesResponse json response =
      .ok ⟨.object (responsesBody response ite), []⟩ := by
    rw [encodeResponsesResponse, hw]
    rfl
  refine ⟨_, _, {
    responseId := some (response.responseId.getD "")
    model := some (response.model.getD "")
    output := blo.flatten
    finishReason := some (response.finishReason.getD "completed")
    usage := usage }, he, ?_, ?_⟩
  · simp [decodeResponsesResponse, providerError, responseObject, requiredArray, optionalString,
      errorEvidence, responsesBody, Value.asObject, get_usageMember, hu, hr, array,
      Value.asArray, bind, Except.bind]
  · exact ⟨joined_of_same hf (by decide), joined_of_same hf (by decide),
      joined_of_same hf (by decide), saidCalls_of_same hf, rfl, rfl⟩

/-! ## Messages clients -/

theorem messages_block (h : PlainBlock json .messages block) :
    ∃ item back, encodeAnthropicBlock json block = .ok item ∧
      decodeAnthropicBlock json item.1 = .ok back ∧ SameBlock json block back := by
  cases h with
  | text kind | reasoning kind =>
    refine ⟨_, textOutput _ (block.text.getD ""), by rw [encodeAnthropicBlock, kind], rfl, ?_⟩
    exact sameBlock_text kind (by decide)
  | refusal kind hs => exact absurd rfl hs
  | toolCall kind tk ci name arg inp hid hn ha ho =>
    have hi : callInput json block = .ok (.object inp) := by
      simp only [callInput, tk, ha, Option.getD_some, ho.read]
      rfl
    have he : encodeAnthropicBlock json block = .ok (.object [("type", .string "tool_use"),
        ("id", .string ci), ("name", .string name), ("input", .object inp)], []) := by
      simp only [encodeAnthropicBlock, kind, hi, hid, hn]
      rfl
    refine ⟨_, toolCallOutput ci name (compactJson json inp) .function, he, rfl, ?_⟩
    exact sameBlock_call kind tk hid hn ha
      (ho.reread.trans ho.read.symm)

theorem messages_round_trip (h : ∀ block ∈ response.output, PlainBlock json .messages block) :
    ∃ body n back, encodeAnthropicResponse json response = .ok ⟨body, n⟩ ∧
      decodeAnthropicResponse json body 200 = .ok ⟨.response back, []⟩ ∧
      SaysSame json response back := by
  obtain ⟨ite, blo, hw, hr, hs⟩ :=
    collect_round fun block hb => messages_block (h block hb)
  have he : encodeAnthropicResponse json response = .ok
      ⟨.object (anthropicBody response (ite.map Prod.fst)), ite.flatMap Prod.snd⟩ := by
    rw [encodeAnthropicResponse, hw]
    rfl
  refine ⟨_, _, {
    responseId := some (response.responseId.getD "")
    model := some (response.model.getD "")
    output := blo
    finishReason := response.finishReason.map anthropicStopReason
    usage := decodeUsage anthropicFiniteUsage
      (Map.get (usageMember encodeAnthropicUsage response.usage) "usage") }, he, ?_, ?_⟩
  · rw [← collect_map] at hr
    have hno : decodeProviderError (.object (anthropicBody response (ite.map Prod.fst))) 200
        .anthropicMessages = .ok none := by
      simp [decodeProviderError, errorEvidence, anthropicBody, get_usageMember, Value.asObject]
    have hc : requiredArray (anthropicBody response (ite.map Prod.fst)) "content" "content" =
        .ok (ite.map Prod.fst) := requiredArray_eq_ok_iff.mpr (by simp [anthropicBody])
    unfold decodeAnthropicResponse
    rw [hno]
    simp only [bind, Except.bind, responseObject, Value.asObject, hc, hr]
    rw [optionalString_textValue (show _ = some (textValue (some (response.responseId.getD ""))) by
        simp [anthropicBody, textValue]),
      optionalString_textValue (show _ = some (textValue (some (response.model.getD ""))) by
        simp [anthropicBody, textValue]),
      optionalString_textValue (show _ = some (textValue
        (response.finishReason.map anthropicStopReason)) by simp [anthropicBody])]
    rfl
  · exact ⟨joined_of_same hs (by decide), joined_of_same hs (by decide),
      joined_of_same hs (by decide), saidCalls_of_same hs, rfl, rfl⟩

/-! ## Chat clients -/

section Chat

variable {json : SerdeJson} {output : List CanonicalOutputBlock}
  (h : ∀ block ∈ output, PlainBlock json .chatCompletions block)

/-- The block of a text that is gathered beside the content. -/
def gathered (kind : CanonicalBlockKind) (text : String) : List CanonicalOutputBlock :=
  if text.isEmpty then [] else [textOutput kind text]

theorem joined_gathered_self (kind : CanonicalBlockKind) (text : String) :
    joined kind (gathered kind text) = text := by
  unfold gathered
  split
  · rename_i he
    rw [String.isEmpty_iff.mp he]
    rfl
  · simp [textOutput]

theorem kind_gathered {kind : CanonicalBlockKind} {t : String} {block : CanonicalOutputBlock}
    (hb : block ∈ gathered kind t) : block.kind = kind := by
  unfold gathered at hb
  split at hb
  · cases hb
  · rw [mem_singleton.mp hb]
    rfl

/-- The block that a call comes back as. -/
def returnedCall (json : SerdeJson) (block : CanonicalOutputBlock) : CanonicalOutputBlock :=
  toolCallOutput (block.callId.getD "") (block.name.getD "")
    (wrappedArguments json block.arguments none block.toolKind) .function

theorem decodeOpenaiToolCall_encode (json : SerdeJson) (block : CanonicalOutputBlock) :
    decodeOpenaiToolCall (encodeOpenaiToolCall json block) = .ok (returnedCall json block) := rfl

theorem get_textMember (key t n : String) : Map.get (textMember key t) n =
    if n = key ∧ t.isEmpty = false then some (.string t) else none := by
  unfold textMember
  cases t.isEmpty <;> simp

/-- Where the members of a written message are. -/
theorem get_encodeOpenaiMessage (json : SerdeJson) (output : List CanonicalOutputBlock) :
    (encodeOpenaiMessage json output).get "content" = some (encodeOpenaiContent output) ∧
    (encodeOpenaiMessage json output).get "refusal" =
      (textMember "refusal" (joined .refusal output)).get "refusal" ∧
    (encodeOpenaiMessage json output).get "reasoning_content" =
      (textMember "reasoning_content" (joined .reasoning output)).get "reasoning_content" ∧
    (encodeOpenaiMessage json output).get "tool_calls" =
      if (output.filter fun block => block.kind == .toolCall).isEmpty then none
      else some (.array ((output.filter fun block => block.kind == .toolCall).map
        (encodeOpenaiToolCall json))) := by
  unfold encodeOpenaiMessage
  cases hc : output.filter fun block => block.kind == .toolCall with
  | nil | cons => simp [Map.get_append, get_textMember]

theorem decodeMirrored_textMember {b : List CanonicalOutputBlock} {kind : CanonicalBlockKind}
    {key t f : String} (hb : (b.any fun block => block.kind == kind) = false) :
    decodeMirrored b kind ((textMember key t).get key) f = .ok (gathered kind t) := by
  unfold decodeMirrored gathered
  rw [hb, get_textMember]
  cases t.isEmpty <;> simp

theorem decodeOpenaiToolCalls_encode (json : SerdeJson) (output : List CanonicalOutputBlock) :
    decodeOpenaiToolCalls ((encodeOpenaiMessage json output).get "tool_calls") =
      .ok ((output.filter fun block => block.kind == .toolCall).map (returnedCall json)) := by
  rw [(get_encodeOpenaiMessage json output).2.2.2]
  cases hc : output.filter fun block => block.kind == .toolCall with
  | nil => rfl
  | cons call cal =>
    refine (collect_map _ _ _).trans ?_
    rw [collect_eq_ok_iff, forall₂_map_right_iff]
    exact forall₂_same.mpr fun block _ => decodeOpenaiToolCall_encode json block

include h

theorem encodeOpenaiContent_eq : encodeOpenaiContent output = .string (joined .text output) := by
  refine if_neg ?_
  rw [any_eq_true]
  rintro ⟨block, hb, hm⟩
  cases h block hb with
  | text kind | reasoning kind | refusal kind | toolCall kind => simp [kind] at hm

theorem decodeOpenaiMessageOutput_encode :
    decodeOpenaiMessageOutput (encodeOpenaiMessage json output) =
      .ok ([textOutput .text (joined .text output)] ++ gathered .refusal (joined .refusal output) ++
        gathered .reasoning (joined .reasoning output)) := by
  obtain ⟨hc, hr, hre, -⟩ := get_encodeOpenaiMessage json output
  have hb : ∀ kind : CanonicalBlockKind, kind ≠ .text →
      ([textOutput .text (joined .text output)].any fun block => block.kind == kind) = false := by
    intro kind hk
    simpa [textOutput] using fun heq => hk heq.symm
  unfold decodeOpenaiMessageOutput
  rw [hc, encodeOpenaiContent_eq h, hr, hre]
  simp only [decodeOpenaiContent, bind, Except.bind]
  rw [decodeMirrored_textMember (hb .refusal (by decide)),
    decodeMirrored_textMember (hb .reasoning (by decide))]

/-- A call comes back with its own arguments. -/
theorem saidCall_returned {block : CanonicalOutputBlock} (hb : block ∈ output)
    (hk : block.kind = .toolCall) :
    saidCall json (returnedCall json block) = saidCall json block := by
  cases h block hb with
  | text kind | reasoning kind | refusal kind => exact absurd (kind.symm.trans hk) (by decide)
  | toolCall _ tk ci name arg inp hid hn ha _ =>
    simp [saidCall, returnedCall, toolCallOutput, wrappedArguments, tk, hid, hn, ha]

theorem saidCalls_returned :
    saidCalls json ((output.filter fun block => block.kind == .toolCall).map (returnedCall json)) =
      saidCalls json output := by
  unfold saidCalls
  rw [filter_eq_self.mpr, map_map]
  · refine map_congr_left fun block hb => ?_
    obtain ⟨hmem, hk⟩ := mem_filter.mp hb
    exact saidCall_returned h hmem (by simpa using hk)
  · intro block hb
    obtain ⟨call, -, rfl⟩ := mem_map.mp hb
    rfl

end Chat

theorem validateOutputBlocks_plain {s : ClientSurface}
    (t : WireSurface) (h : ∀ block ∈ response.output, PlainBlock json s block) :
    validateOutputBlocks response t = .ok () := by
  refine if_neg ?_
  rw [any_eq_true]
  rintro ⟨block, hb, hk⟩
  cases h block hb with
  | text kind | reasoning kind | refusal kind | toolCall kind => simp [kind] at hk

/-- What a chat response comes back as. -/
def gatheredOutput (json : SerdeJson) (output : List CanonicalOutputBlock) :
    List CanonicalOutputBlock :=
  [textOutput .text (joined .text output)] ++ gathered .refusal (joined .refusal output) ++
    gathered .reasoning (joined .reasoning output) ++
    (output.filter fun block => block.kind == .toolCall).map (returnedCall json)

theorem joined_gathered_of_ne {kind o : CanonicalBlockKind} (hne : o ≠ kind)
    (t : String) : joined kind (gathered o t) = "" :=
  joined_eq_empty fun _ hb => kind_gathered hb ▸ hne

theorem joined_returned (hne : kind ≠ .toolCall) (json : SerdeJson)
    (c : List CanonicalOutputBlock) : joined kind (c.map (returnedCall json)) = "" := by
  refine joined_eq_empty fun block hb => ?_
  obtain ⟨call, -, rfl⟩ := mem_map.mp hb
  exact hne.symm

theorem joined_gatheredOutput (json : SerdeJson) (output : List CanonicalOutputBlock)
    (hk : kind = .text ∨ kind = .reasoning ∨ kind = .refusal) :
    joined kind (gatheredOutput json output) = joined kind output := by
  unfold gatheredOutput
  rw [joined_append, joined_append, joined_append]
  rcases hk with rfl | rfl | rfl
  · rw [joined_gathered_of_ne (by decide), joined_gathered_of_ne (by decide),
      joined_returned (by decide)]
    simp [textOutput]
  · rw [joined_gathered_of_ne (by decide), joined_gathered_self, joined_returned (by decide)]
    simp [textOutput]
  · rw [joined_gathered_self, joined_gathered_of_ne (by decide), joined_returned (by decide)]
    simp [textOutput]

theorem saidCalls_gathered (hne : kind ≠ .toolCall)
    (t : String) : saidCalls json (gathered kind t) = [] := by
  unfold saidCalls
  rw [filter_eq_nil_iff.mpr]
  · rfl
  intro block hb
  rw [kind_gathered hb]
  simpa using hne

theorem chat_round_trip (h : ∀ block ∈ response.output, PlainBlock json .chatCompletions block) :
    ∃ body n back, encodeOpenaiResponse json response = .ok ⟨body, n⟩ ∧
      decodeOpenaiResponse body 200 = .ok ⟨.response back, []⟩ ∧ SaysSame json response back := by
  have he : encodeOpenaiResponse json response =
      .ok ⟨.object (openaiBody json response), []⟩ := by
    rw [encodeOpenaiResponse, validateOutputBlocks_plain _ h]
    rfl
  refine ⟨_, _, {
    responseId := some (response.responseId.getD "")
    model := some (response.model.getD "")
    output := gatheredOutput json response.output
    finishReason := response.finishReason.map chatFinishReason
    usage := decodeUsage chatFiniteUsage
      (Map.get (usageMember encodeOpenaiUsage response.usage) "usage") }, he, ?_, ?_⟩
  · have hm : requiredObject (openaiChoice json response) "message" "choices[].message" =
        .ok (encodeOpenaiMessage json response.output) :=
      requiredObject_eq_ok_iff.mpr (by simp [openaiChoice])
    rw [decodeOpenaiResponse_of_no_error (by decide) (by simp [openaiBody, get_usageMember]),
      decodeOpenaiBody]
    exact decodeOpenaiChoice_eq_ok (decodeOpenaiMessageOutput_encode h)
      (decodeOpenaiToolCalls_encode json response.output)
      (optionalString_textValue (by simp [openaiChoice]))
      (optionalString_textValue (by simp [openaiBody, textValue]))
      (optionalString_textValue (by simp [openaiBody, textValue]))
  · refine ⟨joined_gatheredOutput json _ (.inl rfl), joined_gatheredOutput json _ (.inr (.inl rfl)),
      joined_gatheredOutput json _ (.inr (.inr rfl)), ?_, rfl, rfl⟩
    rw [gatheredOutput, saidCalls_append, saidCalls_append, saidCalls_append,
      saidCalls_gathered (by decide), saidCalls_gathered (by decide), saidCalls_returned h]
    rfl

/--
**A client's response still says the same.** For every client surface, a response of plain
blocks is written without error, and the provider decoder of the surface reads back the same
texts, thoughts, refusals, tool calls, id and model.
-/
theorem response_says_same (json : SerdeJson) (surface : ClientSurface)
    (response : CanonicalResponse) (h : ∀ block ∈ response.output, PlainBlock json surface block) :
    ∃ body notices back, encodeForClient json response surface = .ok ⟨body, notices⟩ ∧
      decodeForSurface json body 200 surface = .ok ⟨.response back, []⟩ ∧
      SaysSame json response back := by
  cases surface with
  | chatCompletions => exact chat_round_trip h
  | responses => exact responses_round_trip h
  | messages => exact messages_round_trip h

/-- A text and a call without arguments, for a Messages client. -/
theorem response_says_same_call : let json : SerdeJson :=
      ⟨fun text => if text = "\x7b\x7d" then some (.object []) else none, fun _ => "\x7b\x7d"⟩
    let response : CanonicalResponse :=
      { output := [textOutput .text "wait", toolCallOutput "c1" "now" "\x7b\x7d" .function] }
    ∃ body notices back, encodeForClient json response .messages = .ok ⟨body, notices⟩ ∧
      decodeForSurface json body 200 .messages = .ok ⟨.response back, []⟩ ∧
      SaysSame json response back := by
  intro json response
  refine response_says_same json .messages response ?_
  intro block hblock
  rcases mem_cons.mp hblock with rfl | hblock
  · exact .text rfl
  · rw [mem_singleton.mp hblock]
    exact .toolCall rfl rfl "c1" "now" "\x7b\x7d" [] rfl rfl rfl ⟨rfl, rfl⟩

end EggPool.Wire.Finite
