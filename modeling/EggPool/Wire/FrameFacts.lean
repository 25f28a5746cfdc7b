import EggPool.Wire.EventNames
import EggPool.Wire.RunningUsage

/-!
# What a frame says besides its content

A frame of a provider's stream may carry a usage object, in the place its dialect has for
it, and it may end the response. The decoder does not read every usage object: a chat frame
with a choice in it, or a Responses frame before the last one, is not asked for its usage.
Besides content and errors, the events of a frame are the usage that is read and then the
end (`besides_frame`); what a stream amounts to and where it ends is read off that.
-/

namespace EggPool.Wire

open EggPool.Lib List

/-! ## Usage and ends, by dialect -/

variable (adapter : StreamAdapterKind) (event : Option String)

/-- The name a frame goes under. -/
def frameName (payload : Map) : String :=
  match adapter with
  | .geminiInteractionsSse => event.getD ((string (payload.get "event_type")).getD "")
  | _ => event.getD ((string (payload.get "type")).getD "")

/-- Where a dialect puts a usage object. -/
def usagePlace (payload : Map) : Option Value :=
  match adapter with
  | .openaiChatSse => payload.get "usage"
  | .openaiResponsesSse => ((object (payload.get "response")).getD payload).get "usage"
  | .anthropicMessagesSse =>
    if frameName adapter event payload = "message_start" then
      (object (payload.get "message")).bind fun message => message.get "usage"
    else payload.get "usage"
  | .geminiInteractionsSse => ((object (payload.get "interaction")).getD payload).get "usage"
  | .geminiGenerateContentSse => payload.get "usageMetadata"

def usageProtocol : StreamAdapterKind → UsageProtocol
  | .openaiChatSse => .openai
  | .openaiResponsesSse => .openai
  | .anthropicMessagesSse => .anthropic
  | .geminiInteractionsSse => .gemini
  | .geminiGenerateContentSse => .gemini

/-- The decoder asks a frame for its usage. -/
def readsUsage (payload : Map) : Bool :=
  match adapter with
  | .openaiChatSse =>
    !(event == some "error" || payload.containsKey "error") &&
      ((array (payload.get "choices")).getD []).isEmpty
  | .openaiResponsesSse =>
    frameName adapter event payload ∈ ["response.completed", "response.incomplete", "response.failed"]
  | .anthropicMessagesSse => frameName adapter event payload ∈ ["message_start", "message_delta"]
  | .geminiInteractionsSse => frameName adapter event payload = "interaction.completed"
  | .geminiGenerateContentSse => true

/-- An end as a stream reports it. -/
structure StreamEnd where
  complete : Bool
  reason : Option String
  deriving DecidableEq, Repr

/-- The end in a payload, by dialect. -/
def payloadEnd (payload : Map) : Option StreamEnd :=
  match adapter with
  | .openaiChatSse =>
    if event == some "error" || payload.containsKey "error" then none
    else
      let choice := ((array (payload.get "choices")).bind List.head?).bind Value.asObject
      (choice.bind fun choice => string (choice.get "finish_reason")).map fun reason =>
        ⟨true, some reason⟩
  | .openaiResponsesSse =>
    match frameName adapter event payload with
    | "response.completed" => some ⟨true, some "completed"⟩
    | "response.incomplete" => some ⟨false, some "incomplete"⟩
    | "response.failed" => some ⟨false, some "failed"⟩
    | _ => none
  | .anthropicMessagesSse =>
    match frameName adapter event payload with
    | "message_delta" =>
      ((object (payload.get "delta")).bind fun delta => string (delta.get "stop_reason")).map
        fun reason => ⟨true, some reason⟩
    | "message_stop" => some ⟨true, none⟩
    | _ => none
  | .geminiInteractionsSse =>
    match frameName adapter event payload with
    | "interaction.completed" =>
      let status := string (((object (payload.get "interaction")).getD payload).get "status")
      some ⟨status = some "completed" || status = some "requires_action", status⟩
    | _ => none
  | .geminiGenerateContentSse =>
    let candidate := ((array (payload.get "candidates")).bind List.head?).bind Value.asObject
    (candidate.bind fun candidate => string (candidate.get "finishReason")).map fun reason =>
      ⟨reason = "STOP", some reason⟩

/-! ## Content -/

/-- An event that only brings content: no usage, and no end of the stream. -/
def isContent (event : CanonicalEvent) : Bool :=
  event.usage.isNone && event.finishReason.isNone && event.eventType != .responseComplete &&
    event.eventType != .responseIncomplete

theorem content_chatDelta (d : Map) : (chatDelta d).all isContent = true := by
  have ht : ∀ val, (chatText .textDelta val).all isContent = true := by
    intro val
    unfold chatText
    split
    · split <;> rfl
    · rfl
  have hr : ∀ val, (chatText .reasoningDelta val).all isContent = true := by
    intro val
    unfold chatText
    split
    · split <;> rfl
    · rfl
  unfold chatDelta
  rw [all_append, all_append, ht, hr, all_flatMap]
  refine all_eq_true.mpr fun call _ => ?_
  unfold chatToolCall
  rw [all_append]
  split <;> split <;> rfl

theorem content_generateContentPart (json : SerdeJson) (p : Map) (s : Option SourceIdentityState) :
    (generateContentPart json p s).2.all isContent = true := by
  unfold generateContentPart
  cases string (p.get "text") with
  | none => cases object (p.get "functionCall") <;> rfl
  | some text =>
    -- reasoning or text, with a call behind it or none
    by_cases ht : (p.get "thought").bind Value.asBool = some true <;>
      cases object (p.get "functionCall") <;> simp only [ht, if_true, if_false] <;> rfl

theorem content_generateContentParts (json : SerdeJson) (p : List Map) :
    ∀ s, (generateContentParts json p s).2.all isContent = true := by
  induction p with
  | nil => intro s; rfl
  | cons part p ih =>
    simp [generateContentParts, content_generateContentPart, ih]

/-! ## Frames and their payloads -/

/-- The members of a frame's JSON object. -/
def frameMembers (f : SseFrame) : Map :=
  ("data", .string f.data) ::
    match f.event with
    | some event => [("event", .string event)]
    | none => []

variable (f : SseFrame)

theorem string_event_frameMembers : string ((frameMembers f).get "event") = f.event := by
  unfold frameMembers
  cases f.event <;> rfl

theorem string_data_frameMembers : string ((frameMembers f).get "data") = some f.data := by
  cases f.event <;> rfl

variable (json : SerdeJson)

theorem payloadValue_frame (f : SseFrame) : payloadValue json (frameValue f) =
      if isOpenaiDone f.data then .ok ([], some OPENAI_DONE_SENTINEL) else
        match (json.fromStr f.data).bind Value.asObject with
        | some payload => .ok (payload, none)
        | none => .error malformedProviderEvent := by
  cases f.event <;> rfl

/-- A frame with a payload is decoded by its dialect. -/
theorem decode_of_payload {json : SerdeJson} {f : SseFrame} {payload : Map}
    (h : payloadOf json f = some payload) (a : StreamAdapterKind)
    (s : Option SourceIdentityState) : isOpenaiDone f.data = false ∧
    decodeStreamEventInto json a (frameValue f) s = .ok (match a with
        | .openaiChatSse => (s, decodeOpenaiChat (frameMembers f) payload)
        | .openaiResponsesSse => decodeOpenaiResponses (frameMembers f) payload s
        | .anthropicMessagesSse => (s, decodeAnthropic (frameMembers f) payload)
        | .geminiInteractionsSse => (s, decodeInteractions (frameMembers f) payload)
        | .geminiGenerateContentSse => decodeGenerateContent json payload s) := by
  unfold payloadOf at h
  unfold decodeStreamEventInto
  rw [payloadValue_frame] at h ⊢
  cases hd : isOpenaiDone f.data with
  | true =>
    rw [hd, if_pos rfl] at h
    nomatch h
  | false =>
    rw [hd] at h
    refine ⟨rfl, ?_⟩
    cases hr : (json.fromStr f.data).bind Value.asObject with
    | none =>
      rw [hr] at h
      nomatch h
    | some read =>
      rw [hr] at h
      cases h
      exact (if_neg Bool.false_ne_true).trans (by cases a <;> rfl)

variable {ev : List CanonicalEvent}

/-- A frame that is decoded without a payload is the mark of the end. -/
theorem decode_of_no_payload {json : SerdeJson} {f : SseFrame} (h : payloadOf json f = none)
    {a : StreamAdapterKind} {s ids : Option SourceIdentityState}
    (hd : decodeStreamEventInto json a (frameValue f) s = .ok (ids, ev)) :
    isOpenaiDone f.data = true ∧
      ev = if a = .openaiChatSse then [canonicalEvent .responseComplete] else [] := by
  unfold payloadOf at h
  unfold decodeStreamEventInto at hd
  rw [payloadValue_frame] at h hd
  cases hn : isOpenaiDone f.data with
  | true =>
    rw [hn] at hd
    cases hd
    exact ⟨rfl, rfl⟩
  | false =>
    rw [hn] at h hd
    cases hr : (json.fromStr f.data).bind Value.asObject with
    | none =>
      rw [hr] at hd
      nomatch hd
    | some read =>
      rw [hr] at h
      nomatch h

/-! ## The events of a frame -/

/-- The events that are not content. -/
def besides (events : List CanonicalEvent) : List CanonicalEvent := events.filter (!isContent ·)

/-- The event of an end. -/
def endEvent (e : StreamEnd) : CanonicalEvent :=
  { canonicalEvent (if e.complete then .responseComplete else .responseIncomplete) with
    finishReason := e.reason }

/-- What a payload says besides its content. -/
def payloadFacts (payload : Map) : List CanonicalEvent :=
  (if readsUsage adapter event payload then
    usageEvents (usagePlace adapter event payload) (usageProtocol adapter)
  else []) ++ (payloadEnd adapter event payload).toList.map endEvent

theorem besides_append (ev more : List CanonicalEvent) :
    besides (ev ++ more) = besides ev ++ besides more := filter_append ..

theorem besides_of_content (h : ev.all isContent = true) : besides ev = [] := by
  refine filter_eq_nil_iff.mpr fun eve hev => ?_
  simp [all_eq_true.mp h eve hev]

theorem besides_usageEvents (v : Option Value) (protocol : UsageProtocol) :
    besides (usageEvents v protocol) = usageEvents v protocol := by
  unfold usageEvents
  split <;> rfl

theorem besides_endEvent (e : StreamEnd) : besides [endEvent e] = [endEvent e] := by
  obtain ⟨complete, reason⟩ := e
  cases complete <;> cases reason <;> rfl

variable (payload : Map)

theorem besides_choice (c : Map) : besides ((match object (c.get "delta") with
        | some delta => chatDelta delta
        | none => []) ++ (match string (c.get "finish_reason") with
        | some reason => [{ canonicalEvent .responseComplete with finishReason := some reason }]
        | none => [])) =
      ((string (c.get "finish_reason")).map fun reason =>
        (⟨true, some reason⟩ : StreamEnd)).toList.map endEvent := by
  rw [besides_append]
  cases object (c.get "delta") with
  | none => cases string (c.get "finish_reason") <;> rfl
  | some delta =>
    rw [besides_of_content (content_chatDelta delta)]
    cases string (c.get "finish_reason") <;> rfl

theorem besides_chat (hd : isOpenaiDone f.data = false) :
    besides (decodeOpenaiChat (frameMembers f) payload) =
      payloadFacts .openaiChatSse f.event payload := by
  unfold decodeOpenaiChat payloadFacts readsUsage payloadEnd
  rw [string_data_frameMembers, string_event_frameMembers, Option.any_some, hd]
  cases (f.event == some "error" || payload.containsKey "error") with
  | true => rfl
  | false =>
    rw [if_neg Bool.false_ne_true, if_neg Bool.false_ne_true]
    split
    · rename_i hc
      rw [hc, besides_usageEvents]
      exact (append_nil _).symm
    · rename_i hc
      rw [hc, besides_usageEvents]
      exact (append_nil _).symm
    · rename_i cho _ hc
      rw [hc]
      simp
      cases cho.asObject with
      | none => rfl
      | some cho => exact besides_choice cho

theorem besides_responses (s : Option SourceIdentityState) :
    besides (decodeOpenaiResponses (frameMembers f) payload s).2 =
      payloadFacts .openaiResponsesSse f.event payload := by
  have hn : dialectName (frameMembers f) payload =
      frameName .openaiResponsesSse f.event payload := dialectName_frame f payload _ rfl
  unfold decodeOpenaiResponses payloadFacts readsUsage payloadEnd
  rw [hn]
  dsimp only
  generalize frameName .openaiResponsesSse f.event payload = name
  have ht : ∀ (e : StreamEnd) (reason : String), e.reason = some reason →
      besides (responsesTerminal payload
        (if e.complete then .responseComplete else .responseIncomplete) reason) =
        usageEvents (usagePlace .openaiResponsesSse f.event payload) .openai ++ [endEvent e] := by
    intro e reason hr
    unfold responsesTerminal
    rw [besides_append, besides_usageEvents, ← hr]
    exact congrArg _ (besides_endEvent e)
  have hd : ∀ et, et = .textDelta ∨ et = .reasoningDelta →
      besides (responsesDelta et payload) = [] := by
    rintro et (rfl | rfl) <;> unfold responsesDelta <;> split <;> rfl
  have ha : besides (responsesArgumentsDelta payload s) = [] := by
    unfold responsesArgumentsDelta
    split <;> rfl
  have had : besides (responsesItemAdded payload s).2 = [] := by
    unfold responsesItemAdded
    split <;> rfl
  have hi : besides (responsesItemDone payload s).2 = [] := by
    unfold responsesItemDone
    split
    · rfl
    dsimp only
    split
    · split <;> rfl
    · rfl
  split
  · rfl
  · exact hd _ (.inl rfl)
  · exact hd _ (.inr rfl)
  · exact hd _ (.inr rfl)
  · exact had
  · exact ha
  · exact ha
  · exact hi
  · exact ht ⟨true, _⟩ _ rfl
  · exact ht ⟨false, _⟩ _ rfl
  · exact ht ⟨false, _⟩ _ rfl
  · rfl
  · rename_i hc hin hf _
    have ho : name ∉ ["response.completed", "response.incomplete", "response.failed"] := by
      simp only [mem_cons, not_mem_nil, or_false, not_or]
      exact ⟨hc, hin, hf⟩
    rw [decide_eq_false ho, if_neg Bool.false_ne_true]
    split <;> first | rfl | contradiction

theorem besides_anthropic : besides (decodeAnthropic (frameMembers f) payload) =
      payloadFacts .anthropicMessagesSse f.event payload := by
  have hn : dialectName (frameMembers f) payload =
      frameName .anthropicMessagesSse f.event payload := dialectName_frame f payload _ rfl
  unfold decodeAnthropic payloadFacts readsUsage payloadEnd usagePlace
  rw [hn]
  dsimp only
  generalize frameName .anthropicMessagesSse f.event payload = name
  split
  · exact (besides_usageEvents _ _).trans (append_nil _).symm
  · unfold anthropicBlockStart
    split
    · split <;> rfl
    · rfl
  · unfold anthropicBlockDelta anthropicDeltaType
    split
    · rfl
    · split
      · rfl
      · rename_i hk
        split at hk <;> cases hk <;> rfl
  · rfl
  · unfold anthropicMessageDelta
    rw [besides_append, besides_usageEvents]
    refine congrArg (usageEvents (payload.get "usage") .anthropic ++ ·) ?_
    cases (object (payload.get "delta")).bind fun del => string (del.get "stop_reason") <;> rfl
  · rfl
  · rfl
  · rename_i hs _ _ _ hd _ _
    have ho : name ∉ ["message_start", "message_delta"] := by
      simp only [mem_cons, not_mem_nil, or_false, not_or]
      exact ⟨hs, hd⟩
    rw [decide_eq_false ho, if_neg Bool.false_ne_true]
    split <;> first | rfl | contradiction

theorem besides_interactions : besides (decodeInteractions (frameMembers f) payload) =
      payloadFacts .geminiInteractionsSse f.event payload := by
  have hn : ((string ((frameMembers f).get "event")).or
      (string (payload.get "event_type"))).getD "" =
      frameName .geminiInteractionsSse f.event payload := by
    rw [string_event_frameMembers]
    cases hev : f.event <;> simp [frameName]
  unfold decodeInteractions payloadFacts readsUsage payloadEnd
  rw [hn]
  dsimp only
  generalize frameName .geminiInteractionsSse f.event payload = name
  split
  · rfl
  · unfold interactionsStepStart
    split
    · split <;> rfl
    · rfl
  · unfold interactionsStepDelta interactionsDeltaType
    split
    · rfl
    · split
      · rfl
      · rename_i hk
        split at hk <;> cases hk <;> rfl
  · rfl
  · unfold interactionsCompleted
    rw [besides_append, besides_usageEvents]
    refine congrArg (usageEvents _ .gemini ++ ·) ?_
    generalize string (((object (payload.get "interaction")).getD payload).get "status") = status
    exact besides_endEvent ⟨_, status⟩
  · rfl
  · rename_i hc _
    rw [decide_eq_false hc, if_neg Bool.false_ne_true]
    split <;> first | rfl | contradiction

theorem besides_generateContent (json : SerdeJson) (f : SseFrame) (payload : Map)
    (s : Option SourceIdentityState) : besides (decodeGenerateContent json payload s).2 =
      payloadFacts .geminiGenerateContentSse f.event payload := by
  unfold decodeGenerateContent payloadFacts payloadEnd
  simp only [besides_append, besides_of_content (content_generateContentParts json _ s),
    besides_usageEvents]
  generalize ((array (payload.get "candidates")).bind head?).bind Value.asObject = can
  refine congrArg (usageEvents (payload.get "usageMetadata") .gemini ++ ·) ?_
  cases can.bind fun can => string (can.get "finishReason") with
  | none => rfl
  | some reason =>
    by_cases hs : reason = "STOP"
    · subst hs
      rfl
    · simp [besides, isContent, canonicalEvent, endEvent, hs]

/-- **The events of a frame with a payload**: content, the usage that is read, and the end. -/
theorem besides_frame {json : SerdeJson} {a : StreamAdapterKind} {f : SseFrame}
    {s ids : Option SourceIdentityState} {payload : Map} (hp : payloadOf json f = some payload)
    (h : decodeStreamEventInto json a (frameValue f) s = .ok (ids, ev)) :
    isOpenaiDone f.data = false ∧ besides ev = payloadFacts a f.event payload := by
  obtain ⟨hd, hc⟩ := decode_of_payload hp a s
  refine ⟨hd, ?_⟩
  have he := congrArg Prod.snd (Except.ok.inj (h.symm.trans hc))
  refine (congrArg besides he).trans ?_
  cases a with
  | openaiChatSse => exact besides_chat f payload hd
  | openaiResponsesSse => exact besides_responses f payload s
  | anthropicMessagesSse => exact besides_anthropic f payload
  | geminiInteractionsSse => exact besides_interactions f payload
  | geminiGenerateContentSse => exact besides_generateContent json f payload s

end EggPool.Wire
