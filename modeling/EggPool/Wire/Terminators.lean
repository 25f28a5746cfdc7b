import EggPool.Wire.MessagesStream
import EggPool.Wire.StreamEnds

/-!
# How a translated stream ends

A chat stream ends with `data: [DONE]` and a Messages stream with `message_delta` and
`message_stop`. Both encoders see to it that no terminator is sent twice. They send one only
for a completion, so an upstream that ends incomplete leaves its client without; and the chat
encoder turns the completion into the terminator itself, so the finish reason that came with
it is not sent.

`stream_terminated_iff` says which upstreams are translated to a proper end.
-/

namespace EggPool.Wire

open EggPool.Lib List ChatOutput

/-! ## A proper end -/

def ChatOutput.isDone : ChatOutput → Bool
  | done => true
  | chunk _ => false

/-- A chunk with a finish reason that is not null. -/
def ChatOutput.carriesFinishReason : ChatOutput → Bool
  | done => false
  | chunk payload => ((array (payload.get "choices")).getD []).any fun choice =>
    (choice.asObject.bind fun choice => choice.get "finish_reason").any (!·.isNull)

/-- Both clients see one terminator, at the end; and a chat client sees the finish reason, if
the upstream has one. -/
structure Terminated (upstream : List StreamEnd) (events : List CanonicalEvent) : Prop where
  chat : ∃ chunks, chatOutput events = chunks ++ [.done] ∧
    (∀ output ∈ chunks, output.isDone = false) ∧
    (upstream.any (·.reason.isSome) = true → chunks.countP ChatOutput.carriesFinishReason = 1)
  messages : ∃ before stopReason usage,
    messagesOutput events = before ++ anthropicTerminator stopReason usage ∧
      ∀ frame ∈ before, frame.name ≠ "message_stop"

/-- Some end completes the response; and if a reason is given at all, then one is given by an
end before it, which does not. -/
def EndsCleanly (ends : List StreamEnd) : Prop :=
  ends.any (·.complete) = true ∧
    (ends.any (·.reason.isSome) = true →
      (ends.takeWhile (!·.complete)).countP (·.reason.isSome) = 1)

instance (ends : List StreamEnd) : Decidable (EndsCleanly ends) :=
  inferInstanceAs (Decidable (_ ∧ _))

/-! ## The ends among the events -/

variable {event : CanonicalEvent}

theorem endsOf_cons_complete (h : isOpen event = false) (events : List CanonicalEvent) :
    endsOf (event :: events) = ⟨true, event.finishReason⟩ :: endsOf events :=
  filterMap_cons_some (by simp_all [endOf, isOpen])

/-- An event before the completion is no end and has no reason, or is an end that does not
complete. -/
theorem endsOf_cons_open (h : isOpen event = true) (events : List CanonicalEvent) :
    (event.finishReason = none ∧ endsOf (event :: events) = endsOf events) ∨
      endsOf (event :: events) = ⟨false, event.finishReason⟩ :: endsOf events := by
  have hc : event.eventType ≠ .responseComplete := by simpa [isOpen] using h
  by_cases hend : event.eventType = .responseIncomplete ∨ event.finishReason.isSome = true
  · right
    exact filterMap_cons_some (by simp [endOf, hc, hend])
  left
  obtain ⟨hi, hr⟩ := not_or.mp hend
  rw [Option.not_isSome_iff_eq_none] at hr
  exact ⟨hr, filterMap_cons_none (by simp [endOf, hc, hi, hr])⟩

variable (events : List CanonicalEvent)

/-- A stream has an event that completes it exactly if it has an end that does, and the reasons
given before it are the same among events and among ends. -/
theorem endsOf_spec : (events.dropWhile isOpen).isEmpty = !(endsOf events).any (·.complete) ∧
    (events.takeWhile isOpen).countP (·.finishReason.isSome) =
      ((endsOf events).takeWhile (!·.complete)).countP (·.reason.isSome) := by
  induction events with
  | nil => exact ⟨rfl, rfl⟩
  | cons event events ih =>
    cases ho : isOpen event with
    | false =>
      have hn : ¬ isOpen event = true := by rw [ho]; exact Bool.false_ne_true
      rw [dropWhile_cons_of_neg hn, takeWhile_cons_of_neg hn, endsOf_cons_complete ho]
      exact ⟨rfl, rfl⟩
    | true =>
      rw [dropWhile_cons_of_pos ho, takeWhile_cons_of_pos ho, countP_cons, ih.1, ih.2]
      rcases endsOf_cons_open ho events with ⟨hr, he⟩ | he
      · rw [he, hr]
        exact ⟨rfl, rfl⟩
      · rw [he, takeWhile_cons_of_pos (by rfl), countP_cons]
        exact ⟨rfl, rfl⟩

/-! ## The two clients -/

theorem chat_terminated_iff (u : List StreamEnd) (events : List CanonicalEvent) :
    (∃ c, chatOutput events = c ++ [.done] ∧ (∀ o ∈ c, o.isDone = false) ∧
      (u.any (·.reason.isSome) = true → c.countP carriesFinishReason = 1)) ↔
    (endsOf events).any (·.complete) = true ∧ (u.any (·.reason.isSome) = true →
        ((endsOf events).takeWhile (!·.complete)).countP (·.reason.isSome) = 1) := by
  have hc : ((events.takeWhile isOpen).map fun event =>
      chunk (chatPayload event)).countP carriesFinishReason =
        ((endsOf events).takeWhile (!·.complete)).countP (·.reason.isSome) := by
    rw [← (endsOf_spec events).2, countP_map]
    exact countP_congr fun event _ => by
      rw [Function.comp_apply, carriesFinishReason, chatPayload]
      cases event.finishReason <;> rfl
  unfold chatOutput
  rw [encodeChatAll_eq, (endsOf_spec events).1]
  constructor
  · rintro ⟨c, hout, -, hs⟩
    cases hm : (endsOf events).any (·.complete) with
    | true =>
      rw [hm, Bool.not_true] at hout
      obtain ⟨hh, -⟩ := append_inj' hout rfl
      refine ⟨rfl, fun hr => ?_⟩
      rw [← hc, hh]
      exact hs hr
    | false =>
      -- a chunk is not the terminator
      rw [hm, Bool.not_false, if_pos rfl, append_nil] at hout
      have hl : done ∈ (events.takeWhile isOpen).map fun event =>
          chunk (chatPayload event) := by
        rw [hout]
        exact mem_append_right _ (mem_singleton_self _)
      obtain ⟨event, -, hev⟩ := mem_map.mp hl
      cases hev
  · rintro ⟨hm, hs⟩
    rw [hm, Bool.not_true]
    refine ⟨_, rfl, ?_, ?_⟩
    · intro o ho
      obtain ⟨event, -, rfl⟩ := mem_map.mp ho
      rfl
    · rwa [hc]

theorem name_encodeAnthropicEvent (h : event.eventType ≠ .responseComplete) :
    (encodeAnthropicEvent event).name ≠ "message_stop" := by
  unfold encodeAnthropicEvent
  cases heq : event.eventType <;> first | exact absurd heq h | simp [blockDelta, canonicalEventName]

theorem messages_terminated_iff : (∃ b s usage,
      messagesOutput events = b ++ anthropicTerminator s usage ∧
        ∀ frame ∈ b, frame.name ≠ "message_stop") ↔ (endsOf events).any (·.complete) = true:= by
  have ho : ∀ frame ∈ (events.takeWhile isOpen).map encodeAnthropicEvent,
      frame.name ≠ "message_stop" := by
    intro frame hf
    obtain ⟨event, hev, rfl⟩ := mem_map.mp hf
    have hi := mem_takeWhile_imp hev
    exact name_encodeAnthropicEvent (by simpa [isOpen] using hi)
  have hnil := (endsOf_spec events).1
  rw [messagesOutput_eq]
  constructor
  · rintro ⟨b, s, usage, hout, -⟩
    cases hr : events.dropWhile isOpen with
    | nil =>
      rw [hr] at hout
      have hl : messageStop ∈ (events.takeWhile isOpen).map encodeAnthropicEvent := by
        rw [append_nil] at hout
        rw [hout]
        exact mem_append_right _ (.tail _ (.head _))
      exact absurd rfl (ho _ hl)
    | cons complete later =>
      rw [hr] at hnil
      simpa using hnil.symm
  · intro hc
    cases hr : events.dropWhile isOpen with
    | nil =>
      rw [hr, hc] at hnil
      cases hnil
    | cons complete later =>
      refine ⟨_, _, _, (append_assoc ..).symm, ?_⟩
      intro frame hf
      rcases mem_append.mp hf with hf | hf
      · exact ho frame hf
      obtain ⟨event, hev, rfl⟩ := mem_map.mp hf
      have hn := (mem_filter.mp hev).2
      exact name_encodeAnthropicEvent (by simpa using hn)

/-! ## The whole stream -/

/--
**Which upstreams are translated to a proper end.** For every stream of every dialect that is
decoded to its end: both clients see exactly one terminator, last, and a chat client one chunk
with the finish reason where the upstream gives one, exactly if the stream ends cleanly.
-/
theorem stream_terminated_iff (json : SerdeJson) (adapter : StreamAdapterKind)
    (maxFrameBytes : Nat) (chunks : List (List UInt8)) (events : List CanonicalEvent)
    (summary : StreamTerminalSummary) (frames : List SseFrame) (replaced : Nat)
    (h : StreamEventDecoder.translateStream json adapter maxFrameBytes chunks =
      .ok (events, summary))
    (hframes : SseDecoder.decodeChunks maxFrameBytes chunks = .ok (frames, replaced)) :
    Terminated (frames.filterMap (endIn json adapter)) events ↔
      EndsCleanly (frames.filterMap (endIn json adapter)) := by
  obtain ⟨frames', replaced', hframes', hends⟩ := StreamEventDecoder.translateStream_ends h
  cases hframes.symm.trans hframes'
  rw [← hends]
  constructor
  · rintro ⟨hchat, -⟩
    exact (chat_terminated_iff _ events).mp hchat
  rintro ⟨hcomplete, hreason⟩
  exact ⟨(chat_terminated_iff _ events).mpr ⟨hcomplete, hreason⟩,
    (messages_terminated_iff events).mpr hcomplete⟩

/-- Payloads by one letter: a piece of text, and two ways to stop. -/
def stoppingJson : SerdeJson where
  fromStr text :=
    if text = "t" then
      some (.object [("choices", .array [.object [
        ("delta", .object [("content", .string "hi")])]])])
    else if text = "s" then
      some (.object [("choices", .array [.object [
        ("delta", .object []), ("finish_reason", .string "stop")]])])
    else some (.object [("candidates", .array [.object [
      ("finishReason", .string "MAX_TOKENS")]])])
  toText _ := ""

/-- A chat upstream that gives no reason is translated to a proper end. -/
theorem stream_terminated_without_reason : ∃ events summary frames replaced,
      StreamEventDecoder.translateStream stoppingJson .openaiChatSse 64
        [asciiBytes "data:t\n\ndata:[DONE]\n\n"] = .ok (events, summary) ∧
      summary.outcome = .success ∧
      SseDecoder.decodeChunks 64 [asciiBytes "data:t\n\ndata:[DONE]\n\n"] = .ok (frames, replaced) ∧
      Terminated (frames.filterMap (endIn stoppingJson .openaiChatSse)) events := by
  have hruns : (StreamEventDecoder.translateStream stoppingJson .openaiChatSse 64
      [asciiBytes "data:t\n\ndata:[DONE]\n\n"]).toOption.any (·.2.outcome = .success) = true := by
    decide +kernel
  have hends : (SseDecoder.decodeChunks 64 [asciiBytes "data:t\n\ndata:[DONE]\n\n"]).toOption.any
      (fun out => out.1.filterMap (endIn stoppingJson .openaiChatSse) = [⟨true, none⟩]) = true := by
    decide +kernel
  obtain ⟨out, h, ho⟩ := exists_ok_of_any hruns
  obtain ⟨found, hf, he⟩ := exists_ok_of_any hends
  refine ⟨out.1, out.2, found.1, found.2, h, of_decide_eq_true ho, hf, ?_⟩
  refine (stream_terminated_iff stoppingJson .openaiChatSse 64 _ out.1 out.2 found.1 found.2
    h hf).mpr ?_
  rw [of_decide_eq_true he]
  decide

/-- The finish reason of a chat upstream is not sent to a chat client; and a stream that
`generateContent` leaves incomplete has no terminator on either surface. -/
theorem end_not_translated : (StreamEventDecoder.translateStream stoppingJson .openaiChatSse 64
        [asciiBytes "data:t\n\ndata:s\n\ndata:[DONE]\n\n"]).toOption.map (fun out =>
          (out.2.outcome, endsOf out.1, (chatOutput out.1).map ChatOutput.isDone,
            (chatOutput out.1).countP ChatOutput.carriesFinishReason)) =
        some (.success, [⟨true, some "stop"⟩, ⟨true, none⟩], [false, true], 0) ∧
      (StreamEventDecoder.translateStream stoppingJson .geminiGenerateContentSse 64
        [asciiBytes "data:m\n\n"]).toOption.map (fun out =>
          (out.2.outcome, (chatOutput out.1).map ChatOutput.isDone,
            (messagesOutput out.1).map (·.name))) =
        some (.incomplete, [false], ["response_incomplete"]) := by
  decide +kernel

end EggPool.Wire
