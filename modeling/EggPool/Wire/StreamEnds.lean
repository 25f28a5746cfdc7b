import EggPool.Wire.UsageReports

/-!
# Where a stream says that it ends

A provider may end a stream several times: a finish reason on the last chunk, then the mark
of the end. Every such place becomes a canonical event that completes the response or leaves
it incomplete, with the reason if the provider gives one, and no other event has a reason.
A frame has one such place at most, after everything else in it.
-/

namespace EggPool.Wire

open EggPool.Lib

/-- The end in an event. An event that is no end and has a reason would count as one. -/
def endOf (event : CanonicalEvent) : Option StreamEnd :=
  if event.eventType = .responseComplete || event.eventType = .responseIncomplete ||
      event.finishReason.isSome then
    some ⟨event.eventType = .responseComplete, event.finishReason⟩
  else none

/-- The ends among the events of a stream. -/
def endsOf (events : List CanonicalEvent) : List StreamEnd := events.filterMap endOf

/-- The end in a frame. The mark `[DONE]` is one for chat only. -/
def endIn (json : SerdeJson) (adapter : StreamAdapterKind) (f : SseFrame) : Option StreamEnd :=
  if !carriesDecodablePayload f then none
  else if isOpenaiDone f.data then
    if adapter = .openaiChatSse then some ⟨true, none⟩ else none
  else (payloadOf json f).bind (payloadEnd adapter f.event)

/-! ## The ends in the events of a frame -/

@[simp] theorem endsOf_append (ev more : List CanonicalEvent) :
    endsOf (ev ++ more) = endsOf ev ++ endsOf more := List.filterMap_append

theorem endsOf_besides (events : List CanonicalEvent) : endsOf (besides events) = endsOf events := by
  unfold endsOf besides
  rw [List.filterMap_filter]
  refine List.filterMap_congr fun eve _ => ?_
  cases hc : isContent eve with
  | false => rfl
  | true =>
    simp only [isContent, Bool.and_eq_true, bne_iff_ne] at hc
    obtain ⟨⟨⟨-, hr⟩, hm⟩, hi⟩ := hc
    simp [endOf, hr, hm, hi]

theorem endsOf_payloadFacts (a : StreamAdapterKind) (ev : Option String)
    (p : Map) : endsOf (payloadFacts a ev p) = (payloadEnd a ev p).toList := by
  have hu : endsOf (if readsUsage a ev p then
      usageEvents (usagePlace a ev p) (usageProtocol a) else []) = [] := by
    split
    · unfold usageEvents
      split <;> rfl
    · rfl
  rw [payloadFacts, endsOf_append, hu, List.nil_append]
  cases payloadEnd a ev p with
  | none => rfl
  | some e =>
    obtain ⟨complete, reason⟩ := e
    cases complete <;> rfl

variable {ev : List CanonicalEvent}

/-- **What a frame contributes** is the end it carries. -/
theorem endsOf_frame {j : SerdeJson} {a : StreamAdapterKind} {f : SseFrame}
    {s ids : Option SourceIdentityState} (hc : carriesDecodablePayload f = true)
    (h : decodeStreamEventInto j a (frameValue f) s = .ok (ids, ev)) :
    endsOf ev = (endIn j a f).toList := by
  unfold endIn
  rw [hc, Bool.not_true]
  cases hp : payloadOf j f with
  | none =>
    obtain ⟨hd, rfl⟩ := decode_of_no_payload hp h
    split <;> rfl
  | some pay =>
    obtain ⟨hd, hf⟩ := besides_frame hp h
    rw [← endsOf_besides, hf, endsOf_payloadFacts, hd, Option.bind_some]
    rfl

/-! ## The ends of a stream -/

namespace StreamEventDecoder

theorem decodeFrame_ends {j : SerdeJson} {d d' : StreamEventDecoder} {f : SseFrame}
    (h : d.decodeFrame j f = .ok (d', ev)) : endsOf ev = (endIn j d.adapter f).toList:= by
  revert h
  fun_cases decodeFrame j d f with
  | case1 hc =>
    rintro ⟨⟩
    rw [endIn, if_pos hc]
    rfl
  | case2 => rintro ⟨⟩
  | case3 hc _ ids events hd =>
    rintro ⟨⟩
    exact endsOf_frame (by simpa using hc) hd

theorem decodeFrames_ends {j : SerdeJson} {fr : List SseFrame} {d d' : StreamEventDecoder}
    (h : d.decodeFrames j fr = .ok (d', ev)) : endsOf ev = fr.filterMap (endIn j d.adapter) := by
  fun_induction decodeFrames j d fr generalizing ev with
  | case1 => cases h; rfl
  | case4 d f fr d₁ first hf d₂ more hm ih =>
    cases h
    rw [endsOf_append, decodeFrame_ends hf, ih hm, decodeFrame_adapter hf, List.filterMap_cons]
    cases endIn j d.adapter f <;> rfl
  | _ => cases h

/-- **The ends among the events of a stream are the ends in its frames.** -/
theorem translateStream_ends {j : SerdeJson} {a : StreamAdapterKind} {m : Nat}
    {c : List (List UInt8)} {s : StreamTerminalSummary}
    (h : translateStream j a m c = .ok (ev, s)) :
    ∃ frames r, SseDecoder.decodeChunks m c = .ok (frames, r) ∧
      endsOf ev = frames.filterMap (endIn j a) := by
  rcases translateStream_cases j a m c with
    ⟨frames, r, fra, bo, inco, hc, ht⟩ | ⟨-, e, ht⟩
  · refine ⟨frames, r, hc, ?_⟩
    rw [ht] at h
    cases hd : (withLimit a m).decodeFrames j frames with
    | error e =>
      rw [hd] at h
      nomatch h
    | ok out =>
      rw [hd] at h
      cases h
      exact decodeFrames_ends hd
  · nomatch h.symm.trans ht

end StreamEventDecoder

end EggPool.Wire
