import EggPool.Wire.SseGrammar
import EggPool.Wire.StreamDecoder

/-!
# Where a Responses event carries its name

An event of a Responses stream may say what it is twice: on the `event` line of its record
and in the `type` member of its payload. The decoder reads an event under the first of the
two that is there. Whether the event ends the stream it decides by the `event` line alone.

So the two spellings are one for what an event contributes, its usage and its error, and
two for the end of the stream. What a stream reports is the fold of these over its frames
(`reportOf_translateStream`); taking the `event` lines away leaves the first part as it is
and all but the errors of the second part out.
-/

namespace EggPool.Wire

open List EggPool.Lib SseGrammar StreamEventDecoder

/-! ## What a stream reports, as a fold over its frames -/

/-- What the report of a stream depends on. -/
structure StreamView where
  evidence : Option TerminalEvidence
  (sawTerminalEvent sawPayload : Bool)
  usage : UsageAccumulator
  failed : Bool

/-- Terminal evidence, outcome and usage. -/
structure StreamReport where
  evidence : Option TerminalEvidence
  outcome : StreamTerminalOutcome
  usage : Option CanonicalUsage
  deriving DecidableEq, Repr

def StreamTerminalSummary.report (summary : StreamTerminalSummary) : StreamReport :=
  ⟨summary.evidence, summary.outcome, summary.usage⟩

namespace StreamView

def start : StreamView := ⟨none, false, false, .empty, false⟩

/-- One more frame with these facts; `evidence` is what its name says of the end. -/
def note (v : StreamView) (hasData : Bool) (evidence : Option TerminalEvidence)
    (facts : List CanonicalEvent) : StreamView :=
  let sawError := facts.any fun event => event.eventType == .error
  { evidence :=
      if sawError then some .providerError
      else if v.sawTerminalEvent then v.evidence else evidence.or v.evidence
    sawTerminalEvent := v.sawTerminalEvent || evidence.isSome || sawError
    sawPayload := v.sawPayload || hasData
    usage := facts.foldl UsageAccumulator.mergeEvent v.usage
    failed := v.failed }

/-- One frame of the Responses dialect; one without a payload does not count. -/
def frame (json : SerdeJson) (v : StreamView) (frame : SseFrame) : Except StreamError StreamView :=
  if !carriesDecodablePayload frame then .ok v
  else
    match responsesFrame json frame with
    | .error e => .error (.malformedEvent e.reason)
    | .ok facts =>
      .ok (v.note (!frame.data.isEmpty) (responsesEvidence (frame.event.getD "")) facts)

def frames (json : SerdeJson) (v : StreamView) : List SseFrame → Except StreamError StreamView
  | [] => .ok v
  | f :: rest =>
    match v.frame json f with
    | .error e => .error e
    | .ok v => v.frames json rest

theorem frames_append (json : SerdeJson) (fi second : List SseFrame) : ∀ v : StreamView,
    v.frames json (fi ++ second) = match v.frames json fi with
      | .error e => .error e
      | .ok v => v.frames json second := by
  induction fi with
  | nil =>
    intro v
    rfl
  | cons f fi ih =>
    intro v
    rw [cons_append, frames, frames]
    rcases v.frame json f with e | v
    · rfl
    · exact ih v

/-- The report of a stream that ends here. -/
def report (v : StreamView) : StreamReport where
  evidence := v.evidence
  outcome :=
    if v.failed then .malformed
    else
      match v.evidence with
      | some .openaiDone => .success
      | some .responsesCompleted => .success
      | some .anthropicMessageStop => .success
      | some .geminiCompleted => .success
      | some .responsesIncomplete => .incomplete
      | some .responsesFailed => .incomplete
      | some .geminiIncomplete => .incomplete
      | some .providerError => .providerError
      | none => if !v.sawPayload then .eofBeforeBody else .eofAfterPartialBody
  usage := v.usage.reported

end StreamView

namespace StreamEventDecoder

def view (d : StreamEventDecoder) : StreamView where
  evidence := d.evidence
  sawTerminalEvent := d.sawTerminalEvent
  sawPayload := d.sawPayload
  usage := d.usage
  failed := d.framingError || d.parserErrorCount > 0

/-- Whether a frame can be decoded depends on whether its facts can be read. -/
theorem decodeFrame_eq_facts (json : SerdeJson) {d : StreamEventDecoder} {fr : SseFrame}
    (ha : d.adapter = .openaiResponsesSse) (hp : carriesDecodablePayload fr = true) :
    (d.decodeFrame json fr).map (fun out => out.2.filter CanonicalEvent.isFact) =
      (responsesFrame json fr).mapError (fun e => .malformedEvent e.reason) := by
  rw [← facts_of_decode json fr (d.notePayload fr).sourceIdentity, ← ha]
  rw [decodeFrame, hp, Bool.not_true]
  dsimp only
  rw [show (d.notePayload fr).adapter = d.adapter from rfl]
  cases decodeStreamEventInto json d.adapter (frameValue fr)
      (d.notePayload fr).sourceIdentity with
  | error e => rfl
  | ok out => rfl

theorem decodeFrame_view {d : StreamEventDecoder} (ha : d.adapter = .openaiResponsesSse)
    (json : SerdeJson) (frame : SseFrame) :
    (d.decodeFrame json frame).map (·.1.view) = d.view.frame json frame := by
  cases hp : carriesDecodablePayload frame with
  | false =>
    rw [decodeFrame, StreamView.frame, hp]
    rfl
  | true =>
    have hf := decodeFrame_eq_facts json ha hp
    rw [StreamView.frame, hp, Bool.not_true]
    cases hc : d.decodeFrame json frame with
    | error e =>
      rw [hc] at hf
      cases hr : responsesFrame json frame with
      | error e' =>
        rw [hr] at hf
        cases hf
        rfl
      | ok fac =>
        rw [hr] at hf
        nomatch hf
    | ok out =>
      obtain ⟨fac, ids, hr, hd⟩ := decodeFrame_records ha hp hc
      rw [hr, Except.map, hd, record, noteTerminal_eq]
      rfl

/-- **Decoding the frames of a stream is a fold of views.** -/
theorem decodeFrames_view (json : SerdeJson) (frames : List SseFrame) :
    ∀ {d : StreamEventDecoder}, d.adapter = .openaiResponsesSse →
      (d.decodeFrames json frames).map (·.1.view) = d.view.frames json frames := by
  induction frames with
  | nil =>
    intro d _
    rfl
  | cons frame frames ih =>
    intro d ha
    rw [decodeFrames, StreamView.frames, ← decodeFrame_view ha]
    rcases ho : d.decodeFrame json frame with e | ⟨d₁, events⟩
    · rfl
    dsimp only [Except.map]
    rw [← ih ((decodeFrame_adapter ho).trans ha)]
    rcases d₁.decodeFrames json frames with e | out <;> rfl

end StreamEventDecoder

/-- What a decoder reports of a whole Responses stream. -/
def reportOf (json : SerdeJson) (maxFrameBytes : Nat) (chunks : List (List UInt8)) :
    Except StreamError StreamReport :=
  (StreamEventDecoder.translateStream json .openaiResponsesSse maxFrameBytes chunks).map
    (·.2.report)

variable (json : SerdeJson)

/-- **The report of a stream is a fold over its frames.** -/
theorem reportOf_eq_frames {m : Nat} {c : List (List UInt8)} {frames : List SseFrame} {r : Nat}
    (h : SseDecoder.decodeChunks m c = .ok (frames, r)) :
    reportOf json m c = (StreamView.start.frames json frames).map StreamView.report := by
  rcases translateStream_cases json .openaiResponsesSse m c with
    ⟨frames', rep', fra, bo, inco, hc, ht⟩ | ⟨⟨e, hc⟩, -⟩
  · cases h.symm.trans hc
    have hs : StreamView.start =
        (withLimit .openaiResponsesSse m).view := rfl
    rw [reportOf, ht, hs, ← decodeFrames_view json frames rfl]
    rcases decodeFrames json _ frames with e | out <;> rfl
  · nomatch h.symm.trans hc

/-! ## Two spellings of a stream -/

/-- What the facts of a frame do to a report: an error, and the usage they add. -/
def effect (facts : List CanonicalEvent) : Bool × (UsageAccumulator → UsageAccumulator) :=
  (facts.any fun event => event.eventType == .error,
    fun usage => facts.foldl UsageAccumulator.mergeEvent usage)

/-- Two frames with the same effect, whatever their names say of the end of the stream. -/
structure Alike (json : SerdeJson) (f g : SseFrame) : Prop where
  carries : carriesDecodablePayload g = carriesDecodablePayload f
  facts : carriesDecodablePayload f = true →
    (responsesFrame json g).map effect = (responsesFrame json f).map effect

/-- The frame is an error event. -/
def isErrorFrame (json : SerdeJson) (f : SseFrame) : Bool :=
  carriesDecodablePayload f &&
    (responsesFrame json f).toOption.any fun facts =>
      facts.any fun event => event.eventType == .error

/-- What the name on a frame says of the end of the stream. -/
def namedEnd (f : SseFrame) : Option TerminalEvidence :=
  if carriesDecodablePayload f then responsesEvidence (f.event.getD "") else none

variable {f : SseFrame}

theorem data_of_carries (h : carriesDecodablePayload f = true) : f.data.isEmpty = false := by
  unfold carriesDecodablePayload at h
  split at h
  · nomatch h
  cases hd : f.data.isEmpty with
  | false => rfl
  | true =>
    rw [String.isEmpty_iff.1 hd] at h
    nomatch h

namespace StreamView

/-- The report apart from the end of the stream. -/
structure SameFacts (v w : StreamView) : Prop where
  payload : w.sawPayload = v.sawPayload
  usage : w.usage = v.usage
  failed : w.failed = v.failed

/-- The end was seen exactly if there is evidence of it. -/
def Settled (v : StreamView) : Prop := v.sawTerminalEvent = v.evidence.isSome

variable {v : StreamView}

theorem settled_note (h : v.Settled) (hasData : Bool) (ev : Option TerminalEvidence)
    (fa : List CanonicalEvent) : (v.note hasData ev fa).Settled := by
  unfold Settled note
  rw [h]
  cases v.evidence <;> cases ev <;>
    cases fa.any (fun eve => eve.eventType == .error) <;> rfl

/-- The evidence after a frame: an error overrides, else the first end stands. -/
theorem evidence_note (h : v.Settled) (hasData : Bool) (evidence : Option TerminalEvidence)
    (fa : List CanonicalEvent) : (v.note hasData evidence fa).evidence =
      if fa.any (fun event => event.eventType == .error) then some .providerError
      else v.evidence.or evidence := by
  unfold note
  rw [h]
  cases v.evidence <;> cases evidence <;> rfl

variable {json : SerdeJson} {f : SseFrame}

/-- The facts of a frame that is read are noted. -/
theorem frame_of_carries (hc : carriesDecodablePayload f = true) : v.frame json f =
    ((responsesFrame json f).mapError fun e => .malformedEvent e.reason).map
      (v.note true (responsesEvidence (f.event.getD ""))) := by
  rw [frame, hc, Bool.not_true, data_of_carries hc]
  cases responsesFrame json f <;> rfl

theorem frame_of_not_carries (hc : carriesDecodablePayload f = false) : v.frame json f = .ok v:= by
  rw [frame, hc, Bool.not_false, if_pos rfl]

theorem evidence_of_frame {v' : StreamView} (hv : v.Settled) (h : v.frame json f = .ok v') :
    v'.Settled ∧ v'.evidence =
      if isErrorFrame json f then some .providerError else v.evidence.or (namedEnd f) := by
  cases hc : carriesDecodablePayload f with
  | false =>
    rw [frame_of_not_carries hc] at h
    cases h
    rw [isErrorFrame, namedEnd, hc, Bool.false_and, if_neg Bool.false_ne_true,
      if_neg Bool.false_ne_true, Option.or_none]
    exact ⟨hv, rfl⟩
  | true =>
    rw [frame_of_carries hc] at h
    rw [isErrorFrame, namedEnd, hc]
    revert h
    rcases responsesFrame json f with e | fac
    · nofun
    · rintro ⟨⟩
      exact ⟨settled_note hv _ _ _, evidence_note hv _ _ _⟩

/-- **The evidence a stream leaves**: an error, or the first end that a name tells. -/
theorem evidence_of_frames (frames : List SseFrame) :
    ∀ {v v' : StreamView}, v.Settled → v.frames json frames = .ok v' →
      v'.evidence = if frames.any (isErrorFrame json) then some .providerError
        else v.evidence.or (frames.findSome? namedEnd) := by
  induction frames with
  | nil =>
    intro v v' _ h
    cases h
    rw [any_nil, if_neg Bool.false_ne_true, List.findSome?_nil, Option.or_none]
  | cons f frames ih =>
    intro v v' hv h
    rw [StreamView.frames] at h
    cases hf : v.frame json f with
    | error e =>
      rw [hf] at h
      nomatch h
    | ok v₁ =>
      rw [hf] at h
      obtain ⟨hv₁, ho⟩ := evidence_of_frame hv hf
      rw [ih hv₁ h, ho, any_cons, List.findSome?_cons]
      cases frames.any (isErrorFrame json) with
      | true => rw [Bool.or_true, if_pos rfl, if_pos rfl]
      | false =>
        cases isErrorFrame json f with
        | true => rfl
        | false =>
          rw [if_neg Bool.false_ne_true, if_neg Bool.false_ne_true, Option.or_assoc]
          cases namedEnd f <;> rfl

theorem sameFacts_of_frame {g : SseFrame} (ha : Alike json f g) {w : StreamView}
    (hs : SameFacts v w) : (∃ e, v.frame json f = .error e ∧ w.frame json g = .error e) ∨
      ∃ v' w', v.frame json f = .ok v' ∧ w.frame json g = .ok w' ∧ SameFacts v' w' := by
  cases hc : carriesDecodablePayload f with
  | false =>
    exact .inr ⟨v, w, frame_of_not_carries hc, frame_of_not_carries (ha.carries.trans hc), hs⟩
  | true =>
    have hf := ha.facts hc
    rw [frame_of_carries hc, frame_of_carries (ha.carries.trans hc)]
    revert hf
    generalize responsesFrame json f = out
    generalize responsesFrame json g = out'
    intro hf
    rcases out with e | facts
    · rcases out' with e' | facts'
      · cases hf
        exact .inl ⟨_, rfl, rfl⟩
      · nomatch hf
    · rcases out' with e' | facts'
      · nomatch hf
      have he : effect facts' = effect facts := Except.ok.inj hf
      refine .inr ⟨_, _, rfl, rfl, ?_, ?_, hs.failed⟩
      · exact congrArg (· || true) hs.payload
      · have hu := congrFun (congrArg Prod.snd he) w.usage
        exact hu.trans (congrArg (fun u => facts.foldl _ u) hs.usage)

variable {frames frames' : List SseFrame}

/-- Frames with the same effect leave the same facts, or fail the same way. -/
theorem sameFacts_of_frames (ha : List.Forall₂ (Alike json) frames frames') :
    ∀ {v w : StreamView}, SameFacts v w →
      (∃ e, v.frames json frames = .error e ∧ w.frames json frames' = .error e) ∨
      ∃ v' w', v.frames json frames = .ok v' ∧ w.frames json frames' = .ok w' ∧ SameFacts v' w' := by
  induction ha with
  | nil =>
    intro v w hs
    exact .inr ⟨v, w, rfl, rfl, hs⟩
  | cons ho _ ih =>
    intro v w hs
    rw [StreamView.frames, StreamView.frames]
    rcases sameFacts_of_frame ho hs with ⟨e, hv, hw⟩ | ⟨v', w', hv, hw, hs'⟩
    · rw [hv, hw]
      exact .inl ⟨e, rfl, rfl⟩
    · rw [hv, hw]
      exact ih hs'

theorem isErrorFrame_of_alike {g : SseFrame} (ha : Alike json f g) :
    isErrorFrame json g = isErrorFrame json f := by
  have he : ∀ f, isErrorFrame json f = (carriesDecodablePayload f &&
      ((responsesFrame json f).map effect).toOption.any (·.1)) := by
    intro f
    rw [isErrorFrame]
    cases responsesFrame json f <;> rfl
  rw [he, he, ha.carries]
  cases hc : carriesDecodablePayload f with
  | false => rfl
  | true => rw [ha.facts hc]

theorem any_isErrorFrame_of_alike (ha : List.Forall₂ (Alike json) frames frames') :
    frames'.any (isErrorFrame json) = frames.any (isErrorFrame json) := by
  induction ha with
  | nil => rfl
  | cons ho _ ih => rw [any_cons, any_cons, isErrorFrame_of_alike ho, ih]

theorem report_eq_iff {w : StreamView} (hs : SameFacts v w) :
    w.report = v.report ↔ w.evidence = v.evidence := by
  constructor
  · exact congrArg StreamReport.evidence
  intro h
  unfold report
  rw [h, hs.failed, hs.payload, hs.usage]

/--
**When two spellings report the same**: a frame cannot be read, a frame is an error, or the
names tell the same end.
-/
theorem report_frames_eq_iff (ha : List.Forall₂ (Alike json) frames frames') :
    (start.frames json frames').map report = (start.frames json frames).map report ↔
      (∃ e, start.frames json frames = .error e) ∨ frames.any (isErrorFrame json) = true ∨
        frames'.findSome? namedEnd = frames.findSome? namedEnd := by
  have hs : start.Settled := rfl
  rcases sameFacts_of_frames ha ⟨rfl, rfl, rfl⟩ with
    ⟨e, hv, hw⟩ | ⟨v, w, hv, hw, hm⟩
  · rw [hv, hw]
    exact ⟨fun _ => .inl ⟨e, rfl⟩, fun _ => rfl⟩
  have hve := evidence_of_frames frames hs hv
  have hwe := evidence_of_frames frames' hs hw
  rw [any_isErrorFrame_of_alike ha] at hwe
  rw [hv, hw]
  have hr : (Except.ok w : Except StreamError StreamView).map report =
      (Except.ok v).map report ↔ w.report = v.report :=
    ⟨Except.ok.inj, congrArg Except.ok⟩
  rw [hr, report_eq_iff hm, hve, hwe]
  cases frames.any (isErrorFrame json) with
  | true => exact ⟨fun _ => .inr (.inl rfl), fun _ => rfl⟩
  | false =>
    constructor
    · intro h
      exact .inr (.inr h)
    rintro (⟨e, he⟩ | h | h)
    · nomatch he
    · nomatch h
    · exact h

end StreamView

/-! ## A stream without its `event` lines -/

def isEventLine (line : List Char) : Bool := (lineField line).1 == "event"

/-- A frame whose name was not on it. -/
def bare (f : SseFrame) : SseFrame := { f with event := none }

theorem frame_congr (v : StreamView) {g : SseFrame}
    (hc : carriesDecodablePayload g = carriesDecodablePayload f) (hd : g.data = f.data)
    (hev : g.event = f.event) : v.frame json g = v.frame json f := by
  have hv : frameValue g = frameValue f := by rw [frameValue, frameValue, hd, hev]
  have hr : responsesFrame json g = responsesFrame json f := by
    rw [responsesFrame, responsesFrame, hv, hev]
  rw [StreamView.frame, StreamView.frame, hc, hr, hd, hev]

variable {record : List (List Char)}

/-- A record carries a payload if a `data` line has one. -/
theorem carries_frameOf (en : Bool) (hli : ∀ line ∈ record, line.isEmpty = false) :
    carriesDecodablePayload (frameOf (record, en)) =
      (!(valuesOf "data" (record.map lineField)).isEmpty &&
        !(trim ("\n".intercalate (valuesOf "data" (record.map lineField)))).isEmpty) := by
  change (if record.all isComment || !(record.map lineField).any (fun field => field.1 == "data")
    then false else !(trim ("\n".intercalate (valuesOf "data" (record.map lineField)))).isEmpty) = _
  cases hd : (record.map lineField).any (fun field => field.1 == "data") with
  | false =>
    have hn : valuesOf "data" (record.map lineField) = [] := by
      unfold valuesOf
      rw [List.map_eq_nil_iff, List.filter_eq_nil_iff]
      exact fun field hf => Bool.not_eq_true _ ▸ any_eq_false.1 hd field hf
    rw [hn, Bool.not_false, Bool.or_true]
    rfl
  | true =>
    -- a record with a `data` line does not consist of comments
    obtain ⟨field, hf, hnm⟩ := any_eq_true.1 hd
    obtain ⟨line, hl, rfl⟩ := mem_map.1 hf
    have hc : record.all isComment = false := by
      rw [all_eq_false]
      refine ⟨line, hl, ?_⟩
      rw [← SseAssembly.lineField_isEmpty (hli line hl), eq_of_beq hnm]
      decide
    have hs : (valuesOf "data" (record.map lineField)).isEmpty = false := by
      rw [← Bool.not_eq_true, List.isEmpty_iff, valuesOf, List.map_eq_nil_iff,
        List.filter_eq_nil_iff]
      exact fun hall => hall _ hf hnm
    rw [hc, hs, Bool.not_true, Bool.or_false, if_neg Bool.false_ne_true, Bool.not_false,
      Bool.true_and]

theorem frames_singleton (v : StreamView) (f : SseFrame) : v.frames json [f] = v.frame json f := by
  rw [StreamView.frames]
  rcases v.frame json f with e | v' <;> rfl

/-- The frames of one record. -/
def recordFrames (record : List (List Char)) (ended : Bool) : List SseFrame :=
  if record.isEmpty then [] else [frameOf (record, ended)]

/-- **One record without its `event` lines** is read like its frame without a name. -/
theorem frames_of_record (v : StreamView) {record : List (List Char)}
    (en : Bool) (hs : ∀ line ∈ record, line.isEmpty = false) :
    v.frames json (recordFrames (record.filter (!isEventLine ·)) en) =
      v.frames json ((recordFrames record en).map bare) := by
  have hk : ∀ line ∈ record.filter (!isEventLine ·), line.isEmpty = false :=
    fun line hl => hs line (mem_of_mem_filter hl)
  have hw (n : String) : valuesOf n ((record.filter (!isEventLine ·)).map lineField) =
      if !(n == "event") then valuesOf n (record.map lineField) else [] := by
    rw [← valuesOf_filter (!· == "event"), filter_map]
    rfl
  have hv := (hw "data").trans (if_pos rfl)
  have hc : carriesDecodablePayload (frameOf (record.filter (!isEventLine ·), en)) =
      carriesDecodablePayload (bare (frameOf (record, en))) := by
    change _ = carriesDecodablePayload (frameOf (record, en))
    rw [carries_frameOf en hk, carries_frameOf en hs, hv]
  have ho : v.frame json (frameOf (record.filter (!isEventLine ·), en)) =
      v.frame json (bare (frameOf (record, en))) := by
    refine frame_congr json v hc ?_ ?_
    · change "\n".intercalate _ = "\n".intercalate _
      rw [hv]
    change List.getLast? _ = none
    rw [hw]
    rfl
  cases record with
  | nil => rfl
  | cons line record =>
    rw [show (recordFrames (line :: record) en).map bare = [bare (frameOf (line :: record, en))]
      from rfl, frames_singleton, ← ho]
    by_cases hn : (line :: record).filter (!isEventLine ·) = []
    · -- nothing is left of the record, and it carried nothing
      rw [hn]
      rfl
    · rw [recordFrames, if_neg (by rwa [List.isEmpty_iff]), frames_singleton]

/-- The frames of lines. -/
def lineFrames (lines : List (List Char)) : List SseFrame :=
  ((pieces List.isEmpty lines).filter (!·.1.isEmpty)).map frameOf

theorem lineFrames_open (hl : ∀ line ∈ record, line.isEmpty = false) :
    lineFrames record = recordFrames record false := by
  cases record with
  | nil => rfl
  | cons line record =>
    rw [lineFrames, pieces_open hl (cons_ne_nil _ _), SseAssembly.map_records_cons,
    filter_nil, map_nil]
    rfl

theorem lineFrames_ended (hl : ∀ line ∈ record, line.isEmpty = false) {b : List Char}
    (hb : b.isEmpty = true) (lines : List (List Char)) :
    lineFrames (record ++ b :: lines) = recordFrames record true ++ lineFrames lines := by
  rw [lineFrames, pieces_ended hl hb, SseAssembly.map_records_cons]
  rfl

theorem frames_of_lines (l : List (List Char)) : ∀ v : StreamView,
    v.frames json (lineFrames (l.filter (!isEventLine ·))) =
      v.frames json ((lineFrames l).map bare) := by
  induction l using pieces_induction with
  | nil =>
    intro v
    rfl
  | opened record hs _ =>
    intro v
    rw [lineFrames_open hs, ← frames_of_record json v false hs, lineFrames_open]
    exact fun line hl => hs line (mem_of_mem_filter hl)
  | ended record bla l hs hb ih =>
    intro v
    have hk : ∀ line ∈ record.filter (!isEventLine ·), line.isEmpty = false :=
      fun line hl => hs line (mem_of_mem_filter hl)
    have hn : (!isEventLine bla) = true := by
      rw [List.isEmpty_iff.1 hb]
      rfl
    rw [filter_append, filter_cons, if_pos hn, lineFrames_ended hk hb,
      lineFrames_ended hs hb, map_append, StreamView.frames_append,
      StreamView.frames_append, frames_of_record json v true hs]
    rcases v.frames json ((recordFrames record true).map bare) with e | v'
    · rfl
    · exact ih v'

/-- Leaving `event` lines out does not take a record over the limit. -/
theorem withinLimit_filter {m : Nat} {t text' : List Char} (h : SseDecoder.WithinLimit m t)
    (hl : lines text' = (lines t).filter (!isEventLine ·)) : SseDecoder.WithinLimit m text':= by
  intro record hrec
  rw [records, hl] at hrec
  obtain ⟨whole, hw, rfl⟩ := exists_of_mem_pieces_filter
    (fun line hb => by
      rw [List.isEmpty_iff.1 hb]; rfl) (lines t) record hrec
  refine Nat.le_trans ?_ (h whole hw)
  have hs : ((whole.1.filter (!isEventLine ·)).map fun line => lineBytes line + 1).sum ≤
      (whole.1.map fun line => lineBytes line + 1).sum :=
    (filter_sublist.map _).sum_le_sum fun _ _ => Nat.zero_le _
  exact Nat.add_le_add_right hs _

/-! ## The two places of a name -/

/-- The payload of a frame, unless there is none or it is the mark at the end of a stream. -/
def payloadOf (json : SerdeJson) (f : SseFrame) : Option Map :=
  match payloadValue json (frameValue f) with
  | .error _ => none
  | .ok (payload, marker) => if marker.any isOpenaiDone then none else some payload

/-- The payload of a frame says in its `type` what the frame's `event` line says. -/
def repeated (json : SerdeJson) (f : SseFrame) : Bool :=
  match f.event, payloadOf json f with
  | some name, some payload => string (payload.get "type") == some name
  | _, _ => true

/-- The payload of a frame depends on its data. -/
theorem payloadValue_bare (f : SseFrame) :
    payloadValue json (frameValue (bare f)) = payloadValue json (frameValue f) := by
  cases f.event with
  | none | some => rfl

variable {json : SerdeJson}

/-- What a frame contributes, by its payload and the name it goes under. -/
theorem responsesFrame_eq (f : SseFrame) : responsesFrame json f = match payloadOf json f with
    | some p => .ok (responsesFacts (f.event.getD ((string (p.get "type")).getD "")) p)
    | none => (payloadValue json (frameValue f)).map fun _ => [] := by
  unfold responsesFrame payloadOf
  rcases payloadValue json (frameValue f) with e | ⟨payload, marker⟩
  · rfl
  dsimp only
  cases marker.any isOpenaiDone with
  | true | false => rfl

/-- A payload that repeats the name is read the same without the `event` line. -/
theorem alike_bare (h : repeated json f = true) : Alike json f (bare f) := by
  refine ⟨rfl, fun _ => ?_⟩
  have hp : payloadOf json (bare f) = payloadOf json f := by
    rw [payloadOf, payloadValue_bare, payloadOf]
  rw [responsesFrame_eq, responsesFrame_eq, hp, payloadValue_bare]
  cases hp : payloadOf json f with
  | none => rfl
  | some payload =>
    cases hev : f.event with
    | none => rfl
    | some name =>
      rw [repeated, hev, hp] at h
      dsimp only
      rw [eq_of_beq h]
      rfl

/-- Two frames that differ in the `type` of the payload, where the `event` line has the name. -/
structure Untyped (json : SerdeJson) (f g : SseFrame) : Prop where
  event : g.event = f.event
  carries : carriesDecodablePayload g = carriesDecodablePayload f
  payload : payloadValue json (frameValue g) = payloadValue json (frameValue f) ∨
    f.event.isSome = true ∧ ∃ payload, payloadOf json f = some payload ∧
      payloadOf json g = some (payload.filter fun member => member.1 ≠ "type")

theorem get_withoutType (p : Map) {key : String} (hkey : key ≠ "type") :
    Map.get (p.filter fun member => member.1 ≠ "type") key = p.get key := by
  induction p with
  | nil => rfl
  | cons member p ih =>
    rw [filter_cons]
    unfold Map.get at ih ⊢
    rw [lookup_cons]
    by_cases ht : member.1 = "type"
    · rw [if_neg (by simpa using ht), ht, beq_eq_false_iff_ne.2 hkey, ih]
    · rw [if_pos (by simpa using ht), lookup_cons, ih]

/-- The effect of a payload under a given name does not depend on its `type`. -/
theorem effect_withoutType (n : String) (p : Map) :
    effect (responsesFacts n (p.filter fun member => member.1 ≠ "type")) =
      effect (responsesFacts n p) := by
  have hu : ((object (Map.get (p.filter fun member => member.1 ≠ "type")
      "response")).getD (p.filter fun member => member.1 ≠ "type")).get "usage" =
        ((object (p.get "response")).getD p).get "usage" := by
    rw [get_withoutType p (by decide)]
    cases object (p.get "response") with
    | none => exact get_withoutType p (by decide)
    | some res => rfl
  unfold responsesFacts
  dsimp only
  rw [hu]
  split <;> rfl

/-- **The name on the `event` line is enough** for what a frame contributes. -/
theorem Untyped.alike {g : SseFrame} (h : Untyped json f g) : Alike json f g := by
  refine ⟨h.carries, fun _ => ?_⟩
  rcases h.payload with hs | ⟨hn, pay, hf, hg⟩
  · rw [responsesFrame, responsesFrame, hs, h.event]
  obtain ⟨name, hnm⟩ := Option.isSome_iff_exists.1 hn
  rw [responsesFrame_eq, responsesFrame_eq, hf, hg, h.event, hnm]
  exact congrArg Except.ok (effect_withoutType name pay)

/-! ## The report of both spellings -/

/-- A stream whose report does not depend on its `event` lines. -/
def NameIndifferent (json : SerdeJson) (frames : List SseFrame) : Prop :=
  (∃ f ∈ frames, carriesDecodablePayload f = true ∧ (responsesFrame json f).toOption = none) ∨
    (∃ f ∈ frames, isErrorFrame json f = true) ∨ ∀ f ∈ frames, namedEnd f = none

theorem frames_eq_error_iff (frames : List SseFrame) : ∀ v : StreamView,
    (∃ e, v.frames json frames = .error e) ↔
      ∃ f ∈ frames, carriesDecodablePayload f = true ∧ (responsesFrame json f).toOption = none := by
  induction frames with
  | nil =>
    simp [StreamView.frames]
  | cons f frames ih =>
    intro v
    rw [StreamView.frames, exists_mem_cons_iff]
    cases hc : carriesDecodablePayload f with
    | false =>
      rw [StreamView.frame_of_not_carries hc]
      simp [ih v]
    | true =>
      rw [StreamView.frame, hc, Bool.not_true]
      cases responsesFrame json f with
      | error e => simp [Except.toOption]
      | ok fac => simp [Except.toOption, ih]

theorem findSome?_bare (frames : List SseFrame) : (frames.map bare).findSome? namedEnd = none := by
  rw [List.findSome?_eq_none_iff]
  intro f hf
  obtain ⟨g, _, rfl⟩ := mem_map.1 hf
  unfold namedEnd
  split <;> rfl

theorem alike_map_bare {frames : List SseFrame} (h : ∀ f ∈ frames, repeated json f = true) :
    List.Forall₂ (Alike json) frames (frames.map bare) := by
  rw [List.forall₂_map_right_iff, List.forall₂_same]
  exact fun f hf => alike_bare (h f hf)

theorem findSome?_of_untyped {frames frames' : List SseFrame}
    (h : List.Forall₂ (Untyped json) frames frames') :
    frames'.findSome? namedEnd = frames.findSome? namedEnd := by
  induction h with
  | nil => rfl
  | cons ho _ ih =>
    rw [List.findSome?_cons, List.findSome?_cons, ih, namedEnd, namedEnd, ho.carries, ho.event]

/--
**What the place of the names changes.** Without its `event` lines a stream whose payloads
repeat the names reports the same exactly if no `event` line tells the end of the stream, or
an error event decides it, or a payload cannot be read and both fail. Without the types a
stream with the names on its `event` lines always reports the same.
-/
theorem reportOf_spellings (json : SerdeJson) (maxFrameBytes : Nat)
    (chunks chunks' : List (List UInt8))
    (hlimit : SseDecoder.WithinLimit maxFrameBytes (textOf chunks.flatten)) :
    (lines (textOf chunks'.flatten) = (lines (textOf chunks.flatten)).filter (!isEventLine ·) →
      (∀ f ∈ frames (textOf chunks.flatten), repeated json f = true) →
        (reportOf json maxFrameBytes chunks' = reportOf json maxFrameBytes chunks ↔
          NameIndifferent json (frames (textOf chunks.flatten)))) ∧
    (SseDecoder.WithinLimit maxFrameBytes (textOf chunks'.flatten) →
      List.Forall₂ (Untyped json) (frames (textOf chunks.flatten))
        (frames (textOf chunks'.flatten)) →
        reportOf json maxFrameBytes chunks' = reportOf json maxFrameBytes chunks) := by
  have hreport := reportOf_eq_frames json (SseDecoder.decodeChunks_of_withinLimit hlimit)
  constructor
  · intro hlines hrepeated
    have hlimit' := withinLimit_filter hlimit hlines
    have hreport' := reportOf_eq_frames json (SseDecoder.decodeChunks_of_withinLimit hlimit')
    have hbare : StreamView.start.frames json (frames (textOf chunks'.flatten)) =
        StreamView.start.frames json ((frames (textOf chunks.flatten)).map bare) := by
      have hfold := frames_of_lines json (lines (textOf chunks.flatten)) StreamView.start
      rwa [← hlines] at hfold
    rw [hreport', hreport, hbare, StreamView.report_frames_eq_iff (alike_map_bare hrepeated),
      frames_eq_error_iff, findSome?_bare, any_eq_true, eq_comm, List.findSome?_eq_none_iff]
    rfl
  · intro hlimit' huntyped
    have hreport' := reportOf_eq_frames json (SseDecoder.decodeChunks_of_withinLimit hlimit')
    have halike : List.Forall₂ (Alike json) _ _ := huntyped.imp fun _ _ h => h.alike
    rw [hreport', hreport, StreamView.report_frames_eq_iff halike]
    exact .inr (.inr (findSome?_of_untyped huntyped))

/-- Payloads by one letter: the end of a stream, a piece of text, and an error. -/
def letterJson : SerdeJson where
  fromStr text :=
    if text = "c" then some (.object [("type", .string "response.completed")])
    else if text = "d" then some (.object [("type", .string "response.output_text.delta")])
    else if text = "e" then some (.object [("type", .string "error")])
    else some (.object [])
  toText _ := ""

def asciiBytes (text : String) : List UInt8 := text.toList.map fun c => UInt8.ofNat c.toNat

/-- A frame with its name on the `event` line. -/
def namedFrame (name data : String) (byteCount : Nat) : SseFrame :=
  ⟨some name, data, [("event", name), ("data", data)], false, byteCount⟩

/-- A stream that ends in an error event is reported the same in all spellings. -/
theorem reportOf_error_stream : reportOf letterJson 64 [asciiBytes "data:d\n\ndata:e\n\n"] =
        reportOf letterJson 64
          [asciiBytes "event:response.output_text.delta\ndata:d\n\nevent:error\ndata:e\n\n"] ∧
      reportOf letterJson 64
          [asciiBytes "event:response.output_text.delta\ndata:x\n\nevent:error\ndata:x\n\n"] =
        reportOf letterJson 64
          [asciiBytes "event:response.output_text.delta\ndata:d\n\nevent:error\ndata:e\n\n"] := by
  constructor
  · all_goals decide +kernel
  refine (reportOf_spellings letterJson 64 _ _ ?_).2 ?_ ?_
  · decide +kernel
  · decide +kernel
  have hframes : frames (textOf [asciiBytes
      "event:response.output_text.delta\ndata:d\n\nevent:error\ndata:e\n\n"].flatten) =
      [namedFrame "response.output_text.delta" "d" 41, namedFrame "error" "e" 20] := by
    decide +kernel
  have hframes' : frames (textOf [asciiBytes
      "event:response.output_text.delta\ndata:x\n\nevent:error\ndata:x\n\n"].flatten) =
      [namedFrame "response.output_text.delta" "x" 41, namedFrame "error" "x" 20] := by
    decide +kernel
  rw [hframes, hframes']
  refine .cons ⟨rfl, by decide +kernel, .inr ⟨rfl, _, rfl, rfl⟩⟩
    (.cons ⟨rfl, by decide +kernel, .inr ⟨rfl, _, rfl, rfl⟩⟩ .nil)

/-- The end of a stream that is named in the payload only is not seen. -/
theorem end_not_seen_by_type : lines (textOf (asciiBytes "data:c\n\n")) =
        (lines (textOf (asciiBytes "event:response.completed\ndata:c\n\n"))).filter
          (!isEventLine ·) ∧
      (∀ f ∈ frames (textOf (asciiBytes "event:response.completed\ndata:c\n\n")),
        repeated letterJson f = true) ∧
      reportOf letterJson 64 [asciiBytes "event:response.completed\ndata:c\n\n"] =
        .ok ⟨some .responsesCompleted, .success, none⟩ ∧
      reportOf letterJson 64 [asciiBytes "data:c\n\n"] =
        .ok ⟨none, .eofAfterPartialBody, none⟩ := by
  decide +kernel

end EggPool.Wire
