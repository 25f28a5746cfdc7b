import EggPool.Wire.ResponsesStream

/-!
# Calls of the Responses encoder that fail

A call that fails leaves through `?` in the middle of its work: the frames it has built are
dropped, but their sequence numbers are used up. And a terminal event first closes the calls
that are open, which fails if the arguments of a freeform call or of a search are not
complete; then there is no terminal event at all.

`Delivers` is what a client relies on, for one call in one state. `Deliverable` is the
condition on the state and the event under which a call delivers. The two agree in every
state the encoder can reach, also after calls that failed (`delivers_iff`).
-/

namespace EggPool.Wire

open EggPool.Lib List CanonicalEvent

namespace ResponsesEncoderState

/-- A terminal event is returned when it is due, and failures use up no sequence numbers. -/
def Delivers (json : SerdeJson) (s : ResponsesEncoderState) (event : CanonicalEvent) : Prop :=
  (s.created = true → s.terminalEmitted = false → event.endsResponse = true →
    ∃ frames, (s.encode json event).2 = .ok frames ∧ ∃ frame ∈ frames, frame.kind = .ends) ∧
  ∀ e, (s.encode json event).2 = .error e →
    (s.encode json event).1.sequenceNumber = s.sequenceNumber

/-! ## The condition -/

def messageBytes (s : ResponsesEncoderState) : Nat :=
  (s.activeMessage.map (·.text.utf8ByteSize)).getD 0

def reasoningBytes (s : ResponsesEncoderState) : Nat :=
  (s.activeReasoning.map (·.text.utf8ByteSize)).getD 0

/-- Whether an open call can be closed: its arguments are complete and fit. -/
def settles (json : SerdeJson) (s : ResponsesEncoderState) (item : TranslatedToolItem) : Bool :=
  let fits := fun arguments => (s.release item.arguments.utf8ByteSize).checkAppend 0 arguments
  match item.toolKind with
  | .function => true
  | .freeform => (unwrapFreeformArguments json item.arguments).toOption.any fits
  | .deferredSearch => (validateToolSearchArgumentsString json item.arguments).any fits

/-- Whether open calls can be closed one after another. -/
def allSettle (json : SerdeJson) (s : ResponsesEncoderState) : List TranslatedToolItem → Bool
  | [] => true
  | item :: items =>
    s.settles json item && (s.release item.arguments.utf8ByteSize).allSettle json items

/-- The call that a start event is about. -/
def startCallId (s : ResponsesEncoderState) (event : CanonicalEvent) : String :=
  event.callId.getD (s.syntheticCallId event.index)

/-- When an event can be encoded without a loss: by what is open, and by the limits. -/
def CanDeliver (json : SerdeJson) (s : ResponsesEncoderState) (event : CanonicalEvent) : Prop :=
  match event.eventType with
  | .textDelta =>
    (s.release s.reasoningBytes).checkAppend s.messageBytes (event.delta.getD "") = true ∨
      (s.activeReasoning = none ∧ s.activeMessage.isSome = true)
  | .reasoningDelta =>
    (s.release s.messageBytes).checkAppend s.reasoningBytes (event.delta.getD "") = true ∨
      (s.activeMessage = none ∧ s.activeReasoning.isSome = true)
  | .toolCallStart =>
    s.isActive (s.startCallId event) = true ∨ s.activeTools.size < MAX_ACTIVE_TOOL_CALLS ∨
      (s.activeMessage = none ∧ s.activeReasoning = none)
  | .toolCallArgumentsDelta =>
    s.isActive (s.argumentsCallId event) = true ∨ MAX_ACTIVE_TOOL_CALLS ≤ s.activeTools.size ∨
      s.checkAppend 0 (event.delta.getD "") = true
  | .responseComplete =>
    ((s.release s.messageBytes).release s.reasoningBytes).allSettle json s.activeTools.rows = true
  | .responseIncomplete =>
    ((s.release s.messageBytes).release s.reasoningBytes).allSettle json s.activeTools.rows = true
  | .error =>
    ((s.release s.messageBytes).release s.reasoningBytes).allSettle json s.activeTools.rows = true
  | _ => True

/-- After the end every call delivers: it returns nothing. -/
def Deliverable (json : SerdeJson) (s : ResponsesEncoderState) (event : CanonicalEvent) : Prop :=
  s.terminalEmitted = true ∨ s.CanDeliver json event

variable {e : Encoding} {next : ResponsesEncoderState → Encoding}

variable (json : SerdeJson) (s : ResponsesEncoderState)

/-- The frames of a call that is closed do not fail, and give its bytes back. -/
theorem emitToolDone_spec (item : TranslatedToolItem) (st : String) :
    (s.emitToolDone json item st).error = none ∧
      (s.emitToolDone json item st).state.retainedBytes =
        s.retainedBytes - item.arguments.utf8ByteSize := by
  unfold emitToolDone argumentsDone
  split <;> exact ⟨rfl, rfl⟩

variable (event : CanonicalEvent)

/-! ## Which calls fail, and with how many frames -/

/-- A call that has not failed, or has failed before its first frame. -/
def Clean (e : Encoding) : Prop := e.error = none ∨ e.out = []

/-- A last part that fails, if it does not fit, without a frame of its own. -/
theorem clean_andThen {f : Bool} (he : e.error = none) (hn : (next e.state).error = none ↔ f = true)
    (hout : f = false → (next e.state).out = []) :
    Clean (e.andThen next) ↔ f = true ∨ e.out = [] := by
  unfold Clean
  rw [error_andThen he, out_andThen he, append_eq_nil_iff, hn]
  cases hfit : f with
  | true => exact ⟨fun _ => .inl rfl, fun _ => .inl rfl⟩
  | false =>
    rw [hout hfit]
    exact ⟨fun h => h.imp_right And.left, fun h => h.imp_right fun h => ⟨h, rfl⟩⟩

/-- Whether a text fits depends on the bytes retained, and on nothing else. -/
theorem checkAppend_congr {s t : ResponsesEncoderState} (h : s.retainedBytes = t.retainedBytes)
    (c : Nat) (delta : String) : s.checkAppend c delta = t.checkAppend c delta:= by
  unfold checkAppend
  rw [h]

section Text

variable (slot : TextSlot) {s : ResponsesEncoderState}

theorem append_spec {item : TranslatedTextItem} (h : slot.item s = some item) (d : String) :
    ((slot.append s d).error = none ↔ s.checkAppend item.text.utf8ByteSize d = true) ∧
    (s.checkAppend item.text.utf8ByteSize d = false → (slot.append s d).out = []) := by
  cases slot
  all_goals
    simp only [TextSlot.item] at h
    simp [TextSlot.append, appendMessage, appendReasoning, h]
    cases s.checkAppend item.text.utf8ByteSize d with
    | true => exact ⟨iff_of_true rfl rfl, by simp⟩
    | false => exact ⟨iff_of_false (Option.some_ne_none _) (by simp), fun _ => rfl⟩

/-- A text is there, and only a new one is announced. -/
theorem opens_spec (s : ResponsesEncoderState) :
    (slot.opens s).error = none ∧ ((slot.opens s).out = [] ↔ (slot.item s).isSome = true) ∧
    (slot.opens s).state.retainedBytes = s.retainedBytes ∧
    ∃ item, slot.item (slot.opens s).state = some item ∧ item.text.utf8ByteSize = slot.bytes s := by
  cases slot
  all_goals
    simp only [TextSlot.opens, openMessage, openReasoning, TextSlot.bytes, TextSlot.item]
    split
    · rename_i hn
      rw [Option.isNone_iff_eq_none.mp hn]
      exact ⟨rfl, iff_of_false (cons_ne_nil _ _) (by simp), rfl, _, rfl, rfl⟩
    · rename_i hs
      obtain ⟨item, hi⟩ := Option.ne_none_iff_exists'.mp (by simpa using hs)
      rw [hi]
      exact ⟨rfl, iff_of_true rfl rfl, rfl, item, hi, rfl⟩

theorem item_close_other (s : ResponsesEncoderState) (st : String) :
    slot.item (slot.other.close s st).state = slot.item s := by
  rw [(close_spec slot.other s st).2.2]
  cases slot <;> rfl

/-- **A piece of text.** -/
theorem clean_delta (s : ResponsesEncoderState) (delta : String) :
    Clean (((slot.other.close s "completed").andThen slot.opens).andThen fun t =>
      slot.append t delta) ↔
    (s.release (slot.other.bytes s)).checkAppend (slot.bytes s) delta = true ∨
      (slot.other.item s = none ∧ (slot.item s).isSome = true) := by
  obtain ⟨hc, hs, hst⟩ := close_spec slot.other s "completed"
  have hi := item_close_other slot s "completed"
  generalize slot.other.close s "completed" = closed at hc hs hst hi ⊢
  obtain ⟨ho, hout, hr, item, hp, hb⟩ := opens_spec slot closed.state
  have hbe : (closed.andThen slot.opens).state = (slot.opens closed.state).state :=
    state_andThen hc
  obtain ⟨hfit, hf⟩ := append_spec slot (hbe ▸ hp) delta
  have hm : (closed.andThen slot.opens).state.checkAppend item.text.utf8ByteSize delta =
      (s.release (slot.other.bytes s)).checkAppend (slot.bytes s) delta := by
    rw [hb, TextSlot.bytes, hi, hbe]
    refine checkAppend_congr (hr.trans ?_) _ _
    rw [hst]
    rfl
  rw [hm] at hfit hf
  rw [clean_andThen ((error_andThen hc).trans ho) hfit hf, out_andThen hc,
    append_eq_nil_iff, hs, hout, hi]

/-- A text that is not there is announced. -/
theorem out_delta_ne_nil (hn : slot.item s = none) (d : String) :
    (((slot.other.close s "completed").andThen slot.opens).andThen fun t =>
      slot.append t d).out ≠ [] := by
  intro hout
  have hc := (close_spec slot.other s "completed").1
  obtain ⟨ho, ha, -⟩ := opens_spec slot (slot.other.close s "completed").state
  rw [out_andThen ((error_andThen hc).trans ho), out_andThen hc,
    append_eq_nil_iff, append_eq_nil_iff, ha, item_close_other, hn] at hout
  cases hout.1.2

end Text

/-- Opening a call fails only where there is no room, and then without a frame. -/
theorem openTool_spec (c n : String) (si : Option Nat) (t : CanonicalToolKind)
    (i : Table (Prod.fst : Nat × String → Nat)) : ((s.openTool json c n si t i).error = none ↔
      (s.isActive c || decide (s.activeTools.size < MAX_ACTIVE_TOOL_CALLS)) = true) ∧
    ((s.isActive c || decide (s.activeTools.size < MAX_ACTIVE_TOOL_CALLS)) = false →
      (s.openTool json c n si t i).out = []) := by
  unfold openTool
  cases hact : s.isActive c with
  | true => simp [pass]
  | false =>
    by_cases hr : s.activeTools.size < MAX_ACTIVE_TOOL_CALLS
    · simp [hr, Nat.not_le.mpr hr, itemFrame, responseFrame, frame]
    · simp [Nat.not_lt.mp hr, fail]

/-- **A call that starts.** -/
theorem clean_toolCallStart :
    Clean (((s.closeMessage "completed").andThen fun t => t.closeReasoning "completed").andThen
      fun t => t.startTool json event) ↔
    s.isActive (s.startCallId event) = true ∨ s.activeTools.size < MAX_ACTIVE_TOOL_CALLS ∨
      (s.activeMessage = none ∧ s.activeReasoning = none) := by
  obtain ⟨he, hs, hst⟩ := s.closeTexts_spec "completed"
  generalize (s.closeMessage "completed").andThen (fun t => t.closeReasoning "completed") = closed
    at he hs hst ⊢
  obtain ⟨hn, hout⟩ := openTool_spec json closed.state (closed.state.startCallId event) _ _ _ _
  -- the call and the room for it are those of the state before
  have hr : (closed.state.isActive (closed.state.startCallId event) ||
      decide (closed.state.activeTools.size < MAX_ACTIVE_TOOL_CALLS)) =
        (s.isActive (s.startCallId event) ||
          decide (s.activeTools.size < MAX_ACTIVE_TOOL_CALLS)) := by
    rw [hst]
    rfl
  rw [hr] at hn hout
  have hc : Clean (closed.andThen fun t => t.startTool json event) ↔ _ :=
    clean_andThen he hn hout
  rw [hc, hs, Bool.or_eq_true, decide_eq_true_eq, or_assoc]

theorem appendArguments_spec {s : ResponsesEncoderState} {c : String}
    {item : TranslatedToolItem} (h : s.activeTools.get? c = some item) (d : String) :
    ((s.appendArguments c d).error = none ↔ s.checkAppend item.arguments.utf8ByteSize d = true) ∧
    (s.checkAppend item.arguments.utf8ByteSize d = false → (s.appendArguments c d).out = []) := by
  unfold appendArguments
  rw [h]
  cases hfit : s.checkAppend item.arguments.utf8ByteSize d with
  | false => simp [hfit, fail]
  | true =>
    dsimp only
    rw [hfit]
    refine ⟨⟨fun _ => rfl, fun _ => ?_⟩, nofun⟩
    cases item.toolKind <;> rfl

/-- A call that is new is announced, and has no arguments yet. -/
theorem openTool_new {s : ResponsesEncoderState} {c : String}
    (n : String) (si : Option Nat) (t : CanonicalToolKind)
    (i : Table (Prod.fst : Nat × String → Nat)) (hnew : s.isActive c = false)
    (hr : s.activeTools.size < MAX_ACTIVE_TOOL_CALLS) : (s.openTool json c n si t i).out ≠ [] ∧
    (s.openTool json c n si t i).state.retainedBytes = s.retainedBytes ∧
    ∃ item, (s.openTool json c n si t i).state.activeTools.get?
      c = some item ∧ item.arguments.utf8ByteSize = 0 := by
  unfold openTool
  rw [hnew, if_neg (Nat.not_le.mpr hr)]
  exact ⟨cons_ne_nil _ _, rfl,
    ⟨s.itemId "fc", c, n, s.nextOutputIndex, si, "", t⟩,
    Table.get?_insert_self s.activeTools _, rfl⟩

/-- **A piece of arguments.** -/
theorem clean_argumentsDelta (c d : String) (si : Option Nat) :
    Clean ((s.openTool json c "" si .function s.indexToCall).andThen
      fun t => t.appendArguments c d) ↔
    s.isActive c = true ∨ MAX_ACTIVE_TOOL_CALLS ≤ s.activeTools.size ∨ s.checkAppend 0 d = true:= by
  obtain ⟨her, he⟩ := openTool_spec json s c "" si .function s.indexToCall
  cases hact : s.isActive c with
  | true =>
    -- the call is known: nothing is announced before its arguments are checked
    obtain ⟨item, hi⟩ := Option.isSome_iff_exists.mp hact
    have ho : s.openTool json c "" si .function s.indexToCall = s.pass := by
      unfold openTool
      rw [hact, if_pos rfl]
    have ha := appendArguments_spec hi d
    have hc : Clean (s.pass.andThen fun t => t.appendArguments c d) ↔ _ :=
      clean_andThen rfl ha.1 ha.2
    rw [ho]
    exact ⟨fun _ => .inl rfl, fun _ => hc.mpr (.inr rfl)⟩
  | false =>
    rw [hact, Bool.false_or, decide_eq_true_eq] at her
    rw [hact, Bool.false_or, decide_eq_false_iff_not] at he
    by_cases hr : s.activeTools.size < MAX_ACTIVE_TOOL_CALLS
    · obtain ⟨hout, ht, item, hi, hb⟩ :=
        openTool_new json "" si .function s.indexToCall hact hr
      have ha := appendArguments_spec hi d
      rw [hb, checkAppend_congr ht] at ha
      rw [clean_andThen (her.mpr hr) ha.1 ha.2]
      constructor
      · rintro (hfit | hnil)
        · exact .inr (.inr hfit)
        · exact absurd hnil hout
      · rintro (hk | hf | hfit)
        · cases hk
        · exact absurd hr (Nat.not_lt.mpr hf)
        · exact .inl hfit
    · refine ⟨fun _ => .inr (.inl (Nat.not_lt.mp hr)), fun _ => .inr ?_⟩
      have hl : (s.openTool json c "" si .function s.indexToCall).error ≠ none :=
        fun h => hr (her.mp h)
      unfold Encoding.andThen
      split
      · exact he hr
      · rename_i hn
        exact absurd hn hl

variable (item : TranslatedToolItem)

/-- **A call that stops** fails, if at all, before its frames. -/
theorem clean_closeTool (c co : Option String) (st : String) : Clean (s.closeTool json c co st):= by
  have hc := toolClosed json s c co st
  generalize s.closeTool json c co st = e at hc ⊢
  cases hc with
  | absent _ => exact .inl rfl
  | failed _ bytes e => exact .inr rfl
  | done _ bytes arg => exact .inl (emitToolDone_spec json _ _ st).1

/-! ## Closing what is open -/

/-- Settled arguments are given back with the bytes of the call; the others are an error. -/
def SettlesTo (s : ResponsesEncoderState) (item : TranslatedToolItem) (settles : Bool) :
    ResponsesEncoderState × Except CodecError TranslatedToolItem → Prop
  | (t, .ok item') => settles = true ∧
      t.retainedBytes - item'.arguments.utf8ByteSize =
        s.retainedBytes - item.arguments.utf8ByteSize
  | (_, .error _) => settles = false

/-- The arguments of a call are settled exactly if it settles. -/
theorem unwrapArguments_settles :
    SettlesTo s item (s.settles json item) (s.unwrapArguments json item) := by
  -- other arguments are retained and released again
  have hr : ∀ arguments, SettlesTo s item
      ((s.release item.arguments.utf8ByteSize).checkAppend 0 arguments)
      (s.replaceArguments item arguments) := by
    intro arguments
    unfold replaceArguments
    dsimp only
    cases (s.release item.arguments.utf8ByteSize).checkAppend 0 arguments with
    | true => exact ⟨rfl, Nat.add_sub_cancel _ _⟩
    | false => rfl
  unfold settles unwrapArguments
  obtain ⟨itemId, ci, name, outputIndex, si, acc, tk⟩ := item
  cases tk with
  | function => exact ⟨rfl, rfl⟩
  | freeform =>
    cases unwrapFreeformArguments json acc with
    | error e => rfl
    | ok inp => exact hr inp
  | deferredSearch =>
    unfold validateDeferredStreamArguments
    cases validateToolSearchArgumentsString json acc with
    | none => rfl
    | some arguments => exact hr arguments

/-- **Closing an open call succeeds exactly if it settles**, and releases its bytes. -/
theorem closeTool_settles {s : ResponsesEncoderState} {item : TranslatedToolItem} {callId : String}
    (hf : s.activeTools.get? callId = some item) (st : String) :
    ((s.closeTool json (some callId) none st).error = none ↔ s.settles json item = true) ∧
    (s.settles json item = true → (s.closeTool json (some callId) none st).state.retainedBytes =
        s.retainedBytes - item.arguments.utf8ByteSize) := by
  have hs := unwrapArguments_settles json
    { s with activeTools := s.activeTools.erase item.callId } item
  unfold closeTool
  rw [show (some callId).bind s.activeTools.get? = some item from hf]
  dsimp only [completeArguments]
  generalize unwrapArguments json
    { s with activeTools := s.activeTools.erase item.callId } item = settled at hs
  obtain ⟨t, e | item'⟩ := settled
  · have hno : s.settles json item = false := hs
    rw [hno]
    exact ⟨iff_of_false nofun nofun, nofun⟩
  · obtain ⟨hyes, hb⟩ := hs
    obtain ⟨hn, hd⟩ := emitToolDone_spec json t item' st
    exact ⟨iff_of_true hn hyes, fun _ => hd.trans hb⟩

theorem settles_congr {s t : ResponsesEncoderState} (h : s.retainedBytes = t.retainedBytes)
    (json : SerdeJson) (item : TranslatedToolItem) : s.settles json item = t.settles json item := by
  exact congrArg (fun b => settles json { s with retainedBytes := b } item) h

theorem allSettle_congr (items : List TranslatedToolItem) :
    ∀ {s t : ResponsesEncoderState}, s.retainedBytes = t.retainedBytes →
      s.allSettle json items = t.allSettle json items := by
  induction items with
  | nil => intro s t _; rfl
  | cons item items ih =>
    intro s t h
    unfold allSettle
    rw [settles_congr h]
    exact congrArg (t.settles json item && ·) (ih (congrArg (· - _) h))

/-- **Closing all open calls succeeds exactly if they settle one after another.** -/
theorem closeTools_settles (st : String) (items : List TranslatedToolItem) :
    ∀ {s : ResponsesEncoderState}, s.activeTools.rows = items →
      ((s.closeTools json st (items.map (·.callId))).error = none ↔
        s.allSettle json items = true) := by
  induction items with
  | nil => intro s _; exact ⟨fun _ => rfl, fun _ => rfl⟩
  | cons item items ih =>
    intro s hw
    have hf : s.activeTools.get? item.callId = some item :=
      Table.get?_self (hw ▸ mem_cons_self)
    obtain ⟨he, hb⟩ := closeTool_settles json hf st
    obtain ⟨ht, _, _⟩ := s.closeTool_state json item.callId st
    have hr : (s.closeTool json (some item.callId) none st).state.activeTools.rows =
        items := by
      rw [ht]
      exact Table.rows_erase_head hw
    rw [map_cons]
    unfold closeTools allSettle
    cases hs : s.settles json item with
    | true =>
      have hn := he.mpr hs
      rw [error_andThen hn, ih hr, Bool.true_and]
      rw [allSettle_congr json items (t := s.release item.arguments.utf8ByteSize) (hb hs)]
    | false =>
      have hm : (s.closeTool json (some item.callId) none st).error ≠ none := by
        intro hn
        rw [he.mp hn] at hs
        cases hs
      refine ⟨fun h => absurd (andThen_error_eq_none h).1 hm, fun h => ?_⟩
      cases h

/-- **Closing everything.** -/
theorem closeAll_settles (st : String) : (s.closeAll json st).error = none ↔
      ((s.release s.messageBytes).release s.reasoningBytes).allSettle json s.activeTools.rows =
        true := by
  obtain ⟨he, -, hst⟩ := s.closeTexts_spec st
  unfold closeAll closeAllTools
  rw [error_andThen he, closeTools_settles json st _ rfl, hst]
  exact Bool.eq_iff_iff.mp (allSettle_congr json _ rfl)

/-! ## Events -/

theorem clean_encodeEvent {event : CanonicalEvent} (hn : event.endsResponse = false) :
    Clean (s.encodeEvent json event) ↔ s.CanDeliver json event := by
  unfold endsResponse at hn
  unfold encodeEvent CanDeliver
  cases he : event.eventType <;> rw [he] at hn <;> try cases hn
  case textDelta => exact clean_delta .message s _
  case reasoningDelta => exact clean_delta .reasoning s _
  case toolCallStart => exact s.clean_toolCallStart json event
  case toolCallArgumentsDelta => exact s.clean_argumentsDelta json _ _ _
  case toolCallStop => exact iff_of_true (s.clean_closeTool json _ _ _) trivial
  case contentStop => exact iff_of_true (s.clean_closeTool json _ _ _) trivial
  all_goals exact iff_of_true (.inl rfl) trivial

theorem canDeliver_ends {event : CanonicalEvent} (hn : event.endsResponse = true) :
    s.CanDeliver json event ↔ ((s.release s.messageBytes).release s.reasoningBytes).allSettle json
      s.activeTools.rows = true := by
  unfold endsResponse at hn
  unfold CanDeliver
  cases he : event.eventType <;> rw [he] at hn <;> first | exact Iff.rfl | cases hn

/-- An event that ends a response first closes what is open. -/
theorem encodeEvent_ends {event : CanonicalEvent} (hn : event.endsResponse = true) :
    ∃ st last, s.encodeEvent json event = (s.closeAll json st).andThen last ∧
      ∀ t, Ends t (last t) :=
  ((s.encodeEvent_cases json event).resolve_left fun h => nomatch h.1.symm.trans hn).2

/-- **An event that ends a response succeeds exactly if every open call settles.** -/
theorem error_encodeEvent {event : CanonicalEvent} (hn : event.endsResponse = true) :
    (s.encodeEvent json event).error = none ↔ s.CanDeliver json event := by
  obtain ⟨st, last, he, hl⟩ := s.encodeEvent_ends json hn
  rw [he, canDeliver_ends json s hn, ← s.closeAll_settles json st]
  exact ⟨fun h => (andThen_error_eq_none h).1, fun h => (error_andThen h).trans (hl _).error⟩

/-- An event that ends a response and succeeds returns a terminal event. -/
theorem exists_ends_encodeEvent {json : SerdeJson} {s : ResponsesEncoderState}
    (hv : s.reading.Live) {event : CanonicalEvent} (hn : event.endsResponse = true)
    (hr : (s.encodeEvent json event).error = none) :
    ∃ frame ∈ (s.encodeEvent json event).out, frame.kind = .ends := by
  obtain ⟨st, last, he, hl⟩ := s.encodeEvent_ends json hn
  rw [he] at hr ⊢
  obtain ⟨hc, _⟩ := andThen_error_eq_none hr
  obtain ⟨_, hv'⟩ := (part_closeAll json hv st).emits hc
  obtain ⟨frame, hmem, hk⟩ := (hl _).frame hv'.ended
  rw [out_andThen hc]
  exact ⟨frame, mem_append_right _ hmem, hk⟩

/-! ## Calls -/

theorem sequence_started : (s.started event).sequenceNumber =
      s.sequenceNumber + (s.ensureCreated event.model).out.length := by
  unfold started ensureCreated
  dsimp only
  split <;> rfl

theorem started_eq :
    ∃ model usage sequenceNumber, s.started event =
      { s with model := model, usage := usage, sequenceNumber := sequenceNumber, created := true } := by
  unfold started ensureCreated
  dsimp only
  split
  · rename_i hc
    refine ⟨s.model.or event.model, event.usage.or s.usage, s.sequenceNumber, ?_⟩
    unfold pass noteUsage
    rw [hc]
  · exact ⟨_, _, _, rfl⟩

theorem canDeliver_started : (s.started event).CanDeliver json event ↔ s.CanDeliver json event := by
  obtain ⟨mod, usage, sequenceNumber, hs⟩ := s.started_eq event
  rw [hs]
  unfold CanDeliver
  -- creating a stream touches nothing that the condition looks at
  cases event.eventType <;> first
    | exact Iff.rfl
    | exact Bool.eq_iff_iff.mp (allSettle_congr json _ rfl)

/-- A failure uses up no sequence numbers if there were no frames. -/
theorem failure_keeps_sequence_iff {s : ResponsesEncoderState} (ho : s.terminalEmitted = false)
    (json : SerdeJson) (event : CanonicalEvent) : (∀ e, (s.encode json event).2 = .error e →
      (s.encode json event).1.sequenceNumber = s.sequenceNumber) ↔
    ((s.started event).encodeEvent json event).error = none ∨
      (s.created = true ∧ ((s.started event).encodeEvent json event).out = []) := by
  have hliv : (s.started event).reading.Live := (steps_ensureCreated ho event.model).2
  have hs := (counts_encodeEvent json hliv event).sequence
  rw [sequence_started] at hs
  rw [encode_open ho]
  dsimp only
  rw [← out_ensureCreated s event.model, ← length_eq_zero_iff, ← length_eq_zero_iff]
  cases ((s.started event).encodeEvent json event).error with
  | none => exact ⟨fun _ => .inl rfl, nofun⟩
  | some e =>
    constructor
    · intro h
      have hk := h e rfl
      exact .inr ⟨by omega, by omega⟩
    · rintro (hno | ⟨hf, hn⟩)
      · cases hno
      · omega

/-! ## Every state the encoder reaches -/

/-- Before a stream is created nothing is open. -/
def Bare (s : ResponsesEncoderState) : Prop :=
  s.created = false → s.activeMessage = none ∧ s.activeReasoning = none ∧ s.activeTools.rows = []

theorem bare_encode (hb : s.Bare) : (s.encode json event).1.Bare := by
  cases ho : s.terminalEmitted with
  | true =>
    unfold encode encodeResponses
    rwa [ho, if_pos rfl]
  | false =>
    intro hf
    exfalso
    rw [encode_open ho] at hf
    have hliv : (s.started event).reading.Live := (steps_ensureCreated ho event.model).2
    have hc := (counts_encodeEvent json hliv event).created
    cases hf.symm.trans (hc.trans hliv.started)

/-- Where nothing is open, a failure comes after a frame. -/
theorem error_of_clean {json : SerdeJson} {s : ResponsesEncoderState} {event : CanonicalEvent}
    (hm : s.activeMessage = none) (hs : s.activeReasoning = none)
    (ht : s.activeTools.rows = []) (hc : Clean (s.encodeEvent json event)) :
    (s.encodeEvent json event).error = none := by
  have hi : ∀ ci, s.activeTools.get? ci = none := by
    intro ci
    unfold Table.get?
    rw [ht]
    rfl
  have hr : s.activeTools.size < MAX_ACTIVE_TOOL_CALLS := by
    unfold Table.size
    rw [ht]
    decide
  have hp : ∀ ci complete sta,
      (s.closeTool json ci complete sta).error = none := by
    intro ci complete sta
    unfold closeTool
    cases ci with
    | none => rfl
    | some ci => rw [show (some ci).bind s.activeTools.get? = none from hi ci]; rfl
  cases hn : event.endsResponse with
  | true =>
    rw [error_encodeEvent json s hn, canDeliver_ends json s hn, ht]
    rfl
  | false =>
    rcases hc with hno | hout
    · exact hno
    unfold encodeEvent at hout ⊢
    cases he : event.eventType <;> rw [he] at hout <;> try rfl
    case textDelta => exact absurd hout (out_delta_ne_nil .message hm _)
    case reasoningDelta => exact absurd hout (out_delta_ne_nil .reasoning hs _)
    case toolCallStart =>
      obtain ⟨her, -, hst⟩ := s.closeTexts_spec "completed"
      rw [error_andThen her, hst]
      refine (openTool_spec json _ _ _ _ _ _).1.mpr ?_
      rw [decide_eq_true hr, Bool.or_true]
    case toolCallArgumentsDelta =>
      have hnew : s.isActive (s.argumentsCallId event) = false := by
        unfold isActive
        rw [hi]
        rfl
      have ho := (openTool_spec json s (s.argumentsCallId event) "" event.index .function
        s.indexToCall).1.mpr (by rw [decide_eq_true hr, Bool.or_true])
      have ha := (openTool_new json "" event.index .function s.indexToCall hnew hr).1
      rw [out_andThen ho] at hout
      exact absurd (append_eq_nil_iff.mp hout).1 ha
    case toolCallStop => exact hp _ _ _
    case contentStop => exact hp _ _ _
    all_goals (unfold endsResponse at hn; rw [he] at hn; cases hn)

/--
**When the encoder delivers.** In every state it reaches, by whatever events and whether or
not they were encoded, a call returns the terminal event that is due and wastes no sequence
numbers exactly if the open calls and the limits allow it.
-/
theorem delivers_iff (json : SerdeJson) (serial : Nat) (tools : List CanonicalTool)
    (events : List CanonicalEvent) (event : CanonicalEvent) :
    let s := run (fun s event => (s.encode json event).1) (new serial tools) events
    s.Delivers json event ↔ s.Deliverable json event := by
  intro s
  have hbare : s.Bare := run_invariant (bare_encode json) (fun _ => ⟨rfl, rfl, rfl⟩)
    events
  unfold Delivers Deliverable
  cases hopen : s.terminalEmitted with
  | true =>
    refine iff_of_true ⟨nofun, fun e h => ?_⟩ (.inl rfl)
    unfold encode encodeResponses at h
    rw [hopen] at h
    cases h
  | false =>
    have hlive : (s.started event).reading.Live := (steps_ensureCreated hopen event.model).2
    rw [failure_keeps_sequence_iff hopen, ← canDeliver_started]
    have hfresh : s.created = false → Clean ((s.started event).encodeEvent json event) →
        ((s.started event).encodeEvent json event).error = none := by
      intro hcreated
      obtain ⟨hmessage, hreasoning, hrows⟩ := hbare hcreated
      obtain ⟨model, usage, sequenceNumber, hstarted⟩ := s.started_eq event
      rw [hstarted]
      exact error_of_clean hmessage hreasoning hrows
    cases hends : event.endsResponse with
    | false =>
      rw [← clean_encodeEvent json _ hends]
      constructor
      · rintro ⟨_, hnone | ⟨_, hout⟩⟩
        · exact .inr (.inl hnone)
        · exact .inr (.inr hout)
      · rintro (hended | hclean)
        · cases hended
        refine ⟨nofun, ?_⟩
        cases hcreated : s.created with
        | false => exact .inl (hfresh hcreated hclean)
        | true =>
          rcases hclean with hnone | hout
          · exact .inl hnone
          · exact .inr ⟨rfl, hout⟩
    | true =>
      rw [← error_encodeEvent json _ hends]
      constructor
      · rintro ⟨hterminal, hkept⟩
        refine .inr ?_
        rcases hkept with hnone | ⟨hcreated, _⟩
        · exact hnone
        -- the terminal event is due, so the call did not fail
        obtain ⟨frames, hok, _⟩ := hterminal hcreated rfl rfl
        rw [encode_open hopen] at hok
        cases herror : ((s.started event).encodeEvent json event).error with
        | none => rfl
        | some e =>
          rw [herror] at hok
          cases hok
      · rintro (hended | hnone)
        · cases hended
        refine ⟨fun _ _ _ => ?_, .inl hnone⟩
        obtain ⟨frame, hmem, hkind⟩ := exists_ends_encodeEvent hlive hends hnone
        rw [encode_open hopen]
        rw [hnone]
        exact ⟨_, rfl, frame, mem_append_right _ hmem, hkind⟩

/--
An upstream that gives up in the middle of a freeform call, after some text: the message is
closed under a sequence number that no client sees, and the terminal event is lost.
-/
theorem open_freeform_call_loses_terminal :
    let json : SerdeJson := ⟨fun _ => none, fun _ => ""⟩
    let events : List CanonicalEvent :=
      [{ canonicalEvent .toolCallStart with callId := some "c", name := some "shell" },
        { canonicalEvent .toolCallArgumentsDelta with
          callId := some "c", delta := some "\x7b\"input\":\"l" },
        { canonicalEvent .textDelta with delta := some "a" }]
    let s := run (fun s event => (s.encode json event).1) (new 1 [⟨"shell", .freeform⟩]) events
    s.created = true ∧ s.terminalEmitted = false ∧ s.sequenceNumber = 5 ∧
      (s.encode json (canonicalEvent .responseIncomplete)).1.sequenceNumber = 6 ∧
      (s.encode json (canonicalEvent .responseIncomplete)).2.toOption.isNone = true ∧
      ¬ s.Delivers json (canonicalEvent .responseIncomplete) := by
  intro json events s
  have hfacts : s.created = true ∧ s.terminalEmitted = false ∧ s.sequenceNumber = 5 ∧
      (s.encode json (canonicalEvent .responseIncomplete)).1.sequenceNumber = 6 ∧
      (s.encode json (canonicalEvent .responseIncomplete)).2.toOption.isNone = true := by
    decide +kernel
  obtain ⟨hcreated, hopen, hbefore, hafter, hfailed⟩ := hfacts
  refine ⟨hcreated, hopen, hbefore, hafter, hfailed, ?_⟩
  intro hdelivers
  obtain ⟨frames, hok, _⟩ := hdelivers.1 hcreated hopen rfl
  rw [hok] at hfailed
  cases hfailed

end ResponsesEncoderState

end EggPool.Wire
