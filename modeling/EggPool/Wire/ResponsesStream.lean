import EggPool.Lib.ItemStream
import EggPool.Lib.Run
import EggPool.Wire.ResponsesEncoder

/-!
# The shape of an encoded Responses stream

A reader of the stream sees only frames. What it can know of the encoder is five things: the
next sequence number, whether the stream is created, the next output index, the items that
are open, and whether the stream has ended. `reading` is that part of the state, and every
call that succeeds moves it by the frames the call returns: each frame is a step of the
reader of `Lib.ItemStream`. The shape of the whole output is the library's theorem about
such readers.

A call that fails is another matter. It may have dropped an open item without a frame, so
nothing is said about it here.
-/

namespace EggPool.Wire

open EggPool.Lib List ClientFrame

namespace ClientFrame

def sequenceNumber (frame : ClientFrame) : Option Nat :=
  token (frame.payload.get "sequence_number")

def outputIndex (frame : ClientFrame) : Option Nat :=
  index (frame.payload.get "output_index")

/-- The identity of the item that a frame carries. -/
def itemId (frame : ClientFrame) : Option String :=
  string ((object (frame.payload.get "item")).bind fun item => item.get "id")

/-- What a client makes of a frame, by its name. -/
def kind (frame : ClientFrame) : ItemStream.Kind String :=
  match frame.name with
  | "response.created" => .start
  | "response.output_item.added" => .opens frame.itemId frame.outputIndex
  | "response.output_item.done" => .closes frame.itemId frame.outputIndex
  | "response.completed" => .ends
  | "response.incomplete" => .ends
  | "response.failed" => .ends
  | "error" => .ends
  | _ => .note

def view (frame : ClientFrame) : ItemStream.Frame String :=
  ⟨frame.sequenceNumber, frame.kind⟩

/-- A member that is none of those a client looks at does not change what it sees. -/
theorem kind_insert (n key : String) (p : Map) (v : Value)
    (hi : ("output_index" == key) = false) (ht : ("item" == key) = false) :
    kind ⟨n, p.insert key v⟩ = kind ⟨n, p⟩ := by
  have hout : outputIndex ⟨n, p.insert key v⟩ = outputIndex ⟨n, p⟩ := by
    unfold outputIndex
    rw [Map.get_insert, hi, if_neg Bool.false_ne_true]
  have hid : itemId ⟨n, p.insert key v⟩ = itemId ⟨n, p⟩ := by
    unfold itemId
    rw [Map.get_insert, ht, if_neg Bool.false_ne_true]
  unfold kind
  rw [hout, hid]

end ClientFrame

/-- The events that end a response. -/
def CanonicalEvent.endsResponse (event : CanonicalEvent) : Bool :=
  match event.eventType with
  | .responseComplete => true
  | .responseIncomplete => true
  | .error => true
  | _ => false

namespace ResponsesEncoderState

theorem view_numbered (s : ResponsesEncoderState) (n : String) (p : Map) :
    (s.numbered n p).view = ⟨some s.sequenceNumber, ClientFrame.kind ⟨n, p⟩⟩ := by
  have hn : (s.numbered n p).sequenceNumber = some s.sequenceNumber := by
    unfold numbered ClientFrame.sequenceNumber
    rw [Map.get_insert, beq_self_eq_true]
    rfl
  have hk : (s.numbered n p).kind = ClientFrame.kind ⟨n, p⟩ := by
    unfold numbered
    rw [ClientFrame.kind_insert _ _ _ _ rfl rfl, ClientFrame.kind_insert _ _ _ _ rfl rfl]
  unfold ClientFrame.view
  rw [hn, hk]

/-! ## What a reader knows -/

def openItems (s : ResponsesEncoderState) : List (String × Nat) :=
  s.activeMessage.toList.map (fun item => (item.id, item.outputIndex)) ++
    (s.activeReasoning.toList.map (fun item => (item.id, item.outputIndex)) ++
      s.activeTools.rows.map fun item => (item.itemId, item.outputIndex))

def reading (s : ResponsesEncoderState) : ItemStream.State String where
  number := s.sequenceNumber
  started := s.created
  next := s.nextOutputIndex
  opened := s.openItems
  ended := s.terminalEmitted

section AndThen

variable {e : Encoding} {next : ResponsesEncoderState → Encoding}

theorem error_andThen (h : e.error = none) : (e.andThen next).error = (next e.state).error := by
  unfold Encoding.andThen
  rw [h]

theorem out_andThen (h : e.error = none) : (e.andThen next).out = e.out ++ (next e.state).out := by
  unfold Encoding.andThen
  rw [h]

theorem state_andThen (h : e.error = none) : (e.andThen next).state = (next e.state).state := by
  unfold Encoding.andThen
  rw [h]

/-- What is there once a part of a call has not failed. -/
theorem andThen_error_eq_none (h : (e.andThen next).error = none) :
    e.error = none ∧ (next e.state).error = none := by
  cases hf : e.error with
  | some error => simp [Encoding.andThen, hf] at h
  | none => exact ⟨rfl, (error_andThen hf).symm.trans h⟩

end AndThen

/-- A part of a call uses one sequence number for each frame it builds. -/
structure Counts (s : ResponsesEncoderState) (e : Encoding) : Prop where
  sequence : e.state.sequenceNumber = s.sequenceNumber + e.out.length
  created : e.state.created = s.created

variable {s t : ResponsesEncoderState} {e : Encoding} {next : ResponsesEncoderState → Encoding}

theorem Counts.andThen (h : Counts s e) (hn : e.error = none → Counts e.state (next e.state)) :
    Counts s (e.andThen next) := by
  unfold Encoding.andThen
  cases he : e.error with
  | some err => exact h
  | none =>
    obtain ⟨hs, hc⟩ := hn he
    refine ⟨?_, hc.trans h.created⟩
    rw [hs, h.sequence, length_append]
    omega

/-- A part of a call, as a reader sees it if the call does not fail. -/
def Emits (s : ResponsesEncoderState) (e : Encoding) : Prop :=
  e.error = none →
    ItemStream.Steps s.reading (e.out.map ClientFrame.view) e.state.reading ∧
      e.state.reading.Live

/-- A part of a call counts its frames, and is read if the call does not fail. -/
structure Part (s : ResponsesEncoderState) (e : Encoding) : Prop where
  counts : Counts s e
  emits : Emits s e

theorem Part.pass (hliv : s.reading.Live) (hs : t.reading = s.reading) : Part s t.pass := by
  refine ⟨⟨congrArg ItemStream.State.number hs, congrArg ItemStream.State.started hs⟩, fun _ => ?_⟩
  change ItemStream.Steps s.reading [] t.reading ∧ t.reading.Live
  rw [hs]
  exact ⟨.nil _, hliv⟩

theorem Part.fail (er : CodecError) (hs : t.sequenceNumber = s.sequenceNumber)
    (hc : t.created = s.created) : Part s (t.fail er) :=
  ⟨⟨hs, hc⟩, nofun⟩

/-- **Parts of a call compose.** -/
theorem Part.andThen (h : Part s e) (hn : e.state.reading.Live → Part e.state (next e.state)) :
    Part s (e.andThen next) := by
  refine ⟨h.counts.andThen fun he => (hn (h.emits he).2).counts, fun he => ?_⟩
  obtain ⟨hf, hs⟩ := andThen_error_eq_none he
  obtain ⟨ht, hliv⟩ := h.emits hf
  obtain ⟨hl, hla⟩ := (hn hliv).emits hs
  rw [out_andThen hf, state_andThen hf, map_append]
  exact ⟨ht.append hl, hla⟩

/-- A state that differs in nothing a reader knows may stand for another. -/
theorem Part.of_reading_eq (hs : t.reading = s.reading) (h : Part t e) : Part s e := by
  have hn : t.sequenceNumber = s.sequenceNumber := congrArg ItemStream.State.number hs
  have hc : t.created = s.created := congrArg ItemStream.State.started hs
  exact ⟨⟨hn ▸ h.counts.sequence, hc ▸ h.counts.created⟩, fun he => hs ▸ h.emits he⟩

/-- A frame that is a step of the reader. `t` is the state it is built in. -/
theorem Part.step {n : String} {p : Map} (hliv : t.reading.Live)
    (hn : t.sequenceNumber = s.sequenceNumber) (hc : t.created = s.created)
    (hs : ItemStream.Step s.reading ⟨some s.sequenceNumber, kind ⟨n, p⟩⟩
      { t.reading with number := s.sequenceNumber + 1 }) :
    Part s (t.responseFrame n p) := by
  refine ⟨⟨congrArg (· + 1) hn, hc⟩, fun _ => ⟨?_, hliv.started, hliv.ended⟩⟩
  rw [← hn] at hs
  change ItemStream.Steps s.reading [(t.numbered n _).view] _
  rw [view_numbered, kind_insert _ _ _ _ rfl rfl]
  exact .single hs

/-- A frame that is neither the start nor the end, and no item. -/
theorem Part.note (hliv : s.reading.Live) (n : String)
    (p : Map) (hk : kind ⟨n, p⟩ = .note) : Part s (s.responseFrame n p):=
  .step hliv rfl rfl (hk ▸ .note hliv)

section Items

variable {s t : ResponsesEncoderState} {item : Value} {members : Map} {id : String}

/-- **Opening an item.** `t` is the state once the item is in place. -/
theorem Part.opened (hliv : s.reading.Live)
    (hi : item = .object (("id", .string id) :: members)) (hs : t.reading = { s.reading with
      next := s.nextOutputIndex + 1, opened := (id, s.nextOutputIndex) ::ₘ s.openItems }) :
    Part s (t.itemFrame "response.output_item.added" s.nextOutputIndex item) := by
  subst hi
  refine .step ?_ (congrArg ItemStream.State.number hs) (congrArg ItemStream.State.started hs) ?_
  · rw [hs]
    exact ⟨hliv.started, hliv.ended⟩
  · rw [hs]
    exact .opens hliv id

/-- **Closing an item.** `t` is the state without it. -/
theorem Part.closed (hliv : s.reading.Live) {o : Nat}
    (hi : item = .object (("id", .string id) :: members))
    (ho : (s.openItems : Multiset _) = (id, o) ::ₘ t.openItems)
    (hs : t.reading = { s.reading with opened := t.openItems }) :
    Part s (t.itemFrame "response.output_item.done" o item) := by
  subst hi
  refine .step ?_ (congrArg ItemStream.State.number hs) (congrArg ItemStream.State.started hs) ?_
  · rw [hs]
    exact ⟨hliv.started, hliv.ended⟩
  · rw [hs]
    exact .closes hliv ho

end Items

/-! ## Text -/

/-- Messages and reasoning items are kept in the same way. -/
inductive TextSlot where
  | message | reasoning

namespace TextSlot

def other : TextSlot → TextSlot
  | .message => .reasoning
  | .reasoning => .message

variable (slot : TextSlot) (s : ResponsesEncoderState)

def item : Option TranslatedTextItem :=
  match slot with
  | .message => s.activeMessage
  | .reasoning => s.activeReasoning

/-- The state with the slot emptied. -/
def cleared : ResponsesEncoderState :=
  match slot with
  | .message => { s with activeMessage := none }
  | .reasoning => { s with activeReasoning := none }

def bytes : Nat := ((slot.item s).map (·.text.utf8ByteSize)).getD 0

def close (status : String) : Encoding :=
  match slot with
  | .message => s.closeMessage status
  | .reasoning => s.closeReasoning status

def opens : Encoding :=
  match slot with
  | .message => s.openMessage
  | .reasoning => s.openReasoning

def append (delta : String) : Encoding :=
  match slot with
  | .message => s.appendMessage delta
  | .reasoning => s.appendReasoning delta

end TextSlot

section Text

variable {s : ResponsesEncoderState} (slot : TextSlot) (hliv : s.reading.Live)

include hliv

theorem part_close (st : String) : Part s (slot.close s st) := by
  cases slot
  all_goals
    simp [TextSlot.close, closeMessage, closeReasoning]
    split
    · exact .pass hliv rfl
    · rename_i hi
      exact .closed hliv rfl (by simp [openItems, hi, release]) rfl

theorem part_opens : Part s (slot.opens s) := by
  cases slot
  all_goals
    simp only [TextSlot.opens, openMessage, openReasoning]
    split
    · rename_i hn
      refine .opened hliv rfl ?_
      simp [reading, openItems, drawItem, Option.isNone_iff_eq_none.mp hn]
    · exact .pass hliv rfl

/-- A text that grows is the same item. -/
theorem part_append (d : String) : Part s (slot.append s d) := by
  cases slot
  all_goals
    simp [TextSlot.append, appendMessage, appendReasoning]
    split
    · exact .pass hliv rfl
    rename_i hi
    split
    · refine .of_reading_eq ?_ (.note ?_ _ _ rfl)
      · simp [reading, openItems, hi, retain]
      · exact ⟨hliv.started, hliv.ended⟩
    · exact .fail _ rfl rfl

end Text

/-! ## Calls -/

theorem perm_cons_append {α : Type} {a : α} {l l' : List α} (f : List α)
    (h : l.Perm (a :: l')) : (f ++ l).Perm (a :: (f ++ l')) :=
  (h.append_left f).trans perm_middle

variable (json : SerdeJson)

theorem functionItem_id (item : TranslatedToolItem) (st : String) :
    ∃ members, functionItem json item st = .object (("id", .string item.itemId) :: members) := by
  unfold functionItem
  cases item.toolKind with
  | function | freeform | deferredSearch => exact ⟨_, rfl⟩

theorem part_openTool {s : ResponsesEncoderState} (hliv : s.reading.Live)
    (callId name : String) (sourceIndex : Option Nat) (tk : CanonicalToolKind)
    (i : Table (Prod.fst : Nat × String → Nat)) :
    Part s (s.openTool json callId name sourceIndex tk i) := by
  unfold openTool
  split
  · exact .pass hliv rfl
  rename_i hf
  split
  · exact .fail _ rfl rfl
  -- the new row stands somewhere among the others
  obtain ⟨members, hi⟩ := functionItem_id json
    ⟨s.itemId "fc", callId, name, s.nextOutputIndex, sourceIndex, "", tk⟩ "in_progress"
  refine .opened hliv hi ?_
  have hn : s.activeTools.get? callId = none := by
    unfold isActive at hf
    simpa using hf
  have hrow := Table.perm_insert (t := s.activeTools)
    (r := ⟨s.itemId "fc", callId, name, s.nextOutputIndex, sourceIndex, "", tk⟩) hn
  have hp := perm_cons_append
    (s.activeMessage.toList.map fun item => (item.id, item.outputIndex))
    (perm_cons_append (s.activeReasoning.toList.map fun item => (item.id, item.outputIndex))
      (hrow.map fun item => (item.itemId, item.outputIndex)))
  exact congrArg (fun opened : Multiset (String × Nat) =>
    ({ s.reading with next := s.nextOutputIndex + 1, opened := opened } :
      ItemStream.State String)) (Multiset.coe_eq_coe.mpr hp)

theorem part_appendArguments (hliv : s.reading.Live)
    (c delta : String) : Part s (s.appendArguments c delta) := by
  unfold appendArguments
  split
  · exact .pass hliv rfl
  split
  · dsimp only
    generalize hn : ({ s with
      activeTools := s.activeTools.update (fun item => item.callId = c)
        (fun item => { item with arguments := item.arguments ++ delta })
        (fun _ => rfl) } : ResponsesEncoderState).retain delta.utf8ByteSize = t
    have hs : t.reading = s.reading := by
      subst hn
      unfold reading openItems
      dsimp only [retain]
      rw [Table.map_rows_update]
      exact fun _ => rfl
    have hliv' : t.reading.Live := hs ▸ hliv
    refine .of_reading_eq hs ?_
    split
    · exact .pass hliv' rfl
    · exact .note hliv' _ _ rfl
    · exact .note hliv' _ _ rfl
  · exact .fail _ rfl rfl

/-- A state in which a call is no longer active, and other bytes are retained. -/
def dropTool (s : ResponsesEncoderState) (callId : String) (bytes : Nat) : ResponsesEncoderState:=
  { s with activeTools := s.activeTools.erase callId, retainedBytes := bytes }

/-- Settling the arguments of a call changes these arguments and the bytes retained. -/
def KeepsCall (s : ResponsesEncoderState) (item : TranslatedToolItem)
    (settled : ResponsesEncoderState × Except CodecError TranslatedToolItem) : Prop :=
  ∃ bytes, settled.1 = { s with retainedBytes := bytes } ∧
    ∀ item', settled.2 = .ok item' → ∃ arguments, item' = { item with arguments := arguments }

section Settling

variable (json : SerdeJson) (s : ResponsesEncoderState) (item : TranslatedToolItem)

theorem keepsCall_ok : KeepsCall s item (s, .ok item) :=
  ⟨_, rfl, fun _ hok => ⟨item.arguments, (Except.ok.inj hok).symm⟩⟩

theorem keepsCall_replaceArguments (a : String) : KeepsCall s item (s.replaceArguments item a):= by
  unfold replaceArguments
  dsimp only
  split
  · exact ⟨_, rfl, fun _ hok => ⟨a, (Except.ok.inj hok).symm⟩⟩
  · exact ⟨_, rfl, nofun⟩

theorem keepsCall_completeArguments (c : Option String) :
    KeepsCall s item (s.completeArguments item c) := by
  unfold completeArguments
  split
  · split
    · exact s.keepsCall_replaceArguments item _
    · exact s.keepsCall_ok item
  · exact s.keepsCall_ok item

theorem keepsCall_unwrapArguments : KeepsCall s item (s.unwrapArguments json item) := by
  unfold unwrapArguments
  dsimp only
  split
  · exact s.keepsCall_ok item
  · exact ⟨_, rfl, nofun⟩
  · exact s.keepsCall_replaceArguments item _

end Settling

/-- **The ways in which closing a call can go.** -/
inductive ToolClosed (json : SerdeJson) (s : ResponsesEncoderState) (callId : Option String)
    (status : String) : Encoding → Prop
  | absent (hnone : callId.bind s.activeTools.get? = none) : ToolClosed json s callId status s.pass
  | failed {item : TranslatedToolItem} (hfound : callId.bind s.activeTools.get? = some item)
      (bytes : Nat) (e : CodecError) :
      ToolClosed json s callId status ((s.dropTool item.callId bytes).fail e)
  | done {item : TranslatedToolItem} (hfound : callId.bind s.activeTools.get? = some item)
      (bytes : Nat) (arguments : String) :
      ToolClosed json s callId status ((s.dropTool item.callId bytes).emitToolDone json
        { item with arguments := arguments } status)

theorem toolClosed (s : ResponsesEncoderState) (callId c : Option String) (st : String) :
    ToolClosed json s callId st (s.closeTool json callId c st) := by
  unfold closeTool
  cases hf : callId.bind s.activeTools.get? with
  | none => exact .absent hf
  | some item =>
    dsimp only
    have hc := keepsCall_completeArguments
      { s with activeTools := s.activeTools.erase item.callId } item c
    generalize completeArguments _ item c = completed at hc ⊢
    obtain ⟨t, res⟩ := completed
    obtain ⟨bytes, rfl, hok⟩ := hc
    cases res with
    | error e => exact .failed hf bytes e
    | ok item' =>
      obtain ⟨arguments, rfl⟩ := hok item' rfl
      dsimp only
      have hu := keepsCall_unwrapArguments json
        { { s with activeTools := s.activeTools.erase item.callId } with
          retainedBytes := bytes } { item with arguments := arguments }
      generalize unwrapArguments json _ _ = unwrapped at hu ⊢
      obtain ⟨t, res⟩ := unwrapped
      obtain ⟨byt', rfl, hok'⟩ := hu
      cases res with
      | error e => exact .failed hf byt' e
      | ok item' =>
        obtain ⟨arg', rfl⟩ := hok' item' rfl
        exact .done hf byt' arg'

theorem openItems_dropTool {item : TranslatedToolItem} {c : String}
    (hf : s.activeTools.get? c = some item) (b : Nat) : (s.openItems : Multiset (String × Nat)) =
      (item.itemId, item.outputIndex) ::ₘ (s.dropTool c b).openItems := by
  refine Multiset.coe_eq_coe.mpr ?_
  exact perm_cons_append _ (perm_cons_append _
    ((Table.perm_erase hf).map fun item => (item.itemId, item.outputIndex)))

/-- The frames that close a call, seen from the state in which it was active. -/
theorem part_emitToolDone {s : ResponsesEncoderState} (hliv : s.reading.Live)
    {item se : TranslatedToolItem} {c : String}
    (hfo : s.activeTools.get? c = some item) (hid : se.itemId = item.itemId)
    (hd : se.outputIndex = item.outputIndex) (b : Nat) (st : String) :
    Part s ((s.dropTool c b).emitToolDone json se st) := by
  obtain ⟨members, hi⟩ := functionItem_id json se st
  have ho := openItems_dropTool hfo b
  rw [← hid, ← hd] at ho
  have hn : ∀ (name : String) (pay : Map), kind ⟨name, pay⟩ = .note →
      Part s ((((s.dropTool c b).release se.arguments.utf8ByteSize).responseFrame
        name pay).andThen fun s => s.itemFrame "response.output_item.done" se.outputIndex
          (functionItem json se st)) := by
    intro name pay hk
    refine ⟨⟨rfl, rfl⟩, fun _ => ?_⟩
    -- the reader still sees the call open when its arguments are stated
    have hf := (Part.note hliv name pay hk).emits rfl
    have hs := (Part.closed (s := (s.responseFrame name pay).state)
      (t := (((s.dropTool c b).release se.arguments.utf8ByteSize).responseFrame name
        pay).state) ⟨hliv.started, hliv.ended⟩ hi ho rfl).emits rfl
    exact ⟨hf.1.append hs.1, hs.2⟩
  unfold emitToolDone argumentsDone
  split
  · exact .closed hliv hi ho rfl
  · exact hn _ [("item_id", .string se.itemId),
      ("output_index", number se.outputIndex), ("input", .string se.arguments)] rfl
  · exact hn _ [("item_id", .string se.itemId),
      ("output_index", number se.outputIndex), ("arguments", .string se.arguments)] rfl

theorem part_closeTool {s : ResponsesEncoderState} (hliv : s.reading.Live)
    (c co : Option String) (st : String) : Part s (s.closeTool json c co st):= by
  have hc := toolClosed json s c co st
  generalize s.closeTool json c co st = e at hc ⊢
  cases hc with
  | absent _ => exact .pass hliv rfl
  | failed _ bytes e => exact .fail e rfl rfl
  | done hf bytes arg =>
    obtain ⟨_, _, hget⟩ := Option.bind_eq_some_iff.mp hf
    refine part_emitToolDone json hliv (Table.get?_self (Table.mem_of_get? hget)) ?_ ?_ bytes
      st <;> rfl

theorem part_closeTools (st : String) (c : List String) :
    ∀ {s : ResponsesEncoderState}, s.reading.Live → Part s (s.closeTools json st c) := by
  induction c with
  | nil => intro s hliv; exact .pass hliv rfl
  | cons ci c ih =>
    intro s hliv
    exact (part_closeTool json hliv (some ci) none st).andThen ih

theorem part_closeAll {s : ResponsesEncoderState} (hliv : s.reading.Live)
    (st : String) : Part s (s.closeAll json st) :=
  ((part_close .message hliv st).andThen fun hliv =>
    part_close .reasoning hliv st).andThen fun hliv => part_closeTools json st _ hliv

/-! ## Nothing stays open -/

/-- A call that is closed is no longer active, and nothing else is touched. -/
theorem closeTool_state (s : ResponsesEncoderState) (c : String) (st : String) :
    (s.closeTool json (some c) none st).state.activeTools = s.activeTools.erase c ∧
    (s.closeTool json (some c) none st).state.activeMessage = s.activeMessage ∧
    (s.closeTool json (some c) none st).state.activeReasoning = s.activeReasoning := by
  have hc := toolClosed json s (some c) none st
  generalize s.closeTool json (some c) none st = e at hc ⊢
  cases hc with
  | absent hn => exact ⟨(Table.erase_eq_self hn).symm, rfl, rfl⟩
  | failed hf bytes e =>
    rw [Table.key_of_get? hf]
    exact ⟨rfl, rfl, rfl⟩
  | done hf bytes arg =>
    rw [Table.key_of_get? hf]
    unfold emitToolDone argumentsDone
    split <;> exact ⟨rfl, rfl, rfl⟩

/-- Closing calls one after another leaves those that were not among them. -/
theorem closeTools_state (st : String) (c : List String) :
    ∀ {s : ResponsesEncoderState}, (s.closeTools json st c).error = none →
      (∀ item ∈ (s.closeTools json st c).state.activeTools.rows,
        item ∈ s.activeTools.rows ∧ item.callId ∉ c) ∧
      (s.closeTools json st c).state.activeMessage = s.activeMessage ∧
      (s.closeTools json st c).state.activeReasoning = s.activeReasoning := by
  induction c with
  | nil =>
    intro s _
    exact ⟨fun item hi => ⟨hi, not_mem_nil⟩, rfl, rfl⟩
  | cons callId c ih =>
    intro s h
    unfold closeTools at h ⊢
    obtain ⟨hf, hl⟩ := andThen_error_eq_none h
    obtain ⟨ht, hm, hr⟩ := s.closeTool_state json callId st
    obtain ⟨hs, hm', hr'⟩ := ih hl
    rw [state_andThen hf]
    refine ⟨?_, hm'.trans hm, hr'.trans hr⟩
    intro item hi
    obtain ⟨hmem, hn⟩ := hs item hi
    rw [ht] at hmem
    have he := mem_filter.mp hmem
    refine ⟨he.1, ?_⟩
    rw [mem_cons, not_or]
    exact ⟨by simpa using he.2, hn⟩

/-- **Closing a text.** -/
theorem close_spec (slot : TextSlot) (s : ResponsesEncoderState) (st : String) :
    (slot.close s st).error = none ∧ ((slot.close s st).out = [] ↔ slot.item s = none) ∧
    (slot.close s st).state = { slot.cleared s with
      sequenceNumber := s.sequenceNumber + (slot.close s st).out.length
      retainedBytes := s.retainedBytes - slot.bytes s } := by
  cases slot
  all_goals
    simp only [TextSlot.close, closeMessage, closeReasoning, TextSlot.bytes, TextSlot.item]
    split
    · rename_i hn
      refine ⟨rfl, iff_of_true rfl hn, ?_⟩
      cases s
      cases hn
      rfl
    · rename_i hi
      rw [hi]
      exact ⟨rfl, iff_of_false (cons_ne_nil _ _) nofun, rfl⟩

/-- **Closing both.** -/
theorem closeTexts_spec (s : ResponsesEncoderState) (st : String) :
    let closed := (s.closeMessage st).andThen fun s => s.closeReasoning st
    closed.error = none ∧
    (closed.out = [] ↔ s.activeMessage = none ∧ s.activeReasoning = none) ∧
    closed.state = { s with
      activeMessage := none
      activeReasoning := none
      sequenceNumber := s.sequenceNumber + closed.out.length
      retainedBytes := s.retainedBytes - TextSlot.message.bytes s - TextSlot.reasoning.bytes s } := by
  rcases s with ⟨_, _, _, _, _, _ | mes, _ | rea, _, _, _, _, _, _, _⟩ <;>
    simp [Encoding.andThen, closeMessage, closeReasoning, pass, release, itemFrame, responseFrame,
      frame, TextSlot.bytes, TextSlot.item]

/-- **When everything has been closed, nothing is open.** -/
theorem openItems_closeAll {json : SerdeJson} {s : ResponsesEncoderState} {st : String}
    (h : (s.closeAll json st).error = none) : (s.closeAll json st).state.openItems = [] := by
  unfold closeAll at h ⊢
  obtain ⟨-, -, ht⟩ := s.closeTexts_spec st
  obtain ⟨hf, hc⟩ := andThen_error_eq_none h
  obtain ⟨hrow, hm, hr⟩ := closeTools_state json st _ hc
  rw [state_andThen hf]
  rw [ht] at hrow hm hr ⊢
  have hn : (closeTools json _ st _).state.activeTools.rows = [] :=
    eq_nil_iff_forall_not_mem.mpr fun item hi =>
      (hrow item hi).2 (mem_map_of_mem (hrow item hi).1)
  unfold closeAllTools openItems
  rw [hn, hm, hr]
  rfl

/-! ## Whole calls -/

/-- The last part of a call that ends the stream. -/
structure Ends (s : ResponsesEncoderState) (e : Encoding) : Prop where
  counts : Counts s e
  error : e.error = none
  frame : s.terminalEmitted = false → ∃ frame ∈ e.out, frame.kind = .ends
  steps : s.reading.Live → s.openItems = [] →
    ItemStream.Steps s.reading (e.out.map view) e.state.reading

/-- The last frame of a stream in which nothing is open. -/
theorem ends_frame (s : ResponsesEncoderState) (n : String) (p : Map)
    (hk : kind ⟨n, p⟩ = .ends) : Ends s ({ s with terminalEmitted := true }.frame n p) := by
  have hv := ({ s with terminalEmitted := true } : ResponsesEncoderState).view_numbered n p
  rw [hk] at hv
  refine ⟨⟨rfl, rfl⟩, rfl, fun _ => ⟨_, mem_cons_self, congrArg ItemStream.Frame.kind hv⟩,
    fun hliv ho => ?_⟩
  have hz : s.reading.opened = 0 := by
    change (s.openItems : Multiset (String × Nat)) = 0
    rw [ho]
    rfl
  change ItemStream.Steps s.reading [(numbered _ n p).view] _
  rw [hv]
  exact .single (.ends hliv hz)

theorem ends_emitTerminal (s : ResponsesEncoderState) {n : String} (st : String)
    (hk : ∀ p, kind ⟨n, p⟩ = .ends) : Ends s (s.emitTerminal n st) := by
  fun_cases emitTerminal s n st with
  | case1 ho =>
    exact ⟨⟨rfl, rfl⟩, rfl, fun h => (nomatch ho.symm.trans h),
      fun h => (nomatch ho.symm.trans h.ended)⟩
  | case2 => exact s.ends_frame n _ (hk _)

/-- **An event is a part of the stream, or closes everything and ends it.** -/
theorem encodeEvent_cases (s : ResponsesEncoderState) (ev : CanonicalEvent) :
    (ev.endsResponse = false ∧ (s.reading.Live → Part s (s.encodeEvent json ev))) ∨
    ev.endsResponse = true ∧ ∃ st last, s.encodeEvent json ev = (s.closeAll json st).andThen last ∧
      ∀ t, Ends t (last t) := by
  unfold encodeEvent CanonicalEvent.endsResponse
  cases ev.eventType
  case textDelta =>
    exact .inl ⟨rfl, fun hliv => ((part_close .reasoning hliv _).andThen
      (part_opens .message)).andThen fun hliv => part_append .message hliv _⟩
  case reasoningDelta =>
    exact .inl ⟨rfl, fun hliv => ((part_close .message hliv _).andThen
      (part_opens .reasoning)).andThen fun hliv => part_append .reasoning hliv _⟩
  case toolCallStart =>
    exact .inl ⟨rfl, fun hliv => ((part_close .message hliv _).andThen fun hliv =>
      part_close .reasoning hliv _).andThen fun hliv => part_openTool json hliv _ _ _ _ _⟩
  case toolCallArgumentsDelta =>
    exact .inl ⟨rfl, fun hliv => (part_openTool json hliv _ _ _ _ _).andThen
      fun hliv => part_appendArguments hliv _ _⟩
  case toolCallStop => exact .inl ⟨rfl, fun hliv => part_closeTool json hliv _ _ _⟩
  case contentStop => exact .inl ⟨rfl, fun hliv => part_closeTool json hliv _ _ _⟩
  case responseComplete => exact .inr ⟨rfl, _, _, rfl, fun t => t.ends_emitTerminal _ fun _ => rfl⟩
  case responseIncomplete =>
    refine .inr ⟨rfl, _, _, rfl, fun t => ?_⟩
    split <;> exact t.ends_emitTerminal _ fun _ => rfl
  case error => exact .inr ⟨rfl, _, _, rfl, fun t => t.ends_frame "error" _ rfl⟩
  all_goals exact .inl ⟨rfl, fun hliv => .pass hliv rfl⟩

theorem counts_encodeEvent {s : ResponsesEncoderState} (hliv : s.reading.Live)
    (ev : CanonicalEvent) : Counts s (s.encodeEvent json ev) := by
  rcases encodeEvent_cases json s ev with ⟨-, h⟩ | ⟨-, st, last, he, hl⟩
  · exact (h hliv).counts
  · rw [he]
    exact (part_closeAll json hliv st).counts.andThen fun _ => (hl _).counts

/-- **An event that is encoded is read.** -/
theorem steps_encodeEvent {s : ResponsesEncoderState} (hliv : s.reading.Live)
    (ev : CanonicalEvent) (he : (s.encodeEvent json ev).error = none) :
    ItemStream.Steps s.reading ((s.encodeEvent json ev).out.map view)
      (s.encodeEvent json ev).state.reading := by
  rcases encodeEvent_cases json s ev with ⟨-, h⟩ | ⟨-, st, last, heq, hl⟩
  · exact ((h hliv).emits he).1
  rw [heq] at he ⊢
  obtain ⟨hf, _⟩ := andThen_error_eq_none he
  obtain ⟨hs, hliv'⟩ := (part_closeAll json hliv st).emits hf
  rw [out_andThen hf, state_andThen hf, map_append]
  exact hs.append ((hl _).steps hliv' (openItems_closeAll hf))

/-- The stream is created by its first event, and only by that. -/
theorem steps_ensureCreated (ho : s.terminalEmitted = false) (m : Option String) :
    ItemStream.Steps s.reading ((s.ensureCreated m).out.map view)
      (s.ensureCreated m).state.reading ∧ (s.ensureCreated m).state.reading.Live := by
  unfold ensureCreated
  dsimp only
  split
  · rename_i hc
    exact ⟨.nil _, hc, ho⟩
  rename_i hf
  refine ⟨?_, rfl, ho⟩
  unfold createdFrame
  dsimp only
  generalize hp : ([("response", _)] : Map) = payload
  change ItemStream.Steps s.reading [(numbered _ "response.created" payload).view] _
  rw [view_numbered]
  exact .single (.start (Bool.not_eq_true _ ▸ hf) ho)

/-- The state in which an event is encoded once the stream is created. -/
def started (s : ResponsesEncoderState) (event : CanonicalEvent) : ResponsesEncoderState :=
  (s.ensureCreated event.model).state.noteUsage event

theorem error_ensureCreated (s : ResponsesEncoderState) (m : Option String) :
    (s.ensureCreated m).error = none := by
  unfold ensureCreated
  dsimp only
  split <;> rfl

/-- The stream is created with one frame, unless it has been. -/
theorem out_ensureCreated (s : ResponsesEncoderState) (m : Option String) :
    (s.ensureCreated m).out = [] ↔ s.created = true := by
  unfold ensureCreated
  dsimp only
  split
  · rename_i hc
    exact iff_of_true rfl hc
  · rename_i hf
    exact iff_of_false (cons_ne_nil _ _) hf

theorem encode_open (ho : s.terminalEmitted = false) (json : SerdeJson) (event : CanonicalEvent) :
    s.encode json event = (((s.started event).encodeEvent json event).state,
        match ((s.started event).encodeEvent json event).error with
        | some e => .error e
        | none => .ok ((s.ensureCreated event.model).out ++
            ((s.started event).encodeEvent json event).out)) := by
  have hn := s.error_ensureCreated event.model
  unfold encode encodeResponses
  rw [ho, if_neg Bool.false_ne_true]
  dsimp only
  rw [state_andThen hn, error_andThen hn, out_andThen hn]
  rfl

/-- **A call that succeeds is read.** -/
theorem steps_encode {json : SerdeJson} {s t : ResponsesEncoderState} {ev : CanonicalEvent}
    {f : List ClientFrame} (h : s.encode json ev = (t, .ok f)) :
    ItemStream.Steps s.reading (f.map view) t.reading := by
  cases ho : s.terminalEmitted with
  | true =>
    rw [encode, encodeResponses, if_pos ho] at h
    cases h
    exact .nil _
  | false =>
    obtain ⟨hc, hliv⟩ := steps_ensureCreated ho ev.model
    rw [encode_open ho] at h
    cases he : ((s.started ev).encodeEvent json ev).error with
    | some e =>
      rw [he] at h
      cases h
    | none =>
      rw [he] at h
      cases h
      rw [map_append]
      exact hc.append (steps_encodeEvent json (s := s.started ev) hliv ev he)

theorem encodeAll_cons {json : SerdeJson} {s t : ResponsesEncoderState} {ev : CanonicalEvent}
    {eve : List CanonicalEvent} {f : List ClientFrame}
    (h : s.encodeAll json (ev :: eve) = .ok (t, f)) :
    ∃ s' first more, s.encode json ev = (s', .ok first) ∧
      s'.encodeAll json eve = .ok (t, more) ∧ f = first ++ more := by
  unfold encodeAll at h
  split at h
  · cases h
  rename_i s' first ho
  split at h
  · cases h
  rename_i more hr
  cases h
  exact ⟨s', first, more, ho, hr, rfl⟩

/-- **So is a run of successful calls.** -/
theorem steps_encodeAll {json : SerdeJson} (eve : List CanonicalEvent) :
    ∀ {s t : ResponsesEncoderState} {frames : List ClientFrame},
      s.encodeAll json eve = .ok (t, frames) →
      ItemStream.Steps s.reading (frames.map view) t.reading := by
  induction eve with
  | nil =>
    intro s t frames h
    cases h
    exact .nil _
  | cons evn eve ih =>
    intro s t frames h
    obtain ⟨s', first, more, ho, hr, rfl⟩ := encodeAll_cons h
    rw [map_append]
    exact (steps_encode ho).append (ih hr)

/-- The first event of a stream creates it. -/
theorem ne_nil_of_encode {json : SerdeJson} {s t : ResponsesEncoderState} {ev : CanonicalEvent}
    {f : List ClientFrame} (hf : s.created = false) (ho : s.terminalEmitted = false)
    (h : s.encode json ev = (t, .ok f)) : f ≠ [] := by
  rw [encode_open ho] at h
  split at h
  · cases h
  cases h
  have hn := mt (s.out_ensureCreated ev.model).1 (ne_true_of_eq_false hf)
  exact fun h => hn (append_eq_nil_iff.mp h).1

/--
**The output of a Responses encoder is a well-formed stream.** For every list of events on
which all calls succeed: `response.created` comes first and once, the sequence numbers are
0, 1, 2 and so on, every item that is added is done once before the terminal event under the
same identity and output index, output indices increase in the order of opening, and nothing
follows a terminal event.
-/
theorem wellFormed_encodeAll (json : SerdeJson) (serial : Nat) (tools : List CanonicalTool)
    (events : List CanonicalEvent) (t : ResponsesEncoderState) (frames : List ClientFrame)
    (h : (new serial tools).encodeAll json events = .ok (t, frames)) :
    ItemStream.WellFormed (frames.map ClientFrame.view) ∧ (events ≠ [] → frames ≠ []) := by
  refine ⟨.of_steps (steps_encodeAll events h), ?_⟩
  intro hevents
  cases events with
  | nil => exact absurd rfl hevents
  | cons event events =>
    obtain ⟨s', first, more, hone, _, rfl⟩ := encodeAll_cons h
    exact fun hnil => ne_nil_of_encode rfl rfl hone (append_eq_nil_iff.mp hnil).1

/-- A text, a call that the end of the response closes, and an event after the end. -/
theorem wellFormed_encodeAll_text_and_call : let json : SerdeJson := ⟨fun _ => none, fun _ => ""⟩
    let events : List CanonicalEvent :=
      [{ canonicalEvent .textDelta with delta := some "a" },
        { canonicalEvent .toolCallStart with callId := some "c", name := some "f" },
        canonicalEvent .responseComplete, canonicalEvent .usage]
    ∃ t frames, (new 1 []).encodeAll json events = .ok (t, frames) ∧
      frames.map ClientFrame.name =
        ["response.created", "response.output_item.added", "response.output_text.delta",
          "response.output_item.done", "response.output_item.added",
          "response.function_call_arguments.done", "response.output_item.done",
          "response.completed"] ∧
      ItemStream.WellFormed (frames.map ClientFrame.view) ∧ (events ≠ [] → frames ≠ []) := by
  intro json events
  have hrun : ((new 1 []).encodeAll json events).toOption.any (fun out =>
      out.2.map ClientFrame.name =
        ["response.created", "response.output_item.added", "response.output_text.delta",
          "response.output_item.done", "response.output_item.added",
          "response.function_call_arguments.done", "response.output_item.done",
          "response.completed"]) = true := by
    decide +kernel
  obtain ⟨⟨t, frames⟩, h, hn⟩ := exists_ok_of_any hrun
  exact ⟨t, frames, h, of_decide_eq_true hn, wellFormed_encodeAll json 1 [] events t frames h⟩

end ResponsesEncoderState

end EggPool.Wire
