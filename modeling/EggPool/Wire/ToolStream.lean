import EggPool.Wire.StreamEvent
import EggPool.Wire.ToolCalls

/-!
# Provider streams with text and tool calls

What an Anthropic or an OpenAI chat stream says about text and calls, apart from how it is
decoded here. A frame *carries* protocol events, and a reader accepts the sequences of
events that are well formed: every block has an index of its own, every call an id of its
own and a name, fragments go to blocks that are open, and the stream ends as its protocol
ends a message. Blocks may be interleaved freely.

The calls of a stream are read off its events: an id, a name, and the fragments with the
index of the call, in order. The decoders turn each protocol event into one canonical event.
-/

namespace EggPool.Wire

open EggPool.Lib List

inductive ToolProtocol where
  | anthropicMessages | openaiChat
  deriving DecidableEq, Repr

def ToolProtocol.adapter : ToolProtocol → StreamAdapterKind
  | anthropicMessages => .anthropicMessagesSse
  | openaiChat => .openaiChatSse

/-- What a provider says; the text of a chat stream belongs to no block. -/
inductive ProtocolEvent where
  | started (responseId model : Option String)
  | usage (report : CanonicalUsage)
  | textStart (index : Nat)
  | text (index : Option Nat) (delta : String)
  | textStop (index : Nat)
  | callStart (index : Nat) (id name : String)
  | fragment (index : Nat) (id : Option String) (delta : String)
  | callStop (index : Nat)
  | finishReason (reason : String)
  | terminator
  deriving DecidableEq, Repr

namespace ProtocolEvent

def canonical : ProtocolEvent → CanonicalEvent
  | started responseId model =>
    { canonicalEvent .responseStart with responseId := responseId, model := model }
  | usage report => { canonicalEvent .usage with usage := some report }
  | textStart index => { canonicalEvent .contentStart with index := some index }
  | text index delta => { canonicalEvent .textDelta with index := index, delta := some delta }
  | textStop index => { canonicalEvent .contentStop with index := some index }
  | callStart index id name =>
    { canonicalEvent .toolCallStart with index := some index, callId := some id, name := some name }
  | fragment index id delta =>
    { canonicalEvent .toolCallArgumentsDelta with
      index := some index, callId := id, delta := some delta }
  | callStop index => { canonicalEvent .contentStop with index := some index }
  | finishReason reason =>
    { canonicalEvent .responseComplete with finishReason := some reason }
  | terminator => canonicalEvent .responseComplete

/-- Whether an event says that the message is complete. -/
def completes : ProtocolEvent → Bool
  | finishReason _ => true
  | terminator => true
  | _ => false

def closesText : ProtocolEvent → Bool
  | textStop _ => true
  | _ => false

end ProtocolEvent

/-! ## The calls of a stream -/

structure StreamCall where
  index : Nat
  (id name arguments : String)
  deriving DecidableEq, Repr

def StreamCall.completed (call : StreamCall) : CompletedToolCall :=
  ⟨.callId call.id, some call.id, some call.index, call.name, call.arguments⟩

/-- The fragments of one block, in order. -/
def fragments (index : Nat) (events : List ProtocolEvent) : List String :=
  events.filterMap fun
    | .fragment i _ delta => if i = index then some delta else none
    | _ => none

/-- The calls a stream starts, as they are at their start. -/
def startedCalls (events : List ProtocolEvent) : List StreamCall :=
  events.filterMap fun
    | .callStart index id name => some ⟨index, id, name, ""⟩
    | _ => none

/-- **The tool calls of a stream**: each with the concatenation of its own fragments. -/
def toolCalls (events : List ProtocolEvent) : List CompletedToolCall :=
  (startedCalls events).map fun call =>
    { call with arguments := String.join (fragments call.index events) }.completed

/-! ## Well-formed streams -/

inductive StreamPhase where
  | body | finished | ended
  deriving DecidableEq, Repr

/-- What has been read: the open blocks, the closed calls, and what is taken for good. -/
structure StreamReader where
  texts : List Nat
  calls : Table StreamCall.index
  done : List StreamCall
  indexes : List Nat
  ids : List String
  phase : StreamPhase

namespace StreamReader

def new : StreamReader := ⟨[], .empty, [], [], [], .body⟩

variable (r : StreamReader)

def openText (index : Nat) : StreamReader :=
  { r with texts := index :: r.texts, indexes := index :: r.indexes }

def closeText (index : Nat) : StreamReader :=
  { r with texts := r.texts.filter (· ≠ index) }

def openCall (index : Nat) (id name : String) : StreamReader :=
  { r with
    calls := r.calls.insert ⟨index, id, name, ""⟩
    indexes := index :: r.indexes
    ids := id :: r.ids }

def extendCall (index : Nat) (delta : String) : StreamReader :=
  { r with
    calls := r.calls.update (fun call => call.index = index)
      (fun call => { call with arguments := call.arguments ++ delta }) (fun _ => rfl) }

def closeCall (call : StreamCall) : StreamReader :=
  { r with calls := r.calls.erase call.index, done := call :: r.done }

/-- Anthropic closes every block before the message ends; chat has no word for that. -/
def mayFinish (protocol : ToolProtocol) (r : StreamReader) : Bool :=
  match protocol with
  | .anthropicMessages => r.texts.isEmpty && r.calls.rows.isEmpty
  | .openaiChat => true

def readBody (protocol : ToolProtocol) (r : StreamReader) : ProtocolEvent → Option StreamReader
  | .started _ _ => some r
  | .usage _ => some r
  | .textStart index => if index ∈ r.indexes then none else some (r.openText index)
  | .text none _ => some r
  | .text (some index) _ => if index ∈ r.texts then some r else none
  | .textStop index => if index ∈ r.texts then some (r.closeText index) else none
  | .callStart index id name =>
    if index ∈ r.indexes ∨ id ∈ r.ids ∨ id.isEmpty ∨ (trim name).isEmpty then none
    else some (r.openCall index id name)
  | .fragment index id delta =>
    match r.calls.get? index with
    | some call => if id.all (· = call.id) then some (r.extendCall index delta) else none
    | none => none
  | .callStop index => (r.calls.get? index).map r.closeCall
  | .finishReason _ => if r.mayFinish protocol then some { r with phase := .finished } else none
  | .terminator => if r.mayFinish protocol then some { r with phase := .ended } else none

/-- After the reason there is room for a report of usage, and for the terminator. -/
def read (protocol : ToolProtocol) (r : StreamReader) (event : ProtocolEvent) :
    Option StreamReader :=
  match r.phase, event with
  | .body, event => r.readBody protocol event
  | .finished, .usage _ => some r
  | .finished, .terminator => some { r with phase := .ended }
  | _, _ => none

def readAll (protocol : ToolProtocol) : StreamReader → List ProtocolEvent → Option StreamReader
  | r, [] => some r
  | r, event :: events => (r.read protocol event).bind fun r => readAll protocol r events

/-! ### What one event of the body does -/

/-- The moves of a reader that is in the body of a message. -/
inductive Moves (r : StreamReader) : ProtocolEvent → StreamReader → Prop
  | started (responseId model) : Moves r (.started responseId model) r
  | usage (report) : Moves r (.usage report) r
  | text (index delta) : Moves r (.text index delta) r
  | textStart {index} (fresh : index ∉ r.indexes) : Moves r (.textStart index) (r.openText index)
  | textStop {index} (known : index ∈ r.texts) : Moves r (.textStop index) (r.closeText index)
  | callStart {index id name} (freshIndex : index ∉ r.indexes) (freshId : id ∉ r.ids)
      (hasId : id.isEmpty = false) (hasName : (trim name).isEmpty = false) :
      Moves r (.callStart index id name) (r.openCall index id name)
  | fragment {index id delta call} (known : r.calls.get? index = some call)
      (same : id.all (· = call.id) = true) :
      Moves r (.fragment index id delta) (r.extendCall index delta)
  | callStop {index call} (known : r.calls.get? index = some call) :
      Moves r (.callStop index) (r.closeCall call)
  | completes {event} (phase) (complete : event.completes = true) (left : phase ≠ .body) :
      Moves r event { r with phase := phase }

variable {protocol : ToolProtocol} {r r' : StreamReader} {event : ProtocolEvent}

theorem moves_of_readBody (h : r.readBody protocol event = some r') : r.Moves event r' := by
  revert h
  fun_cases readBody protocol r event with
  | case1 => rintro ⟨⟩; exact .started _ _
  | case2 => rintro ⟨⟩; exact .usage _
  | case4 index hf => rintro ⟨⟩; exact .textStart hf
  | case5 | case6 => rintro ⟨⟩; exact .text _ _
  | case8 index hk => rintro ⟨⟩; exact .textStop hk
  | case11 index id name hf =>
    rintro ⟨⟩
    simp only [not_or, Bool.not_eq_true] at hf
    exact .callStart hf.1 hf.2.1 hf.2.2.1 hf.2.2.2
  | case12 index id del call hk hs => rintro ⟨⟩; exact .fragment hk hs
  | case15 index =>
    intro h
    obtain ⟨call, hk, rfl⟩ := Option.map_eq_some_iff.mp h
    exact .callStop hk
  | case16 | case18 => rintro ⟨⟩; exact .completes _ rfl (by decide)
  | _ => rintro ⟨⟩

theorem read_of_body (hb : r.phase = .body) (event : ProtocolEvent) :
    r.read protocol event = r.readBody protocol event := by
  unfold read
  rw [hb]

/-- Only a completing event leaves the body. -/
theorem Moves.phase_of_not_completes (h : r.Moves event r') (hb : r.phase = .body)
    (ho : event.completes = false) : r'.phase = .body := by
  cases h with
  | completes phase hc => rw [hc] at ho; cases ho
  | _ => exact hb

/-! ### The reader holds the calls of what it has read -/

theorem fragments_append (index : Nat) (events more : List ProtocolEvent) :
    fragments index (events ++ more) = fragments index events ++ fragments index more :=
  filterMap_append

theorem startedCalls_append (events more : List ProtocolEvent) :
    startedCalls (events ++ more) = startedCalls events ++ startedCalls more :=
  filterMap_append

/-- All calls so far, the closed ones and the open ones. -/
def allCalls (r : StreamReader) : List StreamCall := r.done ++ r.calls.rows

structure Holds (r : StreamReader) (events : List ProtocolEvent) : Prop where
  /-- The calls are those that were started. -/
  starts : (r.allCalls.map fun call => { call with arguments := "" }).Perm (startedCalls events)
  /-- Their arguments are their own fragments. -/
  arguments : ∀ call ∈ r.allCalls, call.arguments = String.join (fragments call.index events)
  /-- Their indices are not given out again. -/
  taken : ∀ call ∈ r.allCalls, call.index ∈ r.indexes
  /-- An index that was not given out has no fragments. -/
  unused : ∀ index, index ∉ r.indexes → fragments index events = []
  /-- A closed call is not open. -/
  closed : ∀ call ∈ r.done, r.calls.get? call.index = none

theorem holds_new : new.Holds [] where
  starts := .refl _
  arguments := by intro call h; cases h
  taken := by intro call h; cases h
  unused := by intro index _; rfl
  closed := by intro call h; cases h

variable {events : List ProtocolEvent}

/-- An event that starts and extends no call; it may give out an index or close a call. -/
theorem Holds.of_quiet (h : r.Holds events) (hp : r'.allCalls.Perm r.allCalls)
    (hi : r.indexes ⊆ r'.indexes) (ht : startedCalls [event] = [])
    (hf : ∀ index, fragments index [event] = [])
    (hc : ∀ call ∈ r'.done, r'.calls.get? call.index = none) : r'.Holds (events ++ [event]) := by
  have hs : ∀ index, fragments index (events ++ [event]) = fragments index events := by
    intro index
    rw [fragments_append, hf, append_nil]
  refine ⟨?_, ?_, ?_, ?_, hc⟩
  · rw [startedCalls_append, ht, append_nil]
    exact (hp.map _).trans h.starts
  · intro call hm
    rw [hs]
    exact h.arguments call (hp.mem_iff.mp hm)
  · intro call hm
    exact hi (h.taken call (hp.mem_iff.mp hm))
  · intro index hx
    rw [hs]
    exact h.unused index fun hold => hx (hi hold)

variable {index : Nat}

/-- No open call is at an index that is free. -/
theorem get?_of_fresh (h : ∀ call ∈ r.calls.rows, call.index ∈ r.indexes)
    (hf : index ∉ r.indexes) : r.calls.get? index = none := by
  rw [Table.get?_eq_none]
  rintro call hc rfl
  exact hf (h call hc)

section

variable (h : r.Holds events)

include h

theorem Holds.openCall {id n : String} (hx : index ∉ r.indexes) :
    (r.openCall index id n).Holds (events ++ [.callStart index id n]) := by
  have hn : r.calls.get? index = none :=
    get?_of_fresh (fun call hc => h.taken call (mem_append_right _ hc)) hx
  have hp : (r.openCall index id n).allCalls.Perm (⟨index, id, n, ""⟩ :: r.allCalls) :=
    ((Table.perm_insert hn).append_left r.done).trans perm_middle
  have hs : ∀ i, fragments i (events ++ [.callStart index id n]) = fragments i events := by
    intro i
    rw [fragments_append]
    exact append_nil _
  refine ⟨?_, ?_, ?_, ?_, ?_⟩
  · rw [startedCalls_append]
    refine (hp.map _).trans ?_
    exact (h.starts.cons _).trans (perm_append_singleton _ _).symm
  · intro call hc
    rw [hs]
    rcases mem_cons.mp (hp.mem_iff.mp hc) with rfl | hc
    · -- a new call starts with nothing, and nothing was said about its index
      rw [h.unused index hx]
      rfl
    · exact h.arguments call hc
  · intro call hc
    rcases mem_cons.mp (hp.mem_iff.mp hc) with rfl | hc
    · exact mem_cons_self
    · exact mem_cons_of_mem _ (h.taken call hc)
  · intro i hi
    rw [hs]
    exact h.unused i fun hold => hi (mem_cons_of_mem _ hold)
  · intro call hc
    have hne : index ≠ call.index := by
      rintro rfl
      exact hx (h.taken call (mem_append_left _ hc))
    change (r.calls.insert _).get? call.index = none
    rw [Table.get?_insert, if_neg hne]
    exact h.closed call hc

theorem Holds.extendCall {call : StreamCall}
    (hk : r.calls.get? index = some call) (id : Option String) (delta : String) :
    (r.extendCall index delta).Holds (events ++ [.fragment index id delta]) := by
  let extend : StreamCall → StreamCall := fun call =>
    if call.index = index then { call with arguments := call.arguments ++ delta } else call
  have hx : ∀ call, (extend call).index = call.index := by
    intro call
    change StreamCall.index (if _ then _ else _) = _
    split <;> rfl
  -- the closed calls are not at this index, so extending leaves them alone
  have hall : (r.extendCall index delta).allCalls = r.allCalls.map extend := by
    have hd : r.done.map extend = r.done := by
      refine (map_congr_left ?_).trans (map_id _)
      intro other ho
      refine if_neg ?_
      rintro rfl
      rw [h.closed other ho] at hk
      cases hk
    have hc : (r.extendCall index delta).calls.rows = r.calls.rows.map extend := by
      refine map_congr_left fun other _ => ?_
      simp [extend]
    unfold allCalls
    rw [hc, map_append, hd]
    rfl
  refine ⟨?_, ?_, ?_, ?_, ?_⟩
  · rw [hall, startedCalls_append, map_map]
    have hh : (r.allCalls.map ((fun call => { call with arguments := "" }) ∘ extend)) =
        r.allCalls.map fun call => { call with arguments := "" } := by
      refine map_congr_left fun other _ => ?_
      simp only [extend, Function.comp_apply]
      split <;> rfl
    rw [hh]
    exact h.starts.trans (append_nil _ ▸ .refl _)
  · intro other ho
    rw [hall] at ho
    obtain ⟨old, hold, rfl⟩ := mem_map.mp ho
    rw [hx, fragments_append, String.join_append, ← h.arguments old hold]
    by_cases hat : old.index = index
    · simp only [extend, if_pos hat, fragments, hat]
      simp
    · have hne : index ≠ old.index := fun heq => hat heq.symm
      simp only [extend, if_neg hat, fragments, filterMap_cons, if_neg hne]
      simp
  · intro other ho
    rw [hall] at ho
    obtain ⟨old, hold, rfl⟩ := mem_map.mp ho
    rw [hx]
    exact h.taken old hold
  · intro i hi
    have hne : index ≠ i := by
      rintro rfl
      exact hi (Table.key_of_get? hk ▸
        h.taken call (mem_append_right _ (Table.mem_of_get? hk)))
    rw [fragments_append, h.unused i hi, nil_append]
    simp only [fragments, filterMap_cons, if_neg hne, filterMap_nil]
  · intro other ho
    simp only [StreamReader.extendCall, Table.get?_update]
    rw [h.closed other ho]
    rfl

theorem Holds.closeCall {c : StreamCall} (hk : r.calls.get? index = some c) :
    (r.closeCall c).Holds (events ++ [.callStop index]) := by
  obtain rfl : c.index = index := Table.key_of_get? hk
  have hp : (r.closeCall c).allCalls.Perm r.allCalls :=
    perm_middle.symm.trans ((Table.perm_erase hk).symm.append_left r.done)
  refine h.of_quiet hp (List.Subset.refl _) rfl (fun _ => rfl) ?_
  intro other ho
  change (r.calls.erase c.index).get? other.index = none
  rw [Table.get?_erase]
  split
  · rfl
  rename_i hne
  rcases mem_cons.mp ho with rfl | ho
  · exact absurd rfl hne
  · exact h.closed other ho

theorem Holds.moves (hm : r.Moves event r') : r'.Holds (events ++ [event]) := by
  cases hm with
  | started | usage | text | textStop =>
    exact h.of_quiet (.refl _) (List.Subset.refl _) rfl (fun _ => rfl) h.closed
  | textStart => exact h.of_quiet (.refl _) (subset_cons_self _ _) rfl (fun _ => rfl) h.closed
  | callStart hi => exact h.openCall hi
  | fragment hk => exact h.extendCall hk _ _
  | callStop hk => exact h.closeCall hk
  | completes pha hc =>
    cases event with
    | finishReason | terminator =>
      exact h.of_quiet (.refl _) (List.Subset.refl _) rfl (fun _ => rfl) h.closed
    | _ => cases hc

theorem Holds.read (hr : r.read protocol event = some r') : r'.Holds (events ++ [event]) := by
  unfold StreamReader.read at hr
  split at hr
  · exact h.moves (moves_of_readBody hr)
  · cases hr
    exact h.moves (.usage _)
  · cases hr
    exact h.moves (.completes _ rfl (by decide))
  · cases hr

end

theorem Holds.readAll : ∀ {r r' : StreamReader} {seen : List ProtocolEvent}, r.Holds seen →
      r.readAll protocol events = some r' → r'.Holds (seen ++ events) := by
  induction events with
  | nil =>
    intro r r' seen h hr
    cases hr
    rwa [append_nil]
  | cons event events ih =>
    intro r r' seen h hr
    obtain ⟨next, hn, hs⟩ := Option.bind_eq_some_iff.mp hr
    rw [append_cons]
    exact ih (h.read hn) hs

/-- **What the reader holds at the end are the tool calls of the stream.** -/
theorem perm_toolCalls (h : new.readAll protocol events = some r) :
    (r.allCalls.map StreamCall.completed).Perm (toolCalls events) := by
  have hh : r.Holds events := holds_new.readAll h
  have ha : r.allCalls.map StreamCall.completed =
      (r.allCalls.map fun call => { call with arguments := "" }).map fun call =>
        { call with arguments := String.join (fragments call.index events) }.completed := by
    rw [map_map]
    refine map_congr_left fun call hc => ?_
    simp only [Function.comp_apply]
    rw [← hh.arguments call hc]
  rw [ha]
  exact hh.starts.map _

end StreamReader

/-! ## Frames -/

/-- A frame and its JSON payload, parsed already or as text. -/
structure Framed (json : SerdeJson) (frame : Value) (members payload : Map) : Prop where
  object : frame = .object members
  data : members.get "data" = some (.object payload) ∨
    ∃ text, members.get "data" = some (.string text) ∧ isOpenaiDone text = false ∧
      json.fromStr text = some (.object payload)

/-- The event of a frame is on its event line, else in its payload. -/
def Named (members payload : Map) (name : String) : Prop :=
  string (members.get "event") = some name ∨
    string (members.get "event") = none ∧ string (payload.get "type") = some name

/-- A report of usage, where there is one. -/
def usageReport (value : Option Value) (protocol : UsageProtocol) : List ProtocolEvent :=
  (usageFrom value protocol).toList.map .usage

/--
The frames of an Anthropic stream. A `content_block_stop` has only an index: which kind of
block it closes depends on what was opened, so it can carry either event.
-/
inductive AnthropicFrame (json : SerdeJson) : Value → List ProtocolEvent → Prop
  | messageStart {frame members payload message} (framed : Framed json frame members payload)
      (named : Named members payload "message_start")
      (started : object (payload.get "message") = some message) :
      AnthropicFrame json frame
        (.started (string (message.get "id")) (string (message.get "model")) ::
          usageReport (message.get "usage") .anthropic)
  | ping {frame members payload} (framed : Framed json frame members payload)
      (named : Named members payload "ping") : AnthropicFrame json frame []
  | textStart {frame members payload block i} (framed : Framed json frame members payload)
      (named : Named members payload "content_block_start")
      (indexed : index (payload.get "index") = some i)
      (opens : object (payload.get "content_block") = some block)
      (kind : string (block.get "type") = some "text") : AnthropicFrame json frame [.textStart i]
  | callStart {frame members payload block i id name} (framed : Framed json frame members payload)
      (named : Named members payload "content_block_start")
      (indexed : index (payload.get "index") = some i)
      (opens : object (payload.get "content_block") = some block)
      (kind : string (block.get "type") = some "tool_use")
      (hasId : string (block.get "id") = some id)
      (hasName : string (block.get "name") = some name) :
      AnthropicFrame json frame [.callStart i id name]
  | text {frame members payload delta i text} (framed : Framed json frame members payload)
      (named : Named members payload "content_block_delta")
      (indexed : index (payload.get "index") = some i)
      (changes : object (payload.get "delta") = some delta)
      (kind : string (delta.get "type") = some "text_delta")
      (hasText : string (delta.get "text") = some text) :
      AnthropicFrame json frame [.text (some i) text]
  | fragment {frame members payload delta i text} (framed : Framed json frame members payload)
      (named : Named members payload "content_block_delta")
      (indexed : index (payload.get "index") = some i)
      (changes : object (payload.get "delta") = some delta)
      (kind : string (delta.get "type") = some "input_json_delta")
      (noText : string (delta.get "text") = none)
      (noThinking : string (delta.get "thinking") = none)
      (hasJson : string (delta.get "partial_json") = some text) :
      AnthropicFrame json frame [.fragment i none text]
  | textStop {frame members payload i} (framed : Framed json frame members payload)
      (named : Named members payload "content_block_stop")
      (indexed : index (payload.get "index") = some i) : AnthropicFrame json frame [.textStop i]
  | callStop {frame members payload i} (framed : Framed json frame members payload)
      (named : Named members payload "content_block_stop")
      (indexed : index (payload.get "index") = some i) : AnthropicFrame json frame [.callStop i]
  | messageDelta {frame members payload delta} (framed : Framed json frame members payload)
      (named : Named members payload "message_delta")
      (changes : object (payload.get "delta") = some delta) :
      AnthropicFrame json frame
        (usageReport (payload.get "usage") .anthropic ++
          (string (delta.get "stop_reason")).toList.map .finishReason)
  | messageStop {frame members payload} (framed : Framed json frame members payload)
      (named : Named members payload "message_stop") : AnthropicFrame json frame [.terminator]

/-- An entry of `tool_calls`: the first one of a call names it, the others have its index. -/
inductive ChatCallDelta (call : Map) : List ProtocolEvent → Prop
  | first {function i id name} (indexed : index (call.get "index") = some i)
      (hasId : string (call.get "id") = some id)
      (invokes : object (call.get "function") = some function)
      (hasName : string (function.get "name") = some name) :
      ChatCallDelta call (.callStart i id name ::
        (string (function.get "arguments")).toList.map (.fragment i (some id)))
  | more {function i} (indexed : index (call.get "index") = some i)
      (noId : string (call.get "id") = none)
      (invokes : object (call.get "function") = some function)
      (noName : string (function.get "name") = none) :
      ChatCallDelta call ((string (function.get "arguments")).toList.map (.fragment i none))

/-- The text of a chunk; an empty text says nothing. -/
def chatContent (value : Option Value) : List ProtocolEvent :=
  ((string value).filter fun text => !text.isEmpty).toList.map (.text none)

/-- The frames of a chat stream with one choice and no reasoning. -/
inductive ChatFrame (json : SerdeJson) : Value → List ProtocolEvent → Prop
  | chunk {frame members payload delta entries calls} {choice : Map}
      (framed : Framed json frame members payload)
      (regular : string (members.get "event") ≠ some "error")
      (noError : payload.get "error" = none)
      (choices : array (payload.get "choices") = some [.object choice])
      (changes : object (choice.get "delta") = some delta)
      (noReasoning : string (delta.get "reasoning_content") = none)
      (listed : (array (delta.get "tool_calls")).getD [] = entries.map .object)
      (deltas : List.Forall₂ ChatCallDelta entries calls) :
      ChatFrame json frame
        (chatContent (delta.get "content") ++ calls.flatten ++
          (string (choice.get "finish_reason")).toList.map .finishReason)
  | usage {frame members payload} (framed : Framed json frame members payload)
      (regular : string (members.get "event") ≠ some "error")
      (noError : payload.get "error" = none)
      (choices : array (payload.get "choices") = some []) :
      ChatFrame json frame (usageReport (payload.get "usage") .openai)
  | done {frame text} {members : Map} (object : frame = .object members)
      (data : members.get "data" = some (.string text)) (done : isOpenaiDone text = true) :
      ChatFrame json frame [.terminator]

def Carries (json : SerdeJson) (protocol : ToolProtocol) (frame : Value)
    (events : List ProtocolEvent) : Prop :=
  match protocol with
  | .anthropicMessages => AnthropicFrame json frame events
  | .openaiChat => ChatFrame json frame events

/-! ### The decoders read what the frames carry -/

variable {frame : Value} {members payload : Map} {json : SerdeJson}

theorem Framed.payloadValue (h : Framed json frame members payload) :
    payloadValue json frame = .ok (payload, none) := by
  obtain ⟨rfl, hd⟩ := h
  rcases hd with hd | ⟨text, hd, hn, hj⟩
  · simp only [Wire.payloadValue, Value.asObject, hd, Option.getD_some]
  · simp only [Wire.payloadValue, Value.asObject, hd, Option.getD_some, hn, hj,
      Option.bind_some, Bool.false_eq_true, if_false]

theorem Framed.decodeStreamEventInto (h : Framed json frame members payload)
    (protocol : ToolProtocol) (s : Option SourceIdentityState) :
    decodeStreamEventInto json protocol.adapter frame s = .ok (s,
        match protocol with
        | .anthropicMessages => decodeAnthropic members payload
        | .openaiChat => decodeOpenaiChat members payload) := by
  have hp := h.payloadValue
  obtain ⟨rfl, -⟩ := h
  unfold Wire.decodeStreamEventInto
  cases protocol <;>
    simp only [Value.asObject, hp, ToolProtocol.adapter, Option.any_none,
      Bool.false_eq_true, if_false]

theorem Named.dialectName {name : String} (h : Named members payload name) :
    dialectName members payload = name := by
  unfold Wire.dialectName
  rcases h with hev | ⟨hev, ht⟩
  · rw [hev]
    rfl
  · rw [hev, ht]
    rfl

theorem usageEvents_eq (v : Option Value) (protocol : UsageProtocol) :
    usageEvents v protocol = (usageReport v protocol).map ProtocolEvent.canonical := by
  unfold usageEvents usageReport
  cases usageFrom v protocol <;> rfl

theorem AnthropicFrame.decodeAnthropic {events : List ProtocolEvent}
    (h : AnthropicFrame json frame events) : ∃ members payload, Framed json frame members payload ∧
      decodeAnthropic members payload = events.map ProtocolEvent.canonical := by
  cases h with
  | messageStart fra nam started =>
    refine ⟨_, _, fra, ?_⟩
    simp only [Wire.decodeAnthropic, nam.dialectName, anthropicMessageStart, started,
      Option.bind_some, usageEvents_eq, map_cons]
    rfl
  | ping fra nam | messageStop fra nam =>
    refine ⟨_, _, fra, ?_⟩
    simp only [Wire.decodeAnthropic, nam.dialectName]
    rfl
  | textStart fra nam ind opens kind =>
    refine ⟨_, _, fra, ?_⟩
    simp only [Wire.decodeAnthropic, nam.dialectName, anthropicBlockStart, opens, ind, kind]
    rfl
  | callStart fra nam ind opens kind hasId hasName =>
    refine ⟨_, _, fra, ?_⟩
    simp only [Wire.decodeAnthropic, nam.dialectName, anthropicBlockStart, opens, ind, kind,
      hasId, hasName]
    rfl
  | text fra nam ind cha kind hasText =>
    refine ⟨_, _, fra, ?_⟩
    simp only [Wire.decodeAnthropic, nam.dialectName, anthropicBlockDelta, cha, kind, ind, hasText]
    rfl
  | fragment fra nam ind cha kind nt nth hasJson =>
    refine ⟨_, _, fra, ?_⟩
    simp only [Wire.decodeAnthropic, nam.dialectName, anthropicBlockDelta, cha, kind,
      ind, nt, nth, hasJson]
    rfl
  | textStop fra nam ind | callStop fra nam ind =>
    refine ⟨_, _, fra, ?_⟩
    simp only [Wire.decodeAnthropic, nam.dialectName, ind]
    rfl
  | @messageDelta _ _ del fra nam cha =>
    refine ⟨_, _, fra, ?_⟩
    simp only [Wire.decodeAnthropic, nam.dialectName, anthropicMessageDelta, cha,
      Option.bind_some, usageEvents_eq, map_append]
    cases string (del.get "stop_reason") <;> rfl

theorem ChatCallDelta.chatToolCall {c : Map} {events : List ProtocolEvent}
    (h : ChatCallDelta c events) : chatToolCall c = events.map ProtocolEvent.canonical := by
  unfold Wire.chatToolCall
  cases h with
  | @first fnc i id name ind hasId inv hasName =>
    simp only [ind, hasId, inv, Option.bind_some, hasName]
    cases string (fnc.get "arguments") <;> rfl
  | @more fnc i ind noId inv nn =>
    simp only [ind, noId, inv, Option.bind_some, nn]
    cases string (fnc.get "arguments") <;> rfl

theorem flatMap_chatToolCall {en : List Map} {c : List (List ProtocolEvent)}
    (h : List.Forall₂ ChatCallDelta en c) :
    en.flatMap chatToolCall = c.flatten.map ProtocolEvent.canonical := by
  induction h with
  | nil => rfl
  | cons hc _ ih =>
    rw [flatMap_cons, flatten_cons, map_append, ih, hc.chatToolCall]

theorem chatText_content (v : Option Value) :
    chatText .textDelta v = (chatContent v).map ProtocolEvent.canonical := by
  unfold chatText chatContent
  cases string v with
  | none => rfl
  | some text =>
    by_cases he : text.isEmpty = true
    · simp only [he, if_true, Option.filter_some]
      rfl
    simp only [he, Option.filter_some]
    rfl

theorem Framed.not_done (h : Framed json frame members payload) :
    (string (members.get "data")).any isOpenaiDone = false := by
  rcases h.data with hd | ⟨text, hd, hn, _⟩
  · rw [hd]
    rfl
  · rwa [hd]

theorem not_error (re : string (members.get "event") ≠ some "error")
    (n : payload.get "error" = none) :
    (string (members.get "event") == some "error" || payload.containsKey "error") = false := by
  have hev : (string (members.get "event") == some "error") = false := by
    simpa using re
  unfold Map.containsKey
  rw [hev, n]
  rfl

/-- **Each protocol event becomes one canonical event.** -/
theorem Carries.decodeStreamEventInto {protocol : ToolProtocol}
    {events : List ProtocolEvent} (h : Carries json protocol frame events)
    (s : Option SourceIdentityState) : decodeStreamEventInto json protocol.adapter frame s =
      .ok (s, events.map ProtocolEvent.canonical) := by
  cases protocol with
  | anthropicMessages =>
    obtain ⟨members, payload, hf, hd⟩ := AnthropicFrame.decodeAnthropic h
    rw [hf.decodeStreamEventInto, hd]
  | openaiChat =>
    cases h with
    | @chunk members payload del entries cal chc fra reg ne cho cha
        nr lis dlt =>
        have hn : ∀ et,
            chatText et (del.get "reasoning_content") = [] := by
          intro et
          unfold chatText
          rw [nr]
        have hc : (entries.map Value.object).filterMap Value.asObject = entries := by
          rw [filterMap_map]
          exact filterMap_some
        rw [fra.decodeStreamEventInto]
        simp only [decodeOpenaiChat, fra.not_done, not_error reg ne, cho, Value.asObject, cha,
          chatDelta, chatText_content, hn, lis, hc, flatMap_chatToolCall dlt, append_nil,
          map_append, Bool.false_eq_true, if_false]
        cases string (chc.get "finish_reason") <;> rfl
    | @usage members payload fra reg ne cho =>
      rw [fra.decodeStreamEventInto]
      simp only [decodeOpenaiChat, fra.not_done, not_error reg ne, cho,
        usageEvents_eq, Bool.false_eq_true, if_false]
    | @done text members object data done =>
      subst object
      simp only [Wire.decodeStreamEventInto, Value.asObject, payloadValue, data,
        Option.getD_some, done, if_true, ToolProtocol.adapter]
      rfl

/-! ## Streams -/

/-- Decode frames one after another. -/
def decodeFrames (json : SerdeJson) (adapter : StreamAdapterKind) :
    Option SourceIdentityState → List Value → Except CodecError (List CanonicalEvent)
  | _, [] => .ok []
  | state, frame :: frames =>
    match decodeStreamEventInto json adapter frame state with
    | .error e => .error e
    | .ok (state, events) =>
      match decodeFrames json adapter state frames with
      | .error e => .error e
      | .ok more => .ok (events ++ more)

/-- **A well-formed stream**: its frames with what they carry. -/
structure ToolStream (json : SerdeJson) where
  protocol : ToolProtocol
  frames : List (Value × List ProtocolEvent)
  carried : ∀ frame ∈ frames, Carries json protocol frame.1 frame.2
  wellFormed : (StreamReader.new.readAll protocol (frames.flatMap Prod.snd)).any
    (fun r => r.phase ≠ .body) = true

namespace ToolStream

variable {json : SerdeJson}

def events (s : ToolStream json) : List ProtocolEvent := s.frames.flatMap Prod.snd

theorem exists_reader (s : ToolStream json) :
    ∃ r, StreamReader.new.readAll s.protocol s.events = some r ∧ r.phase ≠ .body := by
  have h := s.wellFormed
  cases hr : StreamReader.new.readAll s.protocol (s.frames.flatMap Prod.snd) with
  | none =>
    rw [hr] at h
    cases h
  | some r =>
    rw [hr] at h
    exact ⟨r, hr, of_decide_eq_true h⟩

/-- The canonical events of a stream. -/
def decoded (s : ToolStream json) (state : Option SourceIdentityState) :
    Except CodecError (List CanonicalEvent) :=
  decodeFrames json s.protocol.adapter state (s.frames.map Prod.fst)

theorem decodeFrames_of_carries {protocol : ToolProtocol} :
    ∀ {frames : List (Value × List ProtocolEvent)} (state : Option SourceIdentityState),
      (∀ frame ∈ frames, Carries json protocol frame.1 frame.2) →
      decodeFrames json protocol.adapter state (frames.map Prod.fst) =
        .ok ((frames.flatMap Prod.snd).map ProtocolEvent.canonical) := by
  intro frames
  induction frames with
  | nil => intro state _; rfl
  | cons frame frames ih =>
    intro state h
    have hf := (h frame mem_cons_self).decodeStreamEventInto state
    have hr := ih state fun other ho => h other (mem_cons_of_mem _ ho)
    simp [decodeFrames, hf, hr]

theorem decoded_eq (s : ToolStream json) (st : Option SourceIdentityState) :
    s.decoded st = .ok (s.events.map ProtocolEvent.canonical) :=
  decodeFrames_of_carries st s.carried

end ToolStream

end EggPool.Wire
