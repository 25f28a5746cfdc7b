import EggPool.Wire.ResponsesEncoder

/-!
# Canonical events as a chat stream

The encoder for chat clients keeps nothing but whether it has sent the end. Every event
becomes one chunk, and a tool call is spread over chunks that a client puts together by the
`index` of their entries in `tool_calls`. The encoder takes that index from the event, and
zero where the event has none.

A client is a table of entries by index. It recovers the calls of a stream exactly if the
indices keep them apart (`client_recovers_iff`). Sources without an index, which the
Responses and the `generateContent` dialects are, put all their calls into entry zero.
-/

namespace EggPool.Wire

open EggPool.Lib List

/-! ## The encoder -/

/-- One server-sent event of a chat stream. -/
inductive ChatOutput where
  | done
  | chunk (payload : Map)

/-- The bytes of a frame. -/
def ChatOutput.sse (json : SerdeJson) : ChatOutput → List UInt8
  | done => "data: [DONE]\n\n".toUTF8.toList
  | chunk payload => ("data: " ++ json.toText (.object payload) ++ "\n\n").toUTF8.toList

variable (event : CanonicalEvent)

/-- The `delta` member of a chunk. -/
def chunkDelta : Map :=
  match event.eventType with
  | .textDelta => [("content", .string (event.delta.getD ""))]
  | .reasoningDelta => [("reasoning_content", .string (event.delta.getD ""))]
  | .toolCallStart =>
    [("tool_calls", .array [.object [
      ("index", number (event.index.getD 0)),
      ("id", .string (event.callId.getD "")),
      ("type", .string "function"),
      ("function", .object [
        ("name", .string (event.name.getD "")),
        ("arguments", .string "")])]])]
  | .toolCallArgumentsDelta =>
    [("tool_calls", .array [.object [
      ("index", number (event.index.getD 0)),
      ("function", .object [("arguments", .string (event.delta.getD ""))])]])]
  | _ => []

def chatUsage (usage : CanonicalUsage) : Value :=
  .object [
    ("prompt_tokens", number (usage.inputTokens.getD 0)),
    ("completion_tokens", number (usage.outputTokens.getD 0)),
    ("total_tokens", number (usage.totalTokens.getD 0)),
    ("cache_creation_tokens", number (usage.cacheWriteInputTokens.getD 0)),
    ("cache_read_tokens", number (usage.cacheReadInputTokens.getD 0))]

def chatPayload : Map :=
  let choice : Map := [
    ("index", number (event.index.getD 0)),
    ("delta", .object (chunkDelta event)),
    ("finish_reason", (event.finishReason.map Value.string).getD .null)]
  [("id", .string (event.responseId.getD "")),
    ("object", .string "chat.completion.chunk"),
    ("model", .string (event.model.getD "")),
    ("choices", .array [.object choice])] ++
  match event.eventType, event.usage with
  | .usage, some usage => [("usage", chatUsage usage)]
  | _, _ => []

def encodeChatEvent : ChatOutput :=
  if event.eventType = .responseComplete then .done else .chunk (chatPayload event)

/-- `ClientStreamEncoder::encode_chat`: nothing follows the end, which the flag remembers. -/
def encodeChat (emitted : Bool) (event : CanonicalEvent) : Bool × List ChatOutput :=
  if emitted then (emitted, [])
  else (event.eventType == .responseComplete, [encodeChatEvent event])

/-- The frames of a sequence of events. -/
def encodeChatAll (emitted : Bool) : List CanonicalEvent → List ChatOutput
  | [] => []
  | event :: events =>
    (encodeChat emitted event).2 ++ encodeChatAll (encodeChat emitted event).1 events

/-! ## A client -/

/-- An entry of `tool_calls` as a client reads it. -/
structure ToolCallDelta where
  index : Nat
  (id name : Option String)
  arguments : String
  deriving DecidableEq, Repr

def toolCallDelta (entry : Map) : Option ToolCallDelta :=
  let function := object (entry.get "function")
  (index (entry.get "index")).map fun i =>
    { index := i
      id := string (entry.get "id")
      name := function.bind fun function => string (function.get "name")
      arguments := (function.bind fun function => string (function.get "arguments")).getD "" }

/-- The entries of all choices of a chunk. -/
def toolCallDeltas (payload : Map) : List ToolCallDelta :=
  (((array (payload.get "choices")).getD []).filterMap Value.asObject).flatMap fun choice =>
    let delta := object (choice.get "delta")
    (((delta.bind fun delta => array (delta.get "tool_calls")).getD []).filterMap
      Value.asObject).filterMap toolCallDelta

/-- A call as far as the client has put it together. -/
structure ChatCall where
  index : Nat
  (id name : Option String)
  arguments : String
  deriving DecidableEq, Repr

/-- An entry adds what it has; a later id or name stands. -/
def ChatCall.add (call : ChatCall) (delta : ToolCallDelta) : ChatCall :=
  { call with
    id := delta.id.or call.id
    name := delta.name.or call.name
    arguments := call.arguments ++ delta.arguments }

abbrev ChatCalls := Table ChatCall.index

def ChatCalls.add (calls : ChatCalls) (delta : ToolCallDelta) : ChatCalls :=
  calls.insert (((calls.get? delta.index).getD ⟨delta.index, none, none, ""⟩).add delta)

def ChatCalls.read (calls : ChatCalls) : ChatOutput → ChatCalls
  | .done => calls
  | .chunk payload => (toolCallDeltas payload).foldl ChatCalls.add calls

/-- What a client has at the end of a stream. -/
def reassemble (frames : List ChatOutput) : ChatCalls :=
  frames.foldl ChatCalls.read .empty

/-! ## The calls of a sequence of events -/

/-- A call as its events tell it. -/
structure SourceCall where
  (id name : String)
  index : Option Nat
  arguments : String
  deriving DecidableEq, Repr

/-- An event is about a call by the id it carries, and without one by its index. -/
def SourceCall.about (call : SourceCall) : Bool :=
  match event.callId with
  | some id => call.id == id
  | none => event.index.isSome && call.index == event.index

/-- Change the last call that satisfies `p`. -/
def updateLast (p : SourceCall → Bool) (g : SourceCall → SourceCall) :
    List SourceCall → List SourceCall
  | [] => []
  | call :: calls =>
    if calls.any p then call :: updateLast p g calls
    else if p call then g call :: calls
    else call :: calls

/-- Starts open calls with new ids; fragments and final arguments go to calls that are there. -/
def sourceStep (calls : List SourceCall) (event : CanonicalEvent) : Option (List SourceCall) :=
  match event.eventType with
  | .toolCallStart =>
    match event.callId, event.name with
    | some id, some name =>
      if calls.any (·.id == id) then none else some (calls ++ [⟨id, name, event.index, ""⟩])
    | _, _ => none
  | .toolCallArgumentsDelta =>
    if calls.any (SourceCall.about event) then
      some (updateLast (SourceCall.about event)
        (fun call => { call with arguments := call.arguments ++ event.delta.getD "" }) calls)
    else none
  | .toolCallStop =>
    match event.arguments with
    | none => some calls
    | some final =>
      if calls.any (SourceCall.about event) then
        some (updateLast (SourceCall.about event)
          (fun call => { call with arguments := final }) calls)
      else none
  | _ => some calls

def isToolEvent : Bool :=
  event.eventType == .toolCallStart || event.eventType == .toolCallArgumentsDelta ||
    event.eventType == .toolCallStop

def isOpen : Bool := event.eventType != .responseComplete

/-- The calls of a sequence, if its tool events fit together and come before its end. -/
def sourceCalls (events : List CanonicalEvent) : Option (List SourceCall) :=
  if (events.dropWhile isOpen).any isToolEvent then none
  else (events.takeWhile isOpen).foldlM sourceStep []

/-- The client has one entry per call, with its id, its name and its arguments. -/
def Recovers (client : ChatCalls) (calls : List SourceCall) : Prop :=
  client.size = calls.length ∧
    ∀ call ∈ calls, ∃ entry ∈ client.rows,
      entry.id = some call.id ∧ entry.name = some call.name ∧ entry.arguments = call.arguments

/-! ## What reaches the client -/

/-- The index an event goes under. -/
def chatIndex : Nat := event.index.getD 0

def isStart : Bool := event.eventType == .toolCallStart

def isFragment : Bool := event.eventType == .toolCallArgumentsDelta

/-- The entries of an event's chunk. -/
def eventDeltas : List ToolCallDelta :=
  if isStart event then
    [⟨chatIndex event, some (event.callId.getD ""), some (event.name.getD ""), ""⟩]
  else if isFragment event then [⟨chatIndex event, none, none, event.delta.getD ""⟩]
  else []

theorem toolCallDeltas_chatPayload : toolCallDeltas (chatPayload event) = eventDeltas event := by
  obtain ⟨et, ri, mod, index, del, ci, name, arg, fr, usage,
    err, em⟩ := event
  cases et <;> rfl

variable (events : List CanonicalEvent)

/-- **What a chat client is sent**: a chunk for every event up to the end, and the end. -/
theorem encodeChatAll_eq : encodeChatAll false events =
      (events.takeWhile isOpen).map (fun event => .chunk (chatPayload event)) ++
        if (events.dropWhile isOpen).isEmpty then [] else [.done] := by
  have he : ∀ events, encodeChatAll true events = [] := by
    intro events
    induction events with
    | nil => rfl
    | cons event events ih => exact ih
  induction events with
  | nil => rfl
  | cons event events ih =>
    rw [encodeChatAll, encodeChat, if_neg Bool.false_ne_true]
    by_cases hend : event.eventType = .responseComplete
    · have hc : isOpen event = false := by rw [isOpen, hend]; rfl
      rw [encodeChatEvent, hend, beq_self_eq_true, he,
        takeWhile_cons_of_neg (by rw [hc]; exact Bool.false_ne_true),
        dropWhile_cons_of_neg (by rw [hc]; exact Bool.false_ne_true)]
      rfl
    · have ho : isOpen event = true := by simpa [isOpen] using hend
      rw [encodeChatEvent, if_neg hend, beq_eq_false_iff_ne.2 hend, ih,
        takeWhile_cons_of_pos ho, dropWhile_cons_of_pos ho]
      rfl

variable (i : Nat)

/-- An entry of the client changes with what comes under its index. -/
theorem get?_add (client : ChatCalls) (delta : ToolCallDelta) : (client.add delta).get? i =
      if delta.index = i then some (((client.get? i).getD ⟨i, none, none, ""⟩).add delta)
      else client.get? i := by
  have hkey : (((client.get? delta.index).getD ⟨delta.index, none, none, ""⟩).add delta).index =
      delta.index := by
    cases hold : client.get? delta.index with
    | none => rfl
    | some ent => exact (Table.key_of_get? hold : ent.index = delta.index)
  rw [ChatCalls.add, Table.get?_insert, hkey]
  by_cases hi : delta.index = i
  · rw [if_pos hi, if_pos hi, hi]
  · rw [if_neg hi, if_neg hi]

/-! ### By index -/

/-- Id, name and index of a start. -/
structure CallHead where
  (id name : String)
  index : Option Nat
  deriving DecidableEq, Repr

def startHead : CallHead :=
  ⟨event.callId.getD "", event.name.getD "", event.index⟩

def heads (events : List CanonicalEvent) : List CallHead := (events.filter isStart).map startHead

/-- The last start that goes under an index. -/
def lastAt (i : Nat) (heads : List CallHead) : Option CallHead :=
  (heads.filter (·.index.getD 0 == i)).getLast?

/-- The fragments that go under an index, joined. -/
def textAt (i : Nat) (events : List CanonicalEvent) : String :=
  events.foldl (fun text event =>
    if isFragment event && chatIndex event == i then text ++ event.delta.getD "" else text) ""

def touches (i : Nat) (event : CanonicalEvent) : Bool :=
  (isStart event || isFragment event) && chatIndex event == i

theorem heads_append (ev : CanonicalEvent) : heads (events ++ [ev]) =
      if isStart ev then heads events ++ [startHead ev] else heads events := by
  unfold heads
  rw [filter_append, map_append]
  cases hs : isStart ev with
  | true => rw [filter_cons_of_pos hs]; rfl
  | false =>
    rw [filter_cons_of_neg (by rw [hs]; exact Bool.false_ne_true), if_neg
      Bool.false_ne_true, filter_nil, map_nil, append_nil]

theorem lastAt_append (hs : List CallHead) (h : CallHead) :
    lastAt i (hs ++ [h]) = if h.index.getD 0 = i then some h else lastAt i hs := by
  unfold lastAt
  rw [filter_append]
  by_cases hi : h.index.getD 0 = i
  · rw [if_pos hi, filter_cons_of_pos (by simpa using hi), filter_nil,
      getLast?_append, getLast?_singleton, Option.some_or]
  · rw [if_neg hi, filter_cons_of_neg (by simpa using hi), filter_nil, append_nil]

theorem textAt_append (events : List CanonicalEvent) (ev : CanonicalEvent) :
    textAt i (events ++ [ev]) =
      if isFragment ev && chatIndex ev == i then textAt i events ++ ev.delta.getD ""
      else textAt i events := by
  rw [textAt, foldl_append]
  rfl

/-- What goes under an index. -/
def entryAt (i : Nat) (events : List CanonicalEvent) : ChatCall where
  index := i
  id := (lastAt i (heads events)).map (·.id)
  name := (lastAt i (heads events)).map (·.name)
  arguments := textAt i events

/-- One more event adds its entries to the index it goes under. -/
theorem entryAt_append (events : List CanonicalEvent) (ev : CanonicalEvent) :
    entryAt i (events ++ [ev]) =
      if touches i ev then (eventDeltas ev).foldl ChatCall.add (entryAt i events)
      else entryAt i events := by
  unfold entryAt touches eventDeltas
  rw [heads_append, textAt_append]
  cases hs : isStart ev with
  | true =>
    have hf : isFragment ev = false := by
      rw [isFragment, eq_of_beq hs]
      rfl
    rw [hf, Bool.or_false, Bool.true_and, Bool.false_and, if_neg Bool.false_ne_true,
      if_pos rfl, lastAt_append, show (startHead ev).index.getD 0 = chatIndex ev from rfl]
    by_cases hi : chatIndex ev = i
    · rw [if_pos hi, if_pos (beq_iff_eq.2 hi)]
      simp [ChatCall.add, startHead]
    · rw [if_neg hi, if_neg (by simpa using hi)]
  | false =>
    rw [if_neg Bool.false_ne_true, Bool.false_or]
    cases hf : isFragment ev with
    | false => rw [Bool.false_and, if_neg Bool.false_ne_true, if_neg Bool.false_ne_true]
    | true =>
      rw [Bool.true_and]
      by_cases hi : chatIndex ev = i
      · rw [if_pos (beq_iff_eq.2 hi), if_pos (beq_iff_eq.2 hi)]
        rfl
      · rw [if_neg (by simpa using hi), if_neg (by simpa using hi)]

theorem entryAt_untouched {i : Nat} (events : List CanonicalEvent) :
    events.any (touches i) = false → entryAt i events = ⟨i, none, none, ""⟩ := by
  induction events using reverseRecOn with
  | nil =>
    intro _
    rfl
  | append_singleton events eve ih =>
    intro h
    rw [any_append, Bool.or_eq_false_iff, any_cons, any_nil, Bool.or_false] at h
    rw [entryAt_append, h.2, if_neg Bool.false_ne_true, ih h.1]

/-- The entries of a client are what goes under their indices. -/
def Shows (client : ChatCalls) (events : List CanonicalEvent) : Prop :=
  ∀ i, client.get? i = if events.any (touches i) then some (entryAt i events) else none

/-- One more event shows where it goes. -/
theorem Shows.add {client : ChatCalls} {events : List CanonicalEvent} (h : Shows client events)
    (ev : CanonicalEvent) : Shows ((eventDeltas ev).foldl ChatCalls.add client) (events ++ [ev]) := by
  intro i
  have he : (client.get? i).getD ⟨i, none, none, ""⟩ = entryAt i events := by
    rw [h i]
    cases ht : events.any (touches i) with
    | true => rfl
    | false => exact (entryAt_untouched events ht).symm
  -- the entries of an event all go under its index
  have ha : ((eventDeltas ev).foldl ChatCalls.add client).get? i = if touches i ev then
      some ((eventDeltas ev).foldl ChatCall.add (entryAt i events)) else client.get? i := by
    rw [← he]
    unfold touches eventDeltas
    by_cases hi : chatIndex ev = i <;> cases isStart ev <;> cases isFragment ev <;>
      simp [get?_add, hi]
  rw [ha, h i, entryAt_append, any_append, any_cons, any_nil, Bool.or_false]
  cases touches i ev with
  | true => rw [Bool.or_true]; rfl
  | false => rw [Bool.or_false]; rfl

/-- **A client sees the entries of the events up to the end.** -/
theorem shows_reassemble (events : List CanonicalEvent) :
    Shows (reassemble (encodeChatAll false events)) (events.takeWhile isOpen) := by
  have hs : ∀ sent : List CanonicalEvent, Shows ((sent.map fun ev =>
      ChatOutput.chunk (chatPayload ev)).foldl ChatCalls.read .empty) sent := by
    intro sent
    induction sent using reverseRecOn with
    | nil => exact fun _ => rfl
    | append_singleton sent ev ih =>
      rw [map_append, foldl_append, map_singleton, foldl_cons, foldl_nil, ChatCalls.read,
        toolCallDeltas_chatPayload]
      exact ih.add ev
  rw [encodeChatAll_eq, reassemble, foldl_append]
  split <;> exact hs _

/-! ## The calls behind the events -/

def SourceCall.head (call : SourceCall) : CallHead := ⟨call.id, call.name, call.index⟩

/-- The index a call's start goes under. -/
def SourceCall.chatIndex (call : SourceCall) : Nat := call.index.getD 0

theorem map_updateLast {β : Type} {f : SourceCall → β} {p : SourceCall → Bool}
    {g : SourceCall → SourceCall} (hg : ∀ call, f (g call) = f call) (calls : List SourceCall) :
    (updateLast p g calls).map f = calls.map f := by
  induction calls with
  | nil => rfl
  | cons call calls ih =>
    rw [updateLast]
    split
    · rw [map_cons, map_cons, ih]
    split
    · rw [map_cons, map_cons, hg]
    · rfl

/-- An event opens a call with a new id, or leaves the heads of all calls as they are. -/
theorem sourceStep_heads {calls c' : List SourceCall} {ev : CanonicalEvent}
    (h : sourceStep calls ev = some c') :
    (isStart ev = true ∧ c'.map SourceCall.head = calls.map SourceCall.head ++
        [startHead ev] ∧ ∀ call ∈ calls, call.id ≠ ev.callId.getD "") ∨
      (isStart ev = false ∧ c'.map SourceCall.head = calls.map SourceCall.head) := by
  revert h
  fun_cases sourceStep calls ev with
  | case2 hs id name hn hid hnew =>
    rintro ⟨⟩
    refine .inl ⟨by rw [isStart, hs]; rfl, ?_, ?_⟩
    · rw [map_append, startHead, hid, hn]
      rfl
    intro call hc heq
    rw [hid] at heq
    exact hnew (any_eq_true.2 ⟨call, hc, beq_iff_eq.2 heq⟩)
  | case4 hs | case7 hs =>
    rintro ⟨⟩
    exact .inr ⟨by rw [isStart, hs]; rfl, map_updateLast (by exact fun _ => rfl) calls⟩
  | case6 hs =>
    rintro ⟨⟩
    exact .inr ⟨by rw [isStart, hs]; rfl, rfl⟩
  | case9 hs =>
    rintro ⟨⟩
    exact .inr ⟨by simpa [isStart] using hs, rfl⟩
  | _ => rintro ⟨⟩

/-- **The calls of a sequence are its starts**, with ids of their own. -/
theorem heads_of_sourceCalls : ∀ {calls : List SourceCall},
    events.foldlM sourceStep [] = some calls →
      calls.map SourceCall.head = heads events ∧ (calls.map SourceCall.id).Nodup := by
  induction events using reverseRecOn with
  | nil =>
    intro calls h
    cases h
    exact ⟨rfl, nodup_nil⟩
  | append_singleton events eve ih =>
    intro calls h
    rw [foldlM_append] at h
    obtain ⟨cal₀, hb, hl⟩ := Option.bind_eq_some_iff.1 h
    obtain ⟨hh, hn⟩ := ih hb
    have ht : sourceStep cal₀ eve = some calls := by
      simpa using hl
    have hi : ∀ l : List SourceCall, l.map SourceCall.id =
        (l.map SourceCall.head).map CallHead.id := fun l => by rw [map_map]; rfl
    rw [heads_append]
    rcases sourceStep_heads ht with ⟨hs, hm, hnew⟩ | ⟨hs, hm⟩
    · rw [hs, hm, hh]
      refine ⟨rfl, ?_⟩
      rw [hi, hm, map_append, ← hi]
      refine nodup_append.2 ⟨hn, nodup_singleton _, ?_⟩
      intro id hid id' hid' heq
      obtain ⟨call, hc, rfl⟩ := mem_map.1 hid
      rw [mem_singleton.1 hid'] at heq
      exact hnew call hc heq
    · rw [hs, hm, hh]
      refine ⟨rfl, ?_⟩
      rwa [hi, hm, ← hi]

/--
The indices keep the calls apart: different calls go under different indices, every
fragment goes under the index of a call, and what goes under a call's index spells its
arguments.
-/
structure KeptApart (events : List CanonicalEvent) (calls : List SourceCall) : Prop where
  distinct : (calls.map SourceCall.chatIndex).Nodup
  known : ∀ event ∈ events, isFragment event = true →
    chatIndex event ∈ calls.map SourceCall.chatIndex
  spelled : ∀ call ∈ calls, textAt call.chatIndex events = call.arguments

section Recovery

variable {events : List CanonicalEvent} {calls : List SourceCall} {client : ChatCalls}

/-- The indices of a client's entries are those something goes under. -/
theorem mem_indices_iff (hc : Shows client events) (i : Nat) :
    i ∈ client.rows.map ChatCall.index ↔ events.any (touches i) = true := by
  have hget := hc i
  constructor
  · intro hi
    obtain ⟨ent, he, rfl⟩ := mem_map.1 hi
    rw [Table.get?_self he] at hget
    by_contra hn
    rw [if_neg hn] at hget
    nomatch hget
  · intro ht
    rw [if_pos ht] at hget
    exact mem_map.2 ⟨_, Table.mem_of_get? hget, rfl⟩

variable (hh : calls.map SourceCall.head = heads events)

include hh

/-- The last start under an index belongs to a call that goes under it. -/
theorem exists_of_lastAt {i : Nat} {head : CallHead} (h : lastAt i (heads events) = some head) :
    ∃ call ∈ calls, call.head = head ∧ call.chatIndex = i := by
  have hmem := mem_of_getLast? h
  obtain ⟨hmem, hi⟩ := mem_filter.1 hmem
  rw [← hh] at hmem
  obtain ⟨call, hc, rfl⟩ := mem_map.1 hmem
  exact ⟨call, hc, rfl, eq_of_beq hi⟩

/-- A call alone under its index is the last one there. -/
theorem lastAt_of_distinct (hd : (calls.map SourceCall.chatIndex).Nodup) {call : SourceCall}
    (hc : call ∈ calls) :
    lastAt call.chatIndex (heads events) = some call.head := by
  have hmem : call.head ∈ (heads events).filter (·.index.getD 0 == call.chatIndex) := by
    rw [← hh]
    exact mem_filter.2 ⟨mem_map_of_mem hc, beq_self_eq_true _⟩
  obtain ⟨head, hl⟩ := Option.isSome_iff_exists.1
    (getLast?_isSome.2 (ne_nil_of_mem hmem))
  obtain ⟨call', hc', rfl, hi⟩ := exists_of_lastAt hh hl
  rw [lastAt, hl, inj_on_of_nodup_map hd hc' hc hi]

theorem map_chatIndex :
    calls.map SourceCall.chatIndex = (events.filter isStart).map chatIndex := by
  have hc : calls.map SourceCall.chatIndex =
      (calls.map SourceCall.head).map fun head => head.index.getD 0 := by
    rw [map_map]
    rfl
  rw [hc, hh, heads, map_map]
  rfl

/-- Something goes under an index if a call or a fragment does. -/
theorem touched_iff (i : Nat) :
    events.any (touches i) = true ↔
      i ∈ calls.map SourceCall.chatIndex ∨ ∃ ev ∈ events, isFragment ev = true ∧
        chatIndex ev = i := by
  rw [map_chatIndex hh, any_eq_true]
  simp only [touches, Bool.and_eq_true, Bool.or_eq_true, beq_iff_eq, mem_map, mem_filter]
  constructor
  · rintro ⟨ev, hev, hs | hf, hi⟩
    · exact .inl ⟨ev, ⟨hev, hs⟩, hi⟩
    · exact .inr ⟨ev, hev, hf, hi⟩
  · rintro (⟨ev, ⟨hev, hs⟩, hi⟩ | ⟨ev, hev, hf, hi⟩)
    · exact ⟨ev, hev, .inl hs, hi⟩
    · exact ⟨ev, hev, .inr hf, hi⟩

/-- Indices that keep the calls apart let a client recover them. -/
theorem KeptApart.recovers (h : KeptApart events calls) (hl : Shows client events) :
    Recovers client calls := by
  have hmem : ∀ i, i ∈ client.rows.map ChatCall.index ↔ i ∈ calls.map SourceCall.chatIndex := by
    intro i
    rw [mem_indices_iff hl, touched_iff hh]
    constructor
    · rintro (hc | ⟨eve, hev, hf, rfl⟩)
      · exact hc
      · exact h.known eve hev hf
    · exact .inl
  constructor
  · have hp := (perm_ext_iff_of_nodup client.keys_nodup h.distinct).2 hmem
    simpa [Table.size] using hp.length_eq
  intro call hc
  have ht : events.any (touches call.chatIndex) = true :=
    (touched_iff hh _).2 (.inl (mem_map_of_mem hc))
  have hget := hl call.chatIndex
  rw [if_pos ht] at hget
  refine ⟨_, Table.mem_of_get? hget, ?_, ?_, h.spelled call hc⟩
  all_goals
    rw [entryAt, lastAt_of_distinct hh h.distinct hc]
    rfl

/-- A client that recovers all calls got them under different indices. -/
theorem keptApart_of_recovers (h : Recovers client calls) (hd : (calls.map SourceCall.id).Nodup)
    (ht : Shows client events) : KeptApart events calls := by
  -- the entry of a call stands under the call's index, with the call as the last start there
  have he : ∀ call ∈ calls, lastAt call.chatIndex (heads events) = some call.head ∧
      textAt call.chatIndex events = call.arguments := by
    intro call hc
    obtain ⟨ent, hrow, hid, -, ha⟩ := h.2 call hc
    have hget := ht ent.index
    rw [Table.get?_self hrow] at hget
    split at hget
    · have he : ent = entryAt ent.index events := Option.some.inj hget
      rw [he, entryAt, Option.map_eq_some_iff] at hid
      obtain ⟨head, hl, heq⟩ := hid
      obtain ⟨call', hc', rfl, hn⟩ := exists_of_lastAt hh hl
      have hm : call' = call := inj_on_of_nodup_map hd hc' hc heq
      rw [hm] at hl hn
      rw [hn]
      refine ⟨hl, ?_⟩
      rw [← ha, he]
      rfl
    · nomatch hget
  have hs : (calls.map SourceCall.chatIndex).Nodup := by
    refine List.Nodup.map_on ?_ (List.Nodup.of_map _ hd)
    intro call hc call' hc' hn
    have hl := (he call hc).1
    rw [hn, (he call' hc').1] at hl
    exact inj_on_of_nodup_map hd hc hc' (congrArg CallHead.id (Option.some.inj hl).symm)
  refine ⟨hs, ?_, fun call hc => (he call hc).2⟩
  -- there are as many entries as calls, so every entry stands under the index of a call
  have hsub : calls.map SourceCall.chatIndex ⊆ client.rows.map ChatCall.index := by
    intro i hi
    exact (mem_indices_iff ht i).2 ((touched_iff hh i).2 (.inl hi))
  have hp : (calls.map SourceCall.chatIndex).Perm (client.rows.map ChatCall.index) := by
    refine (subperm_of_subset hs hsub).perm_of_length_le ?_
    rw [length_map, length_map]
    exact Nat.le_of_eq h.1
  intro eve hev hf
  refine hp.mem_iff.2 ((mem_indices_iff ht _).2 ?_)
  exact (touched_iff hh _).2 (.inr ⟨eve, hev, hf, rfl⟩)

end Recovery

/--
**When a chat client recovers the calls of a stream**: exactly if the indices keep them
apart, where an event without an index counts as one with index zero.
-/
theorem client_recovers_iff (events : List CanonicalEvent) (calls : List SourceCall)
    (h : sourceCalls events = some calls) :
    Recovers (reassemble (encodeChatAll false events)) calls ↔
      KeptApart (events.takeWhile isOpen) calls := by
  unfold sourceCalls at h
  split at h
  · nomatch h
  obtain ⟨hheads, hids⟩ := heads_of_sourceCalls _ h
  have hclient := shows_reassemble events
  exact ⟨fun hrecovers => keptApart_of_recovers hheads hrecovers hids hclient,
    fun happart => happart.recovers hheads hclient⟩

/-- A stream of two calls that come with indices of their own, one fragment after the other. -/
def indexedCalls : List CanonicalEvent := [
  { canonicalEvent .toolCallStart with callId := some "a", name := some "f", index := some 0 },
  { canonicalEvent .toolCallStart with callId := some "b", name := some "g", index := some 1 },
  { canonicalEvent .toolCallArgumentsDelta with index := some 1, delta := some "2" },
  { canonicalEvent .toolCallArgumentsDelta with index := some 0, delta := some "1" },
  canonicalEvent .responseComplete]

theorem client_recovers_indexed : Recovers (reassemble (encodeChatAll false indexedCalls))
      [⟨"a", "f", some 0, "1"⟩, ⟨"b", "g", some 1, "2"⟩] := by
  refine (client_recovers_iff indexedCalls _ (by decide)).2 ⟨by decide, by decide, by decide⟩

/-- The events of named payloads of the Responses dialect, read one after the other. -/
def responsesEvents : List (String × Map) → Option SourceIdentityState → List CanonicalEvent
  | [], _ => []
  | (name, payload) :: payloads, state =>
    (decodeOpenaiResponses [("event", .string name)] payload state).2 ++
      responsesEvents payloads (decodeOpenaiResponses [("event", .string name)] payload state).1

/-- Two calls of a Responses stream, whose fragments name the item they belong to. -/
def unindexedCalls : List CanonicalEvent :=
  let added (id name : String) : String × Map := ("response.output_item.added",
    [("item", .object [("type", .string "function_call"), ("id", .string id),
      ("call_id", .string id), ("name", .string name)])])
  let fragment (id delta : String) : String × Map := ("response.function_call_arguments.delta",
    [("item_id", .string id), ("delta", .string delta)])
  responsesEvents [added "a" "f", added "b" "g", fragment "b" "2", fragment "a" "1"] (some .empty)

/-- **Calls without an index are one call to the client.** -/
theorem client_merges_unindexed :
    sourceCalls unindexedCalls = some [⟨"a", "f", none, "1"⟩, ⟨"b", "g", none, "2"⟩] ∧
      (reassemble (encodeChatAll false unindexedCalls)).rows = [⟨0, some "b", some "g", "21"⟩] ∧
      ¬ Recovers (reassemble (encodeChatAll false unindexedCalls))
        [⟨"a", "f", none, "1"⟩, ⟨"b", "g", none, "2"⟩] := by
  have hrows : (reassemble (encodeChatAll false unindexedCalls)).rows =
      [⟨0, some "b", some "g", "21"⟩] := by decide +kernel
  refine ⟨by decide +kernel, hrows, fun h => ?_⟩
  have hsize := h.1
  nomatch hsize

end EggPool.Wire
