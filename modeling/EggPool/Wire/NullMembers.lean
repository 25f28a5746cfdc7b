import EggPool.Wire.Response

/-!
# Null members of a chat body

A member whose value is `null` should read like a member that is not there. A deletion takes
any set of null members out of the top-level object of a chat response or of a stream chunk,
of its choices, and of their messages and deltas; what it may change is what two readers make
of one member, given that the second may find nothing where the first finds `null`.

Most readers see no difference. Here are those that do not, and the stream decoder, which
takes every chunk with a member `error` for an error; `NullResponses` has the finite decoder.
-/

namespace EggPool.Wire.Finite

open EggPool.Lib CanonicalEventType List

/-! ## Deletions -/

/-- An object without its null members among the named ones. -/
def dropNulls (names : String → Bool) (members : Map) : Map :=
  members.filter fun member => !(names member.1 && (members.get member.1).any Value.isNull)

/-- An object with one member changed in its place. -/
def mapMember (key : String) (f : Value → Value) (members : Map) : Map :=
  List.map (fun member => (member.1, if member.1 == key then f member.2 else member.2)) members

def mapObject (f : Map → Map) : Value → Value
  | .object members => .object (f members)
  | value => value

/-- The names of the members to delete if they are null, object by object. -/
structure Deletion where
  top : String → Bool
  (choice message delta : Nat → String → Bool)

namespace Deletion

/-- Everything that can be deleted. -/
def all : Deletion := ⟨fun _ => true, fun _ _ => true, fun _ _ => true, fun _ _ => true⟩

def inChoice (d : Deletion) (i : Nat) (choice : Map) : Map :=
  dropNulls (d.choice i) (mapMember "message" (mapObject (dropNulls (d.message i)))
    (mapMember "delta" (mapObject (dropNulls (d.delta i))) choice))

def inChoices (d : Deletion) : Value → Value
  | .array choices => .array (choices.mapIdx fun i => mapObject (d.inChoice i))
  | value => value

/-- What is left of a response or a chunk. -/
def inMembers (d : Deletion) (members : Map) : Map :=
  dropNulls d.top (mapMember "choices" d.inChoices members)

def inPayload (d : Deletion) : Value → Value := mapObject d.inMembers

end Deletion

theorem get_filter_key (p : String → Bool) (members : Map) (key : String) :
    Map.get (members.filter fun member => p member.1) key =
      if p key then members.get key else none := by
  induction members with
  | nil => simp
  | cons member members ih =>
    obtain ⟨name, val⟩ := member
    rw [filter_cons]
    by_cases hkey : key = name
    · subst hkey
      cases hp : p key with
      | true => simp
      | false => simpa [hp] using ih
    · cases p name with
      | true | false => simpa [hkey] using ih

@[simp]
theorem get_dropNulls (n : String → Bool) (members : Map) (key : String) :
    (dropNulls n members).get key =
      if n key then (members.get key).filter (fun value => !value.isNull) else members.get key := by
  unfold dropNulls
  rw [get_filter_key fun name => !(n name && (members.get name).any Value.isNull)]
  cases n key with
  | false => rfl
  | true => cases members.get key with
    | none => rfl
    | some value => cases hn : value.isNull <;> simp [Option.filter]

@[simp]
theorem get_mapMember (key : String) (f : Value → Value) (members : Map) (name : String) :
    (mapMember key f members).get name =
      if name = key then (members.get name).map f else members.get name := by
  induction members with
  | nil => simp [mapMember]
  | cons mem members ih =>
    obtain ⟨first, val⟩ := mem
    unfold mapMember at ih ⊢
    rw [map_cons, Map.get_cons, Map.get_cons, ih]
    by_cases hn : name = first
    · subst hn
      simp
      split <;> rfl
    · simp only [if_neg hn]

/-! ## What a reader may lose -/

/-- What a second reader finds of a member, when the first finds `a`. -/
inductive Lost : Option Value → Option Value → Prop where
  | same (a : Option Value) : Lost a a
  | null : Lost (some .null) none

namespace Lost

variable {a b : Option Value} {members left : Map}

theorem get_dropNulls (n : String → Bool) (members : Map) (key : String) :
    Lost (members.get key) ((dropNulls n members).get key) := by
  rw [Finite.get_dropNulls]
  split
  · cases members.get key with
    | none => exact .same _
    | some val => cases val <;> first | exact .null | exact .same _
  · exact .same _

section

variable (h : Lost a b)

include h

theorem string : string b = string a := by cases h <;> rfl

theorem object : object b = object a := by cases h <;> rfl

theorem array : array b = array a := by cases h <;> rfl

theorem decodeUsage (r : Map → CanonicalUsage) :
    decodeUsage r b = decodeUsage r a := by cases h <;> rfl

theorem usageFrom (protocol : UsageProtocol) :
    usageFrom b protocol = usageFrom a protocol := by cases h <;> rfl

theorem decodeOpenaiContent : decodeOpenaiContent b = decodeOpenaiContent a := by
  cases h <;> rfl

end

theorem optionalString {key : String} (h : Lost (members.get key) (left.get key)) :
    optionalString left key = optionalString members key := by
  unfold Finite.optionalString
  revert h
  generalize members.get key = x
  generalize left.get key = y
  intro h
  cases h <;> rfl

end Lost

namespace Deletion

variable (d : Deletion) (members choice : Map)

theorem get_inMembers {key : String} (h : key ≠ "choices") :
    Lost (members.get key) ((d.inMembers members).get key) := by
  have hl := Lost.get_dropNulls d.top (mapMember "choices" d.inChoices members) key
  rwa [get_mapMember, if_neg h] at hl

/-- The choices keep their number and their places. -/
theorem array_choices : array ((d.inMembers members).get "choices") =
    (array (members.get "choices")).map (List.mapIdx fun i => mapObject (d.inChoice i)) := by
  rw [inMembers, (Lost.get_dropNulls _ _ _).array, get_mapMember]
  cases members.get "choices" with
  | none => rfl
  | some val => cases val <;> rfl

theorem get_inChoice (i : Nat) {key : String} (hm : key ≠ "message")
    (hd : key ≠ "delta") : Lost (choice.get key) ((d.inChoice i choice).get key) := by
  have hl := Lost.get_dropNulls (d.choice i)
    (mapMember "message" (mapObject (dropNulls (d.message i)))
      (mapMember "delta" (mapObject (dropNulls (d.delta i))) choice)) key
  rwa [get_mapMember, if_neg hm, get_mapMember, if_neg hd] at hl

theorem object_map (f : Map → Map) (a : Option Value) :
    object (a.map (mapObject f)) = (object a).map f := by
  cases a with
  | none => rfl
  | some val => cases val <;> rfl

theorem object_message (i : Nat) : object ((d.inChoice i choice).get "message") =
    (object (choice.get "message")).map (dropNulls (d.message i)) := by
  rw [inChoice, (Lost.get_dropNulls _ _ _).object, get_mapMember, if_pos rfl, get_mapMember,
    if_neg (by decide), object_map]

theorem object_delta (i : Nat) : object ((d.inChoice i choice).get "delta") =
    (object (choice.get "delta")).map (dropNulls (d.delta i)) := by
  rw [inChoice, (Lost.get_dropNulls _ _ _).object, get_mapMember, if_neg (by decide),
    get_mapMember, if_pos rfl, object_map]

end Deletion

/-! ## Stream chunks -/

/-- A frame that carries a payload, as a text or as an object. -/
structure Carries (json : SerdeJson) (frame : Map) (event : Option String) (payload : Map) :
    Prop where
  event : string (frame.get "event") = event
  payload : payloadValue json (.object frame) = .ok (payload, none)

/-- The members that a chat decoder reads of a frame, apart from its data. -/
def eventMembers (event : Option String) : Map :=
  event.toList.map fun name => ("event", .string name)

variable (event : Option String)

theorem string_eventMembers : string ((eventMembers event).get "event") = event := by
  cases event <;> simp [eventMembers, string, Value.asStr]

theorem string_data_eventMembers : string ((eventMembers event).get "data") = none := by
  cases event <;> simp [eventMembers, string]

theorem Carries.not_done {j : SerdeJson} {f p : Map} {event : Option String}
    (h : Carries j f event p) : (string (f.get "data")).any isOpenaiDone = false := by
  have hp := h.payload
  unfold payloadValue at hp
  simp only [Value.asObject] at hp
  cases ht : f.get "data" with
  | none => rfl
  | some data =>
    rw [ht] at hp
    cases data with
    | string text =>
      by_cases hd : isOpenaiDone text = true
      · simp [hd] at hp
      · simpa [string, Value.asStr] using hd
    | _ => rfl

/-- All that matters of a frame is its event name and its payload. -/
theorem Carries.decode {j : SerdeJson} {f payload : Map} {event : Option String}
    (h : Carries j f event payload) (s : Option SourceIdentityState) :
    decodeStreamEventInto j .openaiChatSse (.object f) s =
      .ok (s, decodeOpenaiChat (eventMembers event) payload) := by
  have hs : decodeOpenaiChat f payload = decodeOpenaiChat (eventMembers event) payload := by
    unfold decodeOpenaiChat
    rw [h.not_done, string_data_eventMembers, h.event, string_eventMembers]
    rfl
  simp [decodeStreamEventInto, Value.asObject, h.payload, hs]

theorem chatDelta_dropNulls (n : String → Bool) (delta : Map) :
    chatDelta (dropNulls n delta) = chatDelta delta := by
  unfold chatDelta chatText
  rw [(Lost.get_dropNulls n delta "content").string,
    (Lost.get_dropNulls n delta "reasoning_content").string,
    (Lost.get_dropNulls n delta "tool_calls").array]

theorem errorEvent_inMembers (d : Deletion) (payload : Map) :
    errorEvent (d.inMembers payload) = errorEvent payload := by
  unfold errorEvent boundedString
  rw [(d.get_inMembers payload (show "error" ≠ "choices" by decide)).object]
  cases object (payload.get "error") with
  | some err => rfl
  | none =>
    simp only [Option.getD_none]
    rw [(d.get_inMembers payload (show "type" ≠ "choices" by decide)).string,
      (d.get_inMembers payload (show "message" ≠ "choices" by decide)).string]

/-- The chunk is taken for an error. -/
def isErrorChunk (event : Option String) (payload : Map) : Bool :=
  event == some "error" || payload.containsKey "error"

variable {event : Option String}

theorem decodeOpenaiChat_of_error {p : Map} (h : isErrorChunk event p = true) :
    decodeOpenaiChat (eventMembers event) p = [errorEvent p] := by
  unfold decodeOpenaiChat
  rw [string_data_eventMembers, string_eventMembers]
  exact if_pos h

theorem decodeOpenaiChat_of_plain {p : Map} (h : isErrorChunk event p = false) :
    decodeOpenaiChat (eventMembers event) p = match array (p.get "choices") with
      | none => usageEvents (p.get "usage") .openai
      | some [] => usageEvents (p.get "usage") .openai
      | some (choice :: _) => match choice.asObject with
        | none => []
        | some choice => (match object (choice.get "delta") with
            | some delta => chatDelta delta
            | none => []) ++ (match string (choice.get "finish_reason") with
            | some reason =>
              [{ canonicalEvent .responseComplete with finishReason := some reason }]
            | none => []) := by
  unfold decodeOpenaiChat
  rw [string_data_eventMembers, string_eventMembers]
  exact if_neg (Bool.eq_false_iff.mp h)

theorem eventType_chatDelta {de : Map} {e : CanonicalEvent} (h : e ∈ chatDelta de) :
    e.eventType ≠ .error := by
  have ht : ∀ kind val, kind ≠ error →
      e ∈ chatText kind val → e.eventType ≠ .error := by
    intro kind val hk hmem
    unfold chatText at hmem
    split at hmem
    · split at hmem
      · cases hmem
      · rwa [mem_singleton.mp hmem]
    · cases hmem
  rcases mem_append.mp h with hl | hc
  · rcases mem_append.mp hl with hn | hr
    · exact ht _ _ (by decide) hn
    · exact ht _ _ (by decide) hr
  · obtain ⟨call, -, hcl⟩ := mem_flatMap.mp hc
    rcases mem_append.mp hcl with hs | hd
    · split at hs
      · rw [mem_singleton.mp hs]
        exact (by decide : toolCallStart ≠ .error)
      · cases hs
    · split at hd
      · rw [mem_singleton.mp hd]
        exact (by decide : toolCallArgumentsDelta ≠ .error)
      · cases hd

/-- A chunk that is not an error gives no error event. -/
theorem eventType_of_plain {p : Map} {e : CanonicalEvent} (h : isErrorChunk event p = false)
    (he : e ∈ decodeOpenaiChat (eventMembers event) p) : e.eventType ≠ .error := by
  have hu : e ∈ usageEvents (p.get "usage") .openai → e.eventType ≠ .error := by
    intro hmem
    unfold usageEvents at hmem
    split at hmem
    · rw [mem_singleton.mp hmem]
      exact (by decide : usage ≠ .error)
    · cases hmem
  rw [decodeOpenaiChat_of_plain h] at he
  split at he
  · exact hu he
  · exact hu he
  split at he
  · cases he
  rcases mem_append.mp he with hd | hf
  · split at hd
    · exact eventType_chatDelta hd
    · cases hd
  · split at hf
    · rw [mem_singleton.mp hf]
      exact (by decide : responseComplete ≠ .error)
    · cases hf

theorem decodeOpenaiChat_inMembers (d : Deletion) {event : Option String} {payload : Map}
    (h : isErrorChunk event payload = false)
    (hl : isErrorChunk event (d.inMembers payload) = false) :
    decodeOpenaiChat (eventMembers event) (d.inMembers payload) =
      decodeOpenaiChat (eventMembers event) payload := by
  have hu : usageEvents ((d.inMembers payload).get "usage") .openai =
      usageEvents (payload.get "usage") .openai := by
    unfold usageEvents
    rw [(d.get_inMembers payload (show "usage" ≠ "choices" by decide)).usageFrom]
  rw [decodeOpenaiChat_of_plain h, decodeOpenaiChat_of_plain hl, d.array_choices, hu]
  cases array (payload.get "choices") with
  | none => rfl
  | some cho => cases cho with
    | nil => rfl
    | cons choice cho =>
      rw [Option.map_some, mapIdx_cons]
      cases choice with
      | object choice =>
        simp [mapObject, Value.asObject]
        have hf := d.get_inChoice choice 0 (show "finish_reason" ≠ "message" by decide)
          (by decide)
        rw [d.object_delta, hf.string]
        cases object (Map.get choice "delta") with
        | none => rfl
        | some del => simp [chatDelta_dropNulls]
      | _ => rfl

/-- No deletion of null members changes the events of the chunk. -/
def ChunkKept (event : Option String) (payload : Map) : Prop :=
  ∀ (json : SerdeJson) (frame left : Map) (d : Deletion) (state : Option SourceIdentityState),
    Carries json frame event payload → Carries json left event (d.inMembers payload) →
      decodeStreamEventInto json .openaiChatSse (.object left) state =
        decodeStreamEventInto json .openaiChatSse (.object frame) state

/-- Every payload is carried by some frame. -/
theorem carries_object (j : SerdeJson) (event : Option String) (payload : Map) :
    Carries j (eventMembers event ++ [("data", .object payload)]) event payload := by
  cases event with
  | none | some => exact ⟨rfl, rfl⟩

theorem chunkKept_iff (event : Option String) (payload : Map) :
    ChunkKept event payload ↔ event = some "error" ∨ payload.get "error" ≠ some .null := by
  constructor
  · intro h
    by_contra ht
    obtain ⟨hev, hn⟩ := not_or.mp ht
    rw [not_not] at hn
    -- without its null the chunk is no error any more
    let json : SerdeJson := ⟨fun _ => none, fun _ => ""⟩
    have hk := h json _ _ Deletion.all none (carries_object json event payload)
      (carries_object json event (Deletion.all.inMembers payload))
    rw [(carries_object json event payload).decode, (carries_object json event _).decode] at hk
    have he : isErrorChunk event payload = true := by
      simp [isErrorChunk, Map.containsKey, hn]
    have hp : isErrorChunk event (Deletion.all.inMembers payload) = false := by
      have hg : (Deletion.all.inMembers payload).get "error" = none := by
        simp [Deletion.inMembers, Deletion.all, hn, Value.isNull]
      simp [isErrorChunk, Map.containsKey, hg, hev]
    have hv : decodeOpenaiChat (eventMembers event) (Deletion.all.inMembers payload) =
        [errorEvent payload] :=
      (congrArg Prod.snd (Except.ok.inj hk)).trans (decodeOpenaiChat_of_error he)
    have hmem : errorEvent payload ∈
        decodeOpenaiChat (eventMembers event) (Deletion.all.inMembers payload) := by
      rw [hv]
      exact mem_singleton_self _
    exact eventType_of_plain hp hmem rfl
  · intro h json frame left d sta hf hle
    rw [hf.decode, hle.decode]
    have hs : isErrorChunk event (d.inMembers payload) = isErrorChunk event payload := by
      rcases h with rfl | hn
      · rfl
      have hl := d.get_inMembers payload (show "error" ≠ "choices" by decide)
      unfold isErrorChunk Map.containsKey
      generalize (d.inMembers payload).get "error" = y at hl
      generalize payload.get "error" = x at hl hn
      cases hl with
      | same => rfl
      | null => exact absurd rfl hn
    cases he : isErrorChunk event payload with
    | true =>
      rw [decodeOpenaiChat_of_error he, decodeOpenaiChat_of_error (hs.trans he),
        errorEvent_inMembers]
    | false => rw [decodeOpenaiChat_inMembers d he (hs.trans he)]

end EggPool.Wire.Finite
