import EggPool.Wire.NullMembers

/-!
# Null members of a finite chat response

The finite decoder takes four members as soon as they are there: `error`, and of the message
`refusal`, `reasoning_content` and `tool_calls`. A response can be read exactly if it is
readable with nulls counted as absent and none of them is in such a place, so that deletions
change its reading exactly if nulls are all that is wrong with it.
-/

namespace EggPool.Wire.Finite

open EggPool.Lib Deletion

/-! ## Reading a choice -/

variable (d : Deletion)

theorem onlyChoice_inMembers (members : Map) :
    onlyChoice (d.inMembers members) = (onlyChoice members).map (d.inChoice 0) := by
  unfold onlyChoice requiredArray
  rw [d.array_choices]
  cases array (members.get "choices") with
  | none => rfl
  | some cho =>
    match cho with
    | [] => rfl
    | [choice] => cases choice <;> rfl
    | first :: second :: rest =>
      rw [Option.map_some, List.mapIdx_cons, List.mapIdx_cons]
      rfl

theorem requiredObject_message (c : Map) (f : String) :
    requiredObject (d.inChoice 0 c) "message" f =
      (requiredObject c "message" f).map (dropNulls (d.message 0)) := by
  unfold requiredObject
  rw [d.object_message]
  cases object (c.get "message") <;> rfl

/-- The content of a message has a block of this kind. -/
def mirrors (message : Map) (kind : CanonicalBlockKind) : Bool :=
  match decodeOpenaiContent (message.get "content") with
  | .ok blocks => blocks.any fun block => block.kind == kind
  | .error _ => false

/-- A text, `null` or nothing. -/
def OptionalText (member : Option Value) : Prop :=
  ∀ value ∈ member, value = .null ∨ ∃ text, value = .string text

/-- The message has a null that is read as if it were a value. -/
inductive HarmfulNull (message : Map) : Prop where
  | refusal (null : message.get "refusal" = some .null) (alone : mirrors message .refusal = false)
  | reasoning (null : message.get "reasoning_content" = some .null)
      (alone : mirrors message .reasoning = false)
  | toolCalls (null : message.get "tool_calls" = some .null)

/-- Nothing else is wrong with the response: it can be read if `null` counts as absent. -/
@[mk_iff]
structure Readable (members choice message : Map) : Prop where
  content : ∃ blocks, decodeOpenaiContent (message.get "content") = .ok blocks
  refusal : mirrors message .refusal = true ∨ OptionalText (message.get "refusal")
  reasoning : mirrors message .reasoning = true ∨ OptionalText (message.get "reasoning_content")
  toolCalls : ∀ value ∈ message.get "tool_calls", value = .null ∨
    ∃ calls, value = .array calls ∧ ∃ blocks, collect decodeOpenaiToolCall calls = .ok blocks
  finishReason : OptionalText (choice.get "finish_reason")
  responseId : OptionalText (members.get "id")
  model : OptionalText (members.get "model")

variable {members : Map}

theorem optionalString_eq_ok_iff {key : String} :
    (∃ text, optionalString members key = .ok text) ↔ OptionalText (members.get key) := by
  unfold optionalString OptionalText
  cases members.get key with
  | none => simp
  | some val => cases val <;> simp

theorem decodeMirrored_eq_ok_iff {bl : List CanonicalOutputBlock} {k : CanonicalBlockKind}
    {m : Option Value} {f : String} : (∃ more, decodeMirrored bl k m f = .ok more) ↔
      ((bl.any fun block => block.kind == k) = true ∨ OptionalText m) ∧
        (m = some .null → (bl.any fun block => block.kind == k) = true) := by
  unfold decodeMirrored OptionalText
  cases (bl.any fun block => block.kind == k) with
  | true => simp
  | false => cases m with
    | none => simp
    | some val => cases val <;> simp

theorem decodeOpenaiToolCalls_eq_ok_iff {m : Option Value} :
    (∃ c, decodeOpenaiToolCalls m = .ok c) ↔ (∀ v ∈ m, v = .null ∨
        ∃ c, v = .array c ∧ ∃ bl, collect decodeOpenaiToolCall c = .ok bl) ∧ m ≠ some .null:= by
  unfold decodeOpenaiToolCalls
  cases m with
  | none => simp
  | some v => cases v <;> simp

theorem mirrors_of_content {m : Map} {bl : List CanonicalOutputBlock}
    (h : decodeOpenaiContent (m.get "content") = .ok bl) (kind : CanonicalBlockKind) :
    mirrors m kind = bl.any fun block => block.kind == kind := by
  rw [mirrors, h]

theorem decodeOpenaiMessageOutput_eq_ok_iff {m : Map} : (∃ o, decodeOpenaiMessageOutput m = .ok o) ↔
      (∃ bl, decodeOpenaiContent (m.get "content") = .ok bl) ∧
      ((mirrors m .refusal = true ∨ OptionalText (m.get "refusal")) ∧
        (m.get "refusal" = some .null → mirrors m .refusal = true)) ∧
      (mirrors m .reasoning = true ∨ OptionalText (m.get "reasoning_content")) ∧
        (m.get "reasoning_content" = some .null → mirrors m .reasoning = true) := by
  simp only [decodeOpenaiMessageOutput, exists_bind_eq_ok_iff, Except.ok.injEq, exists_eq',
    and_true, exists_and_right]
  constructor
  · rintro ⟨bl, hb, hr, hre⟩
    rw [mirrors_of_content hb, mirrors_of_content hb]
    exact ⟨⟨bl, hb⟩, decodeMirrored_eq_ok_iff.mp hr,
      decodeMirrored_eq_ok_iff.mp hre⟩
  · rintro ⟨⟨bl, hb⟩, hr, hre⟩
    rw [mirrors_of_content hb] at hr hre
    exact ⟨bl, hb, decodeMirrored_eq_ok_iff.mpr hr,
      decodeMirrored_eq_ok_iff.mpr hre⟩

theorem not_harmfulNull_iff {m : Map} : ¬ HarmfulNull m ↔
      (m.get "refusal" = some .null → mirrors m .refusal = true) ∧
      (m.get "reasoning_content" = some .null → mirrors m .reasoning = true) ∧
      m.get "tool_calls" ≠ some .null := by
  constructor
  · intro h
    refine ⟨fun hn => ?_, fun hn => ?_, fun hn => h (.toolCalls hn)⟩ <;> rw [← Bool.not_eq_false]
    exacts [fun ha => h (.refusal hn ha), fun ha => h (.reasoning hn ha)]
  · rintro ⟨hr, hre, hc⟩ (⟨hn, ha⟩ | ⟨hn, ha⟩ | hn)
    · cases ha.symm.trans (hr hn)
    · cases ha.symm.trans (hre hn)
    · exact hc hn

/-- **When a choice can be read.** -/
theorem decodeOpenaiChoice_eq_ok_iff {members c message : Map} :
    (∃ r, decodeOpenaiChoice members c message = .ok r) ↔
      Readable members c message ∧ ¬ HarmfulNull message := by
  have hp : (∃ r, decodeOpenaiChoice members c message = .ok r) ↔
      (∃ o, decodeOpenaiMessageOutput message = .ok o) ∧
      (∃ ca, decodeOpenaiToolCalls (message.get "tool_calls") = .ok ca) ∧
      (∃ reason, optionalString c "finish_reason" = .ok reason) ∧
      (∃ id, optionalString members "id" = .ok id) ∧
      ∃ model, optionalString members "model" = .ok model := by
    simp [decodeOpenaiChoice, exists_and_right]
  rw [hp, decodeOpenaiMessageOutput_eq_ok_iff, decodeOpenaiToolCalls_eq_ok_iff,
    optionalString_eq_ok_iff, optionalString_eq_ok_iff, optionalString_eq_ok_iff]
  constructor
  · rintro ⟨⟨hc, ⟨hr, hrn⟩, hre, hren⟩, ⟨hl, hln⟩, hf, hid, hd⟩
    exact ⟨⟨hc, hr, hre, hl, hf, hid, hd⟩, not_harmfulNull_iff.mpr ⟨hrn, hren, hln⟩⟩
  · rintro ⟨h, hh⟩
    obtain ⟨hrn, hren, hln⟩ := not_harmfulNull_iff.mp hh
    exact ⟨⟨h.content, ⟨h.refusal, hrn⟩, h.reasoning, hren⟩, ⟨h.toolCalls, hln⟩,
      h.finishReason, h.responseId, h.model⟩

/-! ## Deletions in a finite response -/

variable {a b : Option Value}

theorem Lost.eq_of_ne_null (h : Lost a b) (hne : a ≠ some .null) : b = a := by
  cases h with
  | same => rfl
  | null => exact absurd rfl hne

theorem Lost.absent (h : Lost a b) (ha : a = none ∨ a = some .null) :
    b = none ∨ b = some .null := by
  cases h with
  | same => exact ha
  | null => exact .inl rfl

theorem Lost.null_or_iff (h : Lost a b) {P : Value → Prop} :
    (∀ v ∈ b, v = .null ∨ P v) ↔ ∀ v ∈ a, v = .null ∨ P v := by
  cases h with
  | same => rfl
  | null => simp

theorem Lost.optionalText (h : Lost a b) : OptionalText b ↔ OptionalText a := h.null_or_iff

theorem mirrors_dropNulls (n : String → Bool) (m : Map) (kind : CanonicalBlockKind) :
    mirrors (dropNulls n m) kind = mirrors m kind := by
  unfold mirrors
  rw [(Lost.get_dropNulls n m "content").decodeOpenaiContent]

/-- To be readable does not depend on nulls. -/
theorem readable_delete_iff {members c message : Map} :
    Readable (d.inMembers members) (d.inChoice 0 c) (dropNulls (d.message 0) message) ↔
      Readable members c message := by
  have hget := Lost.get_dropNulls (d.message 0) message
  have hf := d.get_inChoice c 0 (show "finish_reason" ≠ "message" by decide) (by decide)
  have hid := d.get_inMembers members (show "id" ≠ "choices" by decide)
  have hm := d.get_inMembers members (show "model" ≠ "choices" by decide)
  rw [readable_iff, readable_iff, mirrors_dropNulls, mirrors_dropNulls, (hget "tool_calls").null_or_iff, hf.optionalText,
    hid.optionalText, hm.optionalText, (hget "content").decodeOpenaiContent,
    (hget "refusal").optionalText, (hget "reasoning_content").optionalText]

theorem Lost.decodeMirrored (h : Lost a b) {bl : List CanonicalOutputBlock}
    {k : CanonicalBlockKind} {field : String}
    (hm : a = some .null → (bl.any fun block => block.kind == k) = true) :
    decodeMirrored bl k b field = decodeMirrored bl k a field := by
  cases h with
  | same => rfl
  | null =>
    unfold Finite.decodeMirrored
    rw [if_pos (hm rfl), if_pos (hm rfl)]

theorem decodeOpenaiMessageOutput_dropNulls (n : String → Bool) {message : Map}
    (h : ¬ HarmfulNull message) :
    decodeOpenaiMessageOutput (dropNulls n message) = decodeOpenaiMessageOutput message := by
  have hget := Lost.get_dropNulls n message
  unfold decodeOpenaiMessageOutput
  rw [(hget "content").decodeOpenaiContent]
  cases hc : decodeOpenaiContent (message.get "content") with
  | error e => rfl
  | ok blc =>
    obtain ⟨hr, hre, -⟩ := not_harmfulNull_iff.mp h
    rw [mirrors_of_content hc] at hr hre
    simp only [bind, Except.bind]
    rw [(hget "refusal").decodeMirrored hr, (hget "reasoning_content").decodeMirrored hre]

/-- **Harmless nulls make no difference.** -/
theorem decodeOpenaiChoice_delete (members c : Map) {message : Map}
    (h : ¬ HarmfulNull message) : decodeOpenaiChoice (d.inMembers members) (d.inChoice 0 c)
      (dropNulls (d.message 0) message) = decodeOpenaiChoice members c message := by
  have hc := (Lost.get_dropNulls (d.message 0) message "tool_calls").eq_of_ne_null
    (not_harmfulNull_iff.mp h).2.2
  have hf := d.get_inChoice c 0 (show "finish_reason" ≠ "message" by decide) (by decide)
  unfold decodeOpenaiChoice
  rw [decodeOpenaiMessageOutput_dropNulls _ h, hc, hf.optionalString,
    (d.get_inMembers members (show "id" ≠ "choices" by decide)).optionalString,
    (d.get_inMembers members (show "model" ≠ "choices" by decide)).optionalString,
    (d.get_inMembers members (show "usage" ≠ "choices" by decide)).decodeUsage]

theorem not_harmfulNull_all (m : Map) : ¬ HarmfulNull (dropNulls (Deletion.all.message 0) m):= by
  have hn : ∀ key, (dropNulls (all.message 0) m).get key ≠ some .null := by
    intro key
    rw [get_dropNulls]
    simp only [all]
    cases m.get key with
    | none => simp
    | some val => cases val <;> simp [Value.isNull]
  rintro (⟨h, -⟩ | ⟨h, -⟩ | h) <;> exact hn _ h

theorem decodeOpenaiBody_eq_ok_iff : (∃ r, decodeOpenaiBody members = .ok r) ↔
      ∃ c message : Map, members.get "choices" = some (.array [.object c]) ∧
        c.get "message" = some (.object message) ∧
        Readable members c message ∧ ¬ HarmfulNull message := by
  simp only [decodeOpenaiBody, exists_bind_eq_ok_iff, decodeOpenaiChoice_eq_ok_iff,
    onlyChoice_eq_ok_iff, requiredObject_eq_ok_iff, exists_and_left]

theorem decodeOpenaiBody_delete (members : Map) : decodeOpenaiBody (d.inMembers members) = (do
      let choice ← onlyChoice members
      let message ← requiredObject choice "message" "choices[].message"
      decodeOpenaiChoice (d.inMembers members) (d.inChoice 0 choice)
        (dropNulls (d.message 0) message)) := by
  unfold decodeOpenaiBody
  rw [onlyChoice_inMembers]
  cases onlyChoice members with
  | error e => rfl
  | ok choice =>
    simp only [Except.map, bind, Except.bind]
    rw [requiredObject_message]
    cases requiredObject choice "message" "choices[].message" <;> rfl

theorem decodeOpenaiBody_delete_eq_ok_iff : (∃ r, decodeOpenaiBody (d.inMembers members) = .ok r) ↔
      ∃ c m : Map, members.get "choices" = some (.array [.object c]) ∧
        c.get "message" = some (.object m) ∧
        Readable members c m ∧ ¬ HarmfulNull (dropNulls (d.message 0) m) := by
  simp only [decodeOpenaiBody_delete, exists_bind_eq_ok_iff, decodeOpenaiChoice_eq_ok_iff,
    readable_delete_iff, onlyChoice_eq_ok_iff, requiredObject_eq_ok_iff, exists_and_left]

/-- No deletion of null members changes what is read of the response. -/
def ResponseKept (payload : Value) (status : Nat) : Prop :=
  ∀ d : Deletion, (decodeOpenaiResponse (d.inPayload payload) status).toOption =
    (decodeOpenaiResponse payload status).toOption

/-- A response that fails because of nulls only. -/
structure FailsByNull (payload : Value) (status : Nat) (members choice message : Map) : Prop where
  isObject : payload = .object members
  noErrorStatus : status < 400
  onlyChoice : members.get "choices" = some (.array [.object choice])
  hasMessage : choice.get "message" = some (.object message)
  readable : Readable members choice message
  noError : members.get "error" = none ∨ members.get "error" = some .null
  null : members.get "error" = some .null ∨ HarmfulNull message

theorem decodeOpenaiResponse_of_null {status : Nat} (h : members.get "error" = some .null) :
    (decodeOpenaiResponse (.object members) status).toOption = none := by
  simp only [decodeOpenaiResponse, decodeProviderError, Value.asObject, h]
  rfl

theorem decodeOpenaiResponse_of_status {status : Nat} (hs : 400 ≤ status)
    (h : members.get "error" = none) :
    (decodeOpenaiResponse (.object members) status).toOption = none := by
  have he : decodeProviderError (.object members) status .openaiChatCompletions = .error
      (codecError .malformedProviderResponse "error" (some .openaiChatCompletions) none) := by
    simp only [decodeProviderError, Value.asObject, h]
    exact if_pos hs
  rw [decodeOpenaiResponse, he]
  rfl

theorem errorEvidence_ne_none (raw : Value) (status : Nat) (s : WireSurface) :
    errorEvidence (some raw) status s ≠ .ok none := by
  intro h
  simp only [errorEvidence] at h
  cases hr : raw.asObject with
  | none => simp [hr] at h
  | some err =>
    simp only [hr] at h
    obtain ⟨et, -, h⟩ := bind_eq_ok.mp h
    obtain ⟨mes, -, h⟩ := bind_eq_ok.mp h
    split at h <;> cases h

/-- An error that is not null is all that is read. -/
theorem decodeOpenaiResponse_of_error {members l : Map} {raw : Value} (status : Nat)
    (h : members.get "error" = some raw) (hl : l.get "error" = some raw) :
    decodeOpenaiResponse (.object l) status = decodeOpenaiResponse (.object members) status := by
  have hs : ∀ found : Map, found.get "error" = some raw →
      decodeProviderError (.object found) status .openaiChatCompletions =
        errorEvidence (some raw) status .openaiChatCompletions := by
    intro found hf
    simp [decodeProviderError, Value.asObject, hf]
  unfold decodeOpenaiResponse
  rw [hs members h, hs l hl]
  cases he : errorEvidence (some raw) status .openaiChatCompletions with
  | error e => rfl
  | ok evi => cases evi with
    | none => exact absurd he (errorEvidence_ne_none _ _ _)
    | some evi => rfl

theorem toOption_eq_none_iff {ε α : Type} {x : Except ε α} :
    x.toOption = none ↔ ¬ ∃ a, x = .ok a := by
  cases x <;> simp [Except.toOption]

section Object

variable (members : Map) {status : Nat}

/-- What a deletion leaves of the error member. -/
theorem lost_error (d : Deletion) : Lost (members.get "error") ((d.inMembers members).get "error"):=
  d.get_inMembers members (by decide)

/-- Without an error, nulls in the four places are all that makes a difference. -/
theorem responseKept_of_no_error (hs : status < 400)
    (he : members.get "error" = none ∨ members.get "error" = some .null) :
    ResponseKept (.object members) status ↔
      ∀ c message, ¬ FailsByNull (.object members) status members c message := by
  constructor
  · intro h c message hf
    -- all nulls deleted, the response is read
    have hg : (all.inMembers members).get "error" = none := by
      rcases he with he | he <;> simp [inMembers, all, he, Value.isNull]
    obtain ⟨r, hr⟩ := (decodeOpenaiBody_delete_eq_ok_iff all).mpr
      ⟨c, message, hf.onlyChoice, hf.hasMessage, hf.readable, not_harmfulNull_all message⟩
    have hk : some r = _ :=
      (congrArg _ ((decodeOpenaiResponse_of_no_error hs hg).trans hr)).symm.trans (h all)
    -- as it is, it is not
    rcases he with he | he
    · rw [decodeOpenaiResponse_of_no_error hs he] at hk
      have hn : (decodeOpenaiBody members).toOption = none := by
        rw [toOption_eq_none_iff, decodeOpenaiBody_eq_ok_iff]
        rintro ⟨c', m', hc, hm, -, hh⟩
        cases hf.onlyChoice.symm.trans hc
        cases hf.hasMessage.symm.trans hm
        exact hh (hf.null.resolve_left (by simp [he]))
      cases hk.trans hn
    · cases hk.trans (decodeOpenaiResponse_of_null he)
  · intro h d
    have hl := lost_error members d
    rcases he with he | he
    · have hg := (hl.eq_of_ne_null (by simp [he])).trans he
      refine (congrArg _ (decodeOpenaiResponse_of_no_error hs hg)).trans ?_
      rw [decodeOpenaiResponse_of_no_error hs he, decodeOpenaiBody_delete, decodeOpenaiBody]
      cases hc : onlyChoice members with
      | error e => rfl
      | ok c =>
        simp only [bind, Except.bind]
        cases hm : requiredObject c "message" "choices[].message" with
        | error e => rfl
        | ok message =>
          simp only
          by_cases hh : HarmfulNull message
          · -- a harmful null and something else that is wrong: both fail
            have hd : ¬ Readable members c message := fun hd => h c message
              ⟨rfl, hs, onlyChoice_eq_ok_iff.mp hc, requiredObject_eq_ok_iff.mp hm, hd, .inl he,
                .inr hh⟩
            rw [toOption_eq_none_iff.mpr, toOption_eq_none_iff.mpr]
            · rw [decodeOpenaiChoice_eq_ok_iff]
              exact fun hok => hd hok.1
            · rw [decodeOpenaiChoice_eq_ok_iff, readable_delete_iff]
              exact fun hok => hd hok.1
          · rw [decodeOpenaiChoice_delete d members c hh]
    · rw [decodeOpenaiResponse_of_null he]
      rcases hl.absent (.inr he) with hg | hnu
      · refine (congrArg _ (decodeOpenaiResponse_of_no_error hs hg)).trans ?_
        rw [toOption_eq_none_iff, decodeOpenaiBody_delete_eq_ok_iff]
        rintro ⟨c, message, hc, hm, hd, -⟩
        exact h c message ⟨rfl, hs, hc, hm, hd, .inr he, .inl he⟩
      · exact decodeOpenaiResponse_of_null hnu

/-- A response with an error, or with the status of one, does not depend on nulls. -/
theorem responseKept_of_error (h : 400 ≤ status ∨
    (members.get "error" ≠ none ∧ members.get "error" ≠ some .null)) :
    ResponseKept (.object members) status := by
  intro d
  have hl := lost_error members d
  by_cases hr : members.get "error" ≠ none ∧ members.get "error" ≠ some .null
  · obtain ⟨raw, hr'⟩ := Option.ne_none_iff_exists'.mp hr.1
    have hf := (hl.eq_of_ne_null hr.2).trans hr'
    exact congrArg Except.toOption (decodeOpenaiResponse_of_error status hr' hf)
  · have hs := h.resolve_right hr
    have hfa : ∀ found : Map, found.get "error" = none ∨ found.get "error" = some .null →
        (decodeOpenaiResponse (.object found) status).toOption = none := by
      rintro found (hn | hnu)
      · exact decodeOpenaiResponse_of_status hs hn
      · exact decodeOpenaiResponse_of_null hnu
    have ho : members.get "error" = none ∨ members.get "error" = some .null := by tauto
    exact (hfa _ (hl.absent ho)).trans (hfa _ ho).symm

end Object

theorem responseKept_iff (p : Value) (status : Nat) : ResponseKept p status ↔
      ∀ members c message, ¬ FailsByNull p status members c message := by
  cases p with
  | object members =>
    have ho : (∀ c message,
          ¬ FailsByNull (.object members) status members c message) ↔
        ∀ found c message, ¬ FailsByNull (.object members) status found c message := by
      constructor
      · intro h found c message hf
        cases hf.isObject
        exact h c message hf
      · exact fun h => h members
    rw [← ho]
    by_cases hs : status < 400
    · by_cases hn : Map.get members "error" = none ∨ Map.get members "error" = some .null
      · exact responseKept_of_no_error members hs hn
      · refine iff_of_true (responseKept_of_error members (.inr (not_or.mp hn))) ?_
        exact fun c message hf => hn hf.noError
    · refine iff_of_true (responseKept_of_error members (.inl (by omega))) ?_
      exact fun c message hf => hs hf.noErrorStatus
  | _ =>
    constructor
    · intro _ members c message h
      cases h.isObject
    · intro _ d
      rfl

/--
**When null members read like absent ones.** A finite response keeps its reading under all
deletions unless nulls are all that keeps it from being read: a null `error` below status 400,
or a null `refusal`, `reasoning_content` or `tool_calls` that the message has to itself. A
chunk keeps its events unless a null `error` makes an error of it.
-/
theorem null_members_ignored_iff (payload : Value) (status : Nat) (event : Option String)
    (chunk : Map) : (ResponseKept payload status ↔
      ∀ members choice message, ¬ FailsByNull payload status members choice message) ∧
    (ChunkKept event chunk ↔ event = some "error" ∨ chunk.get "error" ≠ some .null) :=
  ⟨responseKept_iff payload status, chunkKept_iff event chunk⟩

/-- A message that says in so many words that nothing was refused cannot be read. -/
theorem null_refusal_fails :
    ¬ ResponseKept (.object [("choices", .array [.object [("message", .object
      [("content", .string "hello"), ("refusal", .null)])]])]) 200 := by
  intro h
  have hread := congrArg Option.isSome (h all)
  revert hread
  decide

end EggPool.Wire.Finite
