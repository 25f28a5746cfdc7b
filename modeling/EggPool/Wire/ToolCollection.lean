import EggPool.Wire.ToolStream

/-!
# Which streams the accumulator takes

The accumulator and the reader of a well-formed stream run side by side. As long as no
text block is closed and the limits hold, the open calls of the one are the open calls of
the other, and a call is handed out when its block is closed.

Two things in well-formed streams are refused. A stop event for a text block is taken for
the stop of a call, and there is no call at that index. And both protocols say twice that
a message is complete, by its reason and by its terminator, while the accumulator ends at
the first of the two and refuses what comes after it.
-/

namespace EggPool.Wire

open EggPool.Lib List Table ProtocolEvent

/-- An open call as the accumulator keeps it. -/
def StreamCall.active (call : StreamCall) : ActiveCall :=
  ⟨.callId call.id, some call.id, some call.index, some call.name, call.arguments⟩

theorem StreamCall.active_injective : Function.Injective StreamCall.active := by
  intro a b h
  obtain ⟨index, id, name, arg⟩ := a
  obtain ⟨rfl, -, rfl, rfl, rfl⟩ := h
  rfl

/-- The entry that leads from its index to it. -/
def StreamCall.mapping (call : StreamCall) : Nat × ToolCallIdentity :=
  (call.index, .callId call.id)

/-- A named call, as it is handed out. -/
def ActiveCall.completed (call : ActiveCall) : CompletedToolCall :=
  ⟨call.identity, call.callId, call.sourceIndex, call.name.getD "", call.arguments⟩

namespace StreamReader

/-- The argument bytes of the open calls. -/
def retained (r : StreamReader) : Nat := r.calls.sumBy (·.arguments.utf8ByteSize)

/-- Whether an event stays within the limits on open calls. -/
def fits (r : StreamReader) : ProtocolEvent → Bool
  | .callStart _ _ _ => r.calls.size < MAX_ACTIVE_CANONICAL_TOOL_CALLS
  | .fragment index _ delta =>
    (r.calls.get? index).all (fun call => call.arguments.utf8ByteSize + delta.utf8ByteSize ≤
      MAX_CANONICAL_TOOL_CALL_ARGUMENT_BYTES) &&
    r.retained + delta.utf8ByteSize ≤ MAX_CANONICAL_TOOL_CALL_TOTAL_BYTES
  | _ => true

/-- Whether every event of a stream does. -/
def fitsAll (protocol : ToolProtocol) : StreamReader → List ProtocolEvent → Bool
  | _, [] => true
  | r, event :: events =>
    r.fits event && (r.read protocol event).all fun r => fitsAll protocol r events

/-- No text block is closed, nothing follows a completion, and the limits hold. -/
def Collectable (protocol : ToolProtocol) (r : StreamReader) (events : List ProtocolEvent) : Prop :=
  (∀ event ∈ events, event.closesText = false) ∧
  (∀ event ∈ events.dropLast, event.completes = false) ∧
  r.fitsAll protocol events = true

/-- What the reader gives out is on its lists, and an open text block is not a call. -/
structure Sound (r : StreamReader) : Prop where
  calls : ∀ call ∈ r.calls.rows,
    call.index ∈ r.indexes ∧ call.id ∈ r.ids ∧ call.id.isEmpty = false
  texts : ∀ index ∈ r.texts, index ∈ r.indexes ∧ r.calls.get? index = none

theorem sound_new : new.Sound where
  calls := by intro call h; cases h
  texts := by intro index h; cases h

variable {r : StreamReader}

theorem Sound.get?_of_fresh (h : r.Sound) {index : Nat} (hf : index ∉ r.indexes) :
    r.calls.get? index = none :=
  StreamReader.get?_of_fresh (fun call hc => (h.calls call hc).1) hf

theorem Sound.openCall (h : r.Sound) {index : Nat} {id n : String} (hf : index ∉ r.indexes)
    (hid : id.isEmpty = false) : (r.openCall index id n).Sound where
  calls := by
    intro call hc
    rcases mem_place hc with rfl | hc
    · exact ⟨mem_cons_self, mem_cons_self, hid⟩
    · obtain ⟨hn, hd, hne⟩ := h.calls call hc
      exact ⟨mem_cons_of_mem _ hn, mem_cons_of_mem _ hd, hne⟩
  texts := by
    intro i hi
    obtain ⟨hn, hno⟩ := h.texts i hi
    refine ⟨mem_cons_of_mem _ hn, ?_⟩
    have hne : index ≠ i := by
      rintro rfl
      exact hf hn
    change (r.calls.insert _).get? i = none
    rwa [get?_insert, if_neg hne]

theorem Sound.extendCall (h : r.Sound) (index : Nat) (d : String) :
    (r.extendCall index d).Sound where
  calls := by
    intro call hc
    obtain ⟨old, hold, rfl⟩ := mem_map.mp hc
    split <;> exact h.calls old hold
  texts := by
    intro i hi
    obtain ⟨hn, hno⟩ := h.texts i hi
    refine ⟨hn, ?_⟩
    simp only [StreamReader.extendCall, get?_update]
    rw [hno]
    rfl

theorem Sound.closeCall (h : r.Sound) (call : StreamCall) : (r.closeCall call).Sound where
  calls := fun other ho => h.calls other (mem_filter.mp ho).1
  texts := by
    intro i hi
    obtain ⟨hn, hno⟩ := h.texts i hi
    refine ⟨hn, ?_⟩
    change (r.calls.erase call.index).get? i = none
    rw [get?_erase, hno, ite_self]

theorem Sound.moves {r' : StreamReader} {ev : ProtocolEvent} (h : r.Sound)
    (hm : r.Moves ev r') : r'.Sound := by
  cases hm with
  | started | usage | text => exact h
  | textStart hf =>
    exact ⟨fun call hc => (h.calls call hc).imp_left (mem_cons_of_mem _),
      forall_mem_cons.mpr ⟨⟨mem_cons_self, h.get?_of_fresh hf⟩,
        fun i hi => (h.texts i hi).imp_left (mem_cons_of_mem _)⟩⟩
  | textStop =>
    exact ⟨h.calls, fun i hi => h.texts i (mem_filter.mp hi).1⟩
  | callStart hf _ hid => exact h.openCall hf hid
  | fragment => exact h.extendCall _ _
  | callStop => exact h.closeCall _
  | completes => exact ⟨h.calls, h.texts⟩

theorem collectable_cons {p : ToolProtocol} {n : StreamReader} {ev : ProtocolEvent}
    {events : List ProtocolEvent} (hn : r.read p ev = some n) (hm : events ≠ []) :
    r.Collectable p (ev :: events) ↔
      (ev.closesText = false ∧ ev.completes = false ∧ r.fits ev = true) ∧
        n.Collectable p events := by
  unfold Collectable
  rw [dropLast_cons_of_ne_nil hm]
  simp only [forall_mem_cons, fitsAll, hn, Bool.and_eq_true]
  tauto

/-- A completion that is the last event is fine. -/
theorem collectable_last {ev : ProtocolEvent} (hc : ev.completes = true)
    {p : ToolProtocol} {n : StreamReader} (hn : r.read p ev = some n) : r.Collectable p [ev]:= by
  have hp : ev.closesText = false ∧ r.fits ev = true := by
    cases ev with
    | finishReason | terminator => exact ⟨rfl, rfl⟩
    | _ => cases hc
  exact ⟨forall_mem_singleton.mpr hp.1, forall_mem_nil _, by simp [fitsAll, hn, hp.2]⟩

end StreamReader

namespace CanonicalToolCallAccumulator

/-! ## Side by side -/

/-- The accumulator has the open calls of the reader. -/
structure Tracks (a : CanonicalToolCallAccumulator) (r : StreamReader) : Prop where
  active : a.active.rows.Perm (r.calls.rows.map StreamCall.active)
  indexes : a.indexToIdentity.rows.Perm (r.calls.rows.map StreamCall.mapping)
  retained : a.retainedBytes = r.retained
  live : a.terminal = false
  sound : r.Sound

variable {a : CanonicalToolCallAccumulator} {r : StreamReader}

theorem tracks_new : new.Tracks .new where
  active := .refl _
  indexes := .refl _
  retained := rfl
  live := rfl
  sound := StreamReader.sound_new

variable {call : StreamCall}

theorem Tracks.get?_active (h : a.Tracks r) (hc : call ∈ r.calls.rows) :
    a.active.get? (.callId call.id) = some call.active :=
  get?_eq_some.mpr ⟨h.active.mem_iff.mpr (mem_map_of_mem hc), rfl⟩

/-- Ids tell open calls apart: the table of the accumulator is keyed by them. -/
theorem Tracks.eq_of_id (h : a.Tracks r) {o : StreamCall} (hc : call ∈ r.calls.rows)
    (ho : o ∈ r.calls.rows) (hid : o.id = call.id) : o = call := by
  have hf := h.get?_active hc
  rw [← hid, h.get?_active ho] at hf
  exact StreamCall.active_injective (Option.some.inj hf)

theorem Tracks.get?_active_of_fresh (h : a.Tracks r) {id : String} (hid : id ∉ r.ids) :
    a.active.get? (.callId id) = none := by
  rw [get?_eq_none]
  intro row hrow hkey
  obtain ⟨call, hc, rfl⟩ := mem_map.mp (h.active.mem_iff.mp hrow)
  obtain rfl : call.id = id := ToolCallIdentity.callId.inj hkey
  exact hid (h.sound.calls call hc).2.1

/-- No open call goes by its index alone. -/
theorem Tracks.get?_active_index (h : a.Tracks r) (index : Nat) :
    a.active.get? (.sourceIndex index) = none := by
  rw [get?_eq_none]
  intro row hrow hkey
  obtain ⟨call, hc, rfl⟩ := mem_map.mp (h.active.mem_iff.mp hrow)
  cases hkey

variable {index : Nat}

theorem Tracks.get?_index (h : a.Tracks r) (hc : r.calls.get? index = some call) :
    a.indexToIdentity.get? index = some (index, .callId call.id) := by
  obtain ⟨hmem, rfl⟩ := get?_eq_some.mp hc
  exact get?_eq_some.mpr ⟨h.indexes.mem_iff.mpr (mem_map.mpr ⟨call, hmem, rfl⟩), rfl⟩

theorem Tracks.get?_index_none (h : a.Tracks r) (hn : r.calls.get? index = none) :
    a.indexToIdentity.get? index = none := by
  rw [get?_eq_none] at hn ⊢
  intro row hrow hkey
  obtain ⟨call, hc, rfl⟩ := mem_map.mp (h.indexes.mem_iff.mp hrow)
  exact hn call hc hkey

variable {ev : CanonicalEvent}

section

variable (h : a.Tracks r)

include h

/-- An event with the index of an open call, and with its id if with any, is about that call. -/
theorem Tracks.resolve_known (hc : r.calls.get? index = some call) (hi : ev.index = some index)
    (hid : ev.callId.all (· = call.id) = true) : a.resolve ev = .ok (.callId call.id) := by
  have hne := (h.sound.calls call (mem_of_get? hc)).2.2
  unfold resolve identity
  rw [hi]
  cases hev : ev.callId with
  | none =>
    simp [h.get?_index hc]
  | some id =>
    rw [hev] at hid
    obtain rfl : id = call.id := by simpa using hid
    simp only [Option.filter_some, hne, Bool.not_false, if_true, Option.bind_some, h.get?_index hc,
      ne_eq, not_true_eq_false, decide_false, Bool.and_false, Bool.false_eq_true, if_false]

/-- An index without an open call is the identity of nothing. -/
theorem Tracks.resolve_unknown (hn : r.calls.get? index = none)
    (hi : ev.index = some index) (hid : ev.callId = none) :
    a.resolve ev = .error .missingIdentity := by
  unfold resolve identity
  rw [hi, hid]
  simp [h.get?_index_none hn, h.get?_active_index index]

theorem Tracks.size_active : a.active.size = r.calls.size := by
  unfold size
  rw [h.active.length_eq, length_map]

/-! ### The start of a call -/

theorem Tracks.start {id name : String} (hi : index ∉ r.indexes)
    (hid : id ∉ r.ids) (ha : id.isEmpty = false) (hn : (trim name).isEmpty = false) :
    a.start (ProtocolEvent.callStart index id name).canonical =
      if r.calls.size < MAX_ACTIVE_CANONICAL_TOOL_CALLS then .ok ({ a with
          active := a.active.insert (StreamCall.active ⟨index, id, name, ""⟩)
          indexToIdentity := a.indexToIdentity.insert (index, .callId id) }, [])
      else .error .resourceLimit := by
  have hid4 : identity (callStart index id name).canonical =
      .ok (.callId id) := by
    simp only [identity, canonical, Option.filter_some, ha, Bool.not_false, if_true]
  have hm : usableName (callStart index id name).canonical.name = some name := by
    simp [usableName, canonical, hn]
  have hno := h.get?_index_none (h.sound.get?_of_fresh hi)
  unfold CanonicalToolCallAccumulator.start
  rw [hid4, hm, h.size_active]
  simp only [canonical, h.get?_active_of_fresh hid, Option.isSome_none,
    Option.bind_some, hno, Option.any_none, Bool.or_self, Bool.false_eq_true, if_false]
  by_cases hs : r.calls.size < MAX_ACTIVE_CANONICAL_TOOL_CALLS
  · rw [if_neg (Nat.not_le.mpr hs), if_pos hs]
    rfl
  · rw [if_pos (Nat.not_lt.mp hs), if_neg hs]

theorem Tracks.openCall {id name : String} (hi : index ∉ r.indexes)
    (hid : id ∉ r.ids) (ha : id.isEmpty = false) :
    Tracks { a with
      active := a.active.insert (StreamCall.active ⟨index, id, name, ""⟩)
      indexToIdentity := a.indexToIdentity.insert (index, .callId id) }
      (r.openCall index id name) := by
  have hf := h.sound.get?_of_fresh hi
  have hrow : (r.openCall index id name).calls.rows.Perm (⟨index, id, name, ""⟩ :: r.calls.rows) :=
    perm_insert hf
  refine ⟨?_, ?_, ?_, h.live, h.sound.openCall hi ha⟩
  · refine (perm_insert (h.get?_active_of_fresh hid)).trans ?_
    exact (h.active.cons _).trans (hrow.map StreamCall.active).symm
  · refine (perm_insert (h.get?_index_none hf)).trans ?_
    exact (h.indexes.cons _).trans (hrow.map StreamCall.mapping).symm
  · change a.retainedBytes = (r.calls.insert _).sumBy _
    rw [sumBy_insert hf, h.retained]
    exact (Nat.zero_add _).symm

/-! ### A fragment -/

/-- One more fragment for a call. -/
def extended (a : CanonicalToolCallAccumulator) (identity : ToolCallIdentity) (delta : String) :
    CanonicalToolCallAccumulator :=
  { a with
    active := a.active.update (fun call => call.identity = identity)
      (fun call => { call with arguments := call.arguments ++ delta }) (fun _ => rfl)
    retainedBytes := a.retainedBytes + delta.utf8ByteSize }

theorem Tracks.append (hl : r.calls.get? index = some call)
    {id : Option String} (hid : id.all (· = call.id) = true) (d : String) :
    a.append (ProtocolEvent.fragment index id d).canonical =
      if r.fits (.fragment index id d) then .ok (a.extended (.callId call.id) d, [])
      else .error .resourceLimit := by
  unfold CanonicalToolCallAccumulator.append
  rw [h.resolve_known hl rfl hid]
  simp only [canonical, Option.getD_some, h.get?_active (mem_of_get? hl),
    StreamCall.active, StreamReader.fits, hl, h.retained]
  by_cases hc : call.arguments.utf8ByteSize + d.utf8ByteSize ≤
      MAX_CANONICAL_TOOL_CALL_ARGUMENT_BYTES
  · by_cases ht : r.retained + d.utf8ByteSize ≤ MAX_CANONICAL_TOOL_CALL_TOTAL_BYTES
    · rw [if_neg (by simpa using ⟨hc, ht⟩), if_pos (by simpa using ⟨hc, ht⟩)]
      rw [extended, h.retained]
    · rw [if_pos (by simpa using Or.inr (Nat.not_le.mp ht)),
        if_neg (by simpa using fun _ => Nat.not_le.mp ht)]
  · rw [if_pos (by simpa using Or.inl (Nat.not_le.mp hc)),
      if_neg (by simpa using fun h => absurd h hc)]

theorem Tracks.extendCall (hc : r.calls.get? index = some call)
    (delta : String) : (a.extended (.callId call.id) delta).Tracks (r.extendCall index delta) := by
  obtain ⟨hmem, rfl⟩ := get?_eq_some.mp hc
  -- both tables select the same call, one by its id and the other by its index
  have hs : ∀ other ∈ r.calls.rows, other.id = call.id ↔ other.index = call.index := by
    intro other ho
    constructor
    · intro hid
      rw [h.eq_of_id hmem ho hid]
    · intro hi
      rw [eq_of_key_eq ho hmem hi]
  refine ⟨?_, ?_, ?_, h.live, h.sound.extendCall _ _⟩
  · refine (h.active.map _).trans ?_
    refine .of_eq ?_
    change _ = (map _ r.calls.rows).map StreamCall.active
    rw [map_map, map_map]
    refine map_congr_left fun other ho => ?_
    simp only [Function.comp_apply, StreamCall.active, ToolCallIdentity.callId.injEq, hs other ho]
    split <;> rfl
  · refine h.indexes.trans (.of_eq ?_)
    rw [StreamReader.extendCall, map_rows_update]
    exact fun _ => rfl
  · have hm : (r.extendCall call.index delta).retained + call.arguments.utf8ByteSize =
        r.retained + (call.arguments ++ delta).utf8ByteSize :=
      sumBy_update_one
        (g := fun other : StreamCall => { other with arguments := other.arguments ++ delta }) (fun _ => rfl)
        hc (by simp) (fun other ho => by simpa using ho) (·.arguments.utf8ByteSize)
    have hb : (call.arguments ++ delta).utf8ByteSize =
        call.arguments.utf8ByteSize + delta.utf8ByteSize := String.utf8ByteSize_append
    change a.retainedBytes + delta.utf8ByteSize = _
    rw [h.retained]
    omega

end

/-! ### The end of a call -/

theorem complete_of_get? {i : ToolCallIdentity} {call : ActiveCall}
    (hget : a.active.get? i = some call) (hn : call.name.isSome = true) :
    a.complete i = .ok (a.without call, call.completed) := by
  obtain ⟨name, hn⟩ := Option.isSome_iff_exists.mp hn
  unfold complete ActiveCall.completed
  rw [hget]
  simp [hn]

theorem Tracks.closeCall (h : a.Tracks r) (hc : r.calls.get? index = some call) :
    (a.without call.active).Tracks (r.closeCall call) := by
  obtain ⟨hmem, rfl⟩ := get?_eq_some.mp hc
  have hrow := perm_erase hc
  refine ⟨?_, ?_, ?_, h.live, h.sound.closeCall _⟩
  · have hact := (perm_erase (h.get?_active hmem)).symm.trans h.active
    exact (hact.trans (hrow.map StreamCall.active)).cons_inv
  · have hi := (perm_erase (h.get?_index hc)).symm.trans h.indexes
    exact (hi.trans (hrow.map StreamCall.mapping)).cons_inv
  · have hs := (hrow.map (·.arguments.utf8ByteSize)).sum_eq
    rw [map_cons, sum_cons] at hs
    change a.retainedBytes - call.arguments.utf8ByteSize =
      ((r.calls.erase call.index).rows.map (·.arguments.utf8ByteSize)).sum
    rw [h.retained]
    unfold StreamReader.retained sumBy
    omega

theorem Tracks.stop (h : a.Tracks r) (hc : r.calls.get? index = some call) :
    a.stop (ProtocolEvent.callStop index).canonical =
      .ok (a.without call.active, [call.completed]) := by
  unfold CanonicalToolCallAccumulator.stop
  rw [h.resolve_known hc rfl rfl]
  simp only [canonical, canonicalEvent, finalArguments]
  rw [complete_of_get? (h.get?_active (mem_of_get? hc)) rfl]
  rfl

theorem Tracks.stop_text (h : a.Tracks r) (ht : index ∈ r.texts) :
    a.stop (ProtocolEvent.textStop index).canonical = .error .missingIdentity := by
  unfold CanonicalToolCallAccumulator.stop
  rw [h.resolve_unknown (h.sound.texts index ht).2 rfl rfl]

/-! ### The end of the message -/

/-- Completing every open call, in the order of the table, leaves none. -/
theorem completeAll_rows (rows : List ActiveCall) : ∀ {a : CanonicalToolCallAccumulator},
    a.active.rows = rows → (∀ call ∈ rows, call.name.isSome = true) →
    ∃ a', a.completeAll (rows.map (·.identity)) = .ok (a', rows.map ActiveCall.completed) ∧
      a'.active.rows = [] ∧ a'.terminal = a.terminal := by
  induction rows with
  | nil => intro a hrow _; exact ⟨a, rfl, hrow, rfl⟩
  | cons call rows ih =>
    intro a hrow hn
    have hget : a.active.get? call.identity = some call :=
      get?_self (hrow ▸ mem_cons_self)
    have hr : (a.without call).active.rows = rows := rows_erase_head hrow
    obtain ⟨a', hall, he, ht⟩ :=
      ih hr fun other ho => hn other (mem_cons_of_mem _ ho)
    refine ⟨a', ?_, he, ht⟩
    simp [completeAll]
    rw [complete_of_get? hget (hn call mem_cons_self)]
    simp [hall]

theorem finish_of_empty (ht : a.terminal = true) (he : a.active.rows = []) :
    a.finish = (a, .ok []) := by
  have hs : a.active.size = 0 := by
    unfold size
    rw [he]
    rfl
  unfold finish
  rw [ht, hs]
  rfl

/-- The first completion hands out every open call and ends the accumulator, cleanly. -/
theorem Tracks.push_completes (h : a.Tracks r) {ev : ProtocolEvent} (hc : ev.completes = true) :
    ∃ a' c, a.push ev.canonical = (a', .ok c) ∧ c.Perm (r.calls.rows.map StreamCall.completed) ∧
      a'.terminal = true ∧ a'.finish = (a', .ok []) := by
  have hn : ∀ call ∈ a.active.rows, call.name.isSome = true := by
    intro row hrow
    obtain ⟨call, _, rfl⟩ := mem_map.mp (h.active.mem_iff.mp hrow)
    rfl
  obtain ⟨a', hall, he, ht⟩ :=
    completeAll_rows a.active.rows (a := { a with terminal := true }) rfl hn
  refine ⟨a', a.active.rows.map ActiveCall.completed, ?_, ?_, ht,
    finish_of_empty ht he⟩
  · have ha : a.accept ev.canonical =
        .ok (a', a.active.rows.map ActiveCall.completed) := by
      cases ev with
      | finishReason | terminator => exact hall
      | _ => cases hc
    unfold push
    rw [h.live, if_neg Bool.false_ne_true, ha]
  · refine (h.active.map ActiveCall.completed).trans (.of_eq ?_)
    rw [map_map]
    rfl

/-! ## One event -/

/-- **Step.** An event within the limits that closes no text is taken, and what it closes is
what the accumulator hands out. Any other event is refused. -/
theorem Tracks.push (h : a.Tracks r) {r' : StreamReader} {ev : ProtocolEvent}
    (hm : r.Moves ev r') (ho : ev.completes = false) :
    match a.push ev.canonical with
    | (a', .ok c) => (ev.closesText = false ∧ r.fits ev = true) ∧ a'.Tracks r' ∧
        r'.done.map StreamCall.completed = c ++ r.done.map StreamCall.completed
    | (_, .error _) => ¬ (ev.closesText = false ∧ r.fits ev = true) := by
  rw [CanonicalToolCallAccumulator.push, h.live, if_neg Bool.false_ne_true]
  cases hm with
  | started | usage | text => exact ⟨⟨rfl, rfl⟩, h, rfl⟩
  | textStart hf =>
    exact ⟨⟨rfl, rfl⟩,
      ⟨h.active, h.indexes, h.retained, h.live, h.sound.moves (.textStart hf)⟩, rfl⟩
  | textStop hk =>
    have hac : a.accept (ProtocolEvent.textStop _).canonical = _ := h.stop_text hk
    rw [hac]
    exact fun hc => nomatch hc.1
  | callStart hi hid ha hs =>
    have hac : a.accept (ProtocolEvent.callStart _ _ _).canonical = _ := h.start hi hid ha hs
    rw [hac]
    by_cases hf : r.calls.size < MAX_ACTIVE_CANONICAL_TOOL_CALLS
    · rw [if_pos hf]
      exact ⟨⟨rfl, decide_eq_true hf⟩, h.openCall hi hid ha, rfl⟩
    · rw [if_neg hf]
      exact fun hc => hf (of_decide_eq_true hc.2)
  | @fragment i id delta _ hk hsa =>
    have hac : a.accept (ProtocolEvent.fragment i id delta).canonical = _ := h.append hk hsa _
    rw [hac]
    by_cases hf : r.fits (.fragment i id delta) = true
    · rw [if_pos hf]
      exact ⟨⟨rfl, hf⟩, h.extendCall hk _, rfl⟩
    · rw [if_neg hf]
      exact fun hc => hf hc.2
  | callStop hk =>
    have hac : a.accept (ProtocolEvent.callStop _).canonical = _ := h.stop hk
    rw [hac]
    exact ⟨⟨rfl, rfl⟩, h.closeCall hk, rfl⟩
  | completes pha hc =>
    rw [hc] at ho
    cases ho

/-! ## A whole stream -/

theorem pushAll_cons_ok {a' : CanonicalToolCallAccumulator}
    {c : List CompletedToolCall} (hp : a.push ev = (a', .ok c)) (eve : List CanonicalEvent) :
    a.pushAll (ev :: eve) = (a'.pushAll eve).map (Prod.map id (c ++ ·)) := by
  simp [pushAll, hp]

theorem pushAll_cons_error {e : ToolCallAccumulatorError}
    (hp : (a.push ev).2 = .error e) (eve : List CanonicalEvent) :
    a.pushAll (ev :: eve) = .error e := by
  rcases hc : a.push ev with ⟨a', outcome⟩
  rw [hc] at hp
  obtain rfl : outcome = .error e := hp
  simp [pushAll, hc]

/-- Nothing is taken after the end. -/
theorem pushAll_terminal (ht : a.terminal = true) (ev : CanonicalEvent)
    (eve : List CanonicalEvent) : a.pushAll (ev :: eve) = .error .postTerminalData := by
  refine pushAll_cons_error ?_ eve
  unfold push
  rw [ht, if_pos rfl]

/--
**Run.** From the same open calls, the accumulator takes the rest of a stream exactly if the
rest is collectable, and then it hands out all calls that are not handed out yet.
-/
theorem Tracks.pushAll {p : ToolProtocol} (eve : List ProtocolEvent) :
    ∀ {a : CanonicalToolCallAccumulator} {r r' : StreamReader}, a.Tracks r → r.phase = .body →
      r.readAll p eve = some r' → r'.phase ≠ .body →
      match a.pushAll (eve.map ProtocolEvent.canonical) with
      | .ok (a', c) => r.Collectable p eve ∧ (c ++ r.done.map StreamCall.completed).Perm
          (r'.allCalls.map StreamCall.completed) ∧ a'.finish = (a', .ok [])
      | .error _ => ¬ r.Collectable p eve := by
  induction eve with
  | nil =>
    intro a r r' _ hb hre hl
    cases hre
    exact absurd hb hl
  | cons evn eve ih =>
    intro a r r' h hb hre hl
    obtain ⟨next, hn, hr⟩ := Option.bind_eq_some_iff.mp hre
    have hm : r.Moves evn next :=
      StreamReader.moves_of_readBody (StreamReader.read_of_body hb evn ▸ hn)
    rw [map_cons]
    by_cases hc : evn.completes = true
    · obtain ⟨a', c, hp, hca, hte, hf⟩ := h.push_completes hc
      rw [pushAll_cons_ok hp]
      cases eve with
      | nil =>
        -- the end of the stream: what was open is handed out now
        refine ⟨StreamReader.collectable_last hc hn, ?_, hf⟩
        cases hr
        have hall : r'.allCalls = r.done ++ r.calls.rows := by
          cases hm with
          | completes => rfl
          | _ => cases hc
        rw [hall, map_append]
        exact ((append_nil c).symm ▸ hca.append_right _).trans perm_append_comm
      | cons sec eve =>
        rw [map_cons, pushAll_terminal hte]
        intro hcollectable
        have hs := hcollectable.2.1 evn mem_cons_self
        rw [hc] at hs
        cases hs
    · rw [Bool.not_eq_true] at hc
      have hx := hm.phase_of_not_completes hb hc
      have hmo : eve ≠ [] := by
        rintro rfl
        cases hr
        exact hl hx
      rw [StreamReader.collectable_cons hn hmo]
      have hs := h.push hm hc
      revert hs
      rcases hp : a.push evn.canonical with ⟨a', e | c⟩
      · intro hno
        rw [pushAll_cons_error (congrArg Prod.snd hp)]
        exact fun hco => hno ⟨hco.1.1, hco.1.2.2⟩
      · rintro ⟨ht, htr, hd⟩
        have hrest := ih htr hx hr hl
        rw [pushAll_cons_ok hp]
        revert hrest
        rcases a'.pushAll (eve.map ProtocolEvent.canonical) with e | ⟨last, more⟩
        · exact fun hno hcollectable => hno hcollectable.2
        · rintro ⟨hcollectable, hpe, hf⟩
          refine ⟨⟨⟨ht.1, hc, ht.2⟩, hcollectable⟩, ?_, hf⟩
          rw [hd, ← append_assoc] at hpe
          exact (perm_append_comm.append_right _).trans hpe

end CanonicalToolCallAccumulator

namespace ToolStream

open CanonicalToolCallAccumulator

variable {json : SerdeJson}

/-- Decoding and pushing raises no error and completes the tool calls of the stream. -/
def Collected (s : ToolStream json) (state : Option SourceIdentityState) : Prop :=
  ∃ events a calls, s.decoded state = .ok events ∧ new.pushAll events = .ok (a, calls) ∧
    calls.Perm (toolCalls s.events)

/--
**Which streams are collected.** A well-formed stream yields exactly its tool calls if and
only if no text block is closed in it, its first completion is its last event, and its open
calls stay within the limits.
-/
theorem collected_iff (s : ToolStream json) (state : Option SourceIdentityState) :
    s.Collected state ↔ StreamReader.new.Collectable s.protocol s.events := by
  obtain ⟨r, hread, hleft⟩ := s.exists_reader
  have hpush := tracks_new.pushAll s.events rfl hread hleft
  revert hpush
  rcases hp : new.pushAll (s.events.map ProtocolEvent.canonical) with e | ⟨a, calls⟩
  · refine fun hnot => iff_of_false ?_ hnot
    rintro ⟨events, a, calls, hdecoded, hpushed, -⟩
    rw [s.decoded_eq] at hdecoded
    cases hdecoded
    rw [hp] at hpushed
    cases hpushed
  · rintro ⟨hcollectable, hcalls, -⟩
    refine iff_of_true ⟨_, a, calls, s.decoded_eq state, hp, ?_⟩ hcollectable
    have hnone : calls ++ StreamReader.new.done.map StreamCall.completed = calls :=
      append_nil calls
    rw [hnone] at hcalls
    exact hcalls.trans (StreamReader.perm_toolCalls hread)

/-- A chat stream that stops at its reason, without the marker after it. -/
example : StreamReader.new.Collectable .openaiChat
    [.callStart 0 "call_1" "lookup", .fragment 0 none "[]", .finishReason "tool_calls"] := by
  refine ⟨?_, ?_, ?_⟩
  · decide
  · decide
  · decide +kernel

/-! ## Streams as providers finish them -/

/-- The error of decoding a stream and pushing its events. -/
def refusal (s : ToolStream json) (state : Option SourceIdentityState) :
    Option ToolCallAccumulatorError :=
  match s.decoded state with
  | .error _ => none
  | .ok events =>
    match new.pushAll events with
    | .error e => some e
    | .ok _ => none

theorem not_collected_of_refusal {s : ToolStream json} {state : Option SourceIdentityState}
    {e : ToolCallAccumulatorError} (h : s.refusal state = some e) : ¬ s.Collected state := by
  rintro ⟨events, a, cal, hd, hp, -⟩
  unfold refusal at h
  rw [hd] at h
  simp only [hp] at h
  cases h

/-- Frames whose payload is parsed already need no parser. -/
def parsedOnly : SerdeJson := ⟨fun _ => none, fun _ => ""⟩

def namedFrame (name : String) (payload : Map) : Value :=
  .object [("event", .string name), ("data", .object payload)]

theorem framed_namedFrame {n : String} {payload : Map} :
    Framed json (namedFrame n payload) [("event", .string n), ("data", .object payload)] payload:=
  ⟨rfl, .inl rfl⟩

theorem named_namedFrame {name : String} {p : Map} :
    Named [("event", .string name), ("data", .object p)] p name :=
  .inl rfl

def startPayload : Map := [("message", .object [("id", .string "msg_1")])]

def startFrames : List (Value × List ProtocolEvent) :=
  [(namedFrame "message_start" startPayload, [.started (some "msg_1") none])]

def callFrames (i : Nat) : List (Value × List ProtocolEvent) :=
  [(namedFrame "content_block_start" [("index", .number (.posInt i)),
      ("content_block", .object [("type", .string "tool_use"), ("id", .string "toolu_1"),
        ("name", .string "lookup")])], [.callStart i "toolu_1" "lookup"]),
    (namedFrame "content_block_delta" [("index", .number (.posInt i)),
      ("delta", .object [("type", .string "input_json_delta"), ("partial_json", .string "[]")])],
      [.fragment i none "[]"]),
    (namedFrame "content_block_stop" [("index", .number (.posInt i))], [.callStop i])]

def textFrames (i : Nat) : List (Value × List ProtocolEvent) :=
  [(namedFrame "content_block_start" [("index", .number (.posInt i)),
      ("content_block", .object [("type", .string "text")])], [.textStart i]),
    (namedFrame "content_block_delta" [("index", .number (.posInt i)),
      ("delta", .object [("type", .string "text_delta"), ("text", .string "Looking.")])],
      [.text (some i) "Looking."]),
    (namedFrame "content_block_stop" [("index", .number (.posInt i))], [.textStop i])]

def stopPayload : Map := [("delta", .object [("stop_reason", .string "tool_use")])]

def finishFrames : List (Value × List ProtocolEvent) :=
  [(namedFrame "message_delta" stopPayload, [.finishReason "tool_use"]),
    (namedFrame "message_stop" [], [.terminator])]

theorem carries_startFrames :
    ∀ frame ∈ startFrames, Carries parsedOnly .anthropicMessages frame.1 frame.2 := by
  simp only [startFrames, forall_mem_cons]
  refine ⟨?_, nofun⟩
  have hs : object (startPayload.get "message") = some [("id", .string "msg_1")] := rfl
  exact .messageStart framed_namedFrame named_namedFrame hs

theorem carries_callFrames (i : Nat) :
    ∀ frame ∈ callFrames i, Carries parsedOnly .anthropicMessages frame.1 frame.2 := by
  simp only [callFrames, forall_mem_cons]
  refine ⟨?_, ?_, ?_, nofun⟩
  · exact .callStart framed_namedFrame named_namedFrame rfl rfl rfl rfl rfl
  · exact .fragment framed_namedFrame named_namedFrame rfl rfl rfl rfl rfl rfl
  · exact .callStop framed_namedFrame named_namedFrame rfl

theorem carries_textFrames (i : Nat) :
    ∀ frame ∈ textFrames i, Carries parsedOnly .anthropicMessages frame.1 frame.2 := by
  simp only [textFrames, forall_mem_cons]
  refine ⟨?_, ?_, ?_, nofun⟩
  · exact .textStart framed_namedFrame named_namedFrame rfl rfl rfl
  · exact .text framed_namedFrame named_namedFrame rfl rfl rfl rfl
  · exact .textStop framed_namedFrame named_namedFrame rfl

theorem carries_finishFrames :
    ∀ frame ∈ finishFrames, Carries parsedOnly .anthropicMessages frame.1 frame.2 := by
  simp only [finishFrames, forall_mem_cons]
  refine ⟨?_, ?_, nofun⟩
  · have hc : object (stopPayload.get "delta") =
        some [("stop_reason", .string "tool_use")] := rfl
    exact .messageDelta framed_namedFrame named_namedFrame hc
  · exact .messageStop framed_namedFrame named_namedFrame

/-- A message as a provider sends it: some blocks between the usual start and the usual end. -/
theorem carries_message {b : List (Value × List ProtocolEvent)}
    (h : ∀ frame ∈ b, Carries parsedOnly .anthropicMessages frame.1 frame.2) :
    ∀ frame ∈ startFrames ++ b ++ finishFrames,
      Carries parsedOnly .anthropicMessages frame.1 frame.2 :=
  forall_mem_append.mpr
    ⟨forall_mem_append.mpr ⟨carries_startFrames, h⟩, carries_finishFrames⟩

def anthropicCall : ToolStream parsedOnly where
  protocol := .anthropicMessages
  frames := startFrames ++ callFrames 0 ++ finishFrames
  carried := carries_message (carries_callFrames 0)
  wellFormed := by decide +kernel

def anthropicTextAndCall : ToolStream parsedOnly where
  protocol := .anthropicMessages
  frames := startFrames ++ (textFrames 0 ++ callFrames 1) ++ finishFrames
  carried := carries_message
    (List.forall_mem_append.mpr ⟨carries_textFrames 0, carries_callFrames 1⟩)
  wellFormed := by decide +kernel

def chunkFrame (choice : Map) : Value :=
  .object [("data", .object [("choices", .array [.object choice])])]

theorem carries_chunkFrame (json : SerdeJson) {c : Map} (d : Map) (en : List Map)
    {ca : List (List ProtocolEvent)} (hc : object (c.get "delta") = some d)
    (hr : string (d.get "reasoning_content") = none)
    (hl : (array (d.get "tool_calls")).getD [] = en.map .object)
    (hd : List.Forall₂ ChatCallDelta en ca) :
    ChatFrame json (chunkFrame c) (chatContent (d.get "content") ++ ca.flatten ++
        (string (c.get "finish_reason")).toList.map .finishReason) := by
  have hf : Framed json (chunkFrame c)
      [("data", .object [("choices", .array [.object c])])]
      [("choices", .array [.object c])] := ⟨rfl, .inl rfl⟩
  refine .chunk hf ?_ rfl rfl hc hr hl hd
  intro he
  cases he

def lookupEntry : Map :=
  [("index", .number (.posInt 0)), ("id", .string "call_1"),
    ("function", .object [("name", .string "lookup"), ("arguments", .string "[]")])]

theorem lookupEntry_delta : ChatCallDelta lookupEntry
      [.callStart 0 "call_1" "lookup", .fragment 0 (some "call_1") "[]"] := by
  have hf : object (lookupEntry.get "function") =
      some [("name", .string "lookup"), ("arguments", .string "[]")] := rfl
  exact .first rfl rfl hf rfl

/-- The same call in a chat stream, with a text before it. -/
def chatTextAndCall : ToolStream parsedOnly where
  protocol := .openaiChat
  frames :=
    [(chunkFrame [("delta", .object [("content", .string "Looking.")])], [.text none "Looking."]),
      (chunkFrame [("delta", .object [("tool_calls", .array [.object lookupEntry])])],
        [.callStart 0 "call_1" "lookup", .fragment 0 (some "call_1") "[]"]),
      (chunkFrame [("delta", .object []), ("finish_reason", .string "tool_calls")],
        [.finishReason "tool_calls"]),
      (.object [("data", .string "[DONE]")], [.terminator])]
  carried := by
    simp only [List.forall_mem_cons]
    refine ⟨?_, ?_, ?_, ?_, nofun⟩
    · exact carries_chunkFrame parsedOnly [("content", .string "Looking.")] [] rfl rfl rfl .nil
    · exact carries_chunkFrame parsedOnly [("tool_calls", .array [.object lookupEntry])]
        [lookupEntry] rfl rfl rfl (.cons lookupEntry_delta .nil)
    · exact carries_chunkFrame parsedOnly [] [] rfl rfl rfl .nil
    · exact .done rfl rfl (by decide +kernel)
  wellFormed := by decide +kernel

/-- **The usual end of a message is refused, and so is the end of a text block before it.** -/
theorem usual_streams_not_collected :
    (anthropicCall.refusal none = some .postTerminalData ∧ ¬ anthropicCall.Collected none) ∧
    (anthropicTextAndCall.refusal none = some .missingIdentity ∧
      ¬ anthropicTextAndCall.Collected none) ∧
    (chatTextAndCall.refusal none = some .postTerminalData ∧
      ¬ chatTextAndCall.Collected none) := by
  have hcall : anthropicCall.refusal none = some .postTerminalData := by decide +kernel
  have htext : anthropicTextAndCall.refusal none = some .missingIdentity := by decide +kernel
  have hchat : chatTextAndCall.refusal none = some .postTerminalData := by decide +kernel
  exact ⟨⟨hcall, not_collected_of_refusal hcall⟩, ⟨htext, not_collected_of_refusal htext⟩,
    ⟨hchat, not_collected_of_refusal hchat⟩⟩

end ToolStream

end EggPool.Wire
