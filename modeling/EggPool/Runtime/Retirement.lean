import EggPool.Runtime.Manager

/-!
# Retirement and the work a slot still has

Two questions about a slot that was replaced. While a request still holds a lease on
it, can the request register its finalization there? And does the slot leave the
retirement backlog once nobody holds anything?

Both answers are local to the slot once it is known that nobody else touches it: the
active slot and the slots of a swap have no retirement task, and a slot with a task is
none of them. That is `Sound`. What a task has done to its slot by the time it is in
some phase is `GenerationSlot.Ok`.
-/

namespace EggPool.Runtime

open EggPool.Lib RuntimeManager List

namespace GenerationSlot

/-- The retirement of the slot gave up while it waited for leases. -/
def gaveUpOnLeases (slot : GenerationSlot) : Bool :=
  match slot.retirement with
  | some (.finished (some (.activeLeases _))) => true
  | _ => false

/-- The state and the leases of a slot, as its retirement task has left them. -/
def Ok (slot : GenerationSlot) : Prop :=
  match slot.retirement with
  | none => slot.retainable = true
  | some .awaitingLeases => slot.retainable = true
  | some .leasesDrained => slot.retainable = true ∧ slot.activeLeases = 0
  | some .awaitingReferences => slot.state = .drainingFinalization ∧ slot.activeLeases = 0
  | some .referencesDrained => slot.state = .drainingFinalization ∧ slot.activeLeases = 0
  | some .closing => slot.state = .closing ∧ slot.activeLeases = 0
  | some (.finished none) => slot.state = .closed ∧ slot.activeLeases = 0
  | some (.finished (some (.activeLeases _))) => slot.state = .failedClose
  | some (.finished (some _)) => slot.state = .failedClose ∧ slot.activeLeases = 0

variable {slot : GenerationSlot}

/-- A slot with a lease takes references unless its retirement gave up on the leases. -/
theorem Ok.retainable_iff (h : slot.Ok) (hl : 0 < slot.activeLeases) :
    slot.retainable = true ↔ slot.gaveUpOnLeases = false := by
  have hne : slot.activeLeases ≠ 0 := Nat.ne_of_gt hl
  unfold Ok at h
  unfold gaveUpOnLeases
  split at h <;> rename_i hp
  case h_1 | h_2 => simp [h, hp]
  case h_8 => simp [hp, retainable, h]
  all_goals exact absurd h.2 hne

/-- Fewer leases, the rest as it was. -/
theorem Ok.of_le {s' : GenerationSlot} (h : slot.Ok) (hst : s'.state = slot.state)
    (hp : s'.retirement = slot.retirement) (hl : s'.activeLeases ≤ slot.activeLeases) : s'.Ok:= by
  have hz : slot.activeLeases = 0 → s'.activeLeases = 0 := by omega
  unfold Ok retainable at h ⊢
  rw [hp, hst]
  split at h
  case h_1 | h_2 | h_8 => exact h
  all_goals exact ⟨h.1, hz h.2⟩

/-- Without a task every count of leases is fine, in the two early states. -/
theorem Ok.of_none (hp : slot.retirement = none) (hst : slot.retainable = true) : slot.Ok:= by
  rwa [Ok, hp]

/-- **What a task does keeps its slot in order.** -/
theorem Ok.retireSlot (h : slot.Ok) (ev : RetirementEvent) : (retireSlot slot ev).Ok := by
  unfold RuntimeManager.retireSlot
  split
  case h_2 => rfl
  case h_9 => exact h
  all_goals
    rename_i hp
    rw [Ok, hp] at h
  case h_1 =>
    split
    · rename_i hz
      exact ⟨h, hz⟩
    · rwa [Ok, hp]
  case h_4 =>
    split
    · exact h
    · rwa [Ok, hp]
  all_goals exact ⟨rfl, h.2⟩

/-- A task step does not make a task out of none. -/
theorem isRetiring_of_retireSlot {ev : RetirementEvent}
    (h : (RuntimeManager.retireSlot slot ev).isRetiring = true) : slot.isRetiring = true := by
  unfold RuntimeManager.retireSlot at h
  cases hp : slot.retirement with
  | none =>
    simp [isRetiring, hp] at h
  | some pha =>
    cases pha with
    | finished failure =>
      simp [isRetiring, hp, RetirementPhase.isFinished] at h
    | awaitingLeases | leasesDrained | awaitingReferences | referencesDrained | closing =>
      simp [isRetiring, hp, RetirementPhase.isFinished]

end GenerationSlot

namespace RuntimeManager

/-! ## Who may touch a slot -/

/-- The slots the publication code writes: the active one and those of the swap. -/
def inPlay (m : RuntimeManager) : List SlotRef :=
  match m.swap with
  | none => [m.active]
  | some w => [w.old, w.new]

/-- Some publication or admission can still happen: the gate is open or a swap can open it. -/
def Live (m : RuntimeManager) : Prop := m.admissionClosed = false ∨ m.swap.isSome = true

/-- A created slot that nobody has begun to retire. -/
structure Idle (m : RuntimeManager) (i : SlotRef) : Prop where
  created : i < m.nextSlot
  kept : i ∉ m.retiring
  unscheduled : (m.slots i).retirementScheduled = false
  untended : (m.slots i).retirement = none

/-- The slots and the two lists of the retirement. -/
structure Books (m : RuntimeManager) : Prop where
  nodup : m.retiring.Nodup
  created : ∀ i ∈ m.retiring, i < m.nextSlot
  registered : ∀ i, (m.slots i).isRetiring = true → i ∈ m.retirementTasks
  slotOk : ∀ i, (m.slots i).Ok

/-- **Publication and retirement keep apart.** -/
structure Sound (m : RuntimeManager) : Prop where
  books : m.Books
  distinct : ∀ w, m.swap = some w → w.old ≠ w.new
  /-- The active slot is the one the phase of the swap says. -/
  pointer : ∀ w, m.swap = some w → m.active = if w.pointerCommitted then w.new else w.old
  idle : m.Live → ∀ i ∈ m.inPlay, m.Idle i

/-- The backlog and the tasks of all slots are the same in two managers. -/
structure SameTasks (m m' : RuntimeManager) : Prop where
  retiring : m'.retiring = m.retiring
  tasks : ∀ i, (m'.slots i).retirement = (m.slots i).retirement

/-- What admission and publication do to the slots and to the books. -/
structure Keeps (m m' : RuntimeManager) : Prop extends SameTasks m m' where
  nextSlot : m'.nextSlot = m.nextSlot
  registered : m'.retirementTasks = m.retirementTasks
  scheduled : ∀ i, (m'.slots i).retirementScheduled = (m.slots i).retirementScheduled
  slotOk : ∀ i, (m.slots i).Ok → (m'.slots i).Ok

variable {m m' : RuntimeManager} {i j : SlotRef} {g : GenerationSlot → GenerationSlot}
  {w : StagedGenerationSwap}

theorem Keeps.books (h : Keeps m m') (hb : m.Books) : m'.Books := by
  refine ⟨?_, ?_, ?_, fun i => h.slotOk i (hb.slotOk i)⟩
  · rw [h.retiring]
    exact hb.nodup
  · rw [h.retiring, h.nextSlot]
    exact hb.created
  · intro i hr
    rw [GenerationSlot.isRetiring, h.tasks] at hr
    rw [h.registered]
    exact hb.registered i hr

theorem Keeps.idle (h : Keeps m m') (hi : m.Idle i) : m'.Idle i := by
  refine ⟨?_, ?_, (h.scheduled i).trans hi.unscheduled, (h.tasks i).trans hi.untended⟩
  · rw [h.nextSlot]
    exact hi.created
  · rw [h.retiring]
    exact hi.kept

theorem Keeps.trans {m'' : RuntimeManager} (h : Keeps m m') (h' : Keeps m' m'') : Keeps m m'' where
  retiring := h'.retiring.trans h.retiring
  tasks i := (h'.tasks i).trans (h.tasks i)
  nextSlot := h'.nextSlot.trans h.nextSlot
  registered := h'.registered.trans h.registered
  scheduled i := (h'.scheduled i).trans (h.scheduled i)
  slotOk i hi := h'.slotOk i (h.slotOk i hi)

/-- Neither the pointer, the swap nor the gate has a part in it. -/
theorem Keeps.of_eq (hs : m'.slots = m.slots) (hn : m'.nextSlot = m.nextSlot)
    (hr : m'.retiring = m.retiring) (ht : m'.retirementTasks = m.retirementTasks) :
    Keeps m m' := by
  refine ⟨⟨hr, ?_⟩, hn, ht, ?_, ?_⟩ <;> intro i <;> rw [hs]
  exact id

/-- A write that leaves the task of the slot alone and keeps the slot in order. -/
theorem Keeps.setSlot
    (hf : (g (m.slots i)).retirementScheduled = (m.slots i).retirementScheduled)
    (ht : (g (m.slots i)).retirement = (m.slots i).retirement)
    (hok : (m.slots i).Ok → (g (m.slots i)).Ok) : Keeps m (m.setSlot i g) := by
  refine ⟨⟨rfl, ?_⟩, rfl, rfl, ?_, ?_⟩ <;> intro j <;> rw [slots_setSlot] <;> split
  case refine_1.isTrue hji => rwa [hji]
  case refine_2.isTrue hji => rwa [hji]
  case refine_3.isTrue hji => rwa [hji]
  all_goals first
    | rfl
    | exact id

/-- What the publication code writes into a slot that nobody retires. -/
theorem Keeps.write (hi : m.Idle i)
    (hf : (g (m.slots i)).retirementScheduled = (m.slots i).retirementScheduled)
    (ht : (g (m.slots i)).retirement = (m.slots i).retirement)
    (hst : (g (m.slots i)).retainable = true) : Keeps m (m.setSlot i g) :=
  .setSlot hf ht fun _ => .of_none (ht.trans hi.untended) hst

/-- A write that keeps the slot in order, and starts no task. -/
theorem Books.setSlot (h : m.Books) (hok : (g (m.slots i)).Ok)
    (ht : (g (m.slots i)).isRetiring = true → (m.slots i).isRetiring = true) :
    (m.setSlot i g).Books := by
  refine ⟨h.nodup, h.created, ?_, ?_⟩
  · intro j hj
    rw [slots_setSlot] at hj
    split at hj
    · rename_i hji
      rw [hji] at hj ⊢
      exact h.registered i (ht hj)
    · exact h.registered j hj
  · intro j
    rw [slots_setSlot]
    split
    · rename_i hji
      rwa [hji]
    · exact h.slotOk j

theorem Books.reapRetirements (h : m.Books) : m.reapRetirements.Books := by
  refine ⟨h.nodup.filter _, ?_, ?_, h.slotOk⟩
  · intro i hi
    exact h.created i (mem_filter.mp hi).1
  · intro i hi
    exact mem_filter.mpr ⟨h.registered i hi, hi⟩

theorem Idle.reapRetirements (h : m.Idle i) : m.reapRetirements.Idle i := by
  refine ⟨h.created, ?_, h.unscheduled, h.untended⟩
  intro hi
  exact h.kept (mem_filter.mp hi).1

/-! ## Starting a retirement -/

theorem mem_retiring_spawnRetirement (h : j ∈ (m.spawnRetirement i).retiring) :
    j ∈ m.retiring ∨ j = i := by
  change j ∈ (if m.retiring.contains i then m.retiring else m.retiring ++ [i]) at h
  split at h
  · exact .inl h
  · exact (mem_append.mp h).imp id mem_singleton.mp

theorem slots_spawnRetirement_of_ne (hne : j ≠ i) : (m.spawnRetirement i).slots j = m.slots j := by
  simp [spawnRetirement, hne]

theorem Books.spawnRetirement (h : m.Books) (hc : i < m.nextSlot)
    (hn : (m.slots i).retirement = none) : (m.spawnRetirement i).Books := by
  refine ⟨?_, ?_, ?_, ?_⟩
  · show (if m.retiring.contains i then m.retiring else m.retiring ++ [i]).Nodup
    split
    · exact h.nodup
    rename_i ht
    rw [← concat_eq_append]
    exact List.Nodup.concat (fun hmem => ht (contains_iff_mem.mpr hmem)) h.nodup
  · intro j hj
    rcases mem_retiring_spawnRetirement hj with hj | rfl
    · exact h.created j hj
    · exact hc
  · intro j hj
    by_cases hji : j = i
    · exact mem_append.mpr (.inr (mem_singleton.mpr hji))
    rw [slots_spawnRetirement_of_ne hji] at hj
    exact mem_append.mpr (.inl (h.registered j hj))
  · intro j
    by_cases hji : j = i
    · -- a slot without a task is in one of the two early states
      have hok := h.slotOk i
      rw [GenerationSlot.Ok, hn] at hok
      subst hji
      simpa [RuntimeManager.spawnRetirement, GenerationSlot.Ok, GenerationSlot.retainable]
        using hok
    · rw [slots_spawnRetirement_of_ne hji]
      exact h.slotOk j

theorem Idle.spawnRetirement (h : m.Idle j) (hne : j ≠ i) : (m.spawnRetirement i).Idle j := by
  refine ⟨h.created, fun hj => (mem_retiring_spawnRetirement hj).elim h.kept hne, ?_, ?_⟩ <;>
    rw [slots_spawnRetirement_of_ne hne]
  exacts [h.unscheduled, h.untended]

theorem Books.scheduleRetirement (h : m.Books) (hc : i < m.nextSlot)
    (hn : (m.slots i).retirement = none) : (m.scheduleRetirement i).Books := by
  rcases m.scheduleRetirement_cases i with hk | hs
  · rw [hk]
    exact h.reapRetirements
  · rw [hs]
    exact h.reapRetirements.spawnRetirement hc hn

theorem Idle.scheduleRetirement (h : m.Idle j) (hne : j ≠ i) : (m.scheduleRetirement i).Idle j := by
  rcases m.scheduleRetirement_cases i with hk | hs
  · rw [hk]
    exact h.reapRetirements
  · rw [hs]
    exact h.reapRetirements.spawnRetirement hne

/-- Retiring an idle slot. -/
theorem Books.retire (h : m.Books) (hi : m.Idle i) (ir : Bool) : (m.retire i ir).Books := by
  have hp : Books { m with retiring := m.retiring ++ [i] } := by
    refine ⟨?_, ?_, h.registered, h.slotOk⟩
    · rw [← concat_eq_append]
      exact List.Nodup.concat hi.kept h.nodup
    exact forall_mem_append.mpr ⟨h.created, forall_mem_singleton.mpr hi.created⟩
  unfold RuntimeManager.retire
  split
  · exact hp.scheduleRetirement hi.created hi.untended
  · exact hp

theorem Idle.retire (h : m.Idle j) (hne : j ≠ i) (ir : Bool) : (m.retire i ir).Idle j := by
  have hp : Idle { m with retiring := m.retiring ++ [i] } j := by
    refine ⟨h.created, ?_, h.unscheduled, h.untended⟩
    intro hj
    rcases mem_append.mp hj with hj | hj
    · exact h.kept hj
    · exact hne (mem_singleton.mp hj)
  unfold RuntimeManager.retire
  split
  · exact hp.scheduleRetirement hne
  · exact hp

/-- Retirement does not touch the publication fields. -/
theorem retire_frame (m : RuntimeManager) (i : SlotRef) (ir : Bool) :
    (m.retire i ir).active = m.active ∧ (m.retire i ir).swap = m.swap ∧
      (m.retire i ir).admissionClosed = m.admissionClosed := by
  unfold RuntimeManager.retire
  split
  · rcases scheduleRetirement_cases { m with retiring := m.retiring ++ [i] } i with h | h <;>
      rw [h] <;> exact ⟨rfl, rfl, rfl⟩
  · exact ⟨rfl, rfl, rfl⟩

/-! ## Every step keeps publication and retirement apart -/

theorem sound_new (gi : Nat) : (new gi).Sound where
  books := by
    refine ⟨nodup_nil, ?_, ?_, ?_⟩
    · intro i hi
      cases hi
    · intro i hi
      cases hi
    · intro i
      rfl
  distinct := by intro w hw; cases hw
  pointer := by intro w hw; cases hw
  idle := by
    intro _ i hi
    rw [mem_singleton.mp hi]
    exact ⟨Nat.one_pos, not_mem_nil, rfl, rfl⟩

/-- A step that leaves the publication alone only has to keep the books and idle slots idle. -/
theorem Sound.of_frame (h : m.Sound) (hb : m'.Books) (hs : m'.swap = m.swap)
    (ha : m'.active = m.active) (hg : m'.admissionClosed = m.admissionClosed)
    (hd : ∀ i, m.Idle i → m'.Idle i) : m'.Sound where
  books := hb
  distinct := by rw [hs]; exact h.distinct
  pointer := by rw [hs, ha]; exact h.pointer
  idle := by
    intro hl i hi
    rw [Live, hg, hs] at hl
    rw [inPlay, hs, ha] at hi
    exact hd i (h.idle hl i hi)

theorem Sound.idle_old (h : m.Sound) (hw : m.swap = some w) : m.Idle w.old := by
  refine h.idle (.inr (by rw [hw]; rfl)) w.old ?_
  rw [inPlay, hw]
  exact mem_cons_self

theorem Sound.idle_new (h : m.Sound) (hw : m.swap = some w) : m.Idle w.new := by
  refine h.idle (.inr (by rw [hw]; rfl)) w.new ?_
  rw [inPlay, hw]
  exact mem_cons_of_mem _ (mem_singleton.mpr rfl)

theorem Sound.idle_active (h : m.Sound) (hl : m.Live) : m.Idle m.active := by
  cases hw : m.swap with
  | none =>
    refine h.idle hl m.active ?_
    rw [inPlay, hw]
    exact mem_singleton.mpr rfl
  | some w =>
    rw [h.pointer w hw]
    split
    · exact h.idle_new hw
    · exact h.idle_old hw

/-- A swap whose pointer and slots are as they should be, over given books. -/
theorem sound_swapping (hb : m.Books) (hw : m.swap = some w) (hne : w.old ≠ w.new)
    (ha : m.active = if w.pointerCommitted then w.new else w.old) (h : m.Idle w.old)
    (hnew : m.Idle w.new) : m.Sound where
  books := hb
  distinct := by
    intro v hv
    rw [hw, Option.some.injEq] at hv
    rwa [← hv]
  pointer := by
    intro v hv
    rw [hw, Option.some.injEq] at hv
    rwa [← hv]
  idle := by
    intro _ i hi
    rw [inPlay, hw] at hi
    rcases mem_cons.mp hi with hi | hi
    · rwa [hi]
    · rwa [mem_singleton.mp hi]

/-- No swap on its way. -/
theorem sound_settled (hb : m.Books) (hw : m.swap = none)
    (ha : m.admissionClosed = false → m.Idle m.active) : m.Sound where
  books := hb
  distinct := by intro v hv; rw [hw] at hv; cases hv
  pointer := by intro v hv; rw [hw] at hv; cases hv
  idle := by
    intro hl i hi
    rw [inPlay, hw] at hi
    rw [mem_singleton.mp hi]
    rcases hl with ho | hs
    · exact ha ho
    · rw [hw] at hs
      cases hs

section

variable (h : m.Sound)

include h

theorem Sound.reapRetirements : m.reapRetirements.Sound :=
  h.of_frame h.books.reapRetirements rfl rfl rfl fun _ hi => hi.reapRetirements

/-- Nothing happens. -/
theorem Sound.same : Keeps m m ∧ m.Sound := ⟨.of_eq rfl rfl rfl rfl, h⟩

theorem Sound.keep (hk : Keeps m m') (hs : m'.swap = m.swap) (ha : m'.active = m.active)
    (hg : m'.admissionClosed = m.admissionClosed) : Keeps m m' ∧ m'.Sound :=
  ⟨hk, h.of_frame (hk.books h.books) hs ha hg fun _ => hk.idle⟩

/-- The same swap, with the pointer at the slot its phase says. -/
theorem Sound.swing (hw : m.swap = some w) (hk : Keeps m m') {committed : Bool}
    (hs : m'.swap = some { w with pointerCommitted := committed })
    (ha : m'.active = if committed then w.new else w.old) : Keeps m m' ∧ m'.Sound := by
  have hold := hk.idle (h.idle_old hw)
  have hnew := hk.idle (h.idle_new hw)
  exact ⟨hk, sound_swapping (hk.books h.books) hs (h.distinct w hw) ha hold hnew⟩

/-- The swap is over. -/
theorem Sound.settle (hk : Keeps m m') (hs : m'.swap = none) (ha : m.Idle m'.active) :
    Keeps m m' ∧ m'.Sound :=
  ⟨hk, sound_settled (hk.books h.books) hs fun _ => hk.idle ha⟩

theorem Sound.acquire : Keeps m m.acquire.2 ∧ m.acquire.2.Sound := by
  rcases m.acquire_cases with hs | ⟨ho, hg⟩
  · rw [hs]
    exact h.same
  have hd := h.idle_active (.inl ho)
  have hok := h.books.slotOk m.active
  rw [GenerationSlot.Ok, hd.untended] at hok
  rw [hg]
  exact h.keep (.write hd rfl rfl hok) rfl rfl rfl

/-- A change of the two counters that adds no lease. -/
theorem Sound.setCounts (hst : (g (m.slots i)).state = (m.slots i).state)
    (ht : (g (m.slots i)).retirement = (m.slots i).retirement)
    (hf : (g (m.slots i)).retirementScheduled = (m.slots i).retirementScheduled)
    (hl : (g (m.slots i)).activeLeases ≤ (m.slots i).activeLeases) :
    Keeps m (m.setSlot i g) ∧ (m.setSlot i g).Sound :=
  h.keep (.setSlot hf ht fun hok => hok.of_le hst ht hl) rfl rfl rfl

theorem Sound.releaseLease (i : SlotRef) :
    Keeps m (m.releaseLease i) ∧ (m.releaseLease i).Sound :=
  h.setCounts rfl rfl rfl (Nat.sub_le _ 1)

theorem Sound.reserveReference (i : SlotRef) :
    Keeps m (m.reserveReference i) ∧ (m.reserveReference i).Sound :=
  h.setCounts rfl rfl rfl (Nat.le_refl _)

theorem Sound.dropReference (i : SlotRef) :
    Keeps m (m.dropReference i) ∧ (m.dropReference i).Sound :=
  h.setCounts rfl rfl rfl (Nat.le_refl _)

theorem Sound.retirementStep (i : SlotRef) (ev : RetirementEvent) :
    (m.retirementStep i ev).Sound := by
  refine h.of_frame ?_ rfl rfl rfl ?_
  · exact h.books.setSlot ((h.books.slotOk i).retireSlot ev)
      GenerationSlot.isRetiring_of_retireSlot
  intro j hj
  -- an idle slot has no task that could take a step
  have hs : (m.retirementStep i ev).slots j = m.slots j := by
    simp [RuntimeManager.retirementStep, retireSlot, hj.untended]
  refine ⟨hj.created, hj.kept, ?_, ?_⟩ <;> rw [hs]
  exacts [hj.unscheduled, hj.untended]

end

/-- The books and the idle slots after the new slot of a stage is written. -/
theorem Books.create (h : m.Books) (gi : Nat) :
    Books { m.setSlot m.nextSlot fun _ => GenerationSlot.new gi false with
      nextSlot := m.nextSlot + 1 } := by
  have hs : (m.setSlot m.nextSlot fun _ => GenerationSlot.new gi false).Books :=
    h.setSlot rfl (by intro hr; cases hr)
  exact ⟨hs.nodup, fun i hi => Nat.lt_succ_of_lt (h.created i hi), hs.registered, hs.slotOk⟩

theorem Sound.stage (h : m.Sound) (ex : Nat) (c : Option Nat) : (m.stage ex c).2.Sound := by
  have hr := h.reapRetirements
  rcases m.stage_cases ex c with ⟨e, hf, -⟩ | ⟨gi, ho, hs⟩
  · rwa [hf]
  rw [hs]
  have ha : m.reapRetirements.Idle m.active := hr.idle_active (.inl ho)
  have hne : m.active ≠ m.nextSlot := Nat.ne_of_lt ha.created
  have hb := hr.books.create gi
  refine sound_swapping ⟨hb.nodup, hb.created, hb.registered, hb.slotOk⟩ rfl hne rfl ?_ ?_
  · refine ⟨Nat.lt_succ_of_lt ha.created, ha.kept, ?_, ?_⟩
    · simpa [hne] using ha.unscheduled
    · simpa [hne] using ha.untended
  · refine ⟨Nat.lt_succ_self _, ?_, ?_, ?_⟩
    · intro hmem
      exact Nat.lt_irrefl _ (hr.books.created _ hmem)
    · simp [GenerationSlot.new]
    · simp [GenerationSlot.new]

theorem keeps_stopAccepting (m : RuntimeManager) (i : SlotRef) : Keeps m (m.stopAccepting i) :=
  .setSlot rfl rfl fun hok => hok.of_le rfl rfl (Nat.le_refl _)

theorem keeps_reinstate (h : m.Idle w.old) : Keeps m (m.reinstate w) := .write h rfl rfl rfl

theorem keeps_publish (h : m.Idle w.new) (accepting : Bool) : Keeps m (m.publish w accepting) := by
  have hk := Keeps.write (g := fun slot => { slot with state := .active, accepting := accepting })
    h rfl rfl rfl
  exact hk.trans (.of_eq rfl rfl rfl rfl)

theorem Sound.commitPointer (h : m.Sound) : Keeps m m.commitPointer.2 ∧ m.commitPointer.2.Sound := by
  rcases m.commitPointer_cases with hs | ⟨w, hw, hm⟩
  · rw [hs]
    exact h.same
  have hk := (Keeps.write (g := fun slot => { slot with accepting := false, state := .retiring })
    (h.idle_old hw) rfl rfl rfl).trans (keeps_stopAccepting _ w.new)
  rw [hm]
  exact h.swing hw (hk.trans (.of_eq rfl rfl rfl rfl)) rfl rfl

theorem Sound.restorePointer (h : m.Sound) (hw : m.swap = some w) :
    Keeps m (m.restorePointer w) ∧ (m.restorePointer w).Sound := by
  have hk := (keeps_reinstate (h.idle_old hw)).trans (keeps_stopAccepting _ w.new)
  exact h.swing hw (hk.trans (.of_eq rfl rfl rfl rfl)) rfl rfl

theorem Sound.rollbackPointer (h : m.Sound) :
    Keeps m m.rollbackPointer.2 ∧ m.rollbackPointer.2.Sound := by
  rcases m.rollbackPointer_cases with ⟨e, hb⟩ | ⟨w, hw, hb⟩
  · rw [hb]
    exact h.same
  · rw [hb]
    exact h.restorePointer hw

/-- A swap that is given up with the pointer at its old slot. -/
theorem Sound.abandonSwap (h : m.Sound) (hw : m.swap = some w) (ha : m.active = w.old) :
    Keeps m (m.abandonSwap w) ∧ (m.abandonSwap w).Sound := by
  have hk := (keeps_reinstate (h.idle_old hw)).trans (keeps_stopAccepting _ w.new)
  refine h.settle (hk.trans (.of_eq rfl rfl rfl rfl)) rfl ?_
  have hs : (m.abandonSwap w).active = w.old := ha
  rw [hs]
  exact h.idle_old hw

theorem Sound.rollback (h : m.Sound) : Keeps m m.rollback.2 ∧ m.rollback.2.Sound := by
  rcases m.rollback_cases with hs | ⟨w, hw, ⟨ht, hg⟩ | hg⟩
  · rw [hs]
    exact h.same
  · rw [hg]
    refine h.abandonSwap hw ?_
    rw [h.pointer w hw, ht]
    rfl
  · rw [hg]
    obtain ⟨hk, hs⟩ := h.restorePointer hw
    obtain ⟨hk', hs'⟩ := hs.abandonSwap (w := { w with pointerCommitted := false }) rfl rfl
    exact ⟨hk.trans hk', hs'⟩

section

variable (h : m.Sound)

include h

theorem Sound.accepts {ir : Bool} {out : Except GenerationSwapError Unit × RuntimeManager}
    (ho : m.Accepts ir out) : out.2.Sound := by
  rcases ho with ⟨e, rfl⟩ | ⟨w, a, hw, ha, rfl⟩
  · exact h
  have hk := keeps_publish (h.idle_new hw) a
  obtain ⟨hact, hs, _⟩ := retire_frame (m.publish w a) w.old ir
  refine sound_settled ((hk.books h.books).retire (hk.idle (h.idle_old hw)) ir) hs ?_
  intro _
  have hm : ((m.publish w a).retire w.old ir).active = w.new :=
    hact.trans ha
  rw [hm]
  exact (hk.idle (h.idle_new hw)).retire (h.distinct w hw).symm ir

theorem Sound.failClosed (ir : Bool) : (m.failClosed ir).Sound := by
  unfold RuntimeManager.failClosed
  split
  · exact h
  rename_i w hw
  have hk : Keeps m { m with pendingSwap := false, admissionClosed := true, swap := none } :=
    .of_eq rfl rfl rfl rfl
  obtain ⟨_, hs, hg⟩ := retire_frame
    { m with pendingSwap := false, admissionClosed := true, swap := none } w.old ir
  refine sound_settled ((hk.books h.books).retire (hk.idle (h.idle_old hw)) ir) hs ?_
  -- nothing opens the gate again
  intro ho
  rw [hg] at ho
  cases ho

theorem Sound.dropSwap : Keeps m m.dropSwap ∧ m.dropSwap.Sound := by
  unfold RuntimeManager.dropSwap
  split
  · exact h.same
  rename_i w hw
  have hold := h.idle_old hw
  split
  · have hm : Keeps m { m with active := w.old } := .of_eq rfl rfl rfl rfl
    have hk := hm.trans (keeps_reinstate (hm.idle hold))
    exact h.settle (hk.trans (.of_eq rfl rfl rfl rfl)) rfl hold
  · exact h.settle (.of_eq rfl rfl rfl rfl) rfl (h.idle_active (.inr (by rw [hw]; rfl)))

theorem Sound.beginShutdown : Keeps m m.beginShutdown ∧ m.beginShutdown.Sound := by
  have hk : Keeps m m.beginShutdown :=
    (keeps_stopAccepting m m.active).trans (.of_eq rfl rfl rfl rfl)
  refine ⟨hk, hk.books h.books, h.distinct, h.pointer, ?_⟩
  intro hl i hi
  have hs : m.swap.isSome = true := by
    rcases hl with ho | hs
    · cases ho
    · exact hs
  exact hk.idle (h.idle (.inr hs) i hi)

/-- **Step lemma.** -/
theorem Sound.step (op : Operation) : (m.step op).Sound := by
  cases op with
  | acquire => exact h.acquire.2
  | releaseLease i => exact (h.releaseLease i).2
  | reserveReference i => exact (h.reserveReference i).2
  | dropReference i => exact (h.dropReference i).2
  | reapRetirements => exact h.reapRetirements
  | stage exp can => exact h.stage exp can
  | commitPointer => exact h.commitPointer.2
  | rollbackPointer => exact h.rollbackPointer.2
  | rollback => exact h.rollback.2
  | accept ir => exact h.accepts (m.accepts_accept ir)
  | acceptDuringShutdown ir => exact h.accepts (m.accepts_acceptDuringShutdown ir)
  | failClosed ir => exact h.failClosed ir
  | dropSwap => exact h.dropSwap.2
  | retirement i eve => exact h.retirementStep i eve
  | shutdown => exact h.beginShutdown.2

end

/-- **Run lemma.** -/
theorem sound_after (gi : Nat) (ops : List Operation) : (after gi ops).Sound :=
  run_invariant (I := Sound) (fun _ op h => h.step op) (sound_new gi) ops

/-! ## Finalizations of leased work -/

/--
**Leased work can register its finalization unless the retirement gave up on it.** In
every run, for a call of `try_retain_finalization` on a slot on which a lease is out at
both of its looks at the state: the call gives out a guard exactly if at neither look
the retirement task of the slot had timed out waiting for the leases.
-/
theorem retains_finalization_iff (generationId : Nat) (before between : List Operation)
    (i : SlotRef) (hfirst : 0 < ((after generationId before).slots i).activeLeases)
    (hsecond : 0 < ((after generationId (before ++ between)).slots i).activeLeases) :
    GenerationSlot.tryRetainFinalization ((after generationId before).slots i)
        ((after generationId (before ++ between)).slots i) = true ↔
      ((after generationId before).slots i).gaveUpOnLeases = false ∧
        ((after generationId (before ++ between)).slots i).gaveUpOnLeases = false := by
  have hok := (sound_after generationId before).books.slotOk i
  have hok' := (sound_after generationId (before ++ between)).books.slotOk i
  rw [GenerationSlot.tryRetainFinalization, Bool.and_eq_true, hok.retainable_iff hfirst,
    hok'.retainable_iff hsecond]

/-- A request is admitted, then its generation is replaced. -/
def replacedUnderLease : List Operation :=
  [.acquire, .stage 1 (some 2), .commitPointer, .accept true]

theorem retains_finalization_before_timeout :
    GenerationSlot.tryRetainFinalization ((after 1 replacedUnderLease).slots 0)
      ((after 1 (replacedUnderLease ++ [.reserveReference 0])).slots 0) = true :=
  (retains_finalization_iff 1 replacedUnderLease [.reserveReference 0] 0 (by decide)
    (by decide)).mpr (by decide)

/-- The lease is still out when the task gives up, and no reference is given out any more. -/
theorem timed_out_slot_refuses_references :
    let m := after 1 (replacedUnderLease ++ [.retirement 0 .leasesTimeout])
    m.shutdown = false ∧ (m.slots 0).activeLeases = 1 ∧
      GenerationSlot.tryRetainFinalization (m.slots 0) (m.slots 0) = false := by
  decide

end RuntimeManager

end EggPool.Runtime
