import EggPool.Runtime.Interleaving

/-!
# Leases, guards and the close of a slot

Two invariants carry the safety of a reload. `Published` says who may write a slot: the
pointer, the swap and the rest of an abandoned swap speak of slots that nobody retires, and
while they do, the gate is closed. So a task that has seen the gate open under the lock finds
pointer and slot as it saw them until it has its lease. `Accounted` says that the counters of
a slot count the handles that are out, and that a retirement task that has seen a counter at
zero has not been overtaken since: no lease is granted on a slot that is retired, and no guard
once its state has moved on.
-/

namespace EggPool.Runtime

open EggPool.Lib RuntimeManager GenerationSlot

@[simp]
theorem inc_apply (f : SlotRef → Nat) (i j : SlotRef) :
    inc f i j = if j = i then f j + 1 else f j := rfl

@[simp]
theorem dec_apply (f : SlotRef → Nat) (i j : SlotRef) :
    dec f i j = if j = i then f j - 1 else f j := rfl

/-- The slot an access is about. -/
def Unwinding.slot : Unwinding → Option SlotRef
  | .storeActive i | .setActive i | .setAccepting i | .stopAccepting i => some i
  | .finishGate => none

/-- The gate is opened last. -/
def WellEnded : List Unwinding → Prop
  | [] => True
  | .finishGate :: rest => rest = []
  | _ :: rest => WellEnded rest

/-- What the task in the section of `acquire` has seen is still so. -/
def Current (m : RuntimeManager) : Option Acquiring → Prop
  | none | some .entered => True
  | some .sawOpen => m.admissionClosed = false
  | some (.loaded i) => m.admissionClosed = false ∧ m.active = i
  | some (.sawAccepting i) =>
    m.admissionClosed = false ∧ m.active = i ∧ (m.slots i).accepting = true

/-- The task of the slot has seen that there is no reference left. -/
def GenerationSlot.pastReferences (slot : GenerationSlot) : Bool :=
  match slot.retirement with
  | some .referencesDrained | some .closing | some (.finished none) => true
  | _ => false

namespace World

/-- The slots that publication may still write. -/
def InPlay (w : World) (i : SlotRef) : Prop :=
  i = w.manager.active ∨ (∃ s, w.manager.swap = some s ∧ (i = s.old ∨ i = s.new)) ∨
    ∃ u ∈ w.unwinding, u.slot = some i

/-- The unfinished swap, if there is one. -/
structure Swapping (w : World) (s : StagedGenerationSwap) : Prop where
  distinct : s.old ≠ s.new
  pointer : w.manager.active = if s.pointerCommitted then s.new else s.old
  gated : w.manager.admissionClosed = true
  alone : w.unwinding = []

/-- **Publication is about slots that nobody retires, behind a closed gate.** -/
structure Published (w : World) : Prop where
  running : w.manager.shutdown = false
  swapping : ∀ s, w.manager.swap = some s → w.Swapping s
  unwindingGated : w.unwinding ≠ [] → w.manager.admissionClosed = true
  wellEnded : WellEnded w.unwinding
  inPlay : ∀ i, w.InPlay i →
    i < w.manager.nextSlot ∧ (w.manager.slots i).retirement = none ∧ i ∉ w.scheduling
  distinct : w.scheduling.Nodup
  scheduled : ∀ i ∈ w.scheduling,
    i < w.manager.nextSlot ∧ (w.manager.slots i).retirement = none
  current : Current w.manager w.acquiring

/-- A slot with everything that is out on it. -/
structure Account where
  slot : GenerationSlot
  (leases guards looked reserved refused : Nat)

/-- **The counters count the handles**, and a counter that was seen at zero stays there. -/
structure Account.Balanced (a : Account) : Prop where
  slotOk : a.slot.Ok
  leases : a.slot.activeLeases = a.leases
  references : a.slot.terminalReferences = a.guards + a.reserved + a.refused
  drained : a.slot.pastReferences = true → a.guards = 0

/-- Nothing has ever been given out. -/
def Account.Unused (a : Account) : Prop :=
  a.leases = 0 ∧ a.guards = 0 ∧ a.looked = 0 ∧ a.reserved = 0 ∧ a.refused = 0

def account (w : World) (i : SlotRef) : Account :=
  ⟨w.manager.slots i, w.leases i, w.guards i, w.looked i, w.reserved i, w.refused i⟩

structure Accounted (w : World) : Prop where
  balanced : ∀ i, (w.account i).Balanced
  unused : ∀ i, w.manager.nextSlot ≤ i → (w.account i).Unused

/-- What every move keeps. -/
structure Safe (w : World) : Prop where
  published : w.Published
  accounted : w.Accounted

theorem published_new (g : Nat) : (new g).Published where
  running := rfl
  swapping := by
    intro s h
    cases h
  unwindingGated h := absurd rfl h
  wellEnded := trivial
  inPlay := by
    rintro i (rfl | ⟨s, hs, -⟩ | ⟨u, hu, -⟩)
    · exact ⟨Nat.zero_lt_one, rfl, List.not_mem_nil⟩
    · cases hs
    · cases hu
  distinct := List.nodup_nil
  scheduled := by
    intro i h
    cases h
  current := trivial

theorem accounted_new (g : Nat) : (new g).Accounted where
  balanced _ := ⟨.of_none rfl rfl, rfl, rfl, fun _ => rfl⟩
  unused _ _ := ⟨rfl, rfl, rfl, rfl, rfl⟩

end World

/-! ## What the lock protects -/

theorem Current.of_eq {m m' : RuntimeManager} {acquiring : Option Acquiring}
    (h : Current m acquiring) (hg : m'.admissionClosed = m.admissionClosed)
    (hact : m'.active = m.active) (ha : ∀ i, (m'.slots i).accepting = (m.slots i).accepting) :
    Current m' acquiring := by
  unfold Current at h ⊢
  rw [hg, hact]
  split at h
  · trivial
  · trivial
  · exact h
  · exact h
  · rwa [ha]

/-- Behind a closed gate no task has seen anything that could change. -/
theorem Current.of_gated {m : RuntimeManager} {acquiring : Option Acquiring}
    (h : Current m acquiring) (hg : m.admissionClosed = true) (m' : RuntimeManager) :
    Current m' acquiring := by
  unfold Current at h ⊢
  rw [hg] at h
  split at h
  · trivial
  · trivial
  · cases h
  · cases h.1
  · cases h.1

namespace World

variable {w w' : World} {i : SlotRef}

/-- Nothing that publication looks at has changed, and no slot has been retired. -/
structure SameStage (w w' : World) : Prop where
  active : w'.manager.active = w.manager.active
  nextSlot : w'.manager.nextSlot = w.manager.nextSlot
  gate : w'.manager.admissionClosed = w.manager.admissionClosed
  swap : w'.manager.swap = w.manager.swap
  shutdown : w'.manager.shutdown = w.manager.shutdown
  unwinding : w'.unwinding = w.unwinding
  scheduling : w'.scheduling = w.scheduling
  unretired : ∀ i, (w.manager.slots i).retirement = none → (w'.manager.slots i).retirement = none

theorem SameStage.inPlay (h : SameStage w w') (hi : w'.InPlay i) : w.InPlay i := by
  unfold InPlay at hi ⊢
  rwa [h.active, h.swap, h.unwinding] at hi

theorem Published.of_sameStage (h : w.Published) (hm : SameStage w w')
    (hr : Current w'.manager w'.acquiring) : w'.Published where
  running := hm.shutdown.trans h.running
  swapping := by
    intro s hs
    obtain ⟨hd, hp, hg, ha⟩ := h.swapping s (hm.swap ▸ hs)
    exact ⟨hd, hm.active.trans hp, hm.gate.trans hg,
      hm.unwinding.trans ha⟩
  unwindingGated := by
    rw [hm.unwinding, hm.gate]
    exact h.unwindingGated
  wellEnded := hm.unwinding ▸ h.wellEnded
  inPlay := by
    intro i hi
    obtain ⟨hc, hu, hn⟩ := h.inPlay i (hm.inPlay hi)
    rw [hm.nextSlot, hm.scheduling]
    exact ⟨hc, hm.unretired i hu, hn⟩
  distinct := hm.scheduling ▸ h.distinct
  scheduled := by
    rw [hm.nextSlot, hm.scheduling]
    intro i hi
    obtain ⟨hc, hu⟩ := h.scheduled i hi
    exact ⟨hc, hm.unretired i hu⟩
  current := hr

/-- A write to a slot that concerns neither its retirement nor whether it accepts. -/
theorem Published.setSlot (h : w.Published) {g : GenerationSlot → GenerationSlot}
    (hr : (w.manager.slots i).retirement = none → (g (w.manager.slots i)).retirement = none)
    (ha : (g (w.manager.slots i)).accepting = (w.manager.slots i).accepting) :
    { w with manager := w.manager.setSlot i g }.Published := by
  refine h.of_sameStage ⟨rfl, rfl, rfl, rfl, rfl, rfl, rfl, fun j hj => ?_⟩
    (h.current.of_eq rfl rfl fun j => ?_)
  · rw [slots_setSlot]
    split
    · rename_i hji
      subst hji
      exact hr hj
    · exact hj
  · rw [slots_setSlot]
    split
    · rename_i hji
      subst hji
      exact ha
    · rfl

/-- The handles and the calls under way have no part in it. -/
theorem Published.of_eq (h : w.Published) (hm : w'.manager = w.manager)
    (ha : w'.acquiring = w.acquiring) (hu : w'.unwinding = w.unwinding)
    (hs : w'.scheduling = w.scheduling) : w'.Published := by
  refine h.of_sameStage ?_ ?_
  · constructor
    all_goals first
      | rw [hm]
      | assumption
    exact fun _ hi => hi
  · rw [hm, ha]
    exact h.current

/-! ## Leases -/

/-- A move that is about one slot. -/
theorem Accounted.of_account (h : w.Accounted) (i : SlotRef)
    (ho : ∀ j, j ≠ i → w'.account j = w.account j) (hs : (w'.account i).Balanced)
    (hn : w'.manager.nextSlot = w.manager.nextSlot)
    (hu : w.manager.nextSlot ≤ i → (w'.account i).Unused) : w'.Accounted where
  balanced := by
    intro j
    by_cases hj : j = i
    · rwa [hj]
    · rw [ho j hj]
      exact h.balanced j
  unused := by
    intro j hnew
    rw [hn] at hnew
    by_cases hj : j = i
    · rw [hj] at hnew ⊢
      exact hu hnew
    · rw [ho j hj]
      exact h.unused j hnew

/-- What has been given out on a slot was given out after the slot was made. -/
theorem Accounted.created (h : w.Accounted) (hu : ¬ (w.account i).Unused) : i < w.manager.nextSlot:=
  Nat.lt_of_not_le fun hnew => hu (h.unused i hnew)

theorem Safe.acquireNext (h : w.Safe) : w.acquireNext.Safe := by
  have hc := h.published.current
  have hm : ∀ acquiring, Current w.manager acquiring → { w with acquiring := acquiring }.Safe :=
    fun acquiring hnew => ⟨h.published.of_sameStage
      ⟨rfl, rfl, rfl, rfl, rfl, rfl, rfl, fun _ hi => hi⟩ hnew, h.accounted.1, h.accounted.2⟩
  unfold World.acquireNext
  split
  · exact h
  · split
    · exact hm none trivial
    rename_i ho
    simp only [Bool.or_eq_true, not_or, Bool.not_eq_true] at ho
    exact hm _ ho.2
  · rename_i ha
    rw [ha] at hc
    exact hm _ ⟨hc, rfl⟩
  · rename_i ha
    rw [ha] at hc
    split
    · rename_i hac
      exact hm _ ⟨hc.1, hc.2, hac⟩
    · exact hm none trivial
  · rename_i i ha
    rw [ha] at hc
    constructor
    · have hl := (hm none trivial).published.setSlot (i := i)
        (g := fun slot => { slot with activeLeases := slot.activeLeases + 1 }) id rfl
      exact hl.of_eq rfl rfl rfl rfl
    -- the slot is the active one, so nobody retires it
    obtain ⟨hr, hu, -⟩ := h.published.inPlay i (.inl hc.2.1.symm)
    obtain ⟨hok, hl, hf, hd⟩ := h.accounted.balanced i
    refine h.accounted.of_account i (fun j hj => ?_) ⟨?_, ?_, ?_, ?_⟩ rfl
      fun hnew => absurd hr (Nat.not_lt.mpr hnew)
    · simp [account, hj]
    · simp only [account, GenerationSlot.Ok, hu, slots_setSlot] at hok ⊢
      exact hok
    · simpa [account] using hl
    · simpa [account] using hf
    · simpa [account, pastReferences] using hd

theorem Accounted.releaseLease (h : w.Accounted) (i : SlotRef) : (w.releaseLease i).Accounted := by
  unfold World.releaseLease
  split
  · rename_i hls
    obtain ⟨hok, hl, hr, hd⟩ := h.balanced i
    have hc : i < w.manager.nextSlot :=
      h.created fun hu => absurd hu.1 (Nat.ne_of_gt hls)
    refine h.of_account i (fun j hj => ?_) ⟨?_, ?_, ?_, ?_⟩ rfl
      fun hnew => absurd hc (Nat.not_lt.mpr hnew)
    · simp [account, hj, RuntimeManager.releaseLease]
    · refine hok.of_le ?_ ?_ ?_ <;> simp [account, RuntimeManager.releaseLease]
    · have hn : (w.manager.slots i).activeLeases = w.leases i := hl
      simp [account, RuntimeManager.releaseLease, hn]
    · simpa [account, RuntimeManager.releaseLease] using hr
    · simpa [account, RuntimeManager.releaseLease, pastReferences] using hd
  · exact h

/-! ## Finalization guards -/

/-- The references of a slot change, and with them what they count. -/
theorem Account.Balanced.recount {a b : Account} (h : a.Balanced)
    (hs : b.slot = { a.slot with terminalReferences := b.guards + b.reserved + b.refused })
    (hl : b.leases = a.leases)
    (hg : b.guards ≤ a.guards ∨ a.slot.pastReferences = false) : b.Balanced where
  slotOk := by
    rw [hs]
    exact h.slotOk.of_le rfl rfl (Nat.le_refl _)
  leases := by
    rw [hs, hl]
    exact h.leases
  references := by rw [hs]
  drained := by
    intro hp
    rw [hs] at hp
    rcases hg with hf | hn
    · have hz := h.drained hp
      omega
    · exact absurd (hp.symm.trans hn) (by decide)

/-- A move that changes the references of one slot and what they count. -/
theorem Accounted.recount (h : w.Accounted) (hu : ¬ (w.account i).Unused)
    (ho : ∀ j, j ≠ i → w'.account j = w.account j)
    (hs : w'.manager.slots i = { w.manager.slots i with
      terminalReferences := w'.guards i + w'.reserved i + w'.refused i })
    (hl : w'.leases i = w.leases i)
    (hg : w'.guards i ≤ w.guards i ∨ (w.manager.slots i).pastReferences = false)
    (hn : w'.manager.nextSlot = w.manager.nextSlot) : w'.Accounted :=
  h.of_account i ho ((h.balanced i).recount hs hl hg) hn
    fun hnew => absurd (h.created hu) (Nat.not_lt.mpr hnew)

theorem Accounted.exchange (h : w.Accounted) (i : SlotRef) : (w.exchange i).Accounted := by
  unfold World.exchange
  split
  · rename_i hl
    have hr := (h.balanced i).references
    simp only [account] at hr
    refine h.recount (fun hu => absurd hu.2.2.1 (Nat.ne_of_gt hl)) (fun j hj => ?_) ?_
      rfl (.inl (Nat.le_refl _)) rfl
    · simp [account, hj, RuntimeManager.reserveReference]
    · simp only [RuntimeManager.reserveReference, slots_setSlot, if_true, inc_apply]
      congr 1
      omega
  · exact h

theorem Accounted.undoReservation (h : w.Accounted) (i : SlotRef) :
    (w.undoReservation i).Accounted := by
  unfold World.undoReservation
  split
  · rename_i hr
    have hf := (h.balanced i).references
    simp only [account] at hf
    refine h.recount (fun hu => absurd hu.2.2.2.2 (Nat.ne_of_gt hr))
      (fun j hj => ?_) ?_ rfl (.inl (Nat.le_refl _)) rfl
    · simp [account, hj, RuntimeManager.dropReference]
    · simp only [RuntimeManager.dropReference, slots_setSlot, if_true, dec_apply]
      congr 1
      omega
  · exact h

theorem Accounted.dropGuard (h : w.Accounted) (i : SlotRef) : (w.dropGuard i).Accounted := by
  unfold World.dropGuard
  split
  · rename_i hg
    have hr := (h.balanced i).references
    simp only [account] at hr
    refine h.recount (fun hu => absurd hu.2.1 (Nat.ne_of_gt hg)) (fun j hj => ?_) ?_
      rfl (.inl ?_) rfl
    · simp [account, hj, RuntimeManager.dropReference]
    · simp only [RuntimeManager.dropReference, slots_setSlot, if_true, dec_apply]
      congr 1
      omega
    · simp
  · exact h

/-- A slot that takes references has a task that has not seen them all gone. -/
theorem not_pastReferences {slot : GenerationSlot} (hok : slot.Ok)
    (hr : slot.retainable = true) : slot.pastReferences = false := by
  rw [Bool.eq_false_iff]
  intro hp
  unfold pastReferences at hp
  unfold GenerationSlot.Ok at hok
  split at hp
  case h_4 => cases hp
  all_goals
    rename_i hh
    rw [hh] at hok
    simp [retainable, hok.1] at hr

/-- **The second look gives out no guard once the task has seen the references gone.** -/
theorem Accounted.lookAgain (h : w.Accounted) (i : SlotRef) : (w.lookAgain i).Accounted := by
  unfold World.lookAgain
  split
  · rename_i hr
    have hu : ¬ (w.account i).Unused :=
      fun hn => absurd hn.2.2.2.1 (Nat.ne_of_gt hr)
    have hf := (h.balanced i).references
    simp only [account] at hf
    split
    · rename_i ht
      refine h.recount hu (fun j hj => ?_) ?_ rfl
        (.inr (not_pastReferences (h.balanced i).slotOk ht)) rfl
      · simp [account, hj]
      · have hc : (w.manager.slots i).terminalReferences =
            w.guards i + 1 + (w.reserved i - 1) + w.refused i := by omega
        simp [← hc]
    · refine h.recount hu (fun j hj => ?_) ?_ rfl (.inl (Nat.le_refl _)) rfl
      · simp [account, hj]
      · have hc : (w.manager.slots i).terminalReferences =
            w.guards i + (w.reserved i - 1) + (w.refused i + 1) := by omega
        simp [← hc]
  · exact h

theorem Accounted.look (h : w.Accounted) (i : SlotRef) : (w.look i).Accounted := by
  unfold World.look
  split
  · rename_i hl
    obtain ⟨hok, hle, hr, hd⟩ := h.balanced i
    refine h.of_account i (fun j hj => ?_) ⟨hok, hle, hr, hd⟩ rfl
      fun hnew => absurd hl.1 (Nat.not_lt.mpr hnew)
    simp [account, hj]
  · exact h

theorem Accounted.exchangeFails (h : w.Accounted) (i : SlotRef) : (w.exchangeFails i).Accounted:= by
  obtain ⟨hok, hl, hr, hd⟩ := h.balanced i
  refine h.of_account i (fun j hj => ?_) ⟨hok, hl, hr, hd⟩ rfl fun hnew => ?_
  · simp [account, World.exchangeFails, hj]
  obtain ⟨h1, h2, h3, h4, h5⟩ := h.unused i hnew
  refine ⟨h1, h2, ?_, h4, h5⟩
  have hlo : w.looked i = 0 := h3
  simp [account, World.exchangeFails, hlo]

/-! ## Retirement -/

section Task

variable {slot : GenerationSlot} {event : RetirementEvent}

/-- A task does not touch what calls from outside count. -/
theorem counts_retireSlot (slot : GenerationSlot) (event : RetirementEvent) :
    (retireSlot slot event).accepting = slot.accepting ∧
      (retireSlot slot event).activeLeases = slot.activeLeases ∧
      (retireSlot slot event).terminalReferences = slot.terminalReferences := by
  fun_cases retireSlot slot event <;> exact ⟨rfl, rfl, rfl⟩

/-- The task goes past the references only when it sees none. -/
theorem pastReferences_retireSlot (h : (retireSlot slot event).pastReferences = true) :
    slot.pastReferences = true ∨ slot.terminalReferences = 0 := by
  revert h
  fun_cases retireSlot slot event with
  | case2 | case6 | case11 => exact .inl
  | case5 hp hz => exact fun _ => .inr hz
  | case8 hp | case9 hp => exact fun _ => .inl (by rw [pastReferences, hp])
  | _ => rintro ⟨⟩

end Task

theorem Published.retirementStep (h : w.Published) (i : SlotRef) (event : RetirementEvent) :
    { w with manager := w.manager.retirementStep i event }.Published :=
  h.setSlot (g := fun slot => retireSlot slot event)
    (fun hu => by simp [retireSlot, hu]) (counts_retireSlot _ event).1

theorem Accounted.retirementStep (h : w.Accounted) (i : SlotRef) (event : RetirementEvent) :
    { w with manager := w.manager.retirementStep i event }.Accounted := by
  obtain ⟨hok, hle, hr, hd⟩ := h.balanced i
  obtain ⟨-, hl, hf⟩ := counts_retireSlot (w.manager.slots i) event
  have hs : (w.manager.retirementStep i event).slots i = retireSlot (w.manager.slots i) event := by
    simp [RuntimeManager.retirementStep]
  refine h.of_account i (fun j hj => ?_) ⟨?_, ?_, ?_, ?_⟩ rfl (h.unused i)
  · simp [account, hj, RuntimeManager.retirementStep]
  · change ((w.manager.retirementStep i event).slots i).Ok
    rw [hs]
    exact hok.retireSlot event
  · change ((w.manager.retirementStep i event).slots i).activeLeases = _
    rwa [hs, hl]
  · change ((w.manager.retirementStep i event).slots i).terminalReferences = _
    rwa [hs, hf]
  · intro hp
    change ((w.manager.retirementStep i event).slots i).pastReferences = true at hp
    rw [hs] at hp
    rcases pastReferences_retireSlot hp with hb | hn
    · exact hd hb
    -- the count that was seen at zero is the sum of what is out
    have hm : w.guards i + w.reserved i + w.refused i = 0 := hr.symm.trans hn
    change w.guards i = 0
    omega

/-- Scheduling a retirement spawns a task or leaves the slots alone. -/
theorem scheduleRetirement_eq (m : RuntimeManager) (i : SlotRef) : ∃ g retiring tasks,
    m.scheduleRetirement i =
      { m.setSlot i g with retiring := retiring, retirementTasks := tasks } ∧
    (g = id ∨ g = fun slot =>
      { slot with retirementScheduled := true, retirement := some .awaitingLeases }) := by
  rcases m.scheduleRetirement_cases i with h | h <;> rw [h]
  · refine ⟨id, m.reapRetirements.retiring, m.reapRetirements.retirementTasks, ?_, .inl rfl⟩
    simp [setSlot, RuntimeManager.reapRetirements]
  · exact ⟨_, _, _, rfl, .inr rfl⟩

theorem Safe.schedule (h : w.Safe) (i : SlotRef) : (w.schedule i).Safe := by
  unfold World.schedule
  split
  · rename_i hi
    obtain ⟨hp, ha⟩ := h
    obtain ⟨g, retiring, tasks, hm, hg⟩ := scheduleRetirement_eq w.manager i
    rw [hm]
    have ht : ∀ j, j ≠ i → (w.manager.setSlot i g).slots j = w.manager.slots j := by
      intro j hj
      rw [slots_setSlot, if_neg hj]
    refine ⟨⟨hp.running, ?_, hp.unwindingGated, hp.wellEnded, ?_, hp.distinct.erase i, ?_,
      hp.current.of_eq rfl rfl ?_⟩, ha.of_account i ?_ ?_ rfl ?_⟩
    · intro s hs
      obtain ⟨hd, hpo, hgt, hal⟩ := hp.swapping s hs
      exact ⟨hd, hpo, hgt, hal⟩
    · intro j hj
      obtain ⟨hc, hut, hu⟩ := hp.inPlay j hj
      -- a slot in play is not one whose retirement is scheduled
      have hne : j ≠ i := fun hji => hu (hji ▸ hi)
      rw [ht j hne]
      exact ⟨hc, hut, fun hmem => hu (List.mem_of_mem_erase hmem)⟩
    · intro j hj
      obtain ⟨hne, hmem⟩ := (hp.distinct.mem_erase_iff).mp hj
      rw [ht j hne]
      exact hp.scheduled j hmem
    · intro j
      rw [slots_setSlot]
      rcases hg with rfl | rfl <;> split <;> rfl
    · intro j hj
      simp [account, hj]
    · obtain ⟨hok, hl, hr, hd⟩ := ha.balanced i
      obtain ⟨-, hu⟩ := hp.scheduled i hi
      rcases hg with rfl | rfl
      · refine ⟨?_, ?_, ?_, ?_⟩ <;> simpa [account]
      · refine ⟨?_, ?_, ?_, ?_⟩
        · simpa [account, GenerationSlot.Ok, hu, retainable] using hok
        · simpa [account] using hl
        · simpa [account] using hr
        · simp [account, pastReferences]
    · exact ha.unused i
  · exact h

end World

end EggPool.Runtime
