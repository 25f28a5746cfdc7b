import EggPool.Runtime.Retirement

/-!
# The retirement backlog

A reload is refused while four retired slots are still around. A slot leaves when
its task has closed it. A task that gives up, or that was never started, leaves the
slot where it is, and nothing removes it later. So the number of slots that cannot
leave is bounded by the number of retirements that were abandoned, and as long as
that is below four, a manager without tasks is never out of room.
-/

namespace EggPool.Runtime

open EggPool.Lib List GenerationSlot

/-- Nothing will take the slot out of the backlog: no task was started, or it failed. -/
def GenerationSlot.isStuck (slot : GenerationSlot) : Bool :=
  match slot.retirement with
  | none => true
  | some (.finished (some _)) => true
  | _ => false

namespace RuntimeManager

/-- The slots of the backlog that nothing will take out. -/
def stuckCount (m : RuntimeManager) : Nat := m.retiring.countP fun i => (m.slots i).isStuck

/-- The old slot of the swap gets no task when it is retired. -/
def leavesUntended (m : RuntimeManager) (inRuntime : Bool) : Bool :=
  m.swap.any fun w =>
    !inRuntime || m.reapRetirements.hasRetirementTask (m.slots w.old).generationId

/-- The operation abandons a retirement: its task gives up, or it is not started. -/
def abandons (m : RuntimeManager) : Operation → Bool
  | .retirement i event =>
    !(m.slots i).isStuck && (retireSlot (m.slots i) event).isStuck
  | .accept inRuntime => (m.accept inRuntime).1.isOk && m.leavesUntended inRuntime
  | .acceptDuringShutdown inRuntime =>
    (m.acceptDuringShutdown inRuntime).1.isOk && m.leavesUntended inRuntime
  | .failClosed inRuntime => m.leavesUntended inRuntime
  | _ => false

/-- How many retirements a run abandons. -/
def abandoned (m : RuntimeManager) : List Operation → Nat
  | [] => 0
  | op :: ops => (if m.abandons op then 1 else 0) + (m.step op).abandoned ops

variable {m : RuntimeManager} {i : SlotRef} {g : GenerationSlot → GenerationSlot}

/-- A count over distinct names moves by one at most when one of them changes. -/
theorem countP_le_of_one {α : Type} {l : List α} (hl : l.Nodup) {p q : α → Bool} (i : α)
    (h : ∀ j, j ≠ i → q j = p j) :
    l.countP q ≤ l.countP p + if !p i && q i then 1 else 0 := by
  induction l with
  | nil => exact Nat.zero_le _
  | cons a l ih =>
    obtain ⟨ha, hl⟩ := nodup_cons.mp hl
    rw [countP_cons, countP_cons]
    by_cases hai : a = i
    · -- the rest of the list does not name `i`
      have hr : l.countP q = l.countP p := by
        refine countP_congr fun j hj => ?_
        rw [h j fun hji => ha (hai ▸ hji ▸ hj)]
      rw [hr, hai]
      cases p i <;> cases q i <;> simp
    · have := ih hl
      rw [h a hai]
      omega

theorem SameTasks.stuckCount {m' : RuntimeManager} (h : SameTasks m m') :
    m'.stuckCount = m.stuckCount := by
  unfold RuntimeManager.stuckCount
  rw [h.retiring]
  refine countP_congr fun i _ => ?_
  rw [isStuck, isStuck, h.tasks i]

theorem stuckCount_reapRetirements_le : m.reapRetirements.stuckCount ≤ m.stuckCount :=
  List.Sublist.countP_le filter_sublist

/-- A slot that gets a task is not stuck, wherever it stands in the backlog. -/
theorem stuckCount_spawnRetirement_le (m : RuntimeManager) (i : SlotRef) {l : List SlotRef}
    (hsub : m.retiring.Sublist (l ++ [i])) (hl : i ∉ l) :
    (m.spawnRetirement i).stuckCount ≤ l.countP fun j => (m.slots j).isStuck := by
  have hnew : ((m.spawnRetirement i).slots i).isStuck = false := by
    simp [spawnRetirement, isStuck]
  have hr : l.countP (fun j => ((m.spawnRetirement i).slots j).isStuck) =
      l.countP fun j => (m.slots j).isStuck := by
    refine countP_congr fun j hj => ?_
    have hji : j ≠ i := fun hji => hl (hji ▸ hj)
    simp [spawnRetirement, hji]
  have hold : m.retiring.countP (fun j => ((m.spawnRetirement i).slots j).isStuck) ≤
      l.countP fun j => (m.slots j).isStuck := by
    refine Nat.le_trans hsub.countP_le ?_
    rw [countP_append, countP_singleton, hnew, hr]
    simp
  show countP _ (if m.retiring.contains i then m.retiring else m.retiring ++ [i]) ≤ _
  split
  · exact hold
  · rwa [countP_append, countP_singleton, hnew]

theorem stuckCount_scheduleRetirement_le (hf : (m.slots i).retirementScheduled = false)
    {l : List SlotRef} (hm : m.retiring = l ++ [i]) (hl : i ∉ l) :
    (m.scheduleRetirement i).stuckCount ≤ (l.countP fun j => (m.slots j).isStuck) +
      if m.reapRetirements.hasRetirementTask (m.slots i).generationId then 1 else 0 := by
  have hsub : m.reapRetirements.retiring.Sublist (l ++ [i]) := hm ▸ filter_sublist
  have hall : m.reapRetirements.stuckCount ≤ (l.countP fun j => (m.slots j).isStuck) + 1 := by
    refine Nat.le_trans hsub.countP_le ?_
    rw [countP_append]
    exact Nat.add_le_add_left countP_le_length _
  have hf' : (m.reapRetirements.slots i).retirementScheduled ≠ true := by
    rw [show m.reapRetirements.slots i = m.slots i from rfl, hf]
    exact Bool.false_ne_true
  unfold scheduleRetirement
  rw [if_neg hf', show m.reapRetirements.slots i = m.slots i from rfl]
  split
  · exact hall
  · exact stuckCount_spawnRetirement_le _ i hsub hl

/-- Retiring an idle slot: it is stuck only if it gets no task. -/
theorem stuckCount_retire_le (hi : m.Idle i) (ir : Bool) :
    (m.retire i ir).stuckCount ≤ m.stuckCount +
      if !ir || m.reapRetirements.hasRetirementTask (m.slots i).generationId then 1 else 0 := by
  cases ir with
  | false =>
    show countP _ (m.retiring ++ [i]) ≤ _
    rw [countP_append]
    exact Nat.add_le_add_left countP_le_length _
  | true =>
    exact stuckCount_scheduleRetirement_le (m := { m with retiring := m.retiring ++ [i] })
      hi.unscheduled rfl hi.kept

/-- Slots that keep their generation ids keep what is registered. -/
theorem hasRetirementTask_congr {m' : RuntimeManager} (h : Keeps m m')
    (hid : ∀ j, (m'.slots j).generationId = (m.slots j).generationId) (generationId : Nat) :
    m'.reapRetirements.hasRetirementTask generationId =
      m.reapRetirements.hasRetirementTask generationId := by
  simp only [reapRetirements, hasRetirementTask, isRetiring, h.registered, h.tasks, hid]
  rfl

theorem stuckCount_accepts_le (hs : m.Sound) {ir : Bool}
    {out : Except GenerationSwapError Unit × RuntimeManager} (ho : m.Accepts ir out) :
    out.2.stuckCount ≤ m.stuckCount + if out.1.isOk && m.leavesUntended ir then 1 else 0 := by
  rcases ho with ⟨e, rfl⟩ | ⟨w, a, hw, -, rfl⟩
  · exact Nat.le_add_right _ _
  have hk := keeps_publish (hs.idle_new hw) a
  have hid : ∀ j, ((m.publish w a).slots j).generationId = (m.slots j).generationId := by
    intro j
    simp only [publish, slots_setSlot]
    split <;> rfl
  have ht := hasRetirementTask_congr hk hid (m.slots w.old).generationId
  have hr := stuckCount_retire_le (hk.idle (hs.idle_old hw)) ir
  rw [hid, hk.stuckCount] at hr
  rw [leavesUntended, hw, Option.any_some, ← ht]
  exact hr

/-! ## What each operation does to the backlog -/

/-- The new slot of a stage is not in the backlog. -/
theorem stuckCount_stage_le (hn : m.Sound) (ex : Nat) (c : Option Nat) :
    (m.stage ex c).2.stuckCount ≤ m.stuckCount := by
  refine Nat.le_trans ?_ (stuckCount_reapRetirements_le)
  rcases m.stage_cases ex c with ⟨e, hr, -⟩ | ⟨gi, _, hs⟩
  · exact Nat.le_of_eq (by rw [hr])
  rw [hs]
  refine Nat.le_of_eq (countP_congr fun i hi => ?_)
  have hne : i ≠ m.nextSlot := Nat.ne_of_lt (hn.books.reapRetirements.created i hi)
  simp [hne]

theorem stuckCount_failClosed_le (hs : m.Sound) (ir : Bool) :
    (m.failClosed ir).stuckCount ≤ m.stuckCount + if m.leavesUntended ir then 1 else 0 := by
  unfold failClosed leavesUntended
  cases hw : m.swap with
  | none => exact Nat.le_add_right _ _
  | some w =>
    have hold := hs.idle_old hw
    exact stuckCount_retire_le (m := { m with
      pendingSwap := false, admissionClosed := true, swap := none })
      ⟨hold.created, hold.kept, hold.unscheduled, hold.untended⟩ ir

/-- **Step lemma.** Only an abandoned retirement adds a stuck slot. -/
theorem stuckCount_step_le (hs : m.Sound) (op : Operation) :
    (m.step op).stuckCount ≤ m.stuckCount + if m.abandons op then 1 else 0 := by
  have hk : ∀ {m'}, Keeps m m' ∧ m'.Sound →
      m'.stuckCount ≤ m.stuckCount + if m.abandons op then 1 else 0 := by
    rintro m' ⟨h, -⟩
    rw [h.stuckCount]
    exact Nat.le_add_right _ _
  cases op with
  | acquire => exact hk hs.acquire
  | releaseLease i => exact hk (hs.releaseLease i)
  | reserveReference i => exact hk (hs.reserveReference i)
  | dropReference i => exact hk (hs.dropReference i)
  | reapRetirements => exact stuckCount_reapRetirements_le
  | stage exp can => exact stuckCount_stage_le hs exp can
  | commitPointer => exact hk hs.commitPointer
  | rollbackPointer => exact hk hs.rollbackPointer
  | rollback => exact hk hs.rollback
  | accept ir => exact stuckCount_accepts_le hs (m.accepts_accept ir)
  | acceptDuringShutdown ir => exact stuckCount_accepts_le hs (m.accepts_acceptDuringShutdown ir)
  | failClosed ir => exact stuckCount_failClosed_le hs ir
  | dropSwap => exact hk hs.dropSwap
  | retirement i event =>
    have hc := countP_le_of_one hs.books.nodup
      (p := fun j => (m.slots j).isStuck)
      (q := fun j => ((m.retirementStep i event).slots j).isStuck) i fun j hj => by
        simp [retirementStep, hj]
    have hat : (m.retirementStep i event).slots i = retireSlot (m.slots i) event := by
      simp [retirementStep]
    simp only [hat] at hc
    exact hc
  | shutdown => exact hk hs.beginShutdown

/-- **Run lemma.** -/
theorem stuckCount_run_le (ops : List Operation) : ∀ {m : RuntimeManager}, m.Sound →
      (run step m ops).stuckCount ≤ m.stuckCount + m.abandoned ops := by
  induction ops with
  | nil => intro m _; exact Nat.le_refl _
  | cons op ops ih =>
    intro m hn
    have hs := stuckCount_step_le hn op
    have hr := ih (hn.step op)
    rw [run_cons, abandoned]
    omega

/-! ## Room for the next reload -/

/--
Nobody holds anything on a retired slot, no retirement task is left to run, and a
reload is refused for want of room all the same.
-/
def Deadlocked (m : RuntimeManager) : Prop :=
  (∀ i ∈ m.retiring, (m.slots i).activeLeases = 0 ∧ (m.slots i).terminalReferences = 0) ∧
  (∀ i ∈ m.retirementTasks, (m.slots i).isRetiring = false) ∧
  ∃ expected candidate, (m.stage expected candidate).1 = .error .retirementBacklog

/-- Once no task runs, what is left of the backlog after a reap is stuck. -/
theorem length_reaped_le (hs : m.Sound)
    (hq : ∀ i ∈ m.retirementTasks, (m.slots i).isRetiring = false) :
    m.reapRetirements.retiring.length ≤ m.stuckCount := by
  rw [stuckCount, countP_eq_length_filter]
  refine (monotone_filter_right m.retiring ?_).length_le
  intro i hi
  have hn : (m.slots i).state ≠ .closed := of_decide_eq_true hi
  have hd : (m.slots i).isRetiring = false := by
    cases hr : (m.slots i).isRetiring with
    | false => rfl
    | true =>
      rw [hq i (hs.books.registered i hr)] at hr
      cases hr
  have hok := hs.books.slotOk i
  unfold GenerationSlot.Ok at hok
  unfold isRetiring at hd
  unfold isStuck
  cases hp : (m.slots i).retirement with
  | none => rfl
  | some pha =>
    rw [hp] at hok hd
    cases pha with
    | finished failure =>
      cases failure with
      | none => exact absurd hok.1 hn
      | some failure => rfl
    | awaitingLeases | leasesDrained | awaitingReferences | referencesDrained | closing =>
      cases hd

/--
**A quiet manager has room.** In every run that abandons fewer than four retirements,
no state is deadlocked: when no task is left to run, the next reload is not refused
for a full backlog.
-/
theorem quiet_manager_has_room (generationId : Nat) (ops : List Operation)
    (hfew : (new generationId).abandoned ops < MAX_RETIRING_GENERATIONS) :
    ¬ (after generationId ops).Deadlocked := by
  rintro ⟨_, hquiet, expected, candidate, hrefused⟩
  have hsound := sound_after generationId ops
  have hfull : MAX_RETIRING_GENERATIONS ≤
      (after generationId ops).reapRetirements.retiring.length := by
    rcases stage_cases _ expected candidate with ⟨e, hstage, hfull⟩ | ⟨_, _, hstage⟩
    · rw [hstage] at hrefused
      exact hfull (Except.error.inj hrefused)
    · rw [hstage] at hrefused
      cases hrefused
  have hlength := length_reaped_le hsound hquiet
  have hcount := stuckCount_run_le ops (sound_new generationId)
  have : (after generationId ops).stuckCount ≤ 0 + (new generationId).abandoned ops := hcount
  omega

/-- A reload whose old generation still has one lease when its task gives up. -/
def impatientReload (expected : Nat) (old : SlotRef) : List Operation :=
  [.acquire, .stage expected (some (expected + 1)), .commitPointer, .accept true,
    .retirement old .leasesTimeout, .releaseLease old]

theorem quiet_manager_has_room_after_one :
    ¬ (after 1 (impatientReload 1 0)).Deadlocked :=
  quiet_manager_has_room 1 (impatientReload 1 0) (by decide)

/-- Four reloads, each a little faster than a request, and there is no fifth. -/
theorem impatient_reloads_deadlock :
    (after 1 (impatientReload 1 0 ++ impatientReload 2 1 ++ impatientReload 3 2 ++
      impatientReload 4 3)).Deadlocked := by
  refine ⟨by decide, by decide, 5, some 6, by decide⟩

end RuntimeManager

end EggPool.Runtime
