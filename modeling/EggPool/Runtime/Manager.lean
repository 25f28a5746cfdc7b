import EggPool.Lib.Run

/-!
# The runtime manager

The process runs one configuration generation at a time. A reload stages a new one
behind a closed gate, moves the active pointer, and then either accepts (the gate
opens, the old generation retires) or rolls back. Requests hold leases on the
generation they were admitted under; their finalizations hold references. A
retirement task waits for both, closes the generation, and gives up on a timeout.

A slot is named by a number that stands for its `Arc`; a slot that was never
created is one nobody refers to. Every operation that the source performs under the
state lock, or as one atomic access, is one step. The futures a task awaits are
steps of their own, so other operations come between what a task sees and what it
does next.
-/

namespace EggPool.Runtime

def MAX_RETIRING_GENERATIONS : Nat := 4

inductive GenerationSlotState where
  | active | retiring | drainingFinalization | closing | closed | failedClose
  deriving DecidableEq, Repr

inductive RetirementFailure where
  | activeLeases (count : Nat)
  | finalizationReferences (count : Nat)
  | generationClose
  deriving DecidableEq, Repr

/-- Where the retirement task of a slot stands; what it reported at its end. -/
inductive RetirementPhase where
  | awaitingLeases | leasesDrained | awaitingReferences | referencesDrained | closing
  | finished (failure : Option RetirementFailure)
  deriving DecidableEq, Repr

def RetirementPhase.isFinished : RetirementPhase → Bool
  | .finished _ => true
  | .awaitingLeases | .leasesDrained | .awaitingReferences | .referencesDrained | .closing => false

structure GenerationSlot where
  generationId : Nat
  accepting : Bool
  (activeLeases terminalReferences : Nat)
  state : GenerationSlotState
  retirementScheduled : Bool
  /-- The task spawned for the slot, if one was. -/
  retirement : Option RetirementPhase
  deriving DecidableEq, Repr

namespace GenerationSlot

def new (generationId : Nat) (accepting : Bool) : GenerationSlot where
  generationId := generationId
  accepting := accepting
  activeLeases := 0
  terminalReferences := 0
  state := .active
  retirementScheduled := false
  retirement := none

/-- The states in which a slot still takes finalization references. -/
def retainable (slot : GenerationSlot) : Bool :=
  match slot.state with
  | .active | .retiring => true
  | .drainingFinalization | .closing | .closed | .failedClose => false

/--
`try_retain_finalization`, which looks at the state before and after it takes the
reference: it gives out a guard if both looks pass.
-/
def tryRetainFinalization (first second : GenerationSlot) : Bool :=
  first.retainable && second.retainable

/-- The task of the slot is still running. -/
def isRetiring (slot : GenerationSlot) : Bool := slot.retirement.any fun phase => !phase.isFinished

end GenerationSlot

/-- The name of a slot. -/
abbrev SlotRef := Nat

/-- A publication on its way; the phases in which it is over have no effect on anything. -/
structure StagedGenerationSwap where
  (old new : SlotRef)
  pointerCommitted : Bool
  deriving DecidableEq, Repr

structure RuntimeManager where
  slots : SlotRef → GenerationSlot
  (nextSlot active : SlotRef)
  (admissionClosed pendingSwap shutdown : Bool)
  publicationEpoch : Nat
  retiring : List SlotRef
  /-- The slots whose task is registered, under the generation id of the slot. -/
  retirementTasks : List SlotRef
  swap : Option StagedGenerationSwap

inductive GenerationAcquireError where
  | shuttingDown
  deriving DecidableEq, Repr

inductive GenerationStageError where
  | shuttingDown | admissionClosed | pendingSwap | retirementBacklog
  | staleGeneration (expected actual : Nat)
  | activeGenerationNotAccepting | candidateGenerationAlreadyActive | candidateTransfer
  deriving DecidableEq, Repr

inductive GenerationSwapError where
  | invalidPhase | activePointerChanged | shuttingDown
  deriving DecidableEq, Repr

namespace RuntimeManager

def new (generationId : Nat) : RuntimeManager where
  slots := fun _ => GenerationSlot.new generationId true
  nextSlot := 1
  active := 0
  admissionClosed := false
  pendingSwap := false
  shutdown := false
  publicationEpoch := 0
  retiring := []
  retirementTasks := []
  swap := none

variable (m : RuntimeManager) (i : SlotRef)

/-- Write one slot. -/
def setSlot (g : GenerationSlot → GenerationSlot) : RuntimeManager :=
  { m with slots := fun j => if j = i then g (m.slots j) else m.slots j }

/-! ## Leases and references -/

/-- `none` waits for the gate. -/
def acquire : Except GenerationAcquireError (Option SlotRef) × RuntimeManager :=
  if m.shutdown then (.error .shuttingDown, m)
  else if m.admissionClosed then (.ok none, m)
  else if !(m.slots m.active).accepting then (.ok none, m)
  else
    (.ok (some m.active),
      m.setSlot m.active fun slot => { slot with activeLeases := slot.activeLeases + 1 })

/-- An underflow is stored as zero. -/
def releaseLease : RuntimeManager :=
  m.setSlot i fun slot => { slot with activeLeases := slot.activeLeases - 1 }

/-- The exchange in `try_retain_finalization`, whatever its looks at the state say. -/
def reserveReference : RuntimeManager :=
  m.setSlot i fun slot => { slot with terminalReferences := slot.terminalReferences + 1 }

/-- A guard is dropped, or a reservation undone. -/
def dropReference : RuntimeManager :=
  m.setSlot i fun slot => { slot with terminalReferences := slot.terminalReferences - 1 }

/-! ## Retirement -/

def reapRetirements : RuntimeManager :=
  { m with
    retiring := m.retiring.filter fun i => (m.slots i).state ≠ .closed
    retirementTasks := m.retirementTasks.filter fun i => (m.slots i).isRetiring }

/-- A task is registered under the generation id. -/
def hasRetirementTask (generationId : Nat) : Bool :=
  m.retirementTasks.any fun i => (m.slots i).generationId = generationId

/-- Spawn the task of a slot and register it, unless one is there. -/
def spawnRetirement : RuntimeManager :=
  { (m.setSlot i fun slot =>
      { slot with retirementScheduled := true, retirement := some .awaitingLeases }) with
    retiring := if m.retiring.contains i then m.retiring else m.retiring ++ [i]
    retirementTasks := m.retirementTasks ++ [i] }

def scheduleRetirement : RuntimeManager :=
  let m := m.reapRetirements
  if (m.slots i).retirementScheduled then m
  else if m.hasRetirementTask (m.slots i).generationId then m
  else m.spawnRetirement i

/-- The old slot of an accepted swap is kept and, inside a runtime, its task started. -/
def retire (inRuntime : Bool) : RuntimeManager :=
  let m := { m with retiring := m.retiring ++ [i] }
  if inRuntime then m.scheduleRetirement i else m

inductive RetirementEvent where
  | sawNoLeases | leasesTimeout | startDraining | sawNoReferences | referencesTimeout
  | startClosing | closed | closeFailed
  deriving DecidableEq, Repr

/-- One step of `retire_slot`; an event that the phase does not wait for changes nothing. -/
def retireSlot (slot : GenerationSlot) (event : RetirementEvent) : GenerationSlot :=
  match slot.retirement, event with
  | some .awaitingLeases, .sawNoLeases =>
    if slot.activeLeases = 0 then { slot with retirement := some .leasesDrained } else slot
  | some .awaitingLeases, .leasesTimeout =>
    { slot with
      state := .failedClose
      retirement := some (.finished (some (.activeLeases slot.activeLeases))) }
  | some .leasesDrained, .startDraining =>
    { slot with state := .drainingFinalization, retirement := some .awaitingReferences }
  | some .awaitingReferences, .sawNoReferences =>
    if slot.terminalReferences = 0 then { slot with retirement := some .referencesDrained }
    else slot
  | some .awaitingReferences, .referencesTimeout =>
    { slot with
      state := .failedClose
      retirement :=
        some (.finished (some (.finalizationReferences slot.terminalReferences))) }
  | some .referencesDrained, .startClosing =>
    { slot with state := .closing, retirement := some .closing }
  | some .closing, .closed =>
    { slot with state := .closed, retirement := some (.finished none) }
  | some .closing, .closeFailed =>
    { slot with state := .failedClose, retirement := some (.finished (some .generationClose)) }
  | _, _ => slot

def retirementStep (event : RetirementEvent) : RuntimeManager :=
  m.setSlot i fun slot => retireSlot slot event

/-! ## Publication -/

/--
Stage a candidate, given by its generation id; a candidate that was transferred
before has none. The checks are made in the order of the source.
-/
def stage (expected : Nat) (candidate : Option Nat) :
    Except GenerationStageError Unit × RuntimeManager :=
  let m := m.reapRetirements
  let old := m.slots m.active
  if m.shutdown then (.error .shuttingDown, m)
  else if m.admissionClosed then (.error .admissionClosed, m)
  else if m.pendingSwap then (.error .pendingSwap, m)
  else if m.retiring.length ≥ MAX_RETIRING_GENERATIONS then (.error .retirementBacklog, m)
  else if old.generationId ≠ expected then
    (.error (.staleGeneration expected old.generationId), m)
  else if !old.accepting then (.error .activeGenerationNotAccepting, m)
  else if candidate = some old.generationId then (.error .candidateGenerationAlreadyActive, m)
  else
    match candidate with
    | none => (.error .candidateTransfer, m)
    | some generationId =>
      (.ok (),
        { m.setSlot m.nextSlot fun _ => GenerationSlot.new generationId false with
          nextSlot := m.nextSlot + 1
          admissionClosed := true
          pendingSwap := true
          swap := some ⟨m.active, m.nextSlot, false⟩ })

/-- The swap is over and the gate opens again, unless the process shuts down. -/
def finishGate : RuntimeManager :=
  { m with
    pendingSwap := false
    admissionClosed := if m.shutdown then m.admissionClosed else false }

variable (w : StagedGenerationSwap)

/-- The old slot serves again. -/
def reinstate : RuntimeManager :=
  m.setSlot w.old fun slot => { slot with state := .active, accepting := !m.shutdown }

def stopAccepting : RuntimeManager :=
  m.setSlot i fun slot => { slot with accepting := false }

def commitPointer : Except GenerationSwapError Unit × RuntimeManager :=
  match m.swap with
  | none => (.error .invalidPhase, m)
  | some w =>
    if w.pointerCommitted then (.error .invalidPhase, m)
    else if m.active ≠ w.old then (.error .activePointerChanged, m)
    else
      (.ok (),
        { (m.setSlot w.old fun slot =>
            { slot with accepting := false, state := .retiring }).stopAccepting w.new with
          active := w.new
          swap := some { w with pointerCommitted := true } })

/-- The pointer goes back to the old slot; admission stays closed. -/
def restorePointer : RuntimeManager :=
  { (m.reinstate w).stopAccepting w.new with
    active := w.old
    swap := some { w with pointerCommitted := false } }

def rollbackPointer : Except GenerationSwapError Unit × RuntimeManager :=
  match m.swap with
  | none => (.error .invalidPhase, m)
  | some w =>
    if !w.pointerCommitted then (.error .invalidPhase, m)
    else if m.active ≠ w.new then (.error .activePointerChanged, m)
    else (.ok (), m.restorePointer w)

/-- What is left to do once the pointer is at the old slot. -/
def abandonSwap : RuntimeManager :=
  { ((m.reinstate w).stopAccepting w.new).finishGate with swap := none }

def rollback : Except GenerationSwapError Unit × RuntimeManager :=
  match m.swap with
  | none => (.error .invalidPhase, m)
  | some w =>
    if w.pointerCommitted then
      match m.rollbackPointer with
      | (.error e, m) => (.error e, m)
      | (.ok (), m) => (.ok (), m.abandonSwap w)
    else (.ok (), m.abandonSwap w)

/-- The new slot takes over; `accepting` and the gate are what the two ways to accept differ in. -/
def publish (accepting : Bool) : RuntimeManager :=
  { m.setSlot w.new fun slot => { slot with state := .active, accepting := accepting } with
    pendingSwap := false
    admissionClosed := !accepting
    publicationEpoch := m.publicationEpoch + 1
    swap := none }

def accept (inRuntime : Bool) : Except GenerationSwapError Unit × RuntimeManager :=
  match m.swap with
  | none => (.error .invalidPhase, m)
  | some w =>
    if !w.pointerCommitted then (.error .invalidPhase, m)
    else if m.shutdown then (.error .shuttingDown, m)
    else if m.active ≠ w.new then (.error .activePointerChanged, m)
    else (.ok (), (m.publish w true).retire w.old inRuntime)

def acceptDuringShutdown (inRuntime : Bool) : Except GenerationSwapError Unit × RuntimeManager :=
  match m.swap with
  | none => (.error .invalidPhase, m)
  | some w =>
    if !w.pointerCommitted then (.error .invalidPhase, m)
    else if !m.shutdown || m.active ≠ w.new then (.error .activePointerChanged, m)
    else (.ok (), (m.publish w false).retire w.old inRuntime)

/-- The gate stays closed for good; the source does not look at the phase here. -/
def failClosed (inRuntime : Bool) : RuntimeManager :=
  match m.swap with
  | none => m
  | some w =>
    { m with pendingSwap := false, admissionClosed := true, swap := none }.retire w.old inRuntime

/-- A swap that is dropped on the way restores the pointer and the gate. -/
def dropSwap : RuntimeManager :=
  match m.swap with
  | none => m
  | some w =>
    if w.pointerCommitted then
      { ({ m with active := w.old }.reinstate w).finishGate with swap := none }
    else { m.finishGate with swap := none }

def beginShutdown : RuntimeManager :=
  { m.stopAccepting m.active with shutdown := true, admissionClosed := true }

/-! ## What the operations can do -/

@[simp]
theorem slots_setSlot {m : RuntimeManager} {i j : SlotRef} {g : GenerationSlot → GenerationSlot} :
    (m.setSlot i g).slots j = if j = i then g (m.slots j) else m.slots j := rfl

theorem acquire_cases : m.acquire.2 = m ∨ m.admissionClosed = false ∧ m.acquire.2 =
    m.setSlot m.active fun slot => { slot with activeLeases := slot.activeLeases + 1 } := by
  unfold acquire
  split
  · exact .inl rfl
  split
  · exact .inl rfl
  rename_i ho
  split
  · exact .inl rfl
  · exact .inr ⟨Bool.eq_false_iff.mpr ho, rfl⟩

theorem scheduleRetirement_cases : m.scheduleRetirement i = m.reapRetirements ∨
    m.scheduleRetirement i = m.reapRetirements.spawnRetirement i := by
  unfold scheduleRetirement
  dsimp only
  split
  · exact .inl rfl
  split
  · exact .inl rfl
  · exact .inr rfl

/-- A reload is refused for want of room only when the backlog is full. -/
theorem stage_cases (ex : Nat) (c : Option Nat) :
    (∃ e, m.stage ex c = (.error e, m.reapRetirements) ∧
      (e = .retirementBacklog → MAX_RETIRING_GENERATIONS ≤ m.reapRetirements.retiring.length)) ∨
    ∃ g, m.admissionClosed = false ∧ m.stage ex c = (.ok (),
      { m.reapRetirements.setSlot m.nextSlot fun _ => GenerationSlot.new g false with
        nextSlot := m.nextSlot + 1
        admissionClosed := true
        pendingSwap := true
        swap := some ⟨m.active, m.nextSlot, false⟩ }) := by
  unfold stage
  dsimp only
  split
  · exact .inl ⟨_, rfl, nofun⟩
  split
  · exact .inl ⟨_, rfl, nofun⟩
  rename_i ho
  split
  · exact .inl ⟨_, rfl, nofun⟩
  split
  · rename_i hf
    exact .inl ⟨_, rfl, fun _ => hf⟩
  split
  · exact .inl ⟨_, rfl, nofun⟩
  split
  · exact .inl ⟨_, rfl, nofun⟩
  split
  · exact .inl ⟨_, rfl, nofun⟩
  cases c with
  | none => exact .inl ⟨_, rfl, nofun⟩
  | some g => exact .inr ⟨g, Bool.eq_false_iff.mpr ho, rfl⟩

theorem commitPointer_cases : m.commitPointer.2 = m ∨ ∃ w, m.swap = some w ∧
    m.commitPointer.2 = { (m.setSlot w.old fun slot =>
          { slot with accepting := false, state := .retiring }).stopAccepting w.new with
        active := w.new
        swap := some { w with pointerCommitted := true } } := by
  unfold commitPointer
  cases hw : m.swap with
  | none => exact .inl rfl
  | some w =>
    dsimp only
    split
    · exact .inl rfl
    split
    · exact .inl rfl
    · exact .inr ⟨w, rfl, rfl⟩

theorem rollbackPointer_cases : (∃ e, m.rollbackPointer = (.error e, m)) ∨
    ∃ w, m.swap = some w ∧ m.rollbackPointer = (.ok (), m.restorePointer w) := by
  unfold rollbackPointer
  cases hw : m.swap with
  | none => exact .inl ⟨_, rfl⟩
  | some w =>
    dsimp only
    split
    · exact .inl ⟨_, rfl⟩
    split
    · exact .inl ⟨_, rfl⟩
    · exact .inr ⟨w, rfl, rfl⟩

/-- A committed pointer is moved back first, or the call ends there. -/
theorem rollback_cases : m.rollback.2 = m ∨ ∃ w, m.swap = some w ∧
    (w.pointerCommitted = false ∧ m.rollback.2 = m.abandonSwap w ∨
      m.rollback.2 = (m.restorePointer w).abandonSwap w) := by
  unfold rollback
  cases hw : m.swap with
  | none => exact .inl rfl
  | some w =>
    dsimp only
    split
    · rcases m.rollbackPointer_cases with ⟨e, hb⟩ | ⟨v, hv, hb⟩
      · exact .inl (by rw [hb])
      · cases hw.symm.trans hv
        exact .inr ⟨w, rfl, .inr (by rw [hb])⟩
    · rename_i hs
      exact .inr ⟨w, rfl, .inl ⟨Bool.eq_false_iff.mpr hs, rfl⟩⟩

/-- Both ways to accept: the new slot stays in play, the old one retires. -/
def Accepts (i : Bool) (out : Except GenerationSwapError Unit × RuntimeManager) : Prop :=
  (∃ e, out = (.error e, m)) ∨ ∃ w a, m.swap = some w ∧ m.active = w.new ∧
    out = (.ok (), (m.publish w a).retire w.old i)

theorem accepts_accept (i : Bool) : m.Accepts i (m.accept i) := by
  unfold accept
  cases hw : m.swap with
  | none => exact .inl ⟨_, rfl⟩
  | some w =>
    dsimp only
    split
    · exact .inl ⟨_, rfl⟩
    split
    · exact .inl ⟨_, rfl⟩
    split
    · exact .inl ⟨_, rfl⟩
    · rename_i hact
      exact .inr ⟨w, true, hw, not_not.mp hact, rfl⟩

theorem accepts_acceptDuringShutdown (i : Bool) : m.Accepts i (m.acceptDuringShutdown i) := by
  unfold acceptDuringShutdown
  cases hw : m.swap with
  | none => exact .inl ⟨_, rfl⟩
  | some w =>
    dsimp only
    split
    · exact .inl ⟨_, rfl⟩
    split
    · exact .inl ⟨_, rfl⟩
    · rename_i hr
      simp only [Bool.or_eq_true, decide_eq_true_eq, not_or] at hr
      exact .inr ⟨w, false, hw, not_not.mp hr.2, rfl⟩

/-! ## Runs -/

/-- Everything that happens to a manager, by whichever thread or task. -/
inductive Operation where
  | acquire
  | releaseLease (i : SlotRef)
  | reserveReference (i : SlotRef)
  | dropReference (i : SlotRef)
  | reapRetirements
  | stage (expected : Nat) (candidate : Option Nat)
  | commitPointer | rollbackPointer | rollback
  | accept (inRuntime : Bool)
  | acceptDuringShutdown (inRuntime : Bool)
  | failClosed (inRuntime : Bool)
  | dropSwap
  | retirement (i : SlotRef) (event : RetirementEvent)
  | shutdown
  deriving DecidableEq, Repr

def step (op : Operation) : RuntimeManager :=
  match op with
  | .acquire => m.acquire.2
  | .releaseLease i => m.releaseLease i
  | .reserveReference i => m.reserveReference i
  | .dropReference i => m.dropReference i
  | .reapRetirements => m.reapRetirements
  | .stage expected candidate => (m.stage expected candidate).2
  | .commitPointer => m.commitPointer.2
  | .rollbackPointer => m.rollbackPointer.2
  | .rollback => m.rollback.2
  | .accept inRuntime => (m.accept inRuntime).2
  | .acceptDuringShutdown inRuntime => (m.acceptDuringShutdown inRuntime).2
  | .failClosed inRuntime => m.failClosed inRuntime
  | .dropSwap => m.dropSwap
  | .retirement i event => m.retirementStep i event
  | .shutdown => m.beginShutdown

/-- The manager of a process started with a generation, after the operations. -/
def after (generationId : Nat) (ops : List Operation) : RuntimeManager :=
  Lib.run step (new generationId) ops

end RuntimeManager

end EggPool.Runtime
