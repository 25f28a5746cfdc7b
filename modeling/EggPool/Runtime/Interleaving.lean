import EggPool.Runtime.Retirement

/-!
# Interleavings of requests and reloads

What goes on around the manager while a process serves requests, one access at a time. The
state lock makes the sections under it exclusive, but much happens outside of it: an abandoned
swap puts the pointer and the old slot back without the lock and takes it only to open the
gate; an accepted swap starts the retirement after it has let go of the lock; leases are
given back and finalization guards taken and dropped on atomic counters; and a retirement task
looks at those counters and writes the state of its slot on its own.

So `acquire` is followed through its section access by access, as is everything that is not
under the lock. The other sections are one step each: they only exclude each other and
`acquire`, and what they read is written by nobody outside of the lock but the owner of the
same swap. Several tasks at the same place of the same call are interchangeable, so they are
counted.
-/

namespace EggPool.Runtime

open EggPool.Lib

/-- How far a task has come in the section of `acquire` under the state lock. -/
inductive Acquiring where
  | entered | sawOpen
  | loaded (i : SlotRef)
  | sawAccepting (i : SlotRef)
  deriving DecidableEq, Repr

/-- An access that the owner of an abandoned swap has still to make. -/
inductive Unwinding where
  | storeActive (i : SlotRef)
  | setActive (i : SlotRef)
  | setAccepting (i : SlotRef)
  | stopAccepting (i : SlotRef)
  | finishGate
  deriving DecidableEq, Repr

/-- One more at a place. -/
def inc (f : SlotRef → Nat) (i : SlotRef) : SlotRef → Nat := fun j => if j = i then f j + 1 else f j

/-- One less at a place. -/
def dec (f : SlotRef → Nat) (i : SlotRef) : SlotRef → Nat := fun j => if j = i then f j - 1 else f j

/-- The manager, the tasks in the middle of its operations, and the handles they have given out. -/
structure World where
  manager : RuntimeManager
  /-- The task that holds the state lock for an `acquire`. -/
  acquiring : Option Acquiring
  /-- `GenerationLease` values that have not been dropped. -/
  leases : SlotRef → Nat
  /-- `GenerationFinalizationGuard` values that have not been dropped. -/
  guards : SlotRef → Nat
  /-- Calls of `try_retain_finalization` that have looked at the state once. -/
  looked : SlotRef → Nat
  /-- Those that have counted themselves. -/
  reserved : SlotRef → Nat
  /-- Those that have looked again and been refused. -/
  refused : SlotRef → Nat
  unwinding : List Unwinding
  /-- Slots of accepted swaps whose retirement is still to be scheduled. -/
  scheduling : List SlotRef

namespace World

def new (generationId : Nat) : World where
  manager := .new generationId
  acquiring := none
  leases := fun _ => 0
  guards := fun _ => 0
  looked := fun _ => 0
  reserved := fun _ => 0
  refused := fun _ => 0
  unwinding := []
  scheduling := []

variable (w : World)

/-! ## Leases -/

/-- The next access of the task in the section of `acquire`. -/
def acquireNext : World :=
  match w.acquiring with
  | none => w
  | some .entered =>
    if w.manager.shutdown || w.manager.admissionClosed then { w with acquiring := none }
    else { w with acquiring := some .sawOpen }
  | some .sawOpen => { w with acquiring := some (.loaded w.manager.active) }
  | some (.loaded i) =>
    if (w.manager.slots i).accepting then { w with acquiring := some (.sawAccepting i) }
    else { w with acquiring := none }
  | some (.sawAccepting i) =>
    { w with
      manager := w.manager.setSlot i fun slot => { slot with activeLeases := slot.activeLeases + 1 }
      acquiring := none
      leases := inc w.leases i }

def releaseLease (i : SlotRef) : World :=
  if 0 < w.leases i then
    { w with manager := w.manager.releaseLease i, leases := dec w.leases i }
  else w

/-! ## Finalization guards -/

variable (i : SlotRef)

/-- The first look of `try_retain_finalization`. -/
def look : World :=
  if i < w.manager.nextSlot ∧ (w.manager.slots i).retainable then { w with looked := inc w.looked i }
  else w

/-- Another call has changed the count: the loop starts again. -/
def exchangeFails : World := { w with looked := dec w.looked i }

def exchange : World :=
  if 0 < w.looked i then
    { w with
      manager := w.manager.reserveReference i
      looked := dec w.looked i
      reserved := inc w.reserved i }
  else w

/-- The second look, which decides whether there is a guard. -/
def lookAgain : World :=
  if 0 < w.reserved i then
    if (w.manager.slots i).retainable then
      { w with reserved := dec w.reserved i, guards := inc w.guards i }
    else { w with reserved := dec w.reserved i, refused := inc w.refused i }
  else w

def undoReservation : World :=
  if 0 < w.refused i then
    { w with manager := w.manager.dropReference i, refused := dec w.refused i }
  else w

def dropGuard : World :=
  if 0 < w.guards i then
    { w with manager := w.manager.dropReference i, guards := dec w.guards i }
  else w

/-! ## Publication -/

/-- A section under the state lock, for which it has to be free. -/
def locked (next : World) : World := if w.acquiring.isNone then next else w

/-- `accept` up to where it lets go of the lock. -/
def accept (inRuntime : Bool) : World :=
  let m := w.manager
  match m.swap with
  | none => w
  | some s =>
    if !s.pointerCommitted || m.shutdown || m.active ≠ s.new then w
    else
      { w with
        manager := { m.publish s true with retiring := m.retiring ++ [s.old] }
        scheduling := if inRuntime then w.scheduling ++ [s.old] else w.scheduling }

/-- What `rollback` does once the pointer is at the old slot. -/
def giveUp (s : StagedGenerationSwap) : World :=
  { w with
    manager := { w.manager with swap := none }
    unwinding := w.unwinding ++
      [.setActive s.old, .setAccepting s.old, .stopAccepting s.new, .finishGate] }

/-- `rollback`: the pointer under the lock, if it was moved, and the rest without it. -/
def rollback : World :=
  match w.manager.swap with
  | none => w
  | some s =>
    if s.pointerCommitted then
      match w.manager.rollbackPointer with
      | (.error _, _) => w
      | (.ok (), m) => w.locked ({ w with manager := m }.giveUp s)
    else w.giveUp s

/-- A swap is dropped on the way; its owner puts everything back. -/
def dropSwap : World :=
  match w.manager.swap with
  | none => w
  | some s =>
    { w with
      manager := { w.manager with swap := none }
      unwinding := w.unwinding ++ (if s.pointerCommitted then
        [.storeActive s.old, .setActive s.old, .setAccepting s.old, .finishGate]
        else [.finishGate]) }

/-- The next access of the owner of an abandoned swap. -/
def unwind : World :=
  match w.unwinding with
  | [] => w
  | .storeActive i :: rest => { w with manager := { w.manager with active := i }, unwinding := rest }
  | .setActive i :: rest =>
    { w with
      manager := w.manager.setSlot i fun slot => { slot with state := .active }
      unwinding := rest }
  | .setAccepting i :: rest =>
    { w with
      manager := w.manager.setSlot i fun slot => { slot with accepting := !w.manager.shutdown }
      unwinding := rest }
  | .stopAccepting i :: rest =>
    { w with manager := w.manager.stopAccepting i, unwinding := rest }
  | .finishGate :: rest =>
    w.locked { w with manager := w.manager.finishGate, unwinding := rest }

def schedule : World :=
  if i ∈ w.scheduling then
    { w with manager := w.manager.scheduleRetirement i, scheduling := w.scheduling.erase i }
  else w

/-! ## Runs -/

inductive Move where
  | enter | acquireNext
  | releaseLease (i : SlotRef)
  | look (i : SlotRef)
  | exchangeFails (i : SlotRef)
  | exchange (i : SlotRef)
  | lookAgain (i : SlotRef)
  | undoReservation (i : SlotRef)
  | dropGuard (i : SlotRef)
  | reapRetirements
  | stage (expected : Nat) (candidate : Option Nat)
  | commitPointer | rollbackPointer
  | accept (inRuntime : Bool)
  | rollback | dropSwap | unwind
  | schedule (i : SlotRef)
  | retirement (i : SlotRef) (event : RuntimeManager.RetirementEvent)
  deriving DecidableEq, Repr

def step : Move → World
  | .enter => w.locked { w with acquiring := some .entered }
  | .acquireNext => w.acquireNext
  | .releaseLease i => w.releaseLease i
  | .look i => w.look i
  | .exchangeFails i => w.exchangeFails i
  | .exchange i => w.exchange i
  | .lookAgain i => w.lookAgain i
  | .undoReservation i => w.undoReservation i
  | .dropGuard i => w.dropGuard i
  | .reapRetirements => { w with manager := w.manager.reapRetirements }
  | .stage expected candidate =>
    w.locked { w with manager := (w.manager.stage expected candidate).2 }
  | .commitPointer => w.locked { w with manager := w.manager.commitPointer.2 }
  | .rollbackPointer => w.locked { w with manager := w.manager.rollbackPointer.2 }
  | .accept inRuntime => w.locked (w.accept inRuntime)
  | .rollback => w.rollback
  | .dropSwap => w.dropSwap
  | .unwind => w.unwind
  | .schedule i => w.schedule i
  | .retirement i event => { w with manager := w.manager.retirementStep i event }

/-- A process started with a generation, after some moves. -/
def after (generationId : Nat) (moves : List Move) : World := run step (new generationId) moves

end World

end EggPool.Runtime
