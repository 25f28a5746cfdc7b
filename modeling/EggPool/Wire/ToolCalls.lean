import EggPool.Lib.Table
import EggPool.Lib.Text
import EggPool.Wire.Canonical

/-!
# Tool calls put together from canonical events

The accumulator keeps the calls that are open, under the identity their start event gave
them: the call id if there is one, else the index in the source stream. Later events may
name a call by its index alone, so there is a second table from indices to identities.

A failed event clears the accumulator and ends it; nothing is accepted after the end.
-/

namespace EggPool.Wire

open EggPool.Lib

def MAX_ACTIVE_CANONICAL_TOOL_CALLS : Nat := 128
def MAX_CANONICAL_TOOL_CALL_ARGUMENT_BYTES : Nat := 1024 * 1024
def MAX_CANONICAL_TOOL_CALL_TOTAL_BYTES : Nat := 4 * 1024 * 1024

inductive ToolCallIdentity where
  | callId (id : String)
  | sourceIndex (index : Nat)
  deriving DecidableEq, Repr

namespace ToolCallIdentity

/-- The derived order: call ids come before indices. -/
def rank : ToolCallIdentity → Lex (String ⊕ ℕ)
  | callId id => toLex (.inl id)
  | sourceIndex index => toLex (.inr index)

theorem rank_injective : Function.Injective rank := by
  intro a b h
  cases a <;> cases b <;> simp [rank] at h <;> rw [h]

instance : LinearOrder ToolCallIdentity := LinearOrder.lift' rank rank_injective

end ToolCallIdentity

structure CompletedToolCall where
  identity : ToolCallIdentity
  callId : Option String
  sourceIndex : Option Nat
  (name arguments : String)
  deriving DecidableEq, Repr

inductive ToolCallAccumulatorError where
  | missingIdentity | conflictingIdentity | missingName | resourceLimit | incomplete
  | unexpectedEof | providerError | responseIncomplete | postTerminalData
  deriving DecidableEq, Repr

structure ActiveCall where
  identity : ToolCallIdentity
  callId : Option String
  sourceIndex : Option Nat
  name : Option String
  arguments : String
  deriving DecidableEq, Repr

structure CanonicalToolCallAccumulator where
  active : Table ActiveCall.identity
  indexToIdentity : Table (Prod.fst : Nat × ToolCallIdentity → Nat)
  retainedBytes : Nat
  terminal : Bool

namespace CanonicalToolCallAccumulator

/-- What an operation on an accumulator that has not failed returns. -/
abbrev Outcome :=
  Except ToolCallAccumulatorError (CanonicalToolCallAccumulator × List CompletedToolCall)

def new : CanonicalToolCallAccumulator := ⟨.empty, .empty, 0, false⟩

variable (a : CanonicalToolCallAccumulator)

def clear : CanonicalToolCallAccumulator :=
  { a with active := .empty, indexToIdentity := .empty, retainedBytes := 0 }

variable (event : CanonicalEvent)

/-- The identity an event proposes. -/
def identity : Except ToolCallAccumulatorError ToolCallIdentity :=
  match event.callId.filter (fun id => !id.isEmpty), event.index with
  | some id, _ => .ok (.callId id)
  | none, some index => .ok (.sourceIndex index)
  | none, none => .error .missingIdentity

/-- The call an event is about. -/
def resolve : Except ToolCallAccumulatorError ToolCallIdentity :=
  match identity event with
  | .error e => .error e
  | .ok proposed =>
    match event.index.bind a.indexToIdentity.get? with
    | some (_, known) =>
      if event.callId.isSome && proposed ≠ known then .error .conflictingIdentity else .ok known
    | none =>
      if (a.active.get? proposed).isSome then .ok proposed else .error .missingIdentity

/-- A name with something in it. -/
def usableName (name : Option String) : Option String :=
  name.filter fun name => !(trim name).isEmpty

def start : Outcome :=
  match identity event with
  | .error e => .error e
  | .ok identity =>
    if (a.active.get? identity).isSome ||
        (event.index.bind a.indexToIdentity.get?).any (fun known => known.2 ≠ identity) then
      .error .conflictingIdentity
    else if a.active.size ≥ MAX_ACTIVE_CANONICAL_TOOL_CALLS then .error .resourceLimit
    else
      match usableName event.name with
      | none => .error .missingName
      | some name =>
        .ok ({ a with
          active := a.active.insert ⟨identity, event.callId, event.index, some name, ""⟩
          indexToIdentity :=
            match event.index with
            | some index => a.indexToIdentity.insert (index, identity)
            | none => a.indexToIdentity }, [])

def append : Outcome :=
  match a.resolve event with
  | .error e => .error e
  | .ok identity =>
    let delta := event.delta.getD ""
    match a.active.get? identity with
    | none => .error .missingIdentity
    | some current =>
      if current.arguments.utf8ByteSize + delta.utf8ByteSize >
            MAX_CANONICAL_TOOL_CALL_ARGUMENT_BYTES ||
          a.retainedBytes + delta.utf8ByteSize > MAX_CANONICAL_TOOL_CALL_TOTAL_BYTES then
        .error .resourceLimit
      else
        .ok ({ a with
          active := a.active.update (fun call => call.identity = identity)
            (fun call => { call with arguments := call.arguments ++ delta }) (fun _ => rfl)
          retainedBytes := a.retainedBytes + delta.utf8ByteSize }, [])

/-- The accumulator once a call, its bytes and its index are gone. -/
def without (call : ActiveCall) : CanonicalToolCallAccumulator :=
  { a with
    active := a.active.erase call.identity
    retainedBytes := a.retainedBytes - call.arguments.utf8ByteSize
    indexToIdentity :=
      match call.sourceIndex with
      | some index => a.indexToIdentity.erase index
      | none => a.indexToIdentity }

def complete (identity : ToolCallIdentity) :
    Except ToolCallAccumulatorError (CanonicalToolCallAccumulator × CompletedToolCall) :=
  match a.active.get? identity with
  | none => .error .missingIdentity
  | some call =>
    match call.name with
    | none => .error .missingName
    | some name =>
      .ok (a.without call,
        ⟨call.identity, call.callId, call.sourceIndex, name, call.arguments⟩)

/-- The final arguments of a stop event stand for the accumulated ones. -/
def finalArguments (identity : ToolCallIdentity) (arguments : Option String) :
    Except ToolCallAccumulatorError CanonicalToolCallAccumulator :=
  match arguments with
  | none => .ok a
  | some final =>
    let old := ((a.active.get? identity).map (·.arguments.utf8ByteSize)).getD 0
    let aggregate := a.retainedBytes - old + final.utf8ByteSize
    if final.utf8ByteSize > MAX_CANONICAL_TOOL_CALL_ARGUMENT_BYTES ||
        aggregate > MAX_CANONICAL_TOOL_CALL_TOTAL_BYTES then .error .resourceLimit
    else
      .ok { a with
        active := a.active.update (fun call => call.identity = identity)
          (fun call => { call with arguments := final }) (fun _ => rfl)
        retainedBytes := aggregate }

def stop : Outcome :=
  match a.resolve event with
  | .error e => .error e
  | .ok identity =>
    match a.finalArguments identity event.arguments with
    | .error e => .error e
    | .ok a =>
      match a.complete identity with
      | .error e => .error e
      | .ok (a, call) => .ok (a, [call])

def completeAll (a : CanonicalToolCallAccumulator) : List ToolCallIdentity → Outcome
  | [] => .ok (a, [])
  | identity :: identities =>
    match a.complete identity with
    | .error e => .error e
    | .ok (a, call) =>
      match a.completeAll identities with
      | .error e => .error e
      | .ok (a, calls) => .ok (a, call :: calls)

def drainAll : Outcome :=
  a.completeAll (a.active.rows.map (·.identity))

/-- What an event does before the end. -/
def accept : Outcome :=
  match event.eventType with
  | .toolCallStart => a.start event
  | .toolCallArgumentsDelta => a.append event
  | .toolCallStop => a.stop event
  | .contentStop =>
    if event.index.isSome || event.callId.isSome then a.stop event else .ok (a, [])
  | .responseComplete => { a with terminal := true }.drainAll
  | .responseIncomplete => .error .responseIncomplete
  | .error => .error .providerError
  | _ => .ok (a, [])

def push : CanonicalToolCallAccumulator × Except ToolCallAccumulatorError (List CompletedToolCall):=
  if a.terminal then (a, .error .postTerminalData)
  else
    match a.accept event with
    | .error e => ({ a.clear with terminal := true }, .error e)
    | .ok (a, calls) => (a, .ok calls)

/-- Transport EOF, which is never a successful end. -/
def finish :
    CanonicalToolCallAccumulator × Except ToolCallAccumulatorError (List CompletedToolCall) :=
  if !a.terminal then (a.clear, .error .unexpectedEof)
  else if a.active.size = 0 then (a, .ok [])
  else (a.clear, .error .incomplete)

/-- Push events one after another, up to the first error: all calls completed on the way. -/
def pushAll (a : CanonicalToolCallAccumulator) : List CanonicalEvent → Outcome
  | [] => .ok (a, [])
  | event :: events =>
    match a.push event with
    | (_, .error e) => .error e
    | (a, .ok calls) => (a.pushAll events).map (Prod.map id (calls ++ ·))

end CanonicalToolCallAccumulator

end EggPool.Wire
