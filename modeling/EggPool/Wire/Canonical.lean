import EggPool.Wire.Json

/-!
# Canonical events and usage

What a stream says once the provider's dialect is gone: typed events, and token counters
that add up over the events of a stream.

Merging usage is associative and has the default value as its unit. That is all the two
ways of counting need: adding event by event, and adding up the events of one frame first.
The default status is `unknownFormat`, which is what makes it a unit: a first usage report
replaces it.
-/

namespace EggPool.Wire

inductive CanonicalEventType where
  | responseStart | contentStart | textDelta | reasoningStart | reasoningDelta | reasoningStop
  | toolCallStart | toolCallArgumentsDelta | toolCallStop | contentStop | usage | responseComplete
  | responseIncomplete | error
  deriving DecidableEq, Repr

inductive CacheCounterStatus where
  | reported | notReported | unknownFormat
  deriving DecidableEq, Repr

@[ext]
structure CanonicalUsage where
  (inputTokens outputTokens totalTokens cachedInputTokens cacheReadInputTokens : Option Nat := none)
  (cacheCreationInputTokens cacheWriteInputTokens reasoningTokens : Option Nat := none)
  cacheCounterStatus : CacheCounterStatus := .unknownFormat
  deriving DecidableEq, Repr

structure CanonicalEvent where
  eventType : CanonicalEventType
  (responseId model : Option String := none)
  index : Option Nat := none
  (delta callId name arguments finishReason : Option String := none)
  usage : Option CanonicalUsage := none
  (errorType errorMessage : Option String := none)
  deriving DecidableEq, Repr

def canonicalEvent (eventType : CanonicalEventType) : CanonicalEvent where
  eventType := eventType

/-- `u64::saturating_add`. -/
def saturatingAdd (left right : Nat) : Nat :=
  min (left + right) (2 ^ 64 - 1)

def addOptional : Option Nat → Option Nat → Option Nat
  | some left, some right => some (saturatingAdd left right)
  | some value, none => some value
  | none, some value => some value
  | none, none => none

def replacePresent (slot incoming : Option Nat) : Option Nat :=
  if incoming.isSome then incoming else slot

def CacheCounterStatus.merge (status incoming : CacheCounterStatus) : CacheCounterStatus :=
  if incoming = .reported then .reported
  else if status = .unknownFormat then incoming
  else status

namespace CanonicalUsage

/-- Counters add up, and a reported cache status stays. -/
def merge (u incoming : CanonicalUsage) : CanonicalUsage where
  inputTokens := addOptional u.inputTokens incoming.inputTokens
  outputTokens := addOptional u.outputTokens incoming.outputTokens
  totalTokens := addOptional u.totalTokens incoming.totalTokens
  cachedInputTokens := addOptional u.cachedInputTokens incoming.cachedInputTokens
  cacheReadInputTokens := addOptional u.cacheReadInputTokens incoming.cacheReadInputTokens
  cacheCreationInputTokens :=
    addOptional u.cacheCreationInputTokens incoming.cacheCreationInputTokens
  cacheWriteInputTokens := addOptional u.cacheWriteInputTokens incoming.cacheWriteInputTokens
  reasoningTokens := addOptional u.reasoningTokens incoming.reasoningTokens
  cacheCounterStatus := u.cacheCounterStatus.merge incoming.cacheCounterStatus

/-- Counters that restate a running total replace the earlier ones. -/
def mergeCumulative (u incoming : CanonicalUsage) : CanonicalUsage where
  inputTokens := replacePresent u.inputTokens incoming.inputTokens
  outputTokens := replacePresent u.outputTokens incoming.outputTokens
  totalTokens := replacePresent u.totalTokens incoming.totalTokens
  cachedInputTokens := replacePresent u.cachedInputTokens incoming.cachedInputTokens
  cacheReadInputTokens := replacePresent u.cacheReadInputTokens incoming.cacheReadInputTokens
  cacheCreationInputTokens :=
    replacePresent u.cacheCreationInputTokens incoming.cacheCreationInputTokens
  cacheWriteInputTokens := replacePresent u.cacheWriteInputTokens incoming.cacheWriteInputTokens
  reasoningTokens := replacePresent u.reasoningTokens incoming.reasoningTokens
  cacheCounterStatus :=
    if incoming.cacheCounterStatus = .reported then .reported else u.cacheCounterStatus

end CanonicalUsage

inductive UsageProtocol where
  | openai | anthropic | gemini
  deriving DecidableEq, Repr

def openaiUsage (members : Map) : CanonicalUsage :=
  let inputTokens := token ((members.get "prompt_tokens").or (members.get "input_tokens"))
  let outputTokens := token ((members.get "completion_tokens").or (members.get "output_tokens"))
  let totalTokens := token (members.get "total_tokens")
  let details := object (members.get "prompt_tokens_details")
  let detailed := details.bind fun details => token (details.get "cached_tokens")
  let cacheWrite := details.bind fun details => token (details.get "cache_write_tokens")
  let cacheRead :=
    if detailed.isNone then token (members.get "cache_read_input_tokens") else detailed
  { inputTokens := inputTokens
    outputTokens := outputTokens
    totalTokens :=
      if totalTokens.isNone ||
          (totalTokens == some 0 && (inputTokens.getD 0 != 0 || outputTokens.getD 0 != 0)) then
        addOptional inputTokens outputTokens
      else totalTokens
    cachedInputTokens := cacheRead
    cacheReadInputTokens := cacheRead
    cacheWriteInputTokens := cacheWrite
    reasoningTokens := (object (members.get "completion_tokens_details")).bind fun details =>
      token (details.get "reasoning_tokens")
    cacheCounterStatus :=
      if cacheRead.isSome || cacheWrite.isSome then .reported else .notReported }

def anthropicUsage (members : Map) : CanonicalUsage :=
  let inputTokens := token ((members.get "input_tokens").or (members.get "prompt_tokens"))
  let outputTokens := token ((members.get "output_tokens").or (members.get "completion_tokens"))
  let cacheRead := token (members.get "cache_read_input_tokens")
  let cacheCreation := token (members.get "cache_creation_input_tokens")
  let reported := cacheRead.isSome || cacheCreation.isSome
  let cached := if reported then addOptional cacheRead cacheCreation else none
  { inputTokens := inputTokens
    outputTokens := outputTokens
    totalTokens := addOptional (addOptional inputTokens outputTokens) cached
    cachedInputTokens := cached
    cacheReadInputTokens := cacheRead
    cacheCreationInputTokens := cacheCreation
    cacheWriteInputTokens := if reported then cacheCreation else none
    cacheCounterStatus := if reported then .reported else .notReported }

def geminiUsage (members : Map) : CanonicalUsage :=
  let inputTokens := token ((members.get "total_input_tokens").or (members.get "promptTokenCount"))
  let outputTokens :=
    token ((members.get "total_output_tokens").or (members.get "candidatesTokenCount"))
  let totalTokens := token ((members.get "total_tokens").or (members.get "totalTokenCount"))
  { inputTokens := inputTokens
    outputTokens := outputTokens
    totalTokens := if totalTokens.isNone then addOptional inputTokens outputTokens else totalTokens
    cacheCounterStatus := .notReported }

def usageFrom (value : Option Value) (protocol : UsageProtocol) : Option CanonicalUsage :=
  (object value).map fun members =>
    match protocol with
    | .openai => openaiUsage members
    | .anthropic => anthropicUsage members
    | .gemini => geminiUsage members

/--
The counters of a stream so far. Before the first report there is nothing in them, which
the source keeps true by changing them only together with `present`.
-/
@[ext]
structure UsageAccumulator where
  value : CanonicalUsage
  (present complete : Bool)
  empty_of_not_present : present = false → value = {} ∧ complete = false
  deriving DecidableEq

namespace UsageAccumulator

/-- `UsageAccumulator::default()`. -/
def empty : UsageAccumulator where
  value := {}
  present := false
  complete := false
  empty_of_not_present := fun _ => ⟨rfl, rfl⟩

def merge (u : UsageAccumulator) (incoming : CanonicalUsage) (complete : Bool) :
    UsageAccumulator where
  value := u.value.merge incoming
  present := true
  complete := u.complete || complete
  empty_of_not_present := fun h => Bool.noConfusion h

def mergeCumulative (u : UsageAccumulator) (incoming : CanonicalUsage) (complete : Bool) :
    UsageAccumulator where
  value := u.value.mergeCumulative incoming
  present := true
  complete := u.complete || complete
  empty_of_not_present := fun h => Bool.noConfusion h

/-- The counters that `value()` reports. -/
def reported (u : UsageAccumulator) : Option CanonicalUsage :=
  if u.present then some u.value else none

def absorb (u incoming : UsageAccumulator) : UsageAccumulator :=
  if !incoming.present then u else u.merge incoming.value incoming.complete

/-- Fold the usage an event carries, if it carries any. -/
def mergeEvent (u : UsageAccumulator) (event : CanonicalEvent) : UsageAccumulator :=
  match event.usage with
  | some usage => u.merge usage (event.eventType == .usage)
  | none => u

end UsageAccumulator

/-! ## Merging is associative -/

theorem addOptional_assoc (a b c : Option Nat) :
    addOptional (addOptional a b) c = addOptional a (addOptional b c) := by
  cases a <;> cases b <;> cases c <;> simp [addOptional, saturatingAdd]
  omega

@[simp] theorem none_addOptional (a : Option Nat) : addOptional none a = a := by
  cases a <;> rfl

theorem CacheCounterStatus.merge_assoc (a b c : CacheCounterStatus) :
    (a.merge b).merge c = a.merge (b.merge c) := by
  cases a <;> cases b <;> cases c <;> rfl

@[simp] theorem CacheCounterStatus.unknownFormat_merge (a : CacheCounterStatus) :
    CacheCounterStatus.unknownFormat.merge a = a := by
  cases a <;> rfl

theorem CanonicalUsage.merge_assoc (a b c : CanonicalUsage) :
    (a.merge b).merge c = a.merge (b.merge c) := by
  simp [CanonicalUsage.merge, addOptional_assoc, CacheCounterStatus.merge_assoc]

@[simp] theorem CanonicalUsage.empty_merge (a : CanonicalUsage) : CanonicalUsage.merge {} a = a:= by
  simp [CanonicalUsage.merge, none_addOptional, CacheCounterStatus.unknownFormat_merge]

namespace UsageAccumulator

/-- Absorbing what was merged is merging what was absorbed. -/
theorem absorb_merge (u v : UsageAccumulator) (i : CanonicalUsage) (complete : Bool) :
    u.absorb (v.merge i complete) = (u.absorb v).merge i complete := by
  cases hpre : v.present with
  | true =>
    have ha := CanonicalUsage.merge_assoc u.value v.value i
    simp only [absorb, merge, hpre, Bool.not_true, Bool.false_eq_true, if_false, ha, Bool.or_assoc]
  | false =>
    -- nothing was in `v`: its counters are the unit
    obtain ⟨hv, hc⟩ := v.empty_of_not_present hpre
    simp [absorb, merge, hpre, hv, hc, CanonicalUsage.empty_merge]

theorem absorb_mergeEvent (u v : UsageAccumulator) (event : CanonicalEvent) :
    u.absorb (v.mergeEvent event) = (u.absorb v).mergeEvent event := by
  unfold mergeEvent
  cases event.usage with
  | none => rfl
  | some usage => exact u.absorb_merge v usage _

/-- **Usage may be added up frame by frame.** -/
theorem absorb_foldl (ev : List CanonicalEvent) : ∀ u v : UsageAccumulator,
    u.absorb (ev.foldl mergeEvent v) = ev.foldl mergeEvent (u.absorb v) := by
  induction ev with
  | nil => intro u v; rfl
  | cons eve ev ih =>
    intro u v
    rw [List.foldl_cons, List.foldl_cons, ih, absorb_mergeEvent]

end UsageAccumulator

end EggPool.Wire
