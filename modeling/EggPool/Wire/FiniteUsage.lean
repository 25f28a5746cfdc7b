import EggPool.Wire.Codec

/-!
# Usage of a finite response

A finite response and a stream report usage in the same objects, and the two sides
read them with code of their own. The stream's readers are in `Canonical`; here are
those of the finite decoders, and the comparison: counter by counter, for each dialect,
exactly when the two agree.
-/

namespace EggPool.Wire

/-- `sum_tokens`: unlike the stream's sum, it gives up on an overflow. -/
def sumTokens : Option Nat → Option Nat → Option Nat
  | some left, some right => if left + right < 2 ^ 64 then some (left + right) else none
  | some value, none => some value
  | none, some value => some value
  | none, none => none

variable (members : Map)

/-- The chat branch of the first `decode_usage`. -/
def chatFiniteUsage : CanonicalUsage :=
  let inputTokens := token (members.get "prompt_tokens")
  let outputTokens := token (members.get "completion_tokens")
  let totalTokens := token (members.get "total_tokens")
  let details := object (members.get "prompt_tokens_details")
  let detailed := details.bind fun details => token (details.get "cached_tokens")
  let cacheWrite := details.bind fun details => token (details.get "cache_write_tokens")
  let reported := detailed.isSome || cacheWrite.isSome || members.containsKey "cached_tokens" ||
    members.containsKey "cache_read_input_tokens"
  let cacheRead :=
    if reported && detailed.isNone then token (members.get "cache_read_input_tokens")
    else detailed
  let sum := sumTokens inputTokens outputTokens
  { inputTokens := inputTokens
    outputTokens := outputTokens
    totalTokens :=
      if totalTokens.isNone ||
          (totalTokens == some 0 && (inputTokens.getD 0 != 0 || outputTokens.getD 0 != 0)) then
        if sum.isNone && cacheRead.isSome then cacheRead else sum
      else totalTokens
    cachedInputTokens := cacheRead
    cacheReadInputTokens := cacheRead
    cacheWriteInputTokens := cacheWrite
    reasoningTokens := (object (members.get "completion_tokens_details")).bind fun details =>
      token (details.get "reasoning_tokens")
    cacheCounterStatus := if reported then .reported else .notReported }

/-- Its Anthropic branch. -/
def anthropicFiniteUsage : CanonicalUsage :=
  let inputTokens := token (members.get "input_tokens")
  let outputTokens := token (members.get "output_tokens")
  let cacheRead := token (members.get "cache_read_input_tokens")
  let cacheCreation := token (members.get "cache_creation_input_tokens")
  let reported := cacheRead.isSome || cacheCreation.isSome
  { inputTokens := inputTokens
    outputTokens := outputTokens
    totalTokens := sumTokens inputTokens outputTokens
    cachedInputTokens := if reported then sumTokens cacheRead cacheCreation else none
    cacheReadInputTokens := cacheRead
    cacheCreationInputTokens := cacheCreation
    cacheWriteInputTokens := if reported then cacheCreation else none
    cacheCounterStatus := if reported then .reported else .notReported }

/-- The last lines of the second `decode_usage`, shared by its two branches. -/
def plainUsage (inputTokens outputTokens totalTokens : Option Nat) : CanonicalUsage where
  inputTokens := inputTokens
  outputTokens := outputTokens
  totalTokens := if totalTokens.isNone then sumTokens inputTokens outputTokens else totalTokens
  cacheCounterStatus := .notReported

def responsesFiniteUsage : CanonicalUsage :=
  plainUsage (token ((members.get "input_tokens").or (members.get "prompt_tokens")))
    (token ((members.get "output_tokens").or (members.get "completion_tokens")))
    (token (members.get "total_tokens"))

def geminiFiniteUsage : CanonicalUsage :=
  plainUsage (token ((members.get "total_input_tokens").or (members.get "promptTokenCount")))
    (token ((members.get "total_output_tokens").or (members.get "candidatesTokenCount")))
    (token ((members.get "total_tokens").or (members.get "totalTokenCount")))

/-- `decode_usage` of chat and Messages responses: a value of another shape counts as unknown. -/
def decodeUsage (read : Map → CanonicalUsage) : Option Value → Option CanonicalUsage
  | none => none
  | some .null => none
  | some (.object members) => some (read members)
  | some _ => some {}

/-- `decode_usage` of the other responses: a value of another shape is an error. -/
def decodeUsageStrict (read : Map → CanonicalUsage) :
    Option Value → Except Finite.CodecError (Option CanonicalUsage)
  | none => .ok none
  | some .null => .ok none
  | some (.object members) => .ok (some (read members))
  | some _ => .error (Finite.responseError "usage")

inductive UsageDialect where
  | chat | responses | anthropic | gemini
  deriving DecidableEq, Repr

/-- What a finite response's decoder reads from a usage object. -/
def finiteUsage : UsageDialect → Map → CanonicalUsage
  | .chat => chatFiniteUsage
  | .responses => responsesFiniteUsage
  | .anthropic => anthropicFiniteUsage
  | .gemini => geminiFiniteUsage

/-- What the stream decoder reads from it. -/
def streamUsage : UsageDialect → Map → CanonicalUsage
  | .chat => openaiUsage
  | .responses => openaiUsage
  | .anthropic => anthropicUsage
  | .gemini => geminiUsage

/-! ## The comparison -/

/-- The counters are the same; how the cache counters were reported is not compared. -/
structure SameCounters (u v : CanonicalUsage) : Prop where
  input : u.inputTokens = v.inputTokens
  output : u.outputTokens = v.outputTokens
  total : u.totalTokens = v.totalTokens
  cached : u.cachedInputTokens = v.cachedInputTokens
  cacheRead : u.cacheReadInputTokens = v.cacheReadInputTokens
  cacheCreation : u.cacheCreationInputTokens = v.cacheCreationInputTokens
  cacheWrite : u.cacheWriteInputTokens = v.cacheWriteInputTokens
  reasoning : u.reasoningTokens = v.reasoningTokens

/-- What a reader sums up fits into a counter; only Anthropic's count cached tokens in. -/
def NoOverflow (dialect : UsageDialect) (u : CanonicalUsage) : Prop :=
  u.inputTokens.getD 0 + u.outputTokens.getD 0 +
    (if dialect = .anthropic then
      u.cacheReadInputTokens.getD 0 + u.cacheCreationInputTokens.getD 0 else 0) < 2 ^ 64

instance (dialect : UsageDialect) (u : CanonicalUsage) : Decidable (NoOverflow dialect u) :=
  inferInstanceAs (Decidable (_ < _))

theorem sumTokens_eq_addOptional {l right : Option Nat}
    (h : l.getD 0 + right.getD 0 < 2 ^ 64) : sumTokens l right = addOptional l right := by
  cases l with
  | none => cases right <;> rfl
  | some l =>
    cases right with
    | none => rfl
    | some right =>
      have hfit : l + right < 2 ^ 64 := h
      have hs : saturatingAdd l right = l + right := by
        unfold saturatingAdd
        omega
      simp only [sumTokens, addOptional, if_pos hfit, hs]

/-- A fallback key shows when the key itself is absent. -/
theorem token_or_eq_left (key f : Option Value) :
    token key = token (key.or f) ↔ key.isSome ∨ token f = none := by
  cases key with
  | none =>
    simp only [token, Option.none_or, Option.isSome_none, Bool.false_eq_true, false_or]
    exact eq_comm
  | some val => simp

/-- Two keys read in either order. -/
theorem token_or_swap (l r : Option Value) : token (l.or r) = token (r.or l) ↔
      (l.isSome → r.isSome → token l = token r) := by
  cases l <;> cases r <;> simp

/-- The count of cached tokens a chat usage object gives. -/
def cachedTokens : Option Nat :=
  let detailed := (object (members.get "prompt_tokens_details")).bind fun details =>
    token (details.get "cached_tokens")
  if detailed.isNone then token (members.get "cache_read_input_tokens") else detailed

/-- A finite chat response asks first whether the count is there, and finds the same. -/
theorem chatFiniteUsage_cacheRead :
    (chatFiniteUsage members).cacheReadInputTokens = cachedTokens members := by
  simp only [chatFiniteUsage, cachedTokens]
  cases (object (members.get "prompt_tokens_details")).bind fun det =>
      token (det.get "cached_tokens") with
  | some cou => simp
  | none =>
    cases hr : members.get "cache_read_input_tokens" with
    | some val => simp [Map.containsKey, hr]
    | none => simp [token]

/--
When the two readers of a dialect agree:

* chat: the keys of the other dialect are not needed, and a lone count of cached
  tokens is not the whole report;
* Responses: keys given under both names agree, the total is not a zero beside counts
  that are not zero, and nothing is reported under the chat detail keys;
* Anthropic: the keys of the other dialect are not needed, and no cached tokens were
  counted;
* Gemini: always.
-/
def ReadAlike : UsageDialect → Map → Prop
  | .chat, members =>
    (members.containsKey "prompt_tokens" ∨ token (members.get "input_tokens") = none) ∧
    (members.containsKey "completion_tokens" ∨ token (members.get "output_tokens") = none) ∧
    (token (members.get "total_tokens") = none → token (members.get "prompt_tokens") = none →
      token (members.get "completion_tokens") = none → cachedTokens members = none)
  | .responses, members =>
    (members.containsKey "input_tokens" → members.containsKey "prompt_tokens" →
      token (members.get "input_tokens") = token (members.get "prompt_tokens")) ∧
    (members.containsKey "output_tokens" → members.containsKey "completion_tokens" →
      token (members.get "output_tokens") = token (members.get "completion_tokens")) ∧
    (token (members.get "total_tokens") = some 0 →
      (token ((members.get "input_tokens").or (members.get "prompt_tokens"))).getD 0 = 0 ∧
      (token ((members.get "output_tokens").or (members.get "completion_tokens"))).getD 0 = 0) ∧
    cachedTokens members = none ∧
    ((object (members.get "prompt_tokens_details")).bind fun details =>
      token (details.get "cache_write_tokens")) = none ∧
    ((object (members.get "completion_tokens_details")).bind fun details =>
      token (details.get "reasoning_tokens")) = none
  | .anthropic, members =>
    (members.containsKey "input_tokens" ∨ token (members.get "prompt_tokens") = none) ∧
    (members.containsKey "output_tokens" ∨ token (members.get "completion_tokens") = none) ∧
    (token (members.get "cache_read_input_tokens")).getD 0 = 0 ∧
    (token (members.get "cache_creation_input_tokens")).getD 0 = 0 ∧
    (token (members.get "input_tokens") = none → token (members.get "output_tokens") = none →
      token (members.get "cache_read_input_tokens") = none ∧
        token (members.get "cache_creation_input_tokens") = none)
  | .gemini, _ => True

/-- The counters one by one; the others are compared once the input and output counts agree. -/
theorem SameCounters.iff_of {u v : CanonicalUsage} {I O T : Prop}
    (hi : u.inputTokens = v.inputTokens ↔ I) (ho : u.outputTokens = v.outputTokens ↔ O)
    (ht : u.inputTokens = v.inputTokens → u.outputTokens = v.outputTokens →
      (u.totalTokens = v.totalTokens ∧ u.cachedInputTokens = v.cachedInputTokens ∧
        u.cacheReadInputTokens = v.cacheReadInputTokens ∧
        u.cacheCreationInputTokens = v.cacheCreationInputTokens ∧
        u.cacheWriteInputTokens = v.cacheWriteInputTokens ∧
        u.reasoningTokens = v.reasoningTokens ↔ T)) : SameCounters u v ↔ I ∧ O ∧ T := by
  constructor
  · intro h
    refine ⟨hi.mp h.input, ho.mp h.output, (ht h.input h.output).mp ?_⟩
    exact ⟨h.total, h.cached, h.cacheRead, h.cacheCreation, h.cacheWrite, h.reasoning⟩
  · rintro ⟨hin, hout, hto⟩
    obtain ⟨htot, hc, hcr, hcc, hw, hr⟩ := (ht (hi.mpr hin) (ho.mpr hout)).mpr hto
    exact ⟨hi.mpr hin, ho.mpr hout, htot, hc, hcr, hcc, hw, hr⟩

/-- The two totals of a chat report differ where a count of cached tokens stands alone. -/
theorem chat_total_iff (t c : Option Nat) {i o s : Option Nat} (hs : s = addOptional i o) :
    ((if t.isNone || (t == some 0 && (i.getD 0 != 0 || o.getD 0 != 0)) then
        if s.isNone && c.isSome then c else s else t) =
      if t.isNone || (t == some 0 && (i.getD 0 != 0 || o.getD 0 != 0)) then addOptional i o
      else t) ↔ (t = none → i = none → o = none → c = none) := by
  subst hs
  cases i with
  | some i => cases o <;> simp [addOptional]
  | none =>
    cases o with
    | some o => simp [addOptional]
    | none => cases t <;> cases c <;> simp [addOptional]

variable {members : Map}

theorem chat_counters_iff (hn : NoOverflow .chat (chatFiniteUsage members)) :
    SameCounters (chatFiniteUsage members) (openaiUsage members) ↔ ReadAlike .chat members := by
  have hc := chatFiniteUsage_cacheRead members
  have hs := sumTokens_eq_addOptional (Nat.lt_of_le_of_lt (Nat.le_add_right _ _) hn)
  have hl := chat_total_iff (token (members.get "total_tokens")) (cachedTokens members) hs
  refine SameCounters.iff_of (token_or_eq_left _ _) (token_or_eq_left _ _) fun hin hout => ?_
  refine (and_iff_left ⟨hc, hc, rfl, rfl, rfl⟩).trans ?_
  rw [← hc] at hl ⊢
  refine Iff.trans (Eq.congr_right ?_) hl
  rw [hin, hout]
  rfl

/-- A zero total beside counts that are not zero is corrected by the stream only. -/
theorem responses_total_iff (t : Option Nat) {i o s : Option Nat} (hs : s = addOptional i o) :
    ((if t.isNone then s else t) =
      if t.isNone || (t == some 0 && (i.getD 0 != 0 || o.getD 0 != 0)) then addOptional i o
      else t) ↔ (t = some 0 → i.getD 0 = 0 ∧ o.getD 0 = 0) := by
  subst hs
  cases t with
  | none => simp
  | some t =>
    by_cases hz : t = 0
    · cases i <;> cases o <;> simp [addOptional, saturatingAdd] <;> omega
    · simp [hz]

theorem responses_counters_iff (hf : NoOverflow .responses (responsesFiniteUsage members)) :
    SameCounters (responsesFiniteUsage members) (openaiUsage members) ↔
      ReadAlike .responses members := by
  have hs := sumTokens_eq_addOptional (Nat.lt_of_le_of_lt (Nat.le_add_right _ _) hf)
  have hl := responses_total_iff (token (members.get "total_tokens")) hs
  refine SameCounters.iff_of (token_or_swap _ _) (token_or_swap _ _) fun hin hout => ?_
  refine and_congr ?_ ?_
  · refine Iff.trans (Eq.congr_right ?_) hl
    rw [hin, hout]
    rfl
  · constructor
    · rintro ⟨-, hc, -, hw, hr⟩
      exact ⟨hc.symm, hw.symm, hr.symm⟩
    · rintro ⟨hc, hw, hr⟩
      exact ⟨hc.symm, hc.symm, rfl, hw.symm, hr.symm⟩

/-- Adding the cached tokens to the total shows, unless they are none. -/
theorem anthropic_total_iff {i o r c : Option Nat}
    (h : i.getD 0 + o.getD 0 + (r.getD 0 + c.getD 0) < 2 ^ 64) :
    addOptional i o = addOptional (addOptional i o)
          (if r.isSome || c.isSome then addOptional r c else none) ↔
      r.getD 0 = 0 ∧ c.getD 0 = 0 ∧ (i = none → o = none → r = none ∧ c = none) := by
  cases i <;> cases o <;> cases r <;> cases c <;>
    simp [addOptional, saturatingAdd] at h ⊢ <;> omega

theorem anthropic_counters_iff (hf : NoOverflow .anthropic (anthropicFiniteUsage members)) :
    SameCounters (anthropicFiniteUsage members) (anthropicUsage members) ↔
      ReadAlike .anthropic members := by
  have hs := sumTokens_eq_addOptional (Nat.lt_of_le_of_lt (Nat.le_add_right _ _) hf)
  have hc := sumTokens_eq_addOptional (Nat.lt_of_le_of_lt (Nat.le_add_left _ _) hf)
  have hl := anthropic_total_iff hf
  refine SameCounters.iff_of (token_or_eq_left _ _) (token_or_eq_left _ _) fun hin hout => ?_
  refine (and_iff_left ⟨?_, rfl, rfl, rfl, rfl⟩).trans ?_
  · refine Iff.trans ?_ hl
    rw [show (anthropicFiniteUsage members).totalTokens = _ from hs, hin, hout]
    rfl
  · simp only [anthropicFiniteUsage, anthropicUsage] at hc ⊢
    rw [hc]

theorem gemini_counters (hf : NoOverflow .gemini (geminiFiniteUsage members)) :
    SameCounters (geminiFiniteUsage members) (geminiUsage members) := by
  have hs := sumTokens_eq_addOptional (Nat.lt_of_le_of_lt (Nat.le_add_right _ _) hf)
  refine ⟨rfl, rfl, ?_, rfl, rfl, rfl, rfl, rfl⟩
  simp only [geminiFiniteUsage, plainUsage, geminiUsage] at hs ⊢
  rw [hs]

/--
**When a finite response and a stream count alike.** For every dialect and every usage
object whose sums fit into a counter: the finite decoder and the stream decoder get the
same counters from the object exactly if it is one that both read alike.
-/
theorem usage_counters_agree_iff (dialect : UsageDialect) (members : Map)
    (hfinite : NoOverflow dialect (finiteUsage dialect members)) :
    SameCounters (finiteUsage dialect members) (streamUsage dialect members) ↔
      ReadAlike dialect members := by
  cases dialect with
  | chat => exact chat_counters_iff hfinite
  | responses => exact responses_counters_iff hfinite
  | anthropic => exact anthropic_counters_iff hfinite
  | gemini => exact iff_of_true (gemini_counters hfinite) trivial

/-- An ordinary chat report. -/
theorem usage_counters_agree_chat : SameCounters
      (finiteUsage .chat [("prompt_tokens", .number (.posInt 7)),
        ("completion_tokens", .number (.posInt 5)), ("total_tokens", .number (.posInt 12))])
      (streamUsage .chat [("prompt_tokens", .number (.posInt 7)),
        ("completion_tokens", .number (.posInt 5)), ("total_tokens", .number (.posInt 12))]) := by
  refine (usage_counters_agree_iff .chat _ (by decide)).mpr ⟨.inl rfl, .inl rfl, ?_⟩
  intro htotal
  cases htotal

/-- The totals of an Anthropic report with cached tokens differ. -/
theorem anthropic_totals_differ : let members : Map := [("input_tokens", .number (.posInt 7)),
      ("output_tokens", .number (.posInt 5)), ("cache_read_input_tokens", .number (.posInt 3))]
    NoOverflow .anthropic (finiteUsage .anthropic members) ∧
      NoOverflow .anthropic (streamUsage .anthropic members) ∧
      ¬ SameCounters (finiteUsage .anthropic members) (streamUsage .anthropic members) := by
  refine ⟨by decide, by decide, fun h => ?_⟩
  -- 12 and 15
  exact absurd h.total (by decide)

end EggPool.Wire
