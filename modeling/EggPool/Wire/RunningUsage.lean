import EggPool.Wire.FiniteUsage
import EggPool.Wire.StreamDecoder

/-!
# Running totals

A stream may report its usage more than once, each time with the totals so far.
Anthropic's reports replace one another field by field; the reports of the other
dialects are added up, which is right for a stream that reports once.

Two questions are asked of the sums on the way. Do the counters that a report derives
from its own fields still fit the fields that the accumulator kept from earlier ones? And
are the folded counts those of the last report? Each is answered report by report: a
step keeps the property exactly when the report meets a condition, and so does a stream.
-/

namespace EggPool.Wire

open EggPool.Lib

/-- An integer of a JSON text that is held as one fits into 64 bits. -/
def CountsFit (members : Map) : Prop :=
  ∀ key count, token (members.get key) = some count → count < 2 ^ 64

/-- It is enough to look at each member. -/
theorem countsFit_of_all {members : Map}
    (h : members.all (fun member => member.2.asU64.all (· < 2 ^ 64)) = true) :
    CountsFit members := by
  intro key cou hc
  obtain ⟨val, hget, hv⟩ := Option.bind_eq_some_iff.mp hc
  obtain ⟨bef, after, hm, _⟩ := List.lookup_eq_some_iff.mp hget
  have hmem : (key, val) ∈ members := by simp [hm]
  have hall := List.all_eq_true.mp h (key, val) hmem
  rw [hv] at hall
  exact of_decide_eq_true hall

theorem CountsFit.getD_lt {m : Map} (h : CountsFit m) (key : String) :
    (token (m.get key)).getD 0 < 2 ^ 64 := by
  cases hc : token (m.get key) with
  | none => exact Nat.two_pow_pos 64
  | some cou => exact h key cou hc

theorem CountsFit.or_lt {m : Map} (h : CountsFit m) (key f : String) :
    (token ((m.get key).or (m.get f))).getD 0 < 2 ^ 64 := by
  cases hkey : m.get key with
  | none =>
    exact h.getD_lt f
  | some val =>
    rw [Option.some_or, ← hkey]
    exact h.getD_lt key

/-! ## Derived counters -/

/-- The derived counters fit the others; an absent counter counts as zero. -/
def CanonicalUsage.Consistent (u : CanonicalUsage) : Prop :=
  u.cachedInputTokens.getD 0 =
      saturatingAdd (u.cacheReadInputTokens.getD 0) (u.cacheCreationInputTokens.getD 0) ∧
    u.totalTokens.getD 0 =
      saturatingAdd (saturatingAdd (u.inputTokens.getD 0) (u.outputTokens.getD 0))
        (u.cachedInputTokens.getD 0)

/-- The four counters that an Anthropic report is about. -/
structure AnthropicCounts where
  (input output cacheRead cacheCreation : Option Nat)

def anthropicCounts (members : Map) : AnthropicCounts where
  input := token ((members.get "input_tokens").or (members.get "prompt_tokens"))
  output := token ((members.get "output_tokens").or (members.get "completion_tokens"))
  cacheRead := token (members.get "cache_read_input_tokens")
  cacheCreation := token (members.get "cache_creation_input_tokens")

/--
A report repeats what it does not change: where it gives one of the cache counters, it
leaves out the other only while that is zero, and where it gives any counter at all, it
leaves out input, output or both cache counters only while they are zero. (What it gives
may also have reached the largest counter already.)
-/
def CanonicalUsage.Repeats (u : CanonicalUsage) (members : Map) : Prop :=
  let c := anthropicCounts members
  ((c.cacheRead.isSome ∨ c.cacheCreation.isSome) →
    ((c.cacheRead = none → u.cacheReadInputTokens.getD 0 = 0) ∧
      (c.cacheCreation = none → u.cacheCreationInputTokens.getD 0 = 0)) ∨
    2 ^ 64 - 1 ≤ c.cacheRead.getD 0 + c.cacheCreation.getD 0) ∧
  ((c.input.isSome ∨ c.output.isSome ∨ c.cacheRead.isSome ∨ c.cacheCreation.isSome) →
    ((c.input = none → u.inputTokens.getD 0 = 0) ∧
      (c.output = none → u.outputTokens.getD 0 = 0) ∧
      (c.cacheRead = none → c.cacheCreation = none → u.cachedInputTokens.getD 0 = 0)) ∨
    2 ^ 64 - 1 ≤ c.input.getD 0 + c.output.getD 0 +
      (c.cacheRead.getD 0 + c.cacheCreation.getD 0))

theorem getD_replacePresent (s i : Option Nat) :
    (replacePresent s i).getD 0 = i.getD (s.getD 0) := by
  cases i <;> rfl

/-- The cached tokens of an accumulator that counted `x` and `y` before. -/
theorem cached_iff {r c ca : Option Nat} {x y : Nat}
    (hr : r.getD 0 < 2 ^ 64) (hc : c.getD 0 < 2 ^ 64) (h : ca.getD 0 = saturatingAdd x y) :
    (replacePresent ca (if r.isSome || c.isSome then addOptional r c else none)).getD 0 =
        saturatingAdd (r.getD x) (c.getD y) ↔ ((r.isSome ∨ c.isSome) →
        ((r = none → x = 0) ∧ (c = none → y = 0)) ∨
          2 ^ 64 - 1 ≤ r.getD 0 + c.getD 0) := by
  rw [getD_replacePresent]
  cases r <;> cases c <;>
    simp [addOptional, saturatingAdd] at hr hc h ⊢ <;> omega

/-- The total of an accumulator that counted `x`, `y` and `z` cached tokens before. -/
theorem total_iff {i o r c t ca : Option Nat} {x y : Nat}
    (hi : i.getD 0 < 2 ^ 64) (hout : o.getD 0 < 2 ^ 64)
    (hr : r.getD 0 < 2 ^ 64) (hc : c.getD 0 < 2 ^ 64)
    (h : t.getD 0 = saturatingAdd (saturatingAdd x y) (ca.getD 0)) :
    (replacePresent t (addOptional (addOptional i o)
        (if r.isSome || c.isSome then addOptional r c else none))).getD 0 =
        saturatingAdd (saturatingAdd (i.getD x) (o.getD y)) ((replacePresent ca
            (if r.isSome || c.isSome then addOptional r c else none)).getD 0) ↔
      ((i.isSome ∨ o.isSome ∨ r.isSome ∨ c.isSome) → ((i = none → x = 0) ∧ (o = none → y = 0) ∧
          (r = none → c = none → ca.getD 0 = 0)) ∨
        2 ^ 64 - 1 ≤ i.getD 0 + o.getD 0 + (r.getD 0 + c.getD 0)) := by
  rw [getD_replacePresent, getD_replacePresent]
  cases i <;> cases o <;> cases r <;> cases c <;>
    simp [addOptional, saturatingAdd] at hi hout hr hc h ⊢ <;> omega

/-- **Step lemma.** A report keeps the derived counters consistent exactly if it repeats. -/
theorem consistent_step {u : CanonicalUsage} {members : Map} (h : u.Consistent)
    (hfit : CountsFit members) :
    (u.mergeCumulative (anthropicUsage members)).Consistent ↔ u.Repeats members := by
  have hi : (anthropicCounts members).input.getD 0 < 2 ^ 64 :=
    hfit.or_lt "input_tokens" "prompt_tokens"
  have hout : (anthropicCounts members).output.getD 0 < 2 ^ 64 :=
    hfit.or_lt "output_tokens" "completion_tokens"
  have hr : (anthropicCounts members).cacheRead.getD 0 < 2 ^ 64 :=
    hfit.getD_lt "cache_read_input_tokens"
  have hc : (anthropicCounts members).cacheCreation.getD 0 < 2 ^ 64 :=
    hfit.getD_lt "cache_creation_input_tokens"
  unfold CanonicalUsage.Consistent
  simp only [CanonicalUsage.mergeCumulative, getD_replacePresent u.inputTokens,
    getD_replacePresent u.outputTokens, getD_replacePresent u.cacheReadInputTokens,
    getD_replacePresent u.cacheCreationInputTokens]
  exact and_congr (cached_iff hr hc h.1) (total_iff hi hout hr hc h.2)

/-- The accumulator after an Anthropic usage object. -/
def foldAnthropicUsage (u : UsageAccumulator) (members : Map) : UsageAccumulator :=
  u.mergeCumulative (anthropicUsage members) true

/--
**When the derived counters of an Anthropic stream fit.** Over every sequence of usage
objects: after each of them the accumulated cached tokens are those read and created, and
the total is input, output and cached tokens, exactly if every object repeats what it does
not change.
-/
theorem anthropic_counters_consistent_iff (objects : List Map)
    (hfit : ∀ members ∈ objects, CountsFit members) : (∀ first, first <+: objects →
        (run foldAnthropicUsage .empty first).value.Consistent) ↔
      Along foldAnthropicUsage (fun u members => u.value.Repeats members) .empty objects := by
  refine forall_prefix_iff_along (I := fun u : UsageAccumulator => u.value.Consistent)
    ⟨rfl, rfl⟩ ?_
  intro u members hmem hu
  exact consistent_step hu (hfit members hmem)

/-- The closing object repeats the prompt. -/
theorem anthropic_counters_consistent_repeated :
    let objects : List Map := [
      [("input_tokens", .number (.posInt 10)), ("output_tokens", .number (.posInt 1))],
      [("input_tokens", .number (.posInt 10)), ("output_tokens", .number (.posInt 5))]]
    ∀ first, first <+: objects → (run foldAnthropicUsage .empty first).value.Consistent := by
  intro objects
  have hfit : ∀ members ∈ objects, CountsFit members := by
    intro members hmembers
    refine countsFit_of_all (List.all_eq_true.mp (?_ : objects.all (fun members =>
      members.all fun member => member.2.asU64.all (· < 2 ^ 64)) = true) members hmembers)
    rfl
  refine (anthropic_counters_consistent_iff objects hfit).mpr ⟨?_, ?_, trivial⟩
  · exact ⟨by decide, by decide⟩
  · exact ⟨by decide, by decide⟩

/-- The closing object gives the output alone: the total forgets the prompt. -/
theorem anthropic_total_forgets_prompt :
    let objects : List Map := [
      [("input_tokens", .number (.posInt 10)), ("output_tokens", .number (.posInt 1))],
      [("output_tokens", .number (.posInt 5))]]
    (∀ members ∈ objects, (anthropicUsage members).Consistent) ∧
      ¬ (run foldAnthropicUsage .empty objects).value.Consistent := by
  intro objects
  refine ⟨?_, fun h => ?_⟩
  · simp only [objects, List.forall_mem_cons, List.not_mem_nil, false_implies, implies_true,
      and_true]
    exact ⟨⟨by decide, by decide⟩, by decide, by decide⟩
  · -- 5 instead of 15
    exact absurd h.2 (by decide)

end EggPool.Wire
