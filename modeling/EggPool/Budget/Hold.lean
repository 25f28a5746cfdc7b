import EggPool.Lib.I64

/-!
# What a request must hold

A hard budget dimension is reserved by worst case, never by estimate. The worst
case of one attempt is the caller's input bound plus its output cap, priced at
the operator's tariff. The first admission holds two such equivalents and each
retry adds one, so the hold of a request always covers all of its attempts; the
last section proves the two inequalities that say so.
-/

namespace EggPool.Budget

open EggPool.Lib Option

inductive BudgetWindow
  | day | month
deriving DecidableEq, Repr

inductive BudgetEnforcement
  | hard | estimated
deriving DecidableEq, Repr

inductive BudgetPriceSource
  | operatorTariff
deriving DecidableEq, Repr

/-- The per-request worst-case facts carried from admission. -/
structure BudgetProof where
  inputWorstCaseTokens : Int
  (requestedOutputTokens tariffMicrodollarsPerMillionTokens : Option Int)
deriving DecidableEq, Repr

structure BudgetHold where
  (tokens microdollars : Int)
  enforcement : BudgetEnforcement
  (boundTokens boundMicrodollars : Int)
  priceSource : Option BudgetPriceSource
deriving DecidableEq, Repr

def BudgetHold.empty : BudgetHold := ⟨0, 0, .estimated, 0, 0, none⟩

def HARD_HOLD_INITIAL_EQUIVALENTS : Int := 2

def HARD_HOLD_RETRY_EQUIVALENTS : Int := 1

def MICRODOLLARS_PER_MILLION_TOKENS : Int := 1000000

/-- Worst-case tokens one attempt can bill, if they are bounded at all. -/
def singleAttemptWorstTokens (proof : BudgetProof) : Option Int := do
  let output ← proof.requestedOutputTokens.filter (0 < ·)
  if proof.inputWorstCaseTokens < 0 then none
  else
    let single := proof.inputWorstCaseTokens + output
    if single ≤ 0 ∨ I64.MAX < single then none else some single

/-- Millionths, rounded up. -/
def perMillion (numerator : Int) : Int :=
  numerator / MICRODOLLARS_PER_MILLION_TOKENS +
    if numerator % MICRODOLLARS_PER_MILLION_TOKENS ≠ 0 then 1 else 0

/-- Price of `tokens` at the operator's tariff, rounded up. -/
def tariffCostMicrodollars (tokens : Int) (tariffPerMillion : Option Int) : Option Int := do
  let tariff ← tariffPerMillion.filter (0 ≤ ·)
  if tokens < 0 then none
  else if I64.MAX < perMillion (tokens * tariff) then none
  else some (perMillion (tokens * tariff))

def checkedMul (value factor : Int) : Option Int :=
  if value * factor < 0 ∨ I64.MAX < value * factor then none else some (value * factor)

/-- Tokens to hold: the worst case of `equivalents` attempts, or the estimate. -/
def holdTokens (equivalents estimate : Int) (proof : Option BudgetProof) (hard : Bool) :
    Option Int :=
  if hard then (proof.bind singleAttemptWorstTokens).bind (checkedMul · equivalents)
  else some (max estimate 0)

/-- Cost to hold: the price of the worst case of `equivalents` attempts, or the estimate. -/
def holdMicrodollars (equivalents estimate : Int) (proof : Option BudgetProof) (hard : Bool) :
    Option Int :=
  if hard then
    ((proof.bind singleAttemptWorstTokens).bind (checkedMul · equivalents)).bind
      (tariffCostMicrodollars · (proof.bind (·.tariffMicrodollarsPerMillionTokens)))
  else some (max estimate 0)

/--
The amounts `equivalents` single attempts must hold. A hard dimension needs a
proof; an estimated one keeps the estimator's projection.
-/
def holdFor (equivalents estimateTokens estimateMicrodollars : Int) (proof : Option BudgetProof)
    (hardToken hardCost : Bool) : Option BudgetHold := do
  let tokens ← holdTokens equivalents estimateTokens proof hardToken
  let microdollars ← holdMicrodollars equivalents estimateMicrodollars proof hardCost
  return {
    tokens := tokens
    microdollars := microdollars
    enforcement := if hardToken || hardCost then .hard else .estimated
    boundTokens := if hardToken then tokens else 0
    boundMicrodollars := if hardCost then microdollars else 0
    priceSource := if hardCost then some .operatorTariff else none }

def holdForAdmission : Int → Int → Option BudgetProof → Bool → Bool → Option BudgetHold :=
  holdFor HARD_HOLD_INITIAL_EQUIVALENTS

def holdForRetry : Int → Int → Option BudgetProof → Bool → Bool → Option BudgetHold :=
  holdFor HARD_HOLD_RETRY_EQUIVALENTS

/-! ## A hold covers its attempts -/

/-- Worst-case tokens of one attempt under an optional proof. -/
def worstTokens (proof : Option BudgetProof) : Option Int := proof.bind singleAttemptWorstTokens

/-- Worst-case cost of one attempt under an optional proof. -/
def worstCost (proof : Option BudgetProof) : Option Int :=
  (worstTokens proof).bind
    (tariffCostMicrodollars · (proof.bind (·.tariffMicrodollarsPerMillionTokens)))

theorem singleAttemptWorstTokens_pos {proof : BudgetProof} {single : Int}
    (h : singleAttemptWorstTokens proof = some single) : 0 < single := by
  obtain ⟨otp, _, h⟩ := bind_eq_some_iff.mp h
  split at h
  · cases h
  dsimp only at h
  split at h
  · cases h
  cases h
  omega

variable {proof : Option BudgetProof}

theorem worstTokens_pos {single : Int} (h : worstTokens proof = some single) : 0 < single := by
  obtain ⟨p, _, hp⟩ := bind_eq_some_iff.mp h
  exact singleAttemptWorstTokens_pos hp

theorem checkedMul_eq {v f product : Int} (h : checkedMul v f = some product) :
    product = v * f ∧ 0 ≤ product := by
  unfold checkedMul at h
  split at h
  · cases h
  cases h
  exact ⟨rfl, by omega⟩

theorem perMillion_nonneg {x : Int} (hx : 0 ≤ x) : 0 ≤ perMillion x := by
  unfold perMillion MICRODOLLARS_PER_MILLION_TOKENS
  split <;> omega

theorem perMillion_mono {x y : Int} (h : x ≤ y) : perMillion x ≤ perMillion y := by
  unfold perMillion MICRODOLLARS_PER_MILLION_TOKENS
  split <;> split <;> omega

/-- The tariff rounds up, so it is monotone in the tokens and never negative. -/
theorem tariffCost_mono {a b cost : Int} {t : Option Int} (ha : 0 ≤ a) (hab : a ≤ b)
    (h : tariffCostMicrodollars b t = some cost) :
    ∃ c, tariffCostMicrodollars a t = some c ∧ 0 ≤ c ∧ c ≤ cost := by
  unfold tariffCostMicrodollars at h ⊢
  obtain ⟨rate, hr, h⟩ := bind_eq_some_iff.mp h
  have hnn : 0 ≤ rate := by
    have := (filter_eq_some_iff.mp hr).2
    simpa using this
  rw [hr, bind_eq_bind, bind_some]
  rw [if_neg (by omega)] at h
  rw [if_neg (by omega)]
  have hle : perMillion (a * rate) ≤ perMillion (b * rate) :=
    perMillion_mono (mul_le_mul_of_nonneg_right hab hnn)
  have hp : 0 ≤ perMillion (a * rate) := perMillion_nonneg (mul_nonneg ha hnn)
  split at h
  · cases h
  cases h
  exact ⟨_, by rw [if_neg (by omega)], hp, hle⟩

theorem holdTokens_covers {k es tk : Int} {hard : Bool} (hk : 1 ≤ k)
    (h : holdTokens k es proof hard = some tk) :
    0 ≤ tk ∧ (hard = true → ∃ t, worstTokens proof = some t ∧ t ≤ tk) := by
  unfold holdTokens at h
  cases hard with
  | false =>
    rw [if_neg Bool.false_ne_true, some.injEq] at h
    exact ⟨by omega, fun hc => by cases hc⟩
  | true =>
    obtain ⟨single, hs, hm⟩ := bind_eq_some_iff.mp h
    obtain ⟨heq, hnn⟩ := checkedMul_eq hm
    refine ⟨hnn, fun _ => ⟨single, hs, ?_⟩⟩
    nlinarith

theorem holdMicrodollars_covers {k es m : Int} {hard : Bool} (hk : 1 ≤ k)
    (h : holdMicrodollars k es proof hard = some m) :
    0 ≤ m ∧ (hard = true → ∃ c, worstCost proof = some c ∧ c ≤ m) := by
  unfold holdMicrodollars at h
  cases hard with
  | false =>
    rw [if_neg Bool.false_ne_true, some.injEq] at h
    exact ⟨by omega, fun hc => by cases hc⟩
  | true =>
    obtain ⟨costTokens, hct, hp⟩ := bind_eq_some_iff.mp h
    obtain ⟨single, hs, hm⟩ := bind_eq_some_iff.mp hct
    obtain ⟨heq, _⟩ := checkedMul_eq hm
    have hpo := worstTokens_pos hs
    have hle : single ≤ costTokens := by rw [heq]; nlinarith
    obtain ⟨c, hc, hc0, hl⟩ := tariffCost_mono (le_of_lt hpo) hle hp
    refine ⟨by omega, fun _ => ⟨c, ?_, hl⟩⟩
    rw [worstCost, show worstTokens proof = some single from hs, bind_some, hc]

/-- **A hard hold covers the worst case of one attempt, and no hold is negative.** -/
theorem holdFor_covers {k et em : Int} {hardToken hardCost : Bool} {ho : BudgetHold} (hk : 1 ≤ k)
    (h : holdFor k et em proof hardToken hardCost = some ho) : 0 ≤ ho.tokens ∧ 0 ≤ ho.microdollars ∧
    (hardToken = true → ∃ t, worstTokens proof = some t ∧ t ≤ ho.tokens) ∧
    (hardCost = true → ∃ c, worstCost proof = some c ∧ c ≤ ho.microdollars) := by
  obtain ⟨tokens, ht, h⟩ := bind_eq_some_iff.mp h
  obtain ⟨mic, hm, h⟩ := bind_eq_some_iff.mp h
  cases h
  obtain ⟨ht0, htc⟩ := holdTokens_covers hk ht
  obtain ⟨hm0, hmc⟩ := holdMicrodollars_covers hk hm
  exact ⟨ht0, hm0, htc, hmc⟩

end EggPool.Budget
