import EggPool.Budget.Hold

/-!
# Holds and exact worst cases

What a hold is, said without the checks that compute it: in a hard dimension the exact worst
case of the attempts it stands for, a cost rounded up once. Over the attempts of a request
the holds add up to at least their worst cases. A hold is refused when the worst case is
unbounded, unpriced or out of range; a cost is also refused when the tokens it prices are
out of range, however small the price.
-/

namespace EggPool.Budget

open EggPool.Lib Option

/-- `i64` rounding up agrees with the ceiling of the exact quotient. -/
theorem perMillion_eq_ceil (x : Int) : perMillion x = ⌈(x : ℚ) / 1000000⌉ := by
  have hl : (perMillion x - 1) * 1000000 < x := by
    unfold perMillion MICRODOLLARS_PER_MILLION_TOKENS
    split <;> omega
  have hh : x ≤ perMillion x * 1000000 := by
    unfold perMillion MICRODOLLARS_PER_MILLION_TOKENS
    split <;> omega
  symm
  rw [Int.ceil_eq_iff, lt_div_iff₀ (by norm_num), div_le_iff₀ (by norm_num)]
  exact ⟨by exact_mod_cast hl, by exact_mod_cast hh⟩

/-- What one call for a hold is given. -/
structure HoldCall where
  (estimateTokens estimateMicrodollars : Int)
  proof : Option BudgetProof
  (hardToken hardCost : Bool)
deriving DecidableEq, Repr

namespace HoldCall

def holdOf (k : Int) (q : HoldCall) : Option BudgetHold :=
  holdFor k q.estimateTokens q.estimateMicrodollars q.proof q.hardToken q.hardCost

variable (q : HoldCall)

def admission : Option BudgetHold :=
  holdForAdmission q.estimateTokens q.estimateMicrodollars q.proof q.hardToken q.hardCost

def retry : Option BudgetHold :=
  holdForRetry q.estimateTokens q.estimateMicrodollars q.proof q.hardToken q.hardCost

/-- The tokens one attempt can bill. -/
def exactTokens : Int :=
  (q.proof.map fun p => p.inputWorstCaseTokens + p.requestedOutputTokens.getD 0).getD 0

/-- The tariff of the call. -/
def tariff : Option Int := q.proof.bind (·.tariffMicrodollarsPerMillionTokens)

/-- The exact price of some tokens, rounded up. -/
def exactCost (tokens : Int) : Int :=
  ⌈((tokens * q.tariff.getD 0 : Int) : ℚ) / 1000000⌉

/-- A positive output bound and an input bound that is not negative. -/
def Bounded : Prop :=
  ∃ p ∈ q.proof, (∃ output ∈ p.requestedOutputTokens, 0 < output) ∧ 0 ≤ p.inputWorstCaseTokens

/-- A tariff that is not negative. -/
def Priced : Prop := ∃ rate ∈ q.tariff, 0 ≤ rate

/-- **When there is no hold for the worst case of `k` attempts.** -/
def Unprovable (k : Int) (q : HoldCall) : Prop :=
  (q.hardToken = true ∧ (¬ q.Bounded ∨ I64.MAX < k * q.exactTokens)) ∨
  (q.hardCost = true ∧ (¬ q.Bounded ∨ ¬ q.Priced ∨ I64.MAX < k * q.exactTokens ∨
    I64.MAX < q.exactCost (k * q.exactTokens)))

/-! ## The amounts of a hard dimension -/

variable {q : HoldCall} {k : Int}

theorem singleAttemptWorstTokens_eq_some {p : BudgetProof} {s : Int} :
    singleAttemptWorstTokens p = some s ↔
      (∃ o ∈ p.requestedOutputTokens, 0 < o) ∧ 0 ≤ p.inputWorstCaseTokens ∧
        p.inputWorstCaseTokens + p.requestedOutputTokens.getD 0 ≤ I64.MAX ∧
        s = p.inputWorstCaseTokens + p.requestedOutputTokens.getD 0 := by
  unfold singleAttemptWorstTokens
  cases hout : p.requestedOutputTokens with
  | none => exact iff_of_false (fun h => by cases h) fun h => by simp at h
  | some o =>
    simp only [mem_some_iff, exists_eq_left', getD_some]
    by_cases hp : 0 < o
    · rw [filter_some, if_pos (decide_eq_true hp), bind_eq_bind, bind_some]
      split
      · exact iff_of_false (fun h => by cases h) fun h => by omega
      split
      · exact iff_of_false (fun h => by cases h) fun h => by omega
      rw [some.injEq]
      constructor
      · omega
      · omega
    · rw [filter_some, if_neg (by simpa using hp)]
      exact iff_of_false (fun h => by cases h) fun h => hp h.1

/-- **The tokens that are held are the exact ones**, if they are bounded and in range. -/
theorem worstTokens_eq_some (hk : 1 ≤ k) {t : Int} :
    (q.proof.bind singleAttemptWorstTokens).bind (checkedMul · k) = some t ↔
      q.Bounded ∧ k * q.exactTokens ≤ I64.MAX ∧ t = k * q.exactTokens := by
  unfold Bounded exactTokens
  cases q.proof with
  | none => exact iff_of_false (fun h => by cases h) fun h => by simp at h
  | some p =>
    simp only [mem_some_iff, exists_eq_left', map_some, getD_some,
      bind_some, bind_eq_some_iff, singleAttemptWorstTokens_eq_some, checkedMul]
    constructor
    · rintro ⟨single, ⟨hout, hin, hle, rfl⟩, hm⟩
      split at hm
      · cases hm
      · cases hm
        exact ⟨⟨hout, hin⟩, by rw [mul_comm]; omega, mul_comm _ _⟩
    · rintro ⟨⟨⟨otp, hout, hp⟩, hin⟩, hle, rfl⟩
      rw [hout, getD_some] at hle ⊢
      have hs : p.inputWorstCaseTokens + otp ≤ k * (p.inputWorstCaseTokens + otp) := by
        nlinarith
      refine ⟨_, ⟨⟨otp, rfl, hp⟩, hin, hs.trans hle, rfl⟩, ?_⟩
      rw [mul_comm, if_neg (by omega)]

/-- **The cost that is held is the exact one**, if it is priced and in range. -/
theorem tariffCost_eq_some {tokens c : Int} (h : 0 ≤ tokens) :
    tariffCostMicrodollars tokens q.tariff = some c ↔
      q.Priced ∧ q.exactCost tokens ≤ I64.MAX ∧ c = q.exactCost tokens := by
  unfold Priced exactCost tariffCostMicrodollars
  rw [← perMillion_eq_ceil]
  cases q.tariff with
  | none => exact iff_of_false (fun h => by cases h) fun h => by simp at h
  | some rate =>
    simp only [mem_some_iff, exists_eq_left', getD_some]
    by_cases hr : 0 ≤ rate
    · rw [filter_some, if_pos (decide_eq_true hr), bind_eq_bind, bind_some, if_neg (by omega)]
      split
      · exact iff_of_false (fun h => by cases h) fun h => by omega
      · rw [some.injEq]
        exact ⟨fun h => ⟨hr, by omega, h.symm⟩, fun h => h.2.2.symm⟩
    · rw [filter_some, if_neg (by simpa using hr)]
      exact iff_of_false (fun h => by cases h) fun h => hr h.1

theorem Bounded.exactTokens_pos (h : q.Bounded) : 0 < q.exactTokens := by
  obtain ⟨p, hp, ⟨otp, hout, hs⟩, hin⟩ := h
  rw [exactTokens, mem_def.mp hp, map_some, getD_some, mem_def.mp hout, getD_some]
  omega

theorem Priced.exactCost_nonneg (h : q.Priced) {tokens : Int} (ht : 0 ≤ tokens) :
    0 ≤ q.exactCost tokens := by
  obtain ⟨rate, hr, hn⟩ := h
  rw [exactCost, mem_def.mp hr]
  exact Int.ceil_nonneg (by positivity)

/-- Rounding up is monotone, so pricing more tokens never costs less. -/
theorem Priced.exactCost_mono (h : q.Priced) {a b : Int} (hab : a ≤ b) :
    q.exactCost a ≤ q.exactCost b := by
  obtain ⟨rate, hr, hn⟩ := h
  rw [exactCost, exactCost, mem_def.mp hr]
  refine Int.ceil_le_ceil (div_le_div_of_nonneg_right ?_ (by norm_num))
  exact_mod_cast mul_le_mul_of_nonneg_right hab hn

/-! ## A hold -/

theorem holdTokens_eq_some (hk : 1 ≤ k) {t : Int} :
    holdTokens k q.estimateTokens q.proof q.hardToken = some t ↔
      if q.hardToken then q.Bounded ∧ k * q.exactTokens ≤ I64.MAX ∧ t = k * q.exactTokens
      else t = max q.estimateTokens 0 := by
  unfold holdTokens
  split
  · exact worstTokens_eq_some hk
  · rw [some.injEq, eq_comm]

theorem holdMicrodollars_eq_some (hk : 1 ≤ k) {m : Int} :
    holdMicrodollars k q.estimateMicrodollars q.proof q.hardCost = some m ↔
      if q.hardCost then (q.Bounded ∧ k * q.exactTokens ≤ I64.MAX) ∧ q.Priced ∧
        q.exactCost (k * q.exactTokens) ≤ I64.MAX ∧
        m = q.exactCost (k * q.exactTokens) else m = max q.estimateMicrodollars 0 := by
  unfold holdMicrodollars
  split
  · rw [bind_eq_some_iff]
    constructor
    · rintro ⟨tok, ht, hc⟩
      obtain ⟨hb, hle, rfl⟩ := (worstTokens_eq_some hk).mp ht
      have hp := hb.exactTokens_pos
      exact ⟨⟨hb, hle⟩, (tariffCost_eq_some (by nlinarith)).mp hc⟩
    · rintro ⟨⟨hb, hle⟩, hc⟩
      have hp := hb.exactTokens_pos
      exact ⟨_, (worstTokens_eq_some hk).mpr ⟨hb, hle, rfl⟩,
        (tariffCost_eq_some (by nlinarith)).mpr hc⟩
  · rw [some.injEq, eq_comm]

/-- The estimates are `i64` values. -/
def InRange (q : HoldCall) : Prop :=
  q.estimateTokens ≤ I64.MAX ∧ q.estimateMicrodollars ≤ I64.MAX

/-- An amount that is neither negative nor wrapped. -/
def Exact (amount : Int) : Prop := 0 ≤ amount ∧ amount ≤ I64.MAX

/-- What a hold for `k` attempts amounts to. -/
theorem holdOf_spec (hk : 1 ≤ k) {ho : BudgetHold} (hr : q.InRange) (h : q.holdOf k = some ho) :
    Exact ho.tokens ∧ Exact ho.microdollars ∧ (q.hardToken = true → q.exactTokens ≤ ho.tokens) ∧
    (q.hardCost = true → q.exactCost q.exactTokens ≤ ho.microdollars) := by
  obtain ⟨tokens, hn, h⟩ := bind_eq_some_iff.mp h
  obtain ⟨microdollars, hc, h⟩ := bind_eq_some_iff.mp h
  cases h
  rw [holdTokens_eq_some hk] at hn
  rw [holdMicrodollars_eq_some hk] at hc
  have hz : (0 : Int) ≤ I64.MAX := by decide
  have ht : Exact tokens ∧ (q.hardToken = true → q.exactTokens ≤ tokens) := by
    split at hn
    · obtain ⟨hb, hle, rfl⟩ := hn
      have hpo := hb.exactTokens_pos
      exact ⟨⟨by nlinarith, hle⟩, fun _ => by nlinarith⟩
    · rename_i hs
      subst hn
      exact ⟨⟨le_max_right _ _, max_le hr.1 hz⟩, fun hh => absurd hh hs⟩
  have hm : Exact microdollars ∧
      (q.hardCost = true → q.exactCost q.exactTokens ≤ microdollars) := by
    split at hc
    · obtain ⟨⟨hb, -⟩, hp, hle, rfl⟩ := hc
      have hpo := hb.exactTokens_pos
      exact ⟨⟨hp.exactCost_nonneg (by nlinarith), hle⟩,
        fun _ => hp.exactCost_mono (by nlinarith)⟩
    · rename_i hs
      subst hc
      exact ⟨⟨le_max_right _ _, max_le hr.2 hz⟩, fun hh => absurd hh hs⟩
  exact ⟨ht.1, hm.1, ht.2, hm.2⟩

/-- **A hold fails in step with its exact amounts.** -/
theorem holdOf_eq_none (hk : 1 ≤ k) : q.holdOf k = none ↔ q.Unprovable k := by
  have ht : holdTokens k q.estimateTokens q.proof q.hardToken = none ↔
      q.hardToken = true ∧ (¬ q.Bounded ∨ I64.MAX < k * q.exactTokens) := by
    rw [eq_none_iff_forall_ne_some]
    simp only [ne_eq, holdTokens_eq_some hk]
    cases q.hardToken with
    | false => simp
    | true =>
      simp only [if_pos, true_and, not_and_or, not_le]
      exact ⟨fun h => (h (k * q.exactTokens)).imp_right fun h => h.resolve_right fun h => h rfl,
        fun h _ => h.imp_right .inl⟩
  have hm : holdMicrodollars k q.estimateMicrodollars q.proof q.hardCost = none ↔
      q.hardCost = true ∧ (¬ q.Bounded ∨ ¬ q.Priced ∨ I64.MAX < k * q.exactTokens ∨
        I64.MAX < q.exactCost (k * q.exactTokens)) := by
    rw [eq_none_iff_forall_ne_some]
    simp only [ne_eq, holdMicrodollars_eq_some hk]
    cases q.hardCost with
    | false => simp
    | true =>
      simp only [if_pos, not_and_or, not_le]
      constructor
      · intro h
        have := h (q.exactCost (k * q.exactTokens))
        tauto
      · tauto
  rw [Unprovable, ← ht, ← hm]
  unfold holdOf holdFor
  cases holdTokens k q.estimateTokens q.proof q.hardToken <;>
    cases holdMicrodollars k q.estimateMicrodollars q.proof q.hardCost <;> simp

/-! ## The holds of a request -/

/-- Retries add at least the worst case of the attempt they are for. -/
theorem sum_le_of_retries {r : List HoldCall} {ex : List BudgetHold}
    (h : List.Forall₂ (fun q extr => q.retry = some extr) r ex)
    {w : HoldCall → Int} {a : BudgetHold → Int}
    (ho : ∀ q ∈ r, ∀ extr, q.retry = some extr → w q ≤ a extr) : (r.map w).sum ≤ (ex.map a).sum:= by
  induction h with
  | nil => exact le_rfl
  | cons hq _ ih =>
    obtain ⟨hf, hr⟩ := List.forall_mem_cons.mp ho
    exact add_le_add (hf _ hq) (ih hr)

/-- **Holds cover their attempts and fail with them.** -/
theorem holds_cover_attempts (first : HoldCall) (retries : List HoldCall)
    (hrange : ∀ q ∈ first :: retries, q.InRange) :
    (∀ (hold : BudgetHold) (extras : List BudgetHold), first.admission = some hold →
      List.Forall₂ (fun q extra => q.retry = some extra) retries extras →
      ((∀ q ∈ first :: retries, q.hardToken = true) → ((first :: retries).map exactTokens).sum ≤
          hold.tokens + (extras.map (·.tokens)).sum) ∧
      ((∀ q ∈ first :: retries, q.hardCost = true) →
        ((first :: retries).map fun q => q.exactCost q.exactTokens).sum ≤
          hold.microdollars + (extras.map (·.microdollars)).sum)) ∧
    (∀ q ∈ first :: retries, ∀ hold, q.admission = some hold ∨ q.retry = some hold →
      Exact hold.tokens ∧ Exact hold.microdollars) ∧
    (∀ q ∈ first :: retries, (q.admission = none ↔ q.Unprovable 2) ∧
      (q.retry = none ↔ q.Unprovable 1)) := by
  have hadmission : ∀ q : HoldCall, q.InRange → ∀ hold, q.admission = some hold → _ :=
    fun q hq hold h => holdOf_spec (by decide) hq h
  have hretry : ∀ q : HoldCall, q.InRange → ∀ hold, q.retry = some hold → _ :=
    fun q hq hold h => holdOf_spec le_rfl hq h
  obtain ⟨hfirst, hretries⟩ := List.forall_mem_cons.mp hrange
  refine ⟨fun hold extras hadm hret => ⟨fun hhard => ?_, fun hhard => ?_⟩, ?_, ?_⟩
  · obtain ⟨hhard, hhards⟩ := List.forall_mem_cons.mp hhard
    exact add_le_add ((hadmission first hfirst hold hadm).2.2.1 hhard)
      (sum_le_of_retries hret fun q hq extra h => (hretry q (hretries q hq) extra h).2.2.1
        (hhards q hq))
  · obtain ⟨hhard, hhards⟩ := List.forall_mem_cons.mp hhard
    exact add_le_add ((hadmission first hfirst hold hadm).2.2.2 hhard)
      (sum_le_of_retries hret fun q hq extra h => (hretry q (hretries q hq) extra h).2.2.2
        (hhards q hq))
  · rintro q hq hold (h | h)
    · obtain ⟨htokens, hmicro, -⟩ := hadmission q (hrange q hq) hold h
      exact ⟨htokens, hmicro⟩
    · obtain ⟨htokens, hmicro, -⟩ := hretry q (hrange q hq) hold h
      exact ⟨htokens, hmicro⟩
  · exact fun q _ => ⟨holdOf_eq_none (by decide), holdOf_eq_none le_rfl⟩

/-- Ten tokens in, five out, a microdollar each. -/
def fifteen : HoldCall := ⟨0, 0, some ⟨10, some 5, some 1000000⟩, true, true⟩

theorem holds_cover_attempts_fifteen : ∃ hold extra,
    fifteen.admission = some hold ∧ fifteen.retry = some extra ∧
      ([fifteen, fifteen].map exactTokens).sum ≤ hold.tokens + ([extra].map (·.tokens)).sum := by
  have hrange : fifteen.InRange := ⟨by decide, by decide⟩
  refine ⟨_, _, rfl, rfl, ?_⟩
  exact ((holds_cover_attempts fifteen [fifteen] (by simpa using hrange)).1 _ _ rfl
    (.cons rfl .nil)).1 (by decide)

/-- Tokens beyond the range at a price within it: no hold on the cost alone. -/
theorem cost_refused_in_range : ∃ q : HoldCall, q.hardToken = false ∧ q.Bounded ∧ q.Priced ∧
    q.exactCost (2 * q.exactTokens) ≤ I64.MAX ∧ q.admission = none := by
  refine ⟨⟨0, 0, some ⟨0, some I64.MAX, some 1⟩, false, true⟩, rfl, ?_, ?_, ?_, ?_⟩
  · exact ⟨_, rfl, ⟨_, rfl, by decide⟩, le_rfl⟩
  · exact ⟨_, rfl, by decide⟩
  · rw [exactCost, ← perMillion_eq_ceil]
    decide
  · decide

end HoldCall

end EggPool.Budget
