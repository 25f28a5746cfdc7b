import Mathlib

/-!
# Metered calls

A system answers calls that come at certain times. Some answers are charged: each uses one
unit of a credit that is never more than a cap and that grows, while nothing happens, at
no more than a fixed rate. Whatever the system keeps to do this, it charges at most
`cap + rate * d` calls in a span of `d`.

The credit is a function of the state and of the time at which it is looked at, so a system
may forget a part of its state whenever the credit does not notice.
-/

namespace EggPool.Lib

open List

variable {σ α β : Type}

/-- The calls of a run, each with its answer. -/
def transcript (step : σ → α → σ × β) : σ → List α → List (α × β)
  | _, [] => []
  | s, a :: as => (a, (step s a).2) :: transcript step (step s a).1 as

/-- A credit that pays for every charged call. -/
structure Meter (step : σ → α → σ × β) (time : α → ℚ) (charged : α → β → Bool) where
  (cap rate : ℚ)
  rate_nonneg : 0 ≤ rate
  /-- The states that can be met at a time. -/
  Sound : σ → ℚ → Prop
  /-- What is left at a time if no call comes before it. -/
  credit : σ → ℚ → ℚ
  credit_nonneg : ∀ {s t}, Sound s t → 0 ≤ credit s t
  credit_le_cap : ∀ {s t}, Sound s t → credit s t ≤ cap
  sound_later : ∀ {s t u}, Sound s t → t ≤ u → Sound s u
  credit_later : ∀ {s t u}, Sound s t → t ≤ u → credit s u ≤ credit s t + rate * (u - t)
  /-- The calls the meter is about. -/
  Metered : α → Prop
  sound_step : ∀ {s a}, Metered a → Sound s (time a) → Sound (step s a).1 (time a)
  credit_step : ∀ {s a}, Metered a → Sound s (time a) →
    credit (step s a).1 (time a) + (if charged a (step s a).2 then 1 else 0) ≤ credit s (time a)

namespace Meter

variable {step : σ → α → σ × β} {time : α → ℚ} {charged : α → β → Bool}

/-- How many calls are charged between two times. -/
def chargedBetween (time : α → ℚ) (charged : α → β → Bool) (low high : ℚ)
    (calls : List (α × β)) : Nat :=
  calls.countP fun c => charged c.1 c.2 && decide (low ≤ time c.1) && decide (time c.1 ≤ high)

variable {low high : ℚ}

theorem chargedBetween_cons {a : α} {b : β} {calls : List (α × β)} :
    chargedBetween time charged low high ((a, b) :: calls) =
      chargedBetween time charged low high calls +
        if charged a b ∧ low ≤ time a ∧ time a ≤ high then 1 else 0 := by
  simp only [chargedBetween, countP_cons, Bool.and_eq_true, decide_eq_true_eq, and_assoc]

variable {calls : List α}

/-- Nothing is charged in a span once it is over. -/
theorem chargedBetween_eq_zero (s : σ) (h : ∀ a ∈ calls, high < time a) :
    chargedBetween time charged low high (transcript step s calls) = 0 := by
  induction calls generalizing s with
  | nil => rfl
  | cons a calls ih =>
    obtain ⟨ha, hr⟩ := forall_mem_cons.mp h
    have hn : ¬ (charged a (step s a).2 ∧ low ≤ time a ∧ time a ≤ high) :=
      fun h => absurd h.2.2 (not_le.mpr ha)
    rw [transcript, chargedBetween_cons, if_neg hn, ih _ hr]

theorem chargedBetween_eq_zero_of_head {a : α} (s : σ)
    (hs : (a :: calls).Pairwise fun a b => time a ≤ time b) (ha : high < time a) :
    chargedBetween time charged low high (transcript step s (a :: calls)) = 0 := by
  exact chargedBetween_eq_zero s (forall_mem_cons.mpr
    ⟨ha, fun b hb => lt_of_lt_of_le ha (rel_of_pairwise_cons hs hb)⟩)

variable (m : Meter step time charged)

/-- What is charged up to a time comes out of the credit and of what it grows by. -/
theorem charged_le_credit (low : ℚ) {t : ℚ} {s : σ} (hs : m.Sound s t) (ht : t ≤ high)
    (hm : ∀ a ∈ calls, m.Metered a) (ha : ∀ a ∈ calls, t ≤ time a)
    (hr : calls.Pairwise fun a b => time a ≤ time b) :
    (chargedBetween time charged low high (transcript step s calls) : ℚ) ≤
      m.credit s t + m.rate * (high - t) := by
  induction calls generalizing s t with
  | nil =>
    have hg : 0 ≤ m.rate * (high - t) := mul_nonneg m.rate_nonneg (sub_nonneg.mpr ht)
    simpa [transcript, chargedBetween] using add_nonneg (m.credit_nonneg hs) hg
  | cons a calls ih =>
    obtain ⟨hma, hmr⟩ := forall_mem_cons.mp hm
    obtain ⟨hta, -⟩ := forall_mem_cons.mp ha
    obtain ⟨haa, hsr⟩ := pairwise_cons.mp hr
    by_cases hin : time a ≤ high
    · -- the call is in the span: go to its time, pay for it, and leave the rest to the rest
      have hn : m.Sound s (time a) := m.sound_later hs hta
      have hw := m.credit_later hs hta
      have hp := m.credit_step hma hn
      have hre := ih (m.sound_step hma hn) hin hmr haa hsr
      have hh : (if charged a (step s a).2 ∧ low ≤ time a ∧ time a ≤ high then (1 : ℚ) else 0) ≤
          if charged a (step s a).2 then 1 else 0 := by
        split_ifs <;> simp_all
      rw [transcript, chargedBetween_cons]
      push_cast
      linarith
    · rw [chargedBetween_eq_zero_of_head s hr (not_le.mp hin)]
      have hg : 0 ≤ m.rate * (high - t) := mul_nonneg m.rate_nonneg (sub_nonneg.mpr ht)
      simpa using add_nonneg (m.credit_nonneg hs) hg

/-- **A span of `d` sees at most `cap + rate * d` charged calls.** -/
theorem charged_le (low : ℚ) {d t : ℚ} (hd : 0 ≤ d) {s : σ} (hs : m.Sound s t)
    (hm : ∀ a ∈ calls, m.Metered a) (ha : ∀ a ∈ calls, t ≤ time a)
    (hr : calls.Pairwise fun a b => time a ≤ time b) :
    (chargedBetween time charged low (low + d) (transcript step s calls) : ℚ) ≤
      m.cap + m.rate * d := by
  induction calls generalizing s t with
  | nil =>
    have hc : 0 ≤ m.cap := (m.credit_nonneg hs).trans (m.credit_le_cap hs)
    simpa [transcript, chargedBetween] using add_nonneg hc (mul_nonneg m.rate_nonneg hd)
  | cons a calls ih =>
    obtain ⟨hma, hmr⟩ := forall_mem_cons.mp hm
    obtain ⟨hta, -⟩ := forall_mem_cons.mp ha
    obtain ⟨haa, hsr⟩ := pairwise_cons.mp hr
    have hn : m.Sound s (time a) := m.sound_later hs hta
    by_cases he : time a < low
    · have ht : ¬ (charged a (step s a).2 ∧ low ≤ time a ∧ time a ≤ low + d) :=
        fun h => absurd h.2.1 (not_le.mpr he)
      rw [transcript, chargedBetween_cons, if_neg ht]
      exact ih (m.sound_step hma hn) hmr haa hsr
    · -- the first call that is not too early: the credit is at most the cap at its time
      have hc := m.credit_le_cap hn
      by_cases hin : time a ≤ low + d
      · have hf : ∀ b ∈ a :: calls, time a ≤ time b :=
          forall_mem_cons.mpr ⟨le_rfl, haa⟩
        have hp := m.charged_le_credit low hn hin hm hf hr
        have hh : m.rate * (low + d - time a) ≤ m.rate * d :=
          mul_le_mul_of_nonneg_left (by linarith) m.rate_nonneg
        linarith
      · rw [chargedBetween_eq_zero_of_head s hr (not_le.mp hin)]
        have hc : 0 ≤ m.cap := (m.credit_nonneg hs).trans (m.credit_le_cap hs)
        simpa using add_nonneg hc (mul_nonneg m.rate_nonneg hd)

end Meter

end EggPool.Lib
