import EggPool.Health.CircuitBreaker

/-!
# Who holds the probe

The breaker knows that a probe is in flight, not whose it is: a release or a report
names no caller. Here the callers stand beside the breaker. A caller holds a probe
from the call that armed its guard until its own release or report; the breaker has
no part in that record and never reads it.

Exclusivity is about young probes only, since the gates give the slot of an old one
away. What keeps two young probes apart is that the slot is not freed behind its
holder's back: not by a holder whose own probe was reclaimed long ago, and not by a
request that was let through while the breaker was closed.
-/

namespace EggPool.Health

open EggPool.Lib

/-- One call, by one caller, at the time the breaker's clock shows. -/
structure Call (τ : Type) where
  caller : Nat
  operation : Operation
  now : τ

/-- A probe that its holder has neither released nor reported on. -/
structure Held (τ : Type) where
  holder : Nat
  acquiredAt : τ
  deriving DecidableEq

/-- A breaker beside the probes its callers hold, the latest first. -/
structure Watched (τ : Type) where
  inner : CircuitInner τ
  held : List (Held τ)
  /-- Those who have given a probe back. -/
  spent : List Nat
  /-- The time of the last call. -/
  time : τ

variable {τ : Type}

/-- A call that gives the caller's probe back, if it has one. -/
def Operation.reports : Operation → Bool
  | .releaseProbe => true
  | .recordSuccess => true
  | .recordFailure => true
  | .allowRequest => false
  | .tryAcquireProbe => false
  | .reset => false

namespace Watched

def fresh (now : τ) : Watched τ := ⟨.fresh now, [], [], now⟩

/-- Somebody's release or report on the probe it took last. -/
def giveBack (s : Watched τ) (caller : Nat) : List (Held τ) :=
  s.held.eraseP fun p => p.holder = caller

/-- The caller has a probe. -/
def holds (s : Watched τ) (caller : Nat) : Bool := s.held.any fun p => p.holder = caller

end Watched

namespace CircuitBreaker

section Watch

variable [Sub τ] [LE τ] [DecidableLE τ] [LT τ] [DecidableLT τ] [Max τ] [OfNat τ 1]
variable (b : CircuitBreaker τ)

/-- The call arms a guard: its caller obtains a half-open probe. -/
def obtains (inner : CircuitInner τ) (call : Call τ) : Bool :=
  (call.operation = .allowRequest ∨ call.operation = .tryAcquireProbe) ∧
    (b.tryAcquireProbe inner call.now).1 = some true

/-- One call, seen by the breaker and by the record of holders. -/
def stepWatched (s : Watched τ) (call : Call τ) : Watched τ where
  inner := b.step s.inner (call.operation, call.now)
  held :=
    if b.obtains s.inner call then ⟨call.caller, call.now⟩ :: s.held
    else if call.operation.reports then s.giveBack call.caller
    else s.held
  spent :=
    if call.operation.reports && s.holds call.caller then call.caller :: s.spent else s.spent
  time := call.now

/-- The probe was acquired less than the reclaim timeout ago. -/
def young (now : τ) (p : Held τ) : Bool := now - p.acquiredAt < max b.recoveryTimeout 1

/-- The probes that are held and young at a time. -/
def youngProbes (s : Watched τ) (now : τ) : List (Held τ) := s.held.filter (b.young now)

/--
The sequences in question: the clock does not run back, nobody resets the breaker,
and a caller that gave its probe back does not give it back again.
-/
def Orderly (s : Watched τ) (call : Call τ) : Prop :=
  s.time ≤ call.now ∧ call.operation ≠ .reset ∧
    (call.operation.reports = true → call.caller ∈ s.spent → s.holds call.caller = true)

instance (s : Watched τ) (call : Call τ) : Decidable (Orderly s call) :=
  inferInstanceAs (Decidable (_ ∧ _))

/-- A young probe in flight is released or reported on by the caller that took it last. -/
def OwnReport (s : Watched τ) (call : Call τ) : Prop :=
  call.operation.reports = true → s.inner.probeInFlight = true →
    ∀ p ∈ s.held.head?, b.young call.now p = true → p.holder = call.caller

instance (s : Watched τ) (call : Call τ) : Decidable (b.OwnReport s call) :=
  inferInstanceAs (Decidable (_ → _ → ∀ p ∈ s.held.head?, _))

end Watch

/-! ## What one call does to the slot -/

section Slot

variable [Sub τ] [LE τ] [DecidableLE τ] [LT τ] [DecidableLT τ] [Max τ] [OfNat τ 1]
variable {b : CircuitBreaker τ} {inner : CircuitInner τ} {now : τ}

/--
An acquiring call either changes nothing, or takes the slot for its caller. It takes
a slot in flight only from a stale probe.
-/
theorem tryAcquireProbe_cases (b : CircuitBreaker τ) (now : τ)
    (h : inner.probeInFlight = true → inner.state = .halfOpen) :
    ((b.tryAcquireProbe inner now).1 ≠ some true ∧ (b.tryAcquireProbe inner now).2 = inner) ∨
    ((b.tryAcquireProbe inner now).1 = some true ∧
      (b.tryAcquireProbe inner now).2.state = .halfOpen ∧
      (b.tryAcquireProbe inner now).2.probeInFlight = true ∧
      (b.tryAcquireProbe inner now).2.probeAcquiredAt = some now ∧
      (inner.probeInFlight = true → b.staleProbe inner now = true)) := by
  unfold tryAcquireProbe
  simp only [reclaim_state]
  cases hs : b.staleProbe inner now with
  | true =>
    -- the stale probe is in flight, so the breaker is half open and the slot changes hands
    have hf : inner.probeInFlight = true := (Bool.and_eq_true_iff.mp hs).1
    have hr : (b.reclaim inner now).probeInFlight = false := by
      rw [reclaim_probeInFlight, hs, hf]
      rfl
    rw [h hf]
    simp only [hr]
    exact .inr ⟨rfl, reclaim_state.trans (h hf), rfl, rfl, fun _ => trivial⟩
  | false =>
    rw [reclaim_of_not_stale hs]
    cases hf : inner.probeInFlight with
    | true =>
      rw [h hf]
      exact .inl ⟨by simp, rfl⟩
    | false =>
      cases hst : inner.state with
      | closed => exact .inl ⟨by simp, rfl⟩
      | opened =>
        cases hrec : b.recoveryElapsed inner now with
        | false => exact .inl ⟨by simp, rfl⟩
        | true => exact .inr ⟨rfl, rfl, rfl, rfl, by simp⟩
      | halfOpen => exact .inr ⟨rfl, hst, rfl, rfl, by simp⟩

/-- After a release or a report the slot is free, whoever called. -/
theorem step_reports {op : Operation} (hop : op.reports = true)
    (h : inner.probeInFlight = true → inner.state = .halfOpen) :
    (b.step inner (op, now)).probeInFlight = false := by
  have hf : inner.state ≠ .halfOpen → inner.probeInFlight = false := by
    intro hst
    exact Bool.eq_false_iff.mpr fun hl => hst (h hl)
  cases op with
  | allowRequest | tryAcquireProbe | reset => cases hop
  | releaseProbe => rfl
  | recordSuccess =>
    simp only [step, recordSuccess]
    cases hst : inner.state with
    | halfOpen =>
      dsimp only
      split <;> rfl
    | closed | opened => exact hf (by simp [hst])
  | recordFailure =>
    simp [step, recordFailure]
    cases hst : inner.state with
    | halfOpen => rfl
    | opened => exact hf (by simp [hst])
    | closed =>
      have hc : inner.probeInFlight = false := hf (by simp [hst])
      dsimp only
      split
      · exact hc
      · exact hc

end Slot

/-! ## One young probe -/

section Exclusive

variable [AddCommGroup τ] [LinearOrder τ] [One τ]
variable {b : CircuitBreaker τ} {s : Watched τ} {call : Call τ}

/--
What holds between calls: every probe but the one in flight is old, and the one in
flight is the last that was taken.
-/
structure Guarded (b : CircuitBreaker τ) (s : Watched τ) : Prop where
  /-- Only a half-open breaker has a probe in flight. -/
  halfOpen : s.inner.probeInFlight = true → s.inner.state = .halfOpen
  /-- The slot belongs to the latest probe. -/
  slot : s.inner.probeInFlight = true → ∃ p rest, s.held = p :: rest ∧
    s.inner.probeAcquiredAt = some p.acquiredAt ∧ ∀ q ∈ rest, b.young s.time q = false
  /-- With the slot free nobody holds a young probe. -/
  free : s.inner.probeInFlight = false → ∀ q ∈ s.held, b.young s.time q = false

/-- A stale probe is not young. -/
theorem not_young_of_stale {p : Held τ} {now : τ} (ha : s.inner.probeAcquiredAt = some p.acquiredAt)
    (hs : b.staleProbe s.inner now = true) : b.young now p = false := by
  simp only [staleProbe, ha, Option.any_some, Bool.and_eq_true, decide_eq_true_eq] at hs
  simp only [young, decide_eq_false_iff_not, not_lt]
  exact hs.2.le

variable [IsOrderedAddMonoid τ]

/-- A probe does not get young again. -/
theorem young_mono {ea l : τ} (h : ea ≤ l) {p : Held τ}
    (ho : b.young ea p = false) : b.young l p = false := by
  simp only [young, decide_eq_false_iff_not, not_lt] at ho ⊢
  exact ho.trans (sub_le_sub_right h p.acquiredAt)

/-- Apart from the probe in flight, everything held is old, then and later. -/
theorem Guarded.old (h : b.Guarded s) {now : τ} (hn : s.time ≤ now)
    (hs : s.inner.probeInFlight = true → ∀ p ∈ s.held.head?, b.young now p = false) :
    ∀ q ∈ s.held, b.young now q = false := by
  intro q hq
  cases hf : s.inner.probeInFlight with
  | false => exact young_mono hn (h.free hf q hq)
  | true =>
    obtain ⟨p, rest, hh, -, hr⟩ := h.slot hf
    rw [hh] at hq
    rcases List.mem_cons.mp hq with rfl | hq
    · exact hs hf q (by rw [hh]; rfl)
    · exact young_mono hn (hr q hq)

theorem guarded_acquire (h : b.Guarded s) (ho : Orderly s call)
    (hop : call.operation = .allowRequest ∨ call.operation = .tryAcquireProbe) :
    b.Guarded (b.stepWatched s call) := by
  have hi : (b.stepWatched s call).inner = (b.tryAcquireProbe s.inner call.now).2 := by
    rcases hop with hop | hop
    · simp [stepWatched, step, hop, allowRequest]
    · simp [stepWatched, step, hop]
  have hqu : call.operation.reports = false := by
    rcases hop with hop | hop <;> rw [hop] <;> rfl
  have hb : b.obtains s.inner call =
      decide ((b.tryAcquireProbe s.inner call.now).1 = some true) := by
    simp [obtains, hop]
  rcases tryAcquireProbe_cases b call.now h.halfOpen with
    ⟨hr, hs⟩ | ⟨ht, hst, hf, ha, hsa⟩
  · -- nothing changed but the time
    have hh : (b.stepWatched s call).held = s.held := by
      simp [stepWatched, hb, hr, decide_false, hqu]
    rw [hs] at hi
    refine ⟨?_, ?_, ?_⟩
    · rw [hi]
      exact h.halfOpen
    · rw [hi, hh]
      intro hf
      obtain ⟨p, rest, hp, ha, hre⟩ := h.slot hf
      exact ⟨p, rest, hp, ha, fun q hq => young_mono ho.1 (hre q hq)⟩
    · rw [hi, hh]
      intro hf q hq
      exact young_mono ho.1 (h.free hf q hq)
  · -- the slot changes hands; what was in it is stale
    have hh : (b.stepWatched s call).held = ⟨call.caller, call.now⟩ :: s.held := by
      simp [stepWatched, hb, ht, decide_true]
    have hold : ∀ q ∈ s.held, b.young call.now q = false := by
      refine h.old ho.1 ?_
      intro hbe p hp
      obtain ⟨p', rest, hp', ha', -⟩ := h.slot hbe
      rw [hp', List.head?_cons, Option.mem_some_iff] at hp
      subst hp
      exact not_young_of_stale ha' (hsa hbe)
    refine ⟨?_, ?_, ?_⟩
    · rw [hi]
      exact fun _ => hst
    · rw [hi, hh, ha]
      exact fun _ => ⟨_, s.held, rfl, rfl, hold⟩
    · rw [hi, hf]
      simp

theorem guarded_report (h : b.Guarded s) (ho : Orderly s call) (hw : b.OwnReport s call)
    (hop : call.operation.reports = true) : b.Guarded (b.stepWatched s call) := by
  have hr : (b.stepWatched s call).inner.probeInFlight = false := step_reports hop h.halfOpen
  have hh : (b.stepWatched s call).held = s.giveBack call.caller := by
    have hb : b.obtains s.inner call = false := by
      cases hca : call.operation <;> simp_all [obtains, Operation.reports]
    simp [stepWatched, hb, hop]
  refine ⟨fun hf => ?_, fun hf => ?_, fun _ => ?_⟩
  · rw [hr] at hf
    cases hf
  · rw [hr] at hf
    cases hf
  · rw [hh]
    intro q hq
    cases hf : s.inner.probeInFlight with
    | false => exact young_mono ho.1 (h.free hf q (List.mem_of_mem_eraseP hq))
    | true =>
      obtain ⟨p, rest, hp, -, hs⟩ := h.slot hf
      cases hy : b.young call.now p with
      | false =>
        refine h.old ho.1 (fun _ p' hp' => ?_) q (List.mem_of_mem_eraseP hq)
        rw [hp, List.head?_cons, Option.mem_some_iff] at hp'
        rwa [← hp']
      | true =>
        -- the caller took the young probe, so it is the one given back
        have hl : p.holder = call.caller := hw hop hf p (by rw [hp]; rfl) hy
        have hc : s.giveBack call.caller = rest := by
          rw [Watched.giveBack, hp, List.eraseP_cons_of_pos (by simpa using hl)]
        rw [hc] at hq
        exact young_mono ho.1 (hs q hq)

/-- **Step lemma.** -/
theorem guarded_step (s : Watched τ) (call : Call τ) (h : b.Guarded s)
    (hc : Orderly s call ∧ b.OwnReport s call) : b.Guarded (b.stepWatched s call) := by
  obtain ⟨ho, hw⟩ := hc
  cases hop : call.operation with
  | allowRequest => exact guarded_acquire h ho (.inl hop)
  | tryAcquireProbe => exact guarded_acquire h ho (.inr hop)
  | releaseProbe | recordSuccess | recordFailure =>
    exact guarded_report h ho hw (by rw [hop]; rfl)
  | reset => exact absurd hop ho.2.1

theorem Guarded.youngProbes_le (h : b.Guarded s) {now : τ} (hn : s.time ≤ now) :
    (b.youngProbes s now).length ≤ 1 := by
  have hno : ∀ l : List (Held τ), (∀ q ∈ l, b.young now q = false) →
      l.filter (b.young now) = [] := by
    intro l hl
    exact List.filter_eq_nil_iff.mpr fun q hq => by rw [hl q hq]; exact Bool.false_ne_true
  unfold youngProbes
  cases hf : s.inner.probeInFlight with
  | false =>
    rw [hno s.held fun q hq => young_mono hn (h.free hf q hq)]
    exact Nat.zero_le 1
  | true =>
    obtain ⟨p, rest, hh, -, hr⟩ := h.slot hf
    rw [hh, List.filter_cons, hno rest fun q hq => young_mono hn (hr q hq)]
    split
    · exact Nat.le_refl 1
    · exact Nat.zero_le 1

/--
**At most one young probe is held.** In every orderly run in which a young probe in
flight is released or reported on only by the caller that took it, no two probes
younger than the reclaim timeout are held, at the end of the run or at any time after
it and before the next call.
-/
theorem one_young_probe (b : CircuitBreaker τ) (start : τ) (calls : List (Call τ))
    (hcalls : Along b.stepWatched (fun s call => Orderly s call ∧ b.OwnReport s call)
      (.fresh start) calls) (now : τ) (hnow : (run b.stepWatched (.fresh start) calls).time ≤ now) :
    (b.youngProbes (run b.stepWatched (.fresh start) calls) now).length ≤ 1 :=
  (run_invariant_along (s := .fresh start) guarded_step
    ⟨nofun, nofun, fun _ _ hq => absurd hq List.not_mem_nil⟩ hcalls).youngProbes_le hnow

/-- Caller 2 takes over the probe that caller 1 let go stale, and reports on it itself. -/
theorem one_young_probe_taken_over :
    let b : CircuitBreaker Int := withClock 1 5 2
    let calls : List (Call Int) := [⟨0, .recordFailure, 0⟩, ⟨1, .allowRequest, 5⟩,
      ⟨2, .tryAcquireProbe, 11⟩, ⟨2, .recordSuccess, 12⟩, ⟨3, .allowRequest, 13⟩]
    (b.youngProbes (run b.stepWatched (.fresh 0) calls) 14).length ≤ 1 := by
  intro b calls
  have hcalls : Along b.stepWatched (fun s call => Orderly s call ∧ b.OwnReport s call)
      (.fresh 0) calls := by
    refine ⟨?_, ?_, ?_, ?_, ?_, trivial⟩ <;> decide
  have htime : (run b.stepWatched (.fresh 0) calls).time ≤ 14 := by decide
  exact one_young_probe b 0 calls hcalls 14 htime

/--
Caller 1 lets its probe go stale and caller 2 takes the slot over at time 11. The late
release of caller 1 frees the slot of caller 2, and caller 3 gets a probe as well.
-/
theorem late_release_shares_probe :
    let b : CircuitBreaker Int := withClock 1 5 1
    let calls : List (Call Int) := [⟨0, .recordFailure, 0⟩, ⟨1, .allowRequest, 5⟩,
      ⟨2, .allowRequest, 11⟩, ⟨1, .releaseProbe, 12⟩, ⟨3, .allowRequest, 13⟩]
    Along b.stepWatched Orderly (.fresh 0) calls ∧
      b.youngProbes (run b.stepWatched (.fresh 0) calls) 13 = [⟨3, 13⟩, ⟨2, 11⟩] := by
  refine ⟨⟨?_, ?_, ?_, ?_, ?_, trivial⟩, ?_⟩ <;> decide

end Exclusive

end CircuitBreaker

end EggPool.Health
