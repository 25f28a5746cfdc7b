import EggPool.Lib.Run

/-!
# The circuit breaker of an account

The breaker is a three-state machine with one probe slot in the half-open state.
Two gates ask it for permission: `canRequest` only looks, `allowRequest` takes the
probe slot and, before that, reclaims a probe whose holder never reported back. The
router consults the first before it calls the second.

Times are numbers of seconds. Nothing here depends on their arithmetic, so the time
type is arbitrary; the source's is `f64`. Each operation reads the clock once. The
lock around the state is what makes an operation one step of a run.
-/

namespace EggPool.Health

open EggPool.Lib

inductive CircuitState where
  | closed | opened | halfOpen
  deriving DecidableEq, Repr

/-- What the lock protects. -/
structure CircuitInner (τ : Type) where
  state : CircuitState
  (failureCount successCount : Nat)
  lastFailureAt : Option τ
  lastStateChange : τ
  probeAcquiredAt : Option τ
  probeInFlight : Bool
  deriving DecidableEq, Repr

/-- A breaker's configuration; a threshold of zero cannot be configured. -/
structure CircuitBreaker (τ : Type) where
  failureThreshold : Nat
  recoveryTimeout : τ
  successThreshold : Nat
  one_le_failureThreshold : 1 ≤ failureThreshold
  one_le_successThreshold : 1 ≤ successThreshold

/-- `u32::saturating_add`. -/
def saturatingAdd (n k : Nat) : Nat := min (n + k) (2 ^ 32 - 1)

variable {τ : Type}

namespace CircuitInner

/-- The state of a new breaker, and of one that was reset. -/
def fresh (now : τ) : CircuitInner τ where
  state := .closed
  failureCount := 0
  successCount := 0
  lastFailureAt := none
  lastStateChange := now
  probeAcquiredAt := none
  probeInFlight := false

/-- Gives the probe slot back. -/
def dropProbe (inner : CircuitInner τ) : CircuitInner τ :=
  { inner with probeAcquiredAt := none, probeInFlight := false }

/-- Takes the probe slot at `now`. -/
def takeProbe (inner : CircuitInner τ) (now : τ) : CircuitInner τ :=
  { inner with probeAcquiredAt := some now, probeInFlight := true }

end CircuitInner

/-- What callers do to a breaker. -/
inductive Operation where
  | allowRequest | tryAcquireProbe | releaseProbe | recordSuccess | recordFailure | reset
  deriving DecidableEq, Repr

namespace CircuitBreaker

def withClock [Max τ] [OfNat τ 0] (failureThreshold : Nat) (recoveryTimeout : τ)
    (successThreshold : Nat) : CircuitBreaker τ where
  failureThreshold := max failureThreshold 1
  recoveryTimeout := max recoveryTimeout 0
  successThreshold := max successThreshold 1
  one_le_failureThreshold := Nat.le_max_right _ _
  one_le_successThreshold := Nat.le_max_right _ _

def releaseProbe (inner : CircuitInner τ) : CircuitInner τ := inner.dropProbe

def recordSuccess (b : CircuitBreaker τ) (inner : CircuitInner τ) (now : τ) : CircuitInner τ :=
  match inner.state with
  | .halfOpen =>
    let inner := { inner with successCount := saturatingAdd inner.successCount 1 }.dropProbe
    if inner.successCount ≥ b.successThreshold then
      { inner with
        state := .closed
        failureCount := 0
        successCount := 0
        lastFailureAt := none
        lastStateChange := now }
    else inner
  | .closed => { inner with failureCount := 0 }
  | .opened => inner

/-- A breaker that is closed after a success has forgotten every failure. -/
theorem recordSuccess_closed {b : CircuitBreaker τ} {inner : CircuitInner τ} {now : τ}
    (h : (b.recordSuccess inner now).state = .closed) :
    (b.recordSuccess inner now).failureCount = 0 := by
  revert h
  fun_cases recordSuccess b inner now with
  | case1 | case3 => exact fun _ => rfl
  | case2 hs | case4 hs => exact fun h => nomatch hs.symm.trans h

section Failure

variable [Sub τ] [LT τ] [DecidableLT τ]

/-- The failures counted once one more is recorded; old ones are meant to decay. -/
def countFailure (b : CircuitBreaker τ) (inner : CircuitInner τ) (now : τ) : Nat :=
  if inner.lastFailureAt.any fun last => decide (now - last > b.recoveryTimeout) then 1
  else saturatingAdd inner.failureCount 1

def recordFailure (b : CircuitBreaker τ) (inner : CircuitInner τ) (now : τ) : CircuitInner τ :=
  match inner.state with
  | .halfOpen =>
    { inner with
      state := .opened
      failureCount := b.failureThreshold
      successCount := 0
      lastFailureAt := some now
      lastStateChange := now }.dropProbe
  | .closed =>
    let inner := { inner with failureCount := b.countFailure inner now }
    if inner.failureCount ≥ b.failureThreshold then
      { inner with state := .opened, lastFailureAt := some now, lastStateChange := now }
    else inner
  | .opened => inner

variable {b : CircuitBreaker τ} {inner : CircuitInner τ} {now : τ}

theorem countFailure_le : b.countFailure inner now ≤ inner.failureCount + 1 := by
  unfold countFailure
  split
  · exact Nat.le_add_left 1 _
  · exact Nat.min_le_left _ _

/-- Only a closed breaker is closed after a failure, and the failure adds one at most. -/
theorem recordFailure_closed (h : (b.recordFailure inner now).state = .closed) :
    inner.state = .closed ∧ (b.recordFailure inner now).failureCount ≤ inner.failureCount + 1 := by
  revert h
  fun_cases recordFailure b inner now with
  | case1 | case2 => exact nofun
  | case3 hs => exact fun _ => ⟨hs, countFailure_le⟩
  | case4 hs => exact fun h => nomatch hs.symm.trans h

/-- A closed breaker opens only when the failure brings its counter to the threshold. -/
theorem recordFailure_opened (hc : inner.state = .closed)
    (h : (b.recordFailure inner now).state = .opened) :
    b.failureThreshold ≤ inner.failureCount + 1 := by
  unfold recordFailure at h
  simp only [hc] at h
  split at h
  · rename_i he
    exact he.trans countFailure_le
  · -- below the threshold the breaker stays closed
    cases h

end Failure

section Reclaim

variable [Sub τ] [LT τ] [DecidableLT τ] [Max τ] [OfNat τ 1]

/-- The probe was acquired so long ago that its holder is taken to be gone. -/
def staleProbe (b : CircuitBreaker τ) (inner : CircuitInner τ) (now : τ) : Bool :=
  inner.probeInFlight &&
    inner.probeAcquiredAt.any fun acquired => decide (now - acquired > max b.recoveryTimeout 1)

/-- The first block of both acquiring gates. -/
def reclaim (b : CircuitBreaker τ) (inner : CircuitInner τ) (now : τ) : CircuitInner τ :=
  if b.staleProbe inner now then inner.dropProbe else inner

variable {b : CircuitBreaker τ} {inner : CircuitInner τ} {now : τ}

@[simp]
theorem reclaim_state : (b.reclaim inner now).state = inner.state := by
  unfold reclaim
  split <;> rfl

@[simp]
theorem reclaim_lastFailureAt : (b.reclaim inner now).lastFailureAt = inner.lastFailureAt := by
  unfold reclaim
  split <;> rfl

theorem reclaim_of_not_stale (h : b.staleProbe inner now = false) : b.reclaim inner now = inner:= by
  rw [reclaim, h]
  rfl

/-- A probe survives the reclaim unless it is stale. -/
theorem reclaim_probeInFlight :
    (b.reclaim inner now).probeInFlight = (inner.probeInFlight && !b.staleProbe inner now) := by
  unfold reclaim
  cases hs : b.staleProbe inner now with
  | true => simp [CircuitInner.dropProbe]
  | false => simp

end Reclaim

variable [Sub τ] [LE τ] [DecidableLE τ] [LT τ] [DecidableLT τ] [Max τ] [OfNat τ 1]
variable (b : CircuitBreaker τ)

/-- The breaker has been open for the recovery timeout. -/
def recoveryElapsed (inner : CircuitInner τ) (now : τ) : Bool :=
  inner.lastFailureAt.any fun failure => decide (now - failure ≥ b.recoveryTimeout)

/-- The read-only gate. -/
def canRequest (inner : CircuitInner τ) (now : τ) : Bool :=
  match inner.state with
  | .closed => true
  | .opened => b.recoveryElapsed inner now
  | .halfOpen => !inner.probeInFlight

/--
The acquiring gate. The guard it returns says whether dropping it gives the slot
back: a guard from the closed state holds no slot.
-/
def tryAcquireProbe (inner : CircuitInner τ) (now : τ) : Option Bool × CircuitInner τ :=
  let inner := b.reclaim inner now
  match inner.state with
  | .closed => (some false, inner)
  | .opened =>
    if b.recoveryElapsed inner now then
      (some true, { inner with state := .halfOpen, lastStateChange := now }.takeProbe now)
    else (none, inner)
  | .halfOpen =>
    if inner.probeInFlight then (none, inner) else (some true, inner.takeProbe now)

/-- The acquiring gate without the guard: the source repeats the body above. -/
def allowRequest (inner : CircuitInner τ) (now : τ) : Bool × CircuitInner τ :=
  ((b.tryAcquireProbe inner now).1.isSome, (b.tryAcquireProbe inner now).2)

/-- One timed operation, as seen by the state. -/
def step (inner : CircuitInner τ) (op : Operation × τ) : CircuitInner τ :=
  match op.1 with
  | .allowRequest => (b.allowRequest inner op.2).2
  | .tryAcquireProbe => (b.tryAcquireProbe inner op.2).2
  | .releaseProbe => releaseProbe inner
  | .recordSuccess => b.recordSuccess inner op.2
  | .recordFailure => b.recordFailure inner op.2
  | .reset => CircuitInner.fresh op.2

/-- The breaker created at `start`, after the operations. -/
def after (start : τ) (ops : List (Operation × τ)) : CircuitInner τ :=
  run b.step (CircuitInner.fresh start) ops

/-! ## The two gates -/

variable {b} {inner : CircuitInner τ} {now : τ}

@[simp]
theorem reclaim_recoveryElapsed :
    b.recoveryElapsed (b.reclaim inner now) now = b.recoveryElapsed inner now := by
  simp [recoveryElapsed]

/-- What the acquiring gate answers, in terms of the state before it. -/
theorem allowRequest_fst : (b.allowRequest inner now).1 = match inner.state with
      | .closed => true
      | .opened => b.recoveryElapsed inner now
      | .halfOpen => !(inner.probeInFlight && !b.staleProbe inner now) := by
  simp only [allowRequest, tryAcquireProbe, reclaim_state]
  cases hst : inner.state with
  | closed => rfl
  | opened =>
    rw [reclaim_recoveryElapsed]
    cases b.recoveryElapsed inner now <;> rfl
  | halfOpen =>
    rw [reclaim_probeInFlight]
    cases inner.probeInFlight && !b.staleProbe inner now <;> rfl

/-- The gates differ in the half-open state only, and there only on a stale probe. -/
theorem canRequest_eq_allowRequest : b.canRequest inner now = (b.allowRequest inner now).1 ↔
      ¬ (inner.state = .halfOpen ∧ b.staleProbe inner now = true) := by
  rw [allowRequest_fst]
  unfold canRequest
  cases hst : inner.state with
  | closed | opened => simp
  | halfOpen =>
    -- a stale probe is in flight, so the read-only gate still sees it
    have hf : b.staleProbe inner now = true → inner.probeInFlight = true := by
      intro hs
      exact (Bool.and_eq_true_iff.mp hs).1
    cases hs : b.staleProbe inner now with
    | true => simp [hf hs]
    | false => simp

/--
**The gates agree exactly where no stale probe is left.** In every state a breaker
reaches, at every time: the read-only gate gives the acquiring gate's answer unless
the breaker is half open with a probe that the acquiring gate would reclaim.
-/
theorem gates_agree_iff (b : CircuitBreaker τ) (start : τ) (ops : List (Operation × τ)) (now : τ) :
    b.canRequest (b.after start ops) now = (b.allowRequest (b.after start ops) now).1 ↔
      ¬ ((b.after start ops).state = .halfOpen ∧ b.staleProbe (b.after start ops) now = true) :=
  canRequest_eq_allowRequest

/--
One failure at time 0 opens the breaker, a request at time 5 takes the probe and
never reports back. At time 11 the probe could be reclaimed, and the read-only gate
says no.
-/
theorem leaked_probe_refused :
    let b : CircuitBreaker Int := withClock 1 5 1
    let inner := b.after 0 [(.recordFailure, 0), (.allowRequest, 5)]
    b.canRequest inner 11 = false ∧ (b.allowRequest inner 11).1 = true := by
  decide

/-! ## No breaker stays shut -/

/-- What keeps requests out has a time from which it counts. -/
def Timed (inner : CircuitInner ℚ) : Prop :=
  (inner.state = .opened → inner.lastFailureAt.isSome = true) ∧
    (inner.probeInFlight = true → inner.probeAcquiredAt.isSome = true)

theorem Timed.step (b : CircuitBreaker ℚ) (inner : CircuitInner ℚ) (op : Operation × ℚ)
    (h : Timed inner) : Timed (b.step inner op) := by
  obtain ⟨op, now⟩ := op
  unfold Timed at h ⊢
  cases op with
  | allowRequest | tryAcquireProbe =>
    -- the slot is taken with its time; a stale probe goes with its own
    simp only [CircuitBreaker.step, allowRequest, tryAcquireProbe, reclaim,
      CircuitInner.dropProbe, CircuitInner.takeProbe]
    grind
  | _ =>
    simp only [CircuitBreaker.step, releaseProbe, recordSuccess, recordFailure,
      CircuitInner.dropProbe, CircuitInner.fresh]
    grind

/-- **The acquiring gate opens again**, whatever was called before and whoever keeps a probe. -/
theorem gate_opens_again (b : CircuitBreaker ℚ) (start : ℚ) (ops : List (Operation × ℚ)) :
    ∃ t, ∀ now > t, (b.allowRequest (b.after start ops) now).1 = true := by
  obtain ⟨ho, hp⟩ : Timed (b.after start ops) :=
    run_invariant (Timed.step b) (by simp [Timed, CircuitInner.fresh]) ops
  simp only [allowRequest_fst]
  cases hst : (b.after start ops).state with
  | closed => exact ⟨start, fun _ _ => rfl⟩
  | opened =>
    obtain ⟨f, hf⟩ := Option.isSome_iff_exists.mp (ho hst)
    refine ⟨f + b.recoveryTimeout, fun now hn => ?_⟩
    simp only [recoveryElapsed, hf, Option.any_some, decide_eq_true_eq]
    linarith
  | halfOpen =>
    cases hi : (b.after start ops).probeInFlight with
    | false => exact ⟨start, fun _ _ => rfl⟩
    | true =>
      obtain ⟨a, ha⟩ := Option.isSome_iff_exists.mp (hp hi)
      refine ⟨a + max b.recoveryTimeout 1, fun now hn => ?_⟩
      simp only [staleProbe, hi, ha, Option.any_some, Bool.true_and, Bool.not_not,
        decide_eq_true_eq]
      linarith

/-! ## Failures since the last success -/

/-- Keeps the times of the failures since the last success or reset, the latest first. -/
def noteFailure (failures : List τ) (op : Operation × τ) : List τ :=
  match op.1 with
  | .recordFailure => op.2 :: failures
  | .recordSuccess => []
  | .reset => []
  | .allowRequest => failures
  | .tryAcquireProbe => failures
  | .releaseProbe => failures

/-- The failures the operations leave standing, the latest first. -/
def standingFailures (ops : List (Operation × τ)) : List τ := run noteFailure [] ops

/-- No two consecutive failures are more than the recovery timeout apart. -/
def Spaced (b : CircuitBreaker τ) (failures : List τ) : Prop :=
  failures.IsChain fun later earlier => ¬ later - earlier > b.recoveryTimeout

/-- The latest of the failures ends a run of `failure_threshold` spaced ones. -/
def EndsRun (b : CircuitBreaker τ) (failures : List τ) : Prop :=
  b.failureThreshold ≤ failures.length ∧ b.Spaced (failures.take b.failureThreshold)

/-- The breaker beside its failure history. -/
def stepNoted (b : CircuitBreaker τ) (s : CircuitInner τ × List τ) (op : Operation × τ) :
    CircuitInner τ × List τ :=
  (b.step s.1 op, noteFailure s.2 op)

/-- A failure of a closed breaker follows the one before it within the recovery timeout. -/
def Prompt (b : CircuitBreaker τ) (s : CircuitInner τ × List τ) (op : Operation × τ) : Prop :=
  op.1 = .recordFailure → s.1.state = .closed →
    ∀ last ∈ s.2.head?, ¬ op.2 - last > b.recoveryTimeout

/-- What the counter of a closed breaker says about the history. -/
def Counted (b : CircuitBreaker τ) (s : CircuitInner τ × List τ) : Prop :=
  s.1.state = .closed → s.1.failureCount ≤ s.2.length ∧ b.Spaced s.2

theorem tryAcquireProbe_closed (h : (b.tryAcquireProbe inner now).2.state = .closed) :
    inner.state = .closed ∧ (b.tryAcquireProbe inner now).2.failureCount = inner.failureCount := by
  unfold tryAcquireProbe at h ⊢
  simp only [reclaim_state] at h ⊢
  cases hst : inner.state with
  | closed =>
    refine ⟨rfl, ?_⟩
    show (b.reclaim inner now).failureCount = _
    unfold reclaim
    split <;> rfl
  | opened =>
    simp only [hst] at h
    split at h
    · cases h
    · rw [reclaim_state, hst] at h
      cases h
  | halfOpen =>
    simp only [hst] at h
    split at h
    · rw [reclaim_state, hst] at h
      cases h
    · simp only [CircuitInner.takeProbe, reclaim_state, hst] at h
      cases h

/-- **Step lemma.** A prompt operation keeps the counter's meaning. -/
theorem counted_step (s : CircuitInner τ × List τ) (op : Operation × τ) (h : b.Counted s)
    (hp : b.Prompt s op) : b.Counted (b.stepNoted s op) := by
  obtain ⟨kind, now⟩ := op
  intro hl
  cases kind with
  | allowRequest | tryAcquireProbe =>
    obtain ⟨hb, hc⟩ := tryAcquireProbe_closed hl
    obtain ⟨hle, hs⟩ := h hb
    exact ⟨hc.trans_le hle, hs⟩
  | releaseProbe => exact h hl
  | recordSuccess => exact ⟨(recordSuccess_closed hl).le, .nil⟩
  | reset => exact ⟨Nat.le_refl 0, .nil⟩
  | recordFailure =>
    obtain ⟨hb, hc⟩ := recordFailure_closed hl
    obtain ⟨hle, hs⟩ := h hb
    refine ⟨hc.trans (Nat.succ_le_succ hle), ?_⟩
    exact List.isChain_cons.mpr ⟨hp rfl hb, hs⟩

/-- The history runs beside the breaker without touching it. -/
theorem run_stepNoted (b : CircuitBreaker τ) (s : τ) (ops : List (Operation × τ)) :
    run b.stepNoted (CircuitInner.fresh s, []) ops = (b.after s ops, standingFailures ops) :=
  run_prod b.step noteFailure (CircuitInner.fresh s) [] ops

/-- **Run lemma.** Prompt operations keep the counter's meaning. -/
theorem counted_after {s : τ} {ops : List (Operation × τ)}
    (h : Along b.stepNoted b.Prompt (CircuitInner.fresh s, []) ops) :
    b.Counted (b.after s ops, standingFailures ops) := by
  rw [← run_stepNoted]
  refine run_invariant_along counted_step ?_ h
  intro _
  exact ⟨Nat.le_refl 0, .nil⟩

/--
**A breaker opens at the end of a run of failures.** In every run in which each
failure of the closed breaker follows the one before it within the recovery timeout,
unless a success or a reset lies between: a closed breaker opens at a failure only if
that failure ends a run of `failure_threshold` failures without a success between
them, no two consecutive ones more than the recovery timeout apart.
-/
theorem opens_at_end_of_run (b : CircuitBreaker τ) (start : τ) (ops : List (Operation × τ))
    (now : τ) (hprompt : Along b.stepNoted b.Prompt (CircuitInner.fresh start, [])
      (ops ++ [(.recordFailure, now)])) (hclosed : (b.after start ops).state = .closed)
    (hopens : (b.recordFailure (b.after start ops) now).state = .opened) :
    b.EndsRun (standingFailures (ops ++ [(.recordFailure, now)])) := by
  obtain ⟨hbefore, hlast⟩ := along_append.mp hprompt
  obtain ⟨hle, hspaced⟩ := counted_after hbefore hclosed
  have hnow : ∀ last ∈ (standingFailures ops).head?, ¬ now - last > b.recoveryTimeout := by
    have hp := hlast.1 rfl
    rw [run_stepNoted] at hp
    exact hp hclosed
  have happend : standingFailures (ops ++ [(.recordFailure, now)]) = now :: standingFailures ops :=
    run_append noteFailure [] ops _
  rw [happend]
  refine ⟨(recordFailure_opened hclosed hopens).trans (Nat.succ_le_succ hle), ?_⟩
  have hchain : b.Spaced (now :: standingFailures ops) := List.isChain_cons.mpr ⟨hnow, hspaced⟩
  exact hchain.take _

theorem opens_at_end_of_two_failures :
    let b : CircuitBreaker Int := withClock 2 10 1
    (b.recordFailure (b.after 0 [(.recordFailure, 1)]) 4).state = .opened ∧
      b.EndsRun (standingFailures [(.recordFailure, 1), (.recordFailure, 4)]) := by
  refine ⟨by decide, ?_⟩
  refine opens_at_end_of_run (withClock 2 10 1) 0 [(.recordFailure, 1)] 4 ?_ (by decide) (by decide)
  refine ⟨fun _ _ last hlast => ?_, fun _ _ last hlast => ?_, trivial⟩
  · cases hlast
  · cases hlast
    decide

/-- A first failure leaves no time behind, so the next one counts however late it comes. -/
theorem distant_failure_opens :
    let b : CircuitBreaker Int := withClock 2 1 1
    (b.after 0 [(.recordFailure, 0)]).state = .closed ∧
      (b.recordFailure (b.after 0 [(.recordFailure, 0)]) 100).state = .opened ∧
      ¬ b.EndsRun (standingFailures [(.recordFailure, 0), (.recordFailure, 100)]) := by
  refine ⟨by decide, by decide, ?_⟩
  rintro ⟨_, hspaced⟩
  exact absurd (List.isChain_cons_cons.mp hspaced).1 (by decide)

/-! ## Behind the router -/

/-- The breaker's part of what the router asks before it picks an account. -/
def isModelHealthyReadOnly (b : CircuitBreaker τ) (effectivelyHealthy modelDisabled : Bool)
    (inner : CircuitInner τ) (now : τ) : Bool :=
  effectivelyHealthy && !modelDisabled && b.canRequest inner now

/-- The claim on the account the router picked. -/
def tryAcquireRequest (b : CircuitBreaker τ) (effectivelyHealthy modelDisabled : Bool)
    (inner : CircuitInner τ) (now : τ) : Bool × CircuitInner τ :=
  if !effectivelyHealthy || modelDisabled then (false, inner) else b.allowRequest inner now

/-- A request on its way through the router. -/
structure Routing (τ : Type) where
  (effectivelyHealthy modelDisabled : Bool)
  now : τ

/-- Only a candidate that passes the read-only gate is claimed. -/
def route (b : CircuitBreaker τ) (inner : CircuitInner τ) (r : Routing τ) : Bool × CircuitInner τ:=
  if b.isModelHealthyReadOnly r.effectivelyHealthy r.modelDisabled inner r.now then
    b.tryAcquireRequest r.effectivelyHealthy r.modelDisabled inner r.now
  else (false, inner)

/--
**A leaked probe closes an account to routing.** While nobody reports on the probe or
releases it, no routed request is let through, however long ago the probe was taken.
-/
theorem leaked_probe_blocks_routing (b : CircuitBreaker τ) (inner : CircuitInner τ)
    (hst : inner.state = .halfOpen) (hp : inner.probeInFlight = true)
    (be : List (Routing τ)) (r : Routing τ) :
    (b.route (run (fun inner r => (b.route inner r).2) inner be) r).1 = false := by
  have hr : ∀ r : Routing τ, b.route inner r = (false, inner) := by
    intro r
    have hg : b.canRequest inner r.now = false := by
      simp [canRequest, hst, hp]
    simp [route, isModelHealthyReadOnly, hg]
  have hm : run (fun inner r => (b.route inner r).2) inner be = inner := by
    refine run_invariant (I := fun s => s = inner) ?_ rfl be
    intro s r hs
    rw [hs, hr]
  rw [hm, hr]

end CircuitBreaker

end EggPool.Health
