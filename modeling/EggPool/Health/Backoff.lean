import EggPool.Health.HealthManager

/-!
# How long a failure keeps something out

Each reason has a policy: a delay, doubled for every failure in a row up to a cap. For quotas
and rate limits a hint of the provider takes the place of the ladder. The jitter is drawn from
a source that always answers one half.
-/

namespace EggPool.Health

structure BackoffPolicy where
  (baseDelay multiplier cap jitter : Rat)
  accountModelScope : Bool
  maxConsecutive : Nat

def BackoffPolicy.common (baseDelay : Rat) (maxConsecutive : Nat) : BackoffPolicy where
  baseDelay := baseDelay
  multiplier := 2
  cap := MAX_NONTERMINAL_BACKOFF_SECONDS
  jitter := 15 / 100
  accountModelScope := false
  maxConsecutive := maxConsecutive

def getBackoffPolicy : BackoffReason → Option BackoffPolicy
  | .authenticationFailed => some ⟨0, 1, 0, 0, false, 0⟩
  | .quotaExhausted => some (.common 300 3)
  | .rateLimited => some (.common 60 5)
  | .upstreamServerError => some (.common 20 7)
  | .connectTimeout | .connectionFailure | .protocolError => some (.common 30 6)
  | .modelUnavailable => some { BackoffPolicy.common 300 3 with accountModelScope := true }
  | .contextLimitExceeded | .unknown => none

/-- What the jitter source answers. -/
def nextUnit : Rat := 1 / 2

def computeBackoffSeconds (reason : BackoffReason) (consecutiveFailures : Nat)
    (retryAfter : Option Rat) : Option Rat :=
  (getBackoffPolicy reason).bind fun policy =>
    if policy.baseDelay ≤ 0 ∨ policy.cap ≤ 0 then none
    else match retryAfter with
      | some hint =>
        if (reason = .quotaExhausted ∨ reason = .rateLimited) ∧ 0 < hint then
          let delay := min hint MAX_NONTERMINAL_BACKOFF_SECONDS * (1 - nextUnit * policy.jitter)
          some (max policy.baseDelay (min delay MAX_NONTERMINAL_BACKOFF_SECONDS))
        else some (ladder policy)
      | none => some (ladder policy)
where
  ladder (policy : BackoffPolicy) : Rat :=
    let doublings := min (consecutiveFailures - 1) policy.maxConsecutive
    let delay := (fun delay => min (delay * policy.multiplier) policy.cap)^[doublings] policy.baseDelay
    let delay := delay * ((1 - policy.jitter) + nextUnit * (2 * policy.jitter))
    max 0 (min delay MAX_NONTERMINAL_BACKOFF_SECONDS)

/-- Every cap lies within the bound for all of them. -/
theorem cap_bounds {r : BackoffReason} {p : BackoffPolicy} (h : getBackoffPolicy r = some p) :
    0 ≤ p.cap ∧ p.cap ≤ MAX_NONTERMINAL_BACKOFF_SECONDS := by
  cases r <;> cases h <;> decide

end EggPool.Health
