import EggPool.Health.CircuitBreaker
import EggPool.Lib.OrdMap

/-!
# The health manager

Everything the process knows about the health of its accounts: cooldowns, disables,
per-model disables and a circuit breaker for each account. The map lock makes each
operation one step; `now` is what the clock showed when the operation read it, and
operations may come in any order with any clock values.

Times and durations are seconds. A duration passed in from outside is an `f64` and
may be no finite number at all: `none` stands for those values.
-/

namespace EggPool.Health

open EggPool.Lib

inductive BackoffReason where
  | authenticationFailed | quotaExhausted | rateLimited | modelUnavailable | connectTimeout
  | connectionFailure | upstreamServerError | protocolError | contextLimitExceeded | unknown
  deriving DecidableEq, Repr

def BackoffReason.asStr : BackoffReason → String
  | .authenticationFailed => "authentication_failed"
  | .quotaExhausted => "quota_exhausted"
  | .rateLimited => "rate_limited"
  | .modelUnavailable => "model_unavailable"
  | .connectTimeout => "connect_timeout"
  | .connectionFailure => "connection_failure"
  | .upstreamServerError => "upstream_server_error"
  | .protocolError => "protocol_error"
  | .contextLimitExceeded => "context_limit_exceeded"
  | .unknown => "unknown"

/-- No non-terminal suppression may last longer than this duration. -/
def MAX_NONTERMINAL_BACKOFF_SECONDS : Rat := 1800

structure AccountHealth where
  accountId : Option Int
  isHealthy : Bool
  healthState : String
  lastCheck : Rat
  (lastSuccess lastFailure : Option Rat)
  lastFailureCategory : Option BackoffReason
  (consecutiveFailures consecutiveCooldowns : Nat)
  disabledUntil : Option Rat
  disabledReason : String
  cooldownUntil : Rat
  /-- No value: disabled until it is enabled again. -/
  disabledModels : OrdMap String (Option Rat)
  modelFailures : OrdMap String Nat
  circuitBreaker : CircuitInner Rat

namespace AccountHealth

/-- The breaker every account is registered with. -/
def breaker : CircuitBreaker Rat := .withClock 5 300 1

def fresh (accountId : Int) (now : Rat) : AccountHealth where
  accountId := some accountId
  isHealthy := true
  healthState := "healthy"
  lastCheck := now
  lastSuccess := none
  lastFailure := none
  lastFailureCategory := none
  consecutiveFailures := 0
  consecutiveCooldowns := 0
  disabledUntil := none
  disabledReason := ""
  cooldownUntil := 0
  disabledModels := .empty
  modelFailures := .empty
  circuitBreaker := .fresh now

variable (a : AccountHealth)

def isDisabled (now : Rat) : Bool :=
  a.disabledUntil.any (fun deadline => now < deadline) || decide (now < a.cooldownUntil)

def isModelDisabled (model : String) (now : Rat) : Bool :=
  if a.isDisabled now then true
  else match a.disabledModels.lookup model with
    | none => false
    | some none => true
    | some (some deadline) => now < deadline

def effectivelyHealthy (now : Rat) : Bool :=
  if a.disabledUntil.any (fun deadline => now < deadline) || decide (now < a.cooldownUntil) then false
  else if a.disabledReason ≠ "" ∧
      (a.healthState = "authentication_failed" ∨ a.disabledUntil = none) then false
  else
    -- what is left of a disable with a reason has run out
    decide (a.disabledReason ≠ "") || a.isHealthy ||
      decide (a.healthState ∈ ["cooldown", "quota_exhausted", "rate_limited", "operator"])

/-- What a look at the account tidies up: disables whose time is over. -/
def normalize (now : Rat) : AccountHealth :=
  let a :=
    if a.disabledUntil.any (fun deadline => deadline ≤ now) ∧
        a.healthState ≠ "authentication_failed" then
      { a with
        disabledUntil := none
        disabledReason := ""
        isHealthy := true
        healthState := if a.healthState = "disabled" then "healthy" else a.healthState }
    else a
  let expired := (a.disabledModels.rows.filter fun r => r.2.any (· ≤ now)).map Prod.fst
  { a with disabledModels := expired.foldl Table.erase a.disabledModels }

def recordSuccess (a : AccountHealth) (model : Option String) (now : Rat) : AccountHealth :=
  let a := { a with
    consecutiveFailures := 0
    consecutiveCooldowns := 0
    lastCheck := now
    lastSuccess := some now }
  let coolingDown : Bool := a.cooldownUntil > now
  let a :=
    if a.disabledReason = "" ∧ a.healthState ≠ "authentication_failed" ∧ !coolingDown then
      { a with isHealthy := true, healthState := "healthy", cooldownUntil := 0 }
    else a
  let a := match model with
    | some model => { a with
        disabledModels := a.disabledModels.erase model
        modelFailures := a.modelFailures.erase model }
    | none => a
  { a with circuitBreaker := breaker.recordSuccess a.circuitBreaker now }

def recordFailure (a : AccountHealth) (reason : BackoffReason) (now : Rat) : AccountHealth :=
  let a := { a with
    consecutiveFailures := saturatingAdd a.consecutiveFailures 1
    lastCheck := now
    lastFailure := some now
    lastFailureCategory := some reason
    circuitBreaker := breaker.recordFailure a.circuitBreaker now }
  if reason = .authenticationFailed then
    { a with
      healthState := reason.asStr
      isHealthy := false
      disabledReason := reason.asStr
      disabledUntil := none }
  else a

/-- The delay a cooldown may last. -/
def cooldownDelay : Option Rat → Rat
  | some delay => if 0 ≤ delay then min delay MAX_NONTERMINAL_BACKOFF_SECONDS else 0
  | none => 0

def recordCooldown (reason : BackoffReason) (delay : Option Rat) (now : Rat) : AccountHealth :=
  { a with
    consecutiveCooldowns := saturatingAdd a.consecutiveCooldowns 1
    lastCheck := now
    lastFailure := some now
    lastFailureCategory := some reason
    cooldownUntil := max a.cooldownUntil (now + cooldownDelay delay)
    healthState := reason.asStr }

/-- The end of a disable: no duration is no end. -/
def disableEnd (duration : Option (Option Rat)) (now : Rat) : Option Rat :=
  duration.map fun value =>
    now + min (match value with | some value => max value 0 | none => 0)
      MAX_NONTERMINAL_BACKOFF_SECONDS

def disableAccount (reason : String) (duration : Option (Option Rat)) (now : Rat) : AccountHealth :=
  { a with
    isHealthy := false
    disabledReason := reason
    disabledUntil := disableEnd duration now
    healthState := reason }

def enableAccount (now : Rat) : AccountHealth :=
  { a with
    isHealthy := true
    healthState := "healthy"
    disabledUntil := none
    disabledReason := ""
    cooldownUntil := 0
    lastCheck := now
    circuitBreaker := .fresh now }

def recordModelFailure (model : String) : AccountHealth :=
  { a with
    modelFailures :=
      a.modelFailures.set model (saturatingAdd ((a.modelFailures.lookup model).getD 0) 1) }

def disableModel (model : String) (duration : Option (Option Rat)) (now : Rat) : AccountHealth :=
  { a with disabledModels := a.disabledModels.set model (disableEnd duration now) }

def enableModel (model : String) : AccountHealth :=
  { a with disabledModels := a.disabledModels.erase model }

def pruneDisabledModels (advertised : List String) : AccountHealth :=
  let stale := (a.disabledModels.rows.map Prod.fst).filter fun model => model ∉ advertised
  { a with
    disabledModels := stale.foldl Table.erase a.disabledModels
    modelFailures := stale.foldl Table.erase a.modelFailures }

def seedModelFailure (model : String) (consecutiveFailures : Nat) : AccountHealth :=
  { a with modelFailures := a.modelFailures.set model consecutiveFailures }

end AccountHealth

/-- A row of the backoff table. Columns that hydration does not read are left out. -/
structure AccountBackoffRecord where
  accountId : Int
  modelId : Option String
  reason : BackoffReason
  consecutiveFailures : Nat
  backoffUntilEpoch : Option Rat
  deriving DecidableEq

inductive HealthManagerError where
  | missingExpiry (reason : BackoffReason)
  deriving DecidableEq

structure HealthManager where
  accounts : OrdMap String AccountHealth

namespace HealthManager

def empty : HealthManager := ⟨.empty⟩

variable (m : HealthManager)

/-- Most operations change one account, and do nothing for an unknown name. -/
def modify (name : String) (f : AccountHealth → AccountHealth) : HealthManager :=
  ⟨m.accounts.adjust name f⟩

def registerAccount (accountId : Int) (name : String) (now : Rat) : HealthManager :=
  let accounts := match m.accounts.lookup name with
    | some _ => m.accounts
    | none => m.accounts.set name (.fresh accountId now)
  HealthManager.modify ⟨accounts⟩ name fun a => { a with accountId := some accountId }

def snapshot (name : String) (now : Rat) : Option AccountHealth × HealthManager :=
  ((m.accounts.lookup name).map (·.normalize now), m.modify name (·.normalize now))

def isModelHealthy (name model : String) (now : Rat) : Bool :=
  match m.accounts.lookup name with
  | none => false
  | some a => a.effectivelyHealthy now && !a.isModelDisabled model now &&
      AccountHealth.breaker.canRequest a.circuitBreaker now

def tryAcquireRequest (name model : String) (now : Rat) : Bool × HealthManager :=
  match m.accounts.lookup name with
  | none => (false, m)
  | some a =>
    if !a.effectivelyHealthy now || a.isModelDisabled model now then (false, m)
    else
      let (allowed, inner) := AccountHealth.breaker.allowRequest a.circuitBreaker now
      (allowed, m.modify name fun a => { a with circuitBreaker := inner })

def releaseRequest (name : String) : HealthManager :=
  m.modify name fun a =>
    { a with circuitBreaker := CircuitBreaker.releaseProbe a.circuitBreaker }

def recordSuccess (m : HealthManager) (name : String) (model : Option String) (now : Rat) :
    HealthManager :=
  m.modify name (·.recordSuccess model now)

def recordFailure (m : HealthManager) (name : String) (reason : BackoffReason) (now : Rat) :
    HealthManager :=
  m.modify name (·.recordFailure reason now)

def recordModelFailure (m : HealthManager) (name model : String) : Nat × HealthManager :=
  let m' := m.modify name (·.recordModelFailure model)
  (match m'.accounts.lookup name with
    | none => 1
    | some a => (a.modelFailures.lookup model).getD 0, m')

def recordCooldown (m : HealthManager) (name : String) (reason : BackoffReason)
    (delay : Option Rat) (now : Rat) : HealthManager :=
  m.modify name (·.recordCooldown reason delay now)

def disableAccount (m : HealthManager) (name reason : String) (duration : Option (Option Rat))
    (now : Rat) : HealthManager :=
  m.modify name (·.disableAccount reason duration now)

def enableAccount (m : HealthManager) (name : String) (now : Rat) : HealthManager :=
  m.modify name (·.enableAccount now)

def disableModel (m : HealthManager) (name model : String) (duration : Option (Option Rat))
    (now : Rat) : HealthManager :=
  m.modify name (·.disableModel model duration now)

def enableModel (m : HealthManager) (name model : String) : HealthManager :=
  m.modify name (·.enableModel model)

def pruneDisabledModels (m : HealthManager) (name : String) (advertised : List String) :
    HealthManager :=
  m.modify name (·.pruneDisabledModels advertised)

def seedModelFailure (m : HealthManager) (name model : String) (consecutiveFailures : Nat) :
    HealthManager :=
  m.modify name (·.seedModelFailure model consecutiveFailures)

/--
The loop of `hydrate_backoffs`, with its two counters. The rows of a batch are taken
at one instant of the process clock.
-/
def hydrateFrom (accountNames : OrdMap Int String) (wallNow now : Rat) (applied skipped : Nat) :
    HealthManager → List AccountBackoffRecord →
      Except HealthManagerError (Nat × Nat) × HealthManager
  | m, [] => (.ok (applied, skipped), m)
  | m, record :: records =>
    if record.reason = .modelUnavailable ∧ record.modelId = none then
      hydrateFrom accountNames wallNow now applied (skipped + 1) m records
    else match accountNames.lookup record.accountId with
      | none => hydrateFrom accountNames wallNow now applied skipped m records
      | some name =>
        if record.reason = .authenticationFailed then
          hydrateFrom accountNames wallNow now (applied + 1) skipped
            (m.disableAccount name record.reason.asStr none now) records
        else match record.backoffUntilEpoch with
          | none => (.error (.missingExpiry record.reason), m)
          | some deadline =>
            let remaining := max (deadline - wallNow) 0
            if remaining = 0 then
              hydrateFrom accountNames wallNow now applied skipped m records
            else
              let remaining := min remaining MAX_NONTERMINAL_BACKOFF_SECONDS
              let m := match record.modelId with
                | some model =>
                  (m.disableModel name model (some (some remaining)) now).seedModelFailure
                    name model (max record.consecutiveFailures 1)
                | none => m.recordCooldown name record.reason (some remaining) now
              hydrateFrom accountNames wallNow now (applied + 1) skipped m records

def hydrateBackoffs (records : List AccountBackoffRecord)
    (accountNames : OrdMap Int String) (wallNow now : Rat) :
    Except HealthManagerError (Nat × Nat) × HealthManager :=
  hydrateFrom accountNames wallNow now 0 0 m records

/-- What is done to a manager. Looks that change nothing are left out. -/
inductive Operation where
  | registerAccount (accountId : Int) (name : String)
  | snapshot (name : String)
  | tryAcquireRequest (name model : String)
  | releaseRequest (name : String)
  | recordSuccess (name : String) (model : Option String)
  | recordFailure (name : String) (reason : BackoffReason)
  | recordModelFailure (name model : String)
  | recordCooldown (name : String) (reason : BackoffReason) (delay : Option Rat)
  | disableAccount (name reason : String) (duration : Option (Option Rat))
  | enableAccount (name : String)
  | disableModel (name model : String) (duration : Option (Option Rat))
  | enableModel (name model : String)
  | pruneDisabledModels (name : String) (advertised : List String)
  | hydrateBackoffs (records : List AccountBackoffRecord) (accountNames : OrdMap Int String)
      (wallNow : Rat)

/-- One timed operation, as seen by the state. -/
def step (op : Operation × Rat) : HealthManager :=
  match op.1 with
  | .registerAccount accountId name => m.registerAccount accountId name op.2
  | .snapshot name => (m.snapshot name op.2).2
  | .tryAcquireRequest name model => (m.tryAcquireRequest name model op.2).2
  | .releaseRequest name => m.releaseRequest name
  | .recordSuccess name model => m.recordSuccess name model op.2
  | .recordFailure name reason => m.recordFailure name reason op.2
  | .recordModelFailure name model => (m.recordModelFailure name model).2
  | .recordCooldown name reason delay => m.recordCooldown name reason delay op.2
  | .disableAccount name reason duration => m.disableAccount name reason duration op.2
  | .enableAccount name => m.enableAccount name op.2
  | .disableModel name model duration => m.disableModel name model duration op.2
  | .enableModel name model => m.enableModel name model
  | .pruneDisabledModels name advertised => m.pruneDisabledModels name advertised
  | .hydrateBackoffs records accountNames wallNow =>
    (m.hydrateBackoffs records accountNames wallNow op.2).2

variable (m : HealthManager)

@[simp]
theorem lookup_modify (n other : String) (f : AccountHealth → AccountHealth) :
    (m.modify n f).accounts.lookup other =
      if n = other then (m.accounts.lookup other).map f else m.accounts.lookup other :=
  OrdMap.lookup_adjust m.accounts n other f

theorem modify_of_id (n : String) {f : AccountHealth → AccountHealth}
    (h : ∀ a, f a = a) : m.modify n f = m := by
  unfold modify OrdMap.adjust
  rw [Table.update_eq_self_iff.mpr fun r _ _ => by rw [h]]

theorem modify_modify (n : String) (f g : AccountHealth → AccountHealth) :
    (m.modify n f).modify n g = m.modify n fun a => g (f a) := by
  unfold modify OrdMap.adjust
  congr 1
  refine Table.ext ?_
  simp only [Table.update, List.map_map]
  refine List.map_congr_left fun r _ => ?_
  by_cases hr : r.1 = n
  · simp [hr]
  · simp [hr]

end HealthManager

end EggPool.Health
