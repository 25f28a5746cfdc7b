import EggPool.Health.Backoff
import EggPool.Health.Quarantine
import EggPool.Health.HydrationOrder
import EggPool.Routing.Claim

/-!
# What an attempt does to health

The router applies the outcome of a claimed attempt to three places: the health manager, the
quarantine that the eligibility gate asks, and the durable backoff rows that a restarted process
hydrates from. A success only reaches the first two.

Each outcome is one instant of the process clock (`now`) and of the wall clock (`wall`). All three
places are attached to the router, and the database takes every write that passes its check.
-/

namespace EggPool.Health

open EggPool.Lib
open EggPool.Routing (SelectionClaim)

def BackoffReason.all : List BackoffReason :=
  [.authenticationFailed, .quotaExhausted, .rateLimited, .modelUnavailable, .connectTimeout,
    .connectionFailure, .upstreamServerError, .protocolError, .contextLimitExceeded, .unknown]

/-- An unknown name is taken for no particular reason. -/
def resolveBackoffReason (name : Option String) : BackoffReason :=
  (name.bind fun value => BackoffReason.all.find? (·.asStr = value)).getD .unknown

/-- `epoch_seconds`: whole seconds only. -/
def epochSeconds (wall : Rat) : Rat := max (wall.floor : Rat) 0

/-! ## Durable rows -/

/-- Rows are read by account, model and reason; a row without a model comes first. -/
def AccountBackoffRecord.key (r : AccountBackoffRecord) : Int ×ₗ WithBot String ×ₗ String :=
  toLex (r.accountId, toLex ((r.modelId : WithBot String), r.reason.asStr))

abbrev BackoffRows := Table AccountBackoffRecord.key

def validateBackoffRecord (r : AccountBackoffRecord) : Bool :=
  0 < r.accountId ∧ r.modelId ≠ some "" ∧ r.consecutiveFailures ≤ 1000000 ∧
    (getBackoffPolicy r.reason).isSome ∧ ¬ (r.reason = .modelUnavailable ∧ r.modelId = none) ∧
    ¬ (r.reason = .authenticationFailed ∧ r.backoffUntilEpoch.isSome)

/-- What is read back of a time that was written as text: it has six digits after the point. -/
def storedEpoch (epoch : Rat) : Rat :=
  let epoch := if 0 ≤ epoch then min epoch 253402300799 else 0
  let micros := min ((epoch - epoch.floor) * 1000000 + 1 / 2).floor 999999
  epoch.floor + micros / 1000000

/-- The deadline on record: no later than the cap of the reason allows. -/
def storedDeadline (reason : BackoffReason) (wall value : Rat) : Rat :=
  let ceiling := ((getBackoffPolicy reason).map (·.cap)).getD MAX_NONTERMINAL_BACKOFF_SECONDS
  storedEpoch (min value (max wall 0 + max ceiling 0))

def upsert (rows : BackoffRows) (r : AccountBackoffRecord) (wall : Rat) : BackoffRows :=
  if validateBackoffRecord r then
    rows.insert { r with
      backoffUntilEpoch := r.backoffUntilEpoch.map (storedDeadline r.reason wall) }
  else rows

/-! ## The router -/

structure RouterHealth where
  health : HealthManager
  quarantine : ModelQuarantine
  backoffs : BackoffRows

/-- What the failure engine decided, as far as the router reads it. -/
structure AppliedEffects where
  (applyAccountPenalty quarantineModel : Bool)
  backoffReason : Option String
  backoffUntil : Option Rat
  circuitPenalty : Bool
  deriving DecidableEq

def AppliedEffects.reason (e : AppliedEffects) : BackoffReason :=
  resolveBackoffReason e.backoffReason

structure PolicyBackoff where
  delay : Option Rat
  (modelRung accountRung : Nat)

def HealthManager.modelFailureCount (m : HealthManager) (name model : String) : Nat :=
  ((m.accounts.lookup name).bind (·.modelFailures.lookup model)).getD 0

def policyBackoff (m : HealthManager) (claim : SelectionClaim) (reason : BackoffReason)
    (retryAfter : Option Rat) (modelEffectApplies : Bool) (now : Rat) :
    PolicyBackoff × HealthManager :=
  match getBackoffPolicy reason with
  | none => (⟨none, 1, 1⟩, m)
  | some policy =>
    let modelScoped := policy.accountModelScope && modelEffectApplies
    let model :=
      if modelScoped then m.recordModelFailure claim.accountName claim.canonicalModelId
      else (m.modelFailureCount claim.accountName claim.canonicalModelId, m)
    let account := model.2.snapshot claim.accountName now
    let accountRung := (account.1.map fun a =>
      saturatingAdd (max a.consecutiveFailures a.consecutiveCooldowns) 1).getD 1
    let rung := if modelScoped then model.1 else accountRung
    let delay := (computeBackoffSeconds reason rung retryAfter).map fun seconds =>
      max (min seconds policy.cap) 0
    (⟨delay, model.1, accountRung⟩, account.2)

variable (claim : SelectionClaim)

/-- The partition the eligibility gate always asks for. -/
def quarantineKey : QuarantineKey where
  providerId := claim.providerId
  accountId := claim.accountName
  canonicalModelId := claim.canonicalModelId
  upstreamModelId := none
  upstreamProtocol := claim.protocol.getD "unknown"

namespace RouterHealth

def persistModelQuarantine (s : RouterHealth) (claim : SelectionClaim) (reason : BackoffReason)
    (delay : Option Rat) (modelRung : Nat) (wall : Rat) : RouterHealth :=
  let now := epochSeconds wall
  { s with
    quarantine := (s.quarantine.recordObservationUntil (quarantineKey claim) .runtimeHttp
      reason.asStr none none now (delay.map (now + ·))).2
    backoffs := match delay with
      | none => s.backoffs
      | some delay => upsert s.backoffs {
          accountId := claim.accountId
          modelId := some claim.canonicalModelId
          reason := reason
          consecutiveFailures := max modelRung 1
          backoffUntilEpoch := some (now + delay) } wall }

/-- A refused credential is the one row without a deadline. -/
def persistAccountBackoff (s : RouterHealth) (claim : SelectionClaim) (reason : BackoffReason)
    (delay : Option Rat) (consecutiveFailures : Nat) (wall : Rat) : RouterHealth :=
  let deadline := if reason = .authenticationFailed then some none else delay.map some
  match deadline with
  | none => s
  | some deadline =>
    { s with
      backoffs := upsert s.backoffs {
        accountId := claim.accountId
        modelId := none
        reason := reason
        consecutiveFailures := consecutiveFailures
        backoffUntilEpoch := deadline.map (epochSeconds wall + ·) } wall }

/-- The part of the effects that is about the model. -/
def quarantineModel (s : RouterHealth) (claim : SelectionClaim) (e : AppliedEffects)
    (policy : PolicyBackoff) (now wall : Rat) : RouterHealth :=
  if e.quarantineModel then
    { s with
      health := s.health.disableModel claim.accountName claim.canonicalModelId
        (policy.delay.map some) now }.persistModelQuarantine claim e.reason policy.delay
          policy.modelRung wall
  else s

/-- The part that is about the account. -/
def penalizeAccount (s : RouterHealth) (claim : SelectionClaim) (e : AppliedEffects)
    (policy : PolicyBackoff) (now wall : Rat) : RouterHealth :=
  if !e.applyAccountPenalty then s
  else
    let health := match policy.delay with
      | some delay => s.health.recordCooldown claim.accountName e.reason (some delay) now
      | none =>
        if e.circuitPenalty then s.health.recordFailure claim.accountName e.reason now
        else s.health
    { s with health := health }.persistAccountBackoff claim e.reason policy.delay
      policy.accountRung wall

def applyFailureEffects (s : RouterHealth) (claim : SelectionClaim) (e : AppliedEffects)
    (now wall : Rat) : RouterHealth :=
  let backoff := policyBackoff s.health claim e.reason e.backoffUntil e.quarantineModel now
  ({ s with health := backoff.2 }.quarantineModel claim e backoff.1 now wall).penalizeAccount
    claim e backoff.1 now wall

def recordSuccess (s : RouterHealth) (claim : SelectionClaim) (now wall : Rat) : RouterHealth :=
  { s with
    health := s.health.recordSuccess claim.accountName (some claim.canonicalModelId) now
    quarantine := s.quarantine.clearAuthoritativeReappearanceFor claim.accountName
      claim.canonicalModelId (epochSeconds wall) }

/-! ## Histories -/

end RouterHealth

/-- The outcome of an attempt on the account and model of a claim, and when it came. -/
inductive HealthEvent where
  | failure (e : AppliedEffects) (now wall : Rat)
  | success (now wall : Rat)
  deriving DecidableEq

def HealthEvent.isSuccess : HealthEvent → Bool
  | .success .. => true
  | .failure .. => false

namespace RouterHealth

def step (s : RouterHealth) : HealthEvent → RouterHealth
  | .failure e now wall => s.applyFailureEffects claim e now wall
  | .success now wall => s.recordSuccess claim now wall

/-- A new process with the claim's account, on a database without rows. -/
def started (start : Rat) : RouterHealth where
  health := .registered [(claim.accountId, claim.accountName)] start
  quarantine := .default
  backoffs := .empty

def after (start : Rat) (history : List HealthEvent) : RouterHealth :=
  run (step claim) (started claim start) history

/-- The health of the process that is started on the rows of this one. -/
def restarted (s : RouterHealth) (claim : SelectionClaim) (start wallNow now : Rat) :
    HealthManager :=
  .hydrated [(claim.accountId, claim.accountName)] start
    (OrdMap.set .empty claim.accountId claim.accountName) wallNow now (s.backoffs.rows.take 5000)

end RouterHealth

end EggPool.Health
