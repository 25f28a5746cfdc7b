import EggPool.Lib.Buckets
import EggPool.Lib.Table
import EggPool.Budget.Hold

/-!
# One budget scope

The per-user budget and the instance-wide budget are the same machine run over
different tables: rules, one hold row per request, and settled usage in day and
month buckets. They differ in who owns a row. `BudgetScope ω` is the machine
with the owner left open; the user scope takes `ω` to be the user's name, the
instance scope takes `Unit`.

What the two scopes do differently around it (which rows a request without a
hold gets, what a retry without a hold means) is in their own sections.
-/

namespace EggPool.Budget

open EggPool.Lib Table

section Tables

variable (ω : Type)

/-- A row of `user_budget_rules` or `instance_budget_rules`. -/
structure BudgetRule where
  owner : ω
  scopeModel : Option String
  window : BudgetWindow
  (maxRequests maxTokens maxMicrodollars maxConcurrent : Option Int)
  enforcement : BudgetEnforcement
  /-- `CHECK (max_… IS NULL OR max_… > 0)` -/
  positive : ∀ limit ∈ [maxRequests, maxTokens, maxMicrodollars, maxConcurrent].reduceOption,
    0 < limit := by decide
deriving DecidableEq, Repr

/-- The states the schema admits. -/
inductive HoldStatus
  | active | settled | released
deriving DecidableEq, Repr

/-- A row of `user_budget_reservations` or `instance_budget_reservations`. -/
structure HoldRow where
  requestId : Int
  owner : ω
  modelId : String
  policyVersion : Int
  (dayStart monthStart : String)
  (heldTokens heldMicrodollars observedTokens observedMicrodollars : Int)
  (tokenUsageComplete costUsageComplete : Bool)
  enforcement : BudgetEnforcement
  (boundTokens boundMicrodollars : Int)
  priceSource : Option BudgetPriceSource
  status : HoldStatus
  expiresAt : String
  settledAt : Option String
deriving DecidableEq, Repr

structure UsageKey where
  owner : ω
  modelId : String
  window : BudgetWindow
  windowStart : String
deriving DecidableEq, Repr

end Tables

/-- The counters of a usage row. -/
structure UsageCounts where
  (requestCount tokenCount costMicrodollars providerReportedMicrodollars : Int)
  (localEstimatedMicrodollars reservationFallbackMicrodollars unknownTokenRequests : Int)
  unknownCostRequests : Int
deriving DecidableEq, Repr

instance : Add UsageCounts where
  add a b := {
    requestCount := a.requestCount + b.requestCount
    tokenCount := a.tokenCount + b.tokenCount
    costMicrodollars := a.costMicrodollars + b.costMicrodollars
    providerReportedMicrodollars :=
      a.providerReportedMicrodollars + b.providerReportedMicrodollars
    localEstimatedMicrodollars := a.localEstimatedMicrodollars + b.localEstimatedMicrodollars
    reservationFallbackMicrodollars :=
      a.reservationFallbackMicrodollars + b.reservationFallbackMicrodollars
    unknownTokenRequests := a.unknownTokenRequests + b.unknownTokenRequests
    unknownCostRequests := a.unknownCostRequests + b.unknownCostRequests }

/-- A row of `user_budget_attempt_usage`; both scopes read it. -/
structure AttemptUsage where
  (attemptId requestId inputTokens outputTokens costMicrodollars providerReportedMicrodollars : Int)
  localEstimatedMicrodollars : Int
  costSource : String
  (tokensKnown costKnown : Bool)
deriving DecidableEq, Repr

abbrev AttemptUsageTable := Table AttemptUsage.attemptId

/-- `INSERT OR IGNORE`: the first facts recorded for an attempt stay. -/
def recordAttemptUsage (attempts : AttemptUsageTable) (usage : AttemptUsage) : AttemptUsageTable :=
  if (attempts.get? usage.attemptId).isSome then attempts else attempts.insert usage

structure BudgetPermit where
  policyVersion : Int
  (dayStart monthStart : String)
deriving DecidableEq, Repr

inductive BudgetCheck
  | allowed | exceeded | notEnforceable
deriving DecidableEq, Repr

/-- The rules, holds and settled usage of one scope. -/
structure BudgetScope (ω : Type) where
  rules : List (BudgetRule ω)
  holds : Table (HoldRow.requestId : HoldRow ω → Int)
  usage : Buckets (UsageKey ω) UsageCounts

/-- A model filter: no model means every model. -/
def modelMatches (scopeModel : Option String) (modelId : String) : Bool :=
  scopeModel.all (· == modelId)

def BudgetPermit.start (p : BudgetPermit) : BudgetWindow → String
  | .day => p.dayStart
  | .month => p.monthStart

def HoldRow.start {ω : Type} (h : HoldRow ω) : BudgetWindow → String
  | .day => h.dayStart
  | .month => h.monthStart

def exceeds (limit first second third : Int) : Bool := limit < first + second + third

namespace BudgetScope

variable {ω : Type} [DecidableEq ω] (s : BudgetScope ω) (rule : BudgetRule ω)

/-- Settled usage counted for a rule in the window starting at `start`. -/
def used (start : String) (f : UsageCounts → Int) : Int :=
  s.usage.total (fun k => k.owner = rule.owner && modelMatches rule.scopeModel k.modelId &&
    k.window = rule.window && k.windowStart = start) f

/-- An active hold that a rule looks at, in whatever window. -/
def occupies (h : HoldRow ω) : Bool :=
  h.status = .active && h.owner = rule.owner && modelMatches rule.scopeModel h.modelId

/-- A hold that counts for a rule in the window starting at `start`. -/
def counted (start : String) (h : HoldRow ω) : Bool :=
  occupies rule h && h.start rule.window = start

/-- Active holds counted for a rule in the window starting at `start`. -/
def held (start : String) (f : HoldRow ω → Int) : Int :=
  s.holds.sumBy (fun h => if counted rule start h then f h else 0)

/-- Active holds a rule looks at, across windows. -/
def activeCount : Int :=
  s.holds.sumBy (fun h => if occupies rule h then 1 else 0)

def loadMatchingRules (owner : ω) (modelId : String) : List (BudgetRule ω) :=
  s.rules.filter (fun r => r.owner = owner && modelMatches r.scopeModel modelId)

def hardToken (rules : List (BudgetRule ω)) : Bool :=
  rules.any (fun r => r.enforcement = .hard && r.maxTokens.isSome)

def hardCost (rules : List (BudgetRule ω)) : Bool :=
  rules.any (fun r => r.enforcement = .hard && r.maxMicrodollars.isSome)

/-- One rule refuses: some limit is passed once the request's amounts are added. -/
def ruleExceeded (permit : BudgetPermit) (hold : BudgetHold)
    (estimateTokens estimateMicrodollars : Int) (newRequest : Bool) (rule : BudgetRule ω) : Bool :=
  let start := permit.start rule.window
  -- a hard row counts the worst-case hold, an estimated one its own projection
  let tokenAdd := if rule.enforcement = .hard && rule.maxTokens.isSome then hold.tokens
    else max estimateTokens 0
  let costAdd := if rule.enforcement = .hard && rule.maxMicrodollars.isSome then hold.microdollars
    else max estimateMicrodollars 0
  let requestHold := if newRequest then 1 else 0
  rule.maxRequests.any (fun limit => exceeds limit (s.used rule start UsageCounts.requestCount)
    (s.held rule start (fun _ => 1)) requestHold) ||
  rule.maxTokens.any (fun limit => exceeds limit (s.used rule start UsageCounts.tokenCount)
    (s.held rule start HoldRow.heldTokens) tokenAdd) ||
  rule.maxMicrodollars.any (fun limit => exceeds limit
    (s.used rule start UsageCounts.costMicrodollars)
    (s.held rule start HoldRow.heldMicrodollars) costAdd) ||
  rule.maxConcurrent.any (fun limit => exceeds limit (s.activeCount rule) requestHold 0)

def rulesExceeded (permit : BudgetPermit) (rules : List (BudgetRule ω))
    (hold : BudgetHold) (estimateTokens estimateMicrodollars : Int) (newRequest : Bool) : Bool :=
  rules.any (s.ruleExceeded permit hold estimateTokens estimateMicrodollars newRequest)

/-- The row of a new request's hold. -/
def heldRow (requestId : Int) (owner : ω) (modelId : String) (permit : BudgetPermit)
    (hold : BudgetHold) (expiresAt : String) : HoldRow ω where
  requestId := requestId
  owner := owner
  modelId := modelId
  policyVersion := permit.policyVersion
  dayStart := permit.dayStart
  monthStart := permit.monthStart
  heldTokens := hold.tokens
  heldMicrodollars := hold.microdollars
  observedTokens := 0
  observedMicrodollars := 0
  tokenUsageComplete := false
  costUsageComplete := false
  enforcement := hold.enforcement
  boundTokens := hold.boundTokens
  boundMicrodollars := hold.boundMicrodollars
  priceSource := hold.priceSource
  status := .active
  expiresAt := expiresAt
  settledAt := none

/-- Enter the hold of a new request. -/
def insertReservation (requestId : Int) (owner : ω) (modelId : String)
    (permit : BudgetPermit) (hold : BudgetHold) (expiresAt : String) : BudgetScope ω :=
  { s with holds := s.holds.insert (heldRow requestId owner modelId permit hold expiresAt) }

/-- The hold of a request, while it is active. -/
def activeHold? (requestId : Int) : Option (HoldRow ω) :=
  (s.holds.get? requestId).filter (·.status = .active)

/-- `WHERE request_id = ?1 AND status = 'active'` -/
def activeFor (requestId : Int) (h : HoldRow ω) : Bool :=
  h.requestId = requestId && h.status = .active

/-- `SET held_tokens = held_tokens + ?1, held_microdollars = held_microdollars + ?2` -/
def extendedRow (tokens microdollars : Int) (h : HoldRow ω) : HoldRow ω :=
  { h with
    heldTokens := h.heldTokens + tokens
    heldMicrodollars := h.heldMicrodollars + microdollars }

omit [DecidableEq ω] in
theorem requestId_extendedRow (t m : Int) (h : HoldRow ω) :
    (extendedRow t m h).requestId = h.requestId := rfl

def addToHold (requestId tokens microdollars : Int) : BudgetScope ω :=
  { s with
    holds := s.holds.update (activeFor requestId) (extendedRow tokens microdollars)
      (requestId_extendedRow tokens microdollars) }

/-- Add a retry's amounts to the active hold; fails when there is none. -/
def extendReservation (requestId tokens microdollars : Int) : Option (BudgetScope ω) :=
  match s.activeHold? requestId with
  | none => none
  | some _ => some (s.addToHold requestId tokens microdollars)

omit [DecidableEq ω] in
theorem activeHold?_eq_some {s : BudgetScope ω} {r : Int} {h : HoldRow ω} :
    s.activeHold? r = some h ↔ s.holds.get? r = some h ∧ h.status = .active := by
  simp [activeHold?]

omit [DecidableEq ω] in
theorem activeFor_key {requestId : Int} (x : HoldRow ω) (hx : activeFor requestId x = true) :
    x.requestId = requestId := by
  simp only [activeFor, Bool.and_eq_true, decide_eq_true_eq] at hx
  exact hx.1

omit [DecidableEq ω] in
theorem activeFor_of_activeHold? {s : BudgetScope ω} {requestId : Int} {h : HoldRow ω}
    (hact : s.activeHold? requestId = some h) : activeFor requestId h = true := by
  obtain ⟨hget, hst⟩ := activeHold?_eq_some.mp hact
  have hkey : h.requestId = requestId := key_of_get? hget
  simp [activeFor, hkey, hst]

omit [DecidableEq ω] in
/-- An update of the active hold of a request leaves the holds of the others alone. -/
theorem get?_update_activeFor {s : BudgetScope ω} {requestId other : Int}
    {g : HoldRow ω → HoldRow ω} {hg : ∀ h, (g h).requestId = h.requestId}
    (hne : other ≠ requestId) :
    (s.holds.update (activeFor requestId) g hg).get? other = s.holds.get? other := by
  rw [get?_update]
  cases hget : s.holds.get? other with
  | none => rfl
  | some h =>
    have hkey : h.requestId = other := key_of_get? hget
    simp [activeFor, hkey, hne]

omit [DecidableEq ω] in
/-- Extending an active hold shows in its row, unless both amounts are zero. -/
theorem addToHold_holds_eq_iff {s : BudgetScope ω} {r t m : Int}
    {h : HoldRow ω} (hact : s.activeHold? r = some h) : (s.addToHold r t m).holds = s.holds ↔
      t = 0 ∧ m = 0 := by
  obtain ⟨hget, hst⟩ := activeHold?_eq_some.mp hact
  constructor
  · intro heq
    have hrow : (s.addToHold r t m).holds.get? r = some h := by
      rw [heq, hget]
    simp only [addToHold, activeFor, get?_update, hget, Option.map_some, key_of_get? hget, hst,
      decide_true, Bool.and_self, if_true, Option.some.injEq] at hrow
    have ht := congrArg HoldRow.heldTokens hrow
    have hm := congrArg HoldRow.heldMicrodollars hrow
    dsimp only [extendedRow] at ht hm
    omega
  · rintro ⟨rfl, rfl⟩
    rw [addToHold, update_eq_self_iff]
    simp [extendedRow]

end BudgetScope

/-! ## Settlement -/

/-- The sums one request's attempts add up to. -/
structure Observed where
  (tokens cost providerCost localCost tokenUnknown costUnknown : Int)

/-- Fold the recorded attempts of a request. -/
def observe (attempts : AttemptUsageTable) (requestId : Int) : Observed :=
  let sum (f : AttemptUsage → Int) : Int :=
    attempts.sumBy (fun u => if u.requestId = requestId then f u else 0)
  { tokens := sum (fun u => u.inputTokens + u.outputTokens)
    cost := sum AttemptUsage.costMicrodollars
    providerCost := sum AttemptUsage.providerReportedMicrodollars
    localCost := sum AttemptUsage.localEstimatedMicrodollars
    tokenUnknown := sum (fun u => if u.tokensKnown then 0 else 1)
    costUnknown := sum (fun u => if u.costKnown then 0 else 1) }

/-- What is charged when some attempt's usage is unknown: never less than was held. -/
def charge (unknown held observed : Int) : Int := if 0 < unknown then max held observed else observed

def settledCounts {ω : Type} (h : HoldRow ω) (o : Observed) : UsageCounts where
  requestCount := 1
  tokenCount := charge o.tokenUnknown h.heldTokens o.tokens
  costMicrodollars := charge o.costUnknown h.heldMicrodollars o.cost
  providerReportedMicrodollars := o.providerCost
  localEstimatedMicrodollars := o.localCost
  reservationFallbackMicrodollars :=
    max (charge o.costUnknown h.heldMicrodollars o.cost - o.providerCost - o.localCost) 0
  unknownTokenRequests := if 0 < o.tokenUnknown then 1 else 0
  unknownCostRequests := if 0 < o.costUnknown then 1 else 0

namespace BudgetScope

variable {ω : Type} [DecidableEq ω]

/-- `SET status = 'settled', …` -/
def settledRow (o : Observed) (now : String) (h : HoldRow ω) : HoldRow ω :=
  { h with
    status := .settled
    settledAt := some now
    observedTokens := o.tokens
    observedMicrodollars := o.cost
    tokenUsageComplete := o.tokenUnknown = 0
    costUsageComplete := o.costUnknown = 0 }

omit [DecidableEq ω] in
theorem requestId_settledRow (o : Observed) (now : String) (h : HoldRow ω) :
    (settledRow o now h).requestId = h.requestId := rfl

/--
Fold a terminal request into its two buckets and settle its hold. A request
without an active hold, or one that is not terminal yet, is left alone. The
schema has no other hold states, so the error for an unknown one cannot occur.
-/
def maybeSettle (s : BudgetScope ω) (attempts : AttemptUsageTable) (requestId : Int)
    (terminalizeRequest : Bool) (now : String) : BudgetScope ω :=
  match s.holds.get? requestId with
  | none => s
  | some h =>
    if !terminalizeRequest || h.status = .settled || h.status = .released then s
    else
      let o := observe attempts requestId
      let counts := settledCounts h o
      { s with
        usage := (s.usage.bump ⟨h.owner, h.modelId, .day, h.dayStart⟩ counts).bump
          ⟨h.owner, h.modelId, .month, h.monthStart⟩ counts
        holds := s.holds.update (activeFor requestId) (settledRow o now)
          (requestId_settledRow o now) }

variable {s : BudgetScope ω}

/-- The hold of a request that turns terminal is settled. -/
theorem settled_maybeSettle {requestId : Int} {h : HoldRow ω}
    (hact : s.activeHold? requestId = some h) (a : AttemptUsageTable) (now : String) :
    ∃ h', (s.maybeSettle a requestId true now).holds.get? requestId = some h' ∧
      h'.status = .settled := by
  obtain ⟨hget, hst⟩ := activeHold?_eq_some.mp hact
  have hkey : h.requestId = requestId := key_of_get? hget
  simp [maybeSettle, activeFor, settledRow, hget, hst, hkey]

/-! ## Release -/

/-- The active holds of some requests. -/
def heldBy (requestIds : List Int) (h : HoldRow ω) : Bool :=
  h.status = .active && requestIds.contains h.requestId

/-- `SET status = 'released'`; `settled_at` stays NULL. -/
def releasedRow (h : HoldRow ω) : HoldRow ω := { h with status := .released }

omit [DecidableEq ω] in
theorem requestId_releasedRow (h : HoldRow ω) : (releasedRow h).requestId = h.requestId := rfl

/-- `UPDATE … SET status = 'released' WHERE status = 'active' AND request_id IN (…)` -/
def releaseHolds (s : BudgetScope ω) (requestIds : List Int) : BudgetScope ω :=
  { s with holds := s.holds.update (heldBy requestIds) releasedRow requestId_releasedRow }

/-- The rows that update changes. -/
def countHolds (s : BudgetScope ω) (requestIds : List Int) : Nat :=
  s.holds.rows.countP (heldBy requestIds)

/-- The request has an active hold in this scope. -/
def isHeld (s : BudgetScope ω) (requestId : Int) : Bool := (s.activeHold? requestId).isSome

omit [DecidableEq ω] in
theorem isHeld_iff {r : Int} : s.isHeld r = true ↔
    ∃ h ∈ s.holds.rows, h.requestId = r ∧ h.status = .active := by
  rw [isHeld, Option.isSome_iff_exists]
  constructor
  · rintro ⟨h, hact⟩
    obtain ⟨hget, hst⟩ := activeHold?_eq_some.mp hact
    exact ⟨h, mem_of_get? hget, key_of_get? hget, hst⟩
  · rintro ⟨h, hmem, rfl, hst⟩
    exact ⟨h, activeHold?_eq_some.mpr ⟨get?_self hmem, hst⟩⟩

omit [DecidableEq ω] in
theorem isHeld_releaseHolds {r : List Int} {requestId : Int} : (s.releaseHolds r).isHeld requestId =
      (s.isHeld requestId && !r.contains requestId) := by
  simp only [isHeld, activeHold?, releaseHolds, get?_update]
  cases hget : s.holds.get? requestId with
  | none => rfl
  | some h =>
    have hkey : h.requestId = requestId := key_of_get? hget
    by_cases hin : requestId ∈ r <;> cases hst : h.status <;>
      simp [heldBy, releasedRow, hst, hkey, hin]

/-! ## Checks -/

/-- Evaluate rules for a request that would hold `hold?`; no provable hold, no admission. -/
def evaluate (s : BudgetScope ω) (permit : BudgetPermit) (rules : List (BudgetRule ω))
    (hold? : Option BudgetHold) (tokens microdollars : Int) (newRequest : Bool) :
    BudgetCheck × BudgetHold :=
  match hold? with
  | none => (.notEnforceable, .empty)
  | some hold =>
    (if s.rulesExceeded permit rules hold tokens microdollars newRequest then .exceeded
      else .allowed, hold)

/-- Evaluate a request that has no hold yet. -/
def evaluateInitial (s : BudgetScope ω) (permit : BudgetPermit) (owner : ω) (modelId : String)
    (tokens microdollars : Int) (proof : Option BudgetProof) : BudgetCheck × BudgetHold :=
  let rules := s.loadMatchingRules owner modelId
  s.evaluate permit rules
    (holdForAdmission tokens microdollars proof (hardToken rules) (hardCost rules))
    tokens microdollars true

/--
Evaluate a retry of a request that holds `h`, in the window it was admitted in.
The hard flags come from the current rules, not from the original permit.
-/
def evaluateRetry (s : BudgetScope ω) (h : HoldRow ω) (tokens microdollars : Int)
    (proof : Option BudgetProof) : BudgetCheck × BudgetHold :=
  let rules := s.loadMatchingRules h.owner h.modelId
  s.evaluate ⟨h.policyVersion, h.dayStart, h.monthStart⟩ rules
    (holdForRetry tokens microdollars proof (hardToken rules) (hardCost rules))
    tokens microdollars false

end BudgetScope

/-! ## The user scope -/

namespace UserBudget

abbrev Scope := BudgetScope String

def checkInitial (s : Scope) (permit : BudgetPermit) (userId modelId : String)
    (tokens microdollars : Int) (proof : Option BudgetProof) :
    BudgetCheck × BudgetPermit × BudgetHold :=
  let (check, hold) := s.evaluateInitial permit userId modelId tokens microdollars proof
  (check, permit, hold)

/-- A user request always has a hold, so a retry without one is refused. -/
def checkRetry (s : Scope) (requestId tokens microdollars : Int) (proof : Option BudgetProof) :
    BudgetCheck × BudgetHold :=
  match s.activeHold? requestId with
  | none => (.exceeded, .empty)
  | some h => s.evaluateRetry h tokens microdollars proof

end UserBudget

/-! ## The instance scope -/

namespace InstanceBudget

abbrev Scope := BudgetScope Unit

/-- No matching rule, no hold. -/
def checkInitial (s : Scope) (permit : BudgetPermit) (modelId : String)
    (tokens microdollars : Int) (proof : Option BudgetProof) :
    BudgetCheck × Option BudgetPermit × BudgetHold :=
  if (s.loadMatchingRules () modelId).isEmpty then (.allowed, none, .empty)
  else
    match s.evaluateInitial permit () modelId tokens microdollars proof with
    | (.notEnforceable, hold) => (.notEnforceable, none, hold)
    | (check, hold) => (check, some permit, hold)

/-- A request that never took an instance hold skips the instance check. -/
def checkRetry (s : Scope) (requestId tokens microdollars : Int) (proof : Option BudgetProof) :
    BudgetCheck × Option BudgetHold :=
  match s.activeHold? requestId with
  | none => (.allowed, none)
  | some h =>
    match s.evaluateRetry h tokens microdollars proof with
    | (.notEnforceable, _) => (.notEnforceable, none)
    | (check, hold) => (check, some hold)

end InstanceBudget

end EggPool.Budget
