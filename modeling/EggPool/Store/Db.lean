import EggPool.Lib.AutoTable
import EggPool.Budget.Scope

/-!
# The durable tables

The tables that publication, finalization and crash reconciliation read and
write, with the columns those statements name. A column the schema constrains to
a few words is an inductive type; a free `TEXT` column stays a string, and a
nullable one is an option. Tables that are only read here (users, credentials,
accounts, models) are lookups, kept together as the directory.

A transaction body is a function of the database that may fail. `withTransaction`
keeps what a body that returned wrote and drops what a body that failed wrote.
-/

namespace EggPool.Store

open EggPool.Lib EggPool.Budget

/-- What `CURRENT_TIMESTAMP`, `date('now')` and `datetime('now', …)` give in one transaction. -/
structure Clock where
  (now dayStart monthStart : String)
  /-- `datetime('now', '-12 hours')` -/
  sessionFloor : String
  /-- `datetime('now', '+n seconds')` -/
  expiry : Int → String

inductive UserState
  | active | disabled
deriving DecidableEq, Repr

structure User where
  state : UserState
  authEpoch : Int
deriving DecidableEq, Repr

structure UserCredential where
  userId : String
  (expiresAt revokedAt : Option String)
deriving DecidableEq, Repr

structure WebSession where
  (userId expiresAt lastUsedAt : String)
  revokedAt : Option String
deriving DecidableEq, Repr

inductive PrincipalKind
  | agentToken | browserSession | legacySharedKey
deriving DecidableEq, Repr

inductive AttributedRequestKind
  | logical | internalSelector
deriving DecidableEq, Repr

/-- Who a request is attributed to. -/
structure RequestAttribution where
  (userId credentialId : Option String)
  authEpoch : Option Int
  principalKind : PrincipalKind
  requestKind : AttributedRequestKind
  parentProxyRequestId : Option String
deriving DecidableEq, Repr

/-- The columns the terminal update of a request writes besides its status. -/
structure RequestFacts where
  (inputTokens outputTokens costMicrodollars : Int := 0)
  statusCode : Option Int := none
  (errorClass errorDetail upstreamRequestId : Option String := none)
  (lastAttemptId cacheReadTokens cacheWriteTokens reasoningTokens : Option Int := none)
  thinkingCharacters : Option Int := none
  upstreamLatencyMs : Int := 0
  firstByteMs : Option Int := none
  (bytesReceived bytesEmitted : Int := 0)
  (upstreamConnectMs upstreamReadMs coordinatorOverheadMs : Option Int := none)
  cacheCounterStatus : String := "not_reported"
  (cachedInputTokens cacheReadInputTokens cacheCreationInputTokens : Option Int := none)
  (cacheWriteInputTokens cacheWriteInputReported inputTokensReported : Option Int := none)
  (outputTokensReported totalTokensReported : Option Int := none)
  transcoded : Bool := false
  providerCostMicrodollars : Option Int := none
  providerCostSource : Option String := none
  localCostMicrodollars : Option Int := none
  (localCostExactness upstreamProtocol : Option String := none)
deriving DecidableEq, Repr

/-- A row of `requests`. -/
structure Request where
  (id accountId : Int)
  (modelId providerId protocol : String)
  streamed : Int
  status : String
  reservedMicrodollars : Int
  (proxyRequestId firstAttemptAt completedAt : Option String)
  attribution : RequestAttribution
  facts : RequestFacts
deriving DecidableEq, Repr

/-- A row of `request_attempts`. -/
structure Attempt where
  (id requestId attemptNumber accountId : Int)
  (providerId modelId protocol : Option String)
  streamed : Int
  completedAt : Option String := none
  statusCode : Option Int := none
  (errorClass errorDetail releaseReason : Option String := none)
  (bytesReceived bytesEmitted latencyMs : Int := 0)
  (upstreamRequestId retryCategory : Option String := none)
  isRetryOutcome : Bool := false
deriving DecidableEq, Repr

/-- A row of `reservations`. -/
structure Reservation where
  (id requestId accountId : Int)
  modelId : String
  (reservedMicrodollars estimatedTokens : Int)
  expiresAt : Option String
  status : String := "active"
  (releasedAt releaseReason : Option String := none)
deriving DecidableEq, Repr

/-- What routing recorded about a selection. -/
structure PreparedRoutingDecisionRow where
  (exclusionsJson scoreComponentsJson : String)
  (eligibleCount scoredCount excludedCount : Int)
  selectedAccountId : Option Int
  selectedPriority : Option Nat
  topAccountName : Option String
deriving DecidableEq, Repr

/-- A row of `routing_decisions`. -/
structure RoutingDecision where
  (id requestId attemptNumber : Int)
  (modelId providerId protocol selectedAccountName : String)
  prepared : PreparedRoutingDecisionRow
deriving DecidableEq, Repr

/-- The tables that are only read here. -/
structure Directory where
  users : String → Option User
  userCredentials : String → Option UserCredential
  webSessions : String → Option WebSession
  accounts : Int → Option String
  models : String → Bool
  policyRevision : Option Int

/-- The durable state. -/
structure Db where
  directory : Directory
  requests : AutoTable Request.id
  attempts : AutoTable Attempt.id
  reservations : AutoTable Reservation.id
  routingDecisions : AutoTable RoutingDecision.id
  userBudget : UserBudget.Scope
  instanceBudget : InstanceBudget.Scope
  attemptUsage : AttemptUsageTable

inductive SqlError
  | invalidQuery | queryReturnedNoRows | invalidColumnType | constraintViolation
  | invalidParameterName (name : String)
deriving DecidableEq, Repr

/-- A transaction body: what it wrote and what it returned, or why it failed. -/
abbrev Txn (α : Type) := Db → Except SqlError (Db × α)

namespace Db

/-- A database in which nothing was published yet, with these budget rules. -/
def unused (directory : Directory) (userRules : List (BudgetRule String))
    (instanceRules : List (BudgetRule Unit)) : Db where
  directory := directory
  requests := AutoTable.empty
  attempts := AutoTable.empty
  reservations := AutoTable.empty
  routingDecisions := AutoTable.empty
  userBudget := ⟨userRules, Table.empty, Buckets.empty⟩
  instanceBudget := ⟨instanceRules, Table.empty, Buckets.empty⟩
  attemptUsage := Table.empty

/-- `BEGIN IMMEDIATE`, the body, then `COMMIT` if it returned and `ROLLBACK` if it failed. -/
def withTransaction {α : Type} (db : Db) (body : Txn α) : Db × Except SqlError α :=
  match body db with
  | .ok (db', a) => (db', .ok a)
  | .error e => (db, .error e)

theorem eq_ok_of_withTransaction {α : Type} {db : Db} {b : Txn α} {a : α}
    (h : (db.withTransaction b).2 = .ok a) : b db = .ok ((db.withTransaction b).1, a) := by
  unfold withTransaction at h ⊢
  cases hrun : b db with
  | error e => rw [hrun] at h; cases h
  | ok out => rw [hrun] at h; cases h; rfl

def requestByProxyId? (db : Db) (proxyRequestId : String) : Option Request :=
  db.requests.rows.find? (fun r => r.proxyRequestId = some proxyRequestId)

/-- `request_attempts LEFT JOIN reservations` on request, account and model. -/
def attemptsJoined (db : Db) (requestId attemptNumber : Int) :
    List (Attempt × Option Reservation) :=
  (db.attempts.rows.filter
    (fun a => a.requestId = requestId && a.attemptNumber = attemptNumber)).flatMap fun a =>
      match db.reservations.rows.filter (fun r => r.requestId = a.requestId &&
        r.accountId = a.accountId && some r.modelId = a.modelId) with
      | [] => [(a, none)]
      | matching => matching.map (fun r => (a, some r))

/-- The joined row with the larger reservation number; none sorts below every number. -/
def laterReservation (a b : Attempt × Option Reservation) : Attempt × Option Reservation :=
  match a.2, b.2 with
  | some r, some r' => if r.id < r'.id then b else a
  | none, some _ => b
  | _, none => a

/-- `… ORDER BY r.id DESC LIMIT 1` -/
def latestAttempt? (db : Db) (requestId attemptNumber : Int) :
    Option (Attempt × Option Reservation) :=
  match db.attemptsJoined requestId attemptNumber with
  | [] => none
  | row :: rows => some (rows.foldl laterReservation row)

end Db

end EggPool.Store
