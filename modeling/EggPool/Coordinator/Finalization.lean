import EggPool.Coordinator.Publication

/-!
# Durable finalization

One transaction closes an attempt, releases its reservation, settles the budget
holds and, for a request-terminal call, closes the request. It works through the
three rows in that order (request, attempt, reservation): each row is checked
right before it is written, and a failed check is an ordinary result, so what
was written before it is committed.

`finalizeTransaction_cases` says this once: the three checks are functions of
the database the transaction started from, and they alone decide how far it gets.
-/

namespace EggPool.Coordinator

open EggPool.Lib EggPool.Budget EggPool.Store Option

inductive FinalizationOutcome
  | completed | clientError | upstreamError | midstreamError | clientCancelled | timeout
  | interrupted
deriving DecidableEq, Repr

def FinalizationOutcome.requestStatus : FinalizationOutcome → String
  | .completed => "completed"
  | .clientError => "client_error"
  | .clientCancelled => "cancelled"
  | .upstreamError | .midstreamError | .timeout | .interrupted => "error"

structure FinalizationData where
  outcome : FinalizationOutcome := .interrupted
  statusCode : Option Nat := none
  (inputTokens outputTokens cacheReadTokens cacheWriteTokens reasoningTokens : Int := 0)
  (thinkingCharacters costMicrodollars : Int := 0)
  providerCostMicrodollars : Option Int := none
  providerCostSource : Option String := none
  localCostMicrodollars : Option Int := none
  (localCostExactness cacheCounterStatus : Option String := none)
  (cachedInputTokens cacheReadInputTokens cacheCreationInputTokens : Option Int := none)
  (cacheWriteInputTokens cacheWriteInputReported inputTokensReported : Option Int := none)
  (outputTokensReported totalTokensReported : Option Int := none)
  transcoded : Bool := false
  upstreamProtocol : Option String := none
  (upstreamConnectMs upstreamReadMs coordinatorOverheadMs : Option Int := none)
  latencyMs : Int := 0
  firstByteMs : Option Int := none
  (bytesReceived bytesEmitted : Int := 0)
  (upstreamRequestId errorClass errorDetail releaseReason retryCategory : Option String := none)
  isRetryOutcome : Bool := false
deriving DecidableEq, Repr

inductive TxnResult
  | success (requestTerminal requestTransitioned attemptTransitioned reservationTransitioned : Bool)
  | conflict (status : String)
  | invariant (entity : String) (id : Int) (reason : String)
deriving DecidableEq, Repr

def TxnResult.isSuccess : TxnResult → Bool
  | .success .. => true
  | _ => false

inductive FinalizationError
  | database (error : SqlError)
  | terminalConflict (status : String)
  | invariant (entity : String) (id : Int) (reason : String)
deriving DecidableEq, Repr

/-- What a finalization that went through reports. -/
structure FinalizationResult where
  (requestTerminal requestTransitioned attemptTransitioned reservationTransitioned : Bool)
deriving DecidableEq, Repr

def isTerminalStatus (status : String) : Bool :=
  ["completed", "client_error", "cancelled", "error", "interrupted", "failed",
    "client_disconnected"].contains status

/-- One call of `finalize_durable`. -/
structure Finalization where
  identity : FinalizationIdentity
  data : FinalizationData
  terminalizeRequest : Bool
  /-- `CURRENT_TIMESTAMP` in the transaction -/
  now : String
  /-- The redaction applied to the error detail before it is stored. -/
  sanitizeDetail : String → String

namespace Finalization

variable (f : Finalization)

def targetStatus : String := f.data.outcome.requestStatus

def detail : Option String := f.data.errorDetail.map f.sanitizeDetail

def statusCode : Option Int := f.data.statusCode.map Int.ofNat

/-! ## The request row -/

def requestMatches (r : Request) : Bool :=
  r.modelId = f.identity.modelId && r.protocol = f.identity.clientProtocol &&
    r.attribution = f.identity.attribution &&
    (!f.terminalizeRequest ||
      (r.accountId = f.identity.accountId && r.providerId = f.identity.providerId))

variable (db : Db)

/-- Why the request row stops the transaction, if it does. -/
def requestRefusal? : Option TxnResult :=
  match db.requests.get? f.identity.dbRequestId with
  | none => some (.invariant "request" f.identity.dbRequestId "row is missing")
  | some r =>
    if !f.requestMatches r then
      some (.invariant "request" f.identity.dbRequestId
        (if f.terminalizeRequest then "identity relationship does not match"
          else "request model/protocol relationship does not match"))
    else if f.terminalizeRequest then
      if isTerminalStatus r.status && r.status ≠ f.targetStatus then some (.conflict r.status)
      else none
    else if r.status ≠ "pending" then
      some (.invariant "request" f.identity.dbRequestId "failed attempt parent is not pending")
    else none

/-- The columns the terminal update writes. -/
def requestFacts : RequestFacts where
  inputTokens := f.data.inputTokens
  outputTokens := f.data.outputTokens
  costMicrodollars := f.data.costMicrodollars
  statusCode := f.statusCode
  errorClass := f.data.errorClass
  errorDetail := f.detail
  upstreamRequestId := f.data.upstreamRequestId
  lastAttemptId := some f.identity.attemptId
  cacheReadTokens := some f.data.cacheReadTokens
  cacheWriteTokens := some f.data.cacheWriteTokens
  reasoningTokens := some f.data.reasoningTokens
  thinkingCharacters := some f.data.thinkingCharacters
  upstreamLatencyMs := f.data.latencyMs
  firstByteMs := f.data.firstByteMs
  bytesReceived := f.data.bytesReceived
  bytesEmitted := f.data.bytesEmitted
  upstreamConnectMs := f.data.upstreamConnectMs
  upstreamReadMs := f.data.upstreamReadMs
  coordinatorOverheadMs := f.data.coordinatorOverheadMs
  cacheCounterStatus := f.data.cacheCounterStatus.getD "not_reported"
  cachedInputTokens := f.data.cachedInputTokens
  cacheReadInputTokens := f.data.cacheReadInputTokens
  cacheCreationInputTokens := f.data.cacheCreationInputTokens
  cacheWriteInputTokens := f.data.cacheWriteInputTokens
  cacheWriteInputReported := f.data.cacheWriteInputReported
  inputTokensReported := f.data.inputTokensReported
  outputTokensReported := f.data.outputTokensReported
  totalTokensReported := f.data.totalTokensReported
  transcoded := f.data.transcoded
  providerCostMicrodollars := f.data.providerCostMicrodollars
  providerCostSource := f.data.providerCostSource
  localCostMicrodollars := f.data.localCostMicrodollars
  localCostExactness := f.data.localCostExactness
  upstreamProtocol := f.data.upstreamProtocol

/-- The terminal update selects this row. -/
def selectsRequest (r : Request) : Bool :=
  f.terminalizeRequest && r.id = f.identity.dbRequestId && !isTerminalStatus r.status

def closedRequest (r : Request) : Request :=
  { r with
    status := f.targetStatus
    completedAt := some f.now
    facts := f.requestFacts }

def closeRequest : Db :=
  { db with requests := db.requests.update f.selectsRequest f.closedRequest (fun _ => rfl) }

/-! ## The attempt row -/

def attemptMatches (a : Attempt) (providerId modelId protocol : String) : Bool :=
  a.requestId = f.identity.dbRequestId && a.accountId = f.identity.accountId &&
    providerId = f.identity.providerId && modelId = f.identity.modelId &&
    protocol = f.identity.upstreamProtocol

/-- The call brings a status or an error class other than the recorded one. -/
def factsConflict (a : Attempt) : Bool :=
  f.statusCode.any (fun value => some value ≠ a.statusCode) ||
    f.data.errorClass.any (fun value => some value ≠ a.errorClass)

/-- Why the attempt row stops the transaction, if it does. -/
def attemptRefusal? : Except SqlError (Option TxnResult) :=
  match db.attempts.get? f.identity.attemptId with
  | none => .ok (some (.invariant "attempt" f.identity.attemptId "row is missing"))
  | some a =>
    match a.providerId, a.modelId, a.protocol with
    | some providerId, some modelId, some protocol =>
      if !f.attemptMatches a providerId modelId protocol then
        .ok (some (.invariant "attempt" f.identity.attemptId
          "identity relationship does not match"))
      else if a.completedAt.isSome && f.factsConflict a then
        .ok (some (.invariant "attempt" f.identity.attemptId "terminal facts conflict"))
      else .ok none
    -- a NULL column does not read as a string
    | _, _, _ => .error .invalidColumnType

/-- The attempt update selects this row. -/
def selectsAttempt (a : Attempt) : Bool :=
  a.id = f.identity.attemptId && a.completedAt.isNone

def closedAttempt (a : Attempt) : Attempt :=
  { a with
    completedAt := some f.now
    statusCode := f.statusCode
    errorClass := f.data.errorClass
    errorDetail := f.detail
    releaseReason := f.data.releaseReason
    bytesReceived := f.data.bytesReceived
    bytesEmitted := f.data.bytesEmitted
    latencyMs := f.data.latencyMs
    upstreamRequestId := f.data.upstreamRequestId
    retryCategory := f.data.retryCategory
    isRetryOutcome := f.data.isRetryOutcome }

def closeAttempt : Db :=
  { db with attempts := db.attempts.update f.selectsAttempt f.closedAttempt (fun _ => rfl) }

/-! ## The reservation row -/

def reservationMatches (r : Reservation) : Bool :=
  r.requestId = f.identity.dbRequestId && r.accountId = f.identity.accountId &&
    r.modelId = f.identity.modelId

/-- Why the reservation row stops the transaction, if it does. -/
def reservationRefusal? : Option TxnResult :=
  match db.reservations.get? f.identity.reservationId with
  | none => some (.invariant "reservation" f.identity.reservationId "row is missing")
  | some r =>
    if !f.reservationMatches r then
      some (.invariant "reservation" f.identity.reservationId
        "identity relationship does not match")
    else if r.status = "active" || r.status = "released" || r.status = "expired" then none
    else some (.invariant "reservation" f.identity.reservationId "unknown terminal status")

def selectsReservation (r : Reservation) : Bool :=
  r.id = f.identity.reservationId && r.status = "active"

def releasedReservation (r : Reservation) : Reservation :=
  { r with
    status := "released"
    releasedAt := some f.now
    releaseReason := some (f.data.releaseReason.getD "finalized") }

def releaseReservation : Db :=
  { db with
    reservations :=
      db.reservations.update f.selectsReservation f.releasedReservation (fun _ => rfl) }

/-! ## The budgets -/

def tokensKnown : Bool :=
  f.data.inputTokensReported.isSome || f.data.outputTokensReported.isSome ||
    f.data.totalTokensReported.isSome || 0 < f.data.inputTokens || 0 < f.data.outputTokens

def costKnown : Bool :=
  f.data.providerCostMicrodollars.isSome || f.data.localCostMicrodollars.isSome ||
    0 < f.data.costMicrodollars

/-- The usage facts of the attempt. -/
def attemptUsage : AttemptUsage :=
  let localCost := max ((f.data.localCostMicrodollars.or
    (if f.data.providerCostMicrodollars.isNone && 0 < f.data.costMicrodollars then
      some f.data.costMicrodollars else none)).getD 0) 0
  { attemptId := f.identity.attemptId
    requestId := f.identity.dbRequestId
    inputTokens := max f.data.inputTokens 0
    outputTokens := max f.data.outputTokens 0
    costMicrodollars := max f.data.costMicrodollars 0
    providerReportedMicrodollars := max (f.data.providerCostMicrodollars.getD 0) 0
    localEstimatedMicrodollars := localCost
    costSource :=
      if f.data.providerCostMicrodollars.isSome then "provider_reported"
      else if 0 < localCost then "local_estimated" else "unknown"
    tokensKnown := f.tokensKnown
    costKnown := f.costKnown }

/-- Record the attempt's usage if it was closed just now, then settle both scopes. -/
def settle (attemptTransitioned : Bool) : Db :=
  let usage := if attemptTransitioned then recordAttemptUsage db.attemptUsage f.attemptUsage
    else db.attemptUsage
  { db with
    attemptUsage := usage
    userBudget := db.userBudget.maybeSettle usage f.identity.dbRequestId f.terminalizeRequest f.now
    instanceBudget :=
      db.instanceBudget.maybeSettle usage f.identity.dbRequestId f.terminalizeRequest f.now }

/-! ## The transaction -/

/-- The request row is one the terminal update would write. -/
def requestTransitions : Bool :=
  (db.requests.get? f.identity.dbRequestId).any f.selectsRequest

/-- The attempt row is still open. -/
def attemptTransitions : Bool :=
  (db.attempts.get? f.identity.attemptId).any f.selectsAttempt

/-- The reservation row is still active. -/
def reservationTransitions : Bool :=
  (db.reservations.get? f.identity.reservationId).any f.selectsReservation

def finalizeTransaction : Txn TxnResult := fun db₀ =>
  match f.requestRefusal? db₀ with
  | some result => .ok (db₀, result)
  | none =>
    let db₁ := f.closeRequest db₀
    match f.attemptRefusal? db₁ with
    | .error e => .error e
    -- from here on a refusal commits the writes before it
    | .ok (some result) => .ok (db₁, result)
    | .ok none =>
      let db₂ := f.closeAttempt db₁
      match f.reservationRefusal? db₂ with
      | some result => .ok (db₂, result)
      | none =>
        .ok (f.settle (f.releaseReservation db₂) (f.attemptTransitions db₁),
          .success f.terminalizeRequest (f.requestTransitions db₀) (f.attemptTransitions db₁)
            (f.reservationTransitions db₂))

def finalizeDurable : Db × Except FinalizationError FinalizationResult :=
  match db.withTransaction f.finalizeTransaction with
  | (db, .error e) => (db, .error (.database e))
  | (db, .ok (.conflict status)) => (db, .error (.terminalConflict status))
  | (db, .ok (.invariant entity id reason)) => (db, .error (.invariant entity id reason))
  | (db, .ok (.success requestTerminal requestTransitioned attemptTransitioned
      reservationTransitioned)) =>
    (db, .ok ⟨requestTerminal, requestTransitioned, attemptTransitioned, reservationTransitioned⟩)

/-! ## How far a transaction gets -/

/-- The request row exists, is the command's, and is in a state the command may act on. -/
def parentAccepts : Bool :=
  (db.requests.get? f.identity.dbRequestId).any fun r =>
    f.requestMatches r &&
      (if f.terminalizeRequest then !isTerminalStatus r.status || r.status = f.targetStatus
        else r.status = "pending")

/-- The attempt row is the command's, and is open or agrees with it. -/
def attemptSound : Bool :=
  (db.attempts.get? f.identity.attemptId).any fun a =>
    a.requestId = f.identity.dbRequestId && a.accountId = f.identity.accountId &&
      a.providerId = some f.identity.providerId && a.modelId = some f.identity.modelId &&
      a.protocol = some f.identity.upstreamProtocol &&
      (a.completedAt.isNone || !f.factsConflict a)

/-- The attempt row has a NULL where the query reads a string. -/
def attemptUnreadable : Bool :=
  (db.attempts.get? f.identity.attemptId).any fun a =>
    a.providerId.isNone || a.modelId.isNone || a.protocol.isNone

/-- The reservation row is the command's and its status is a known one. -/
def reservationSound : Bool :=
  (db.reservations.get? f.identity.reservationId).any fun r =>
    f.reservationMatches r &&
      (r.status = "active" || r.status = "released" || r.status = "expired")

variable {f} {db db' : Db} {result : TxnResult}

theorem requestRefusal?_eq_none : f.requestRefusal? db = none ↔ f.parentAccepts db = true := by
  unfold requestRefusal? parentAccepts
  cases db.requests.get? f.identity.dbRequestId with
  | none => simp
  | some r =>
    grind

theorem attemptRefusal?_ok_none : f.attemptRefusal? db = .ok none ↔ f.attemptSound db = true := by
  unfold attemptRefusal? attemptSound attemptMatches
  cases db.attempts.get? f.identity.attemptId with
  | none => simp
  | some a =>
    rw [any_some]
    dsimp only
    cases a.completedAt <;> grind

/-- The attempt query fails only on a NULL column. -/
theorem attemptRefusal?_error :
    (∃ e, f.attemptRefusal? db = .error e) ↔ f.attemptUnreadable db = true := by
  unfold attemptRefusal? attemptUnreadable
  cases db.attempts.get? f.identity.attemptId with
  | none => simp
  | some a =>
    rw [any_some]
    dsimp only
    split
    · rename_i hp hm hc
      simp only [hp, hm, hc, isNone_some, Bool.or_self, Bool.false_eq_true, iff_false]
      rintro ⟨e, he⟩
      split at he
      · cases he
      · split at he <;> cases he
    · rename_i hn
      cases hp : a.providerId <;> cases hm : a.modelId <;> cases hc : a.protocol <;> simp
      exact hn _ _ _ hp hm hc

theorem reservationRefusal?_eq_none :
    f.reservationRefusal? db = none ↔ f.reservationSound db = true := by
  unfold reservationRefusal? reservationSound
  cases db.reservations.get? f.identity.reservationId with
  | none => simp
  | some r =>
    dsimp only
    split
    · simp_all
    · split <;> simp_all

theorem requestRefusal?_not_success (h : f.requestRefusal? db = some result) :
    result.isSuccess = false := by
  revert h
  fun_cases requestRefusal? f db <;> rintro ⟨⟩ <;> rfl

theorem attemptRefusal?_not_success (h : f.attemptRefusal? db = .ok (some result)) :
    result.isSuccess = false := by
  revert h
  fun_cases attemptRefusal? f db <;> rintro ⟨⟩ <;> rfl

theorem reservationRefusal?_not_success (h : f.reservationRefusal? db = some result) :
    result.isSuccess = false := by
  revert h
  fun_cases reservationRefusal? f db <;> rintro ⟨⟩ <;> rfl

variable (f) in
/-- The database and the result of a finalization whose three checks passed. -/
def finalized (db : Db) : Db × TxnResult :=
  (f.settle (f.releaseReservation (f.closeAttempt (f.closeRequest db))) (f.attemptTransitions db),
    .success f.terminalizeRequest (f.requestTransitions db) (f.attemptTransitions db)
      (f.reservationTransitions db))

theorem get?_finalized_requests (ri : Int) :
    (f.finalized db).1.requests.get? ri = (db.requests.get? ri).map
      (fun r => if f.selectsRequest r then f.closedRequest r else r) :=
  Table.get?_update _ _ f.closedRequest (fun _ => rfl) _

theorem get?_finalized_attempts (ai : Int) :
    (f.finalized db).1.attempts.get? ai = (db.attempts.get? ai).map
      (fun a => if f.selectsAttempt a then f.closedAttempt a else a) :=
  Table.get?_update _ _ f.closedAttempt (fun _ => rfl) _

theorem get?_finalized_reservations (ri : Int) :
    (f.finalized db).1.reservations.get? ri = (db.reservations.get? ri).map
      (fun r => if f.selectsReservation r then f.releasedReservation r else r) :=
  Table.get?_update _ _ f.releasedReservation (fun _ => rfl) _

/-- **The three checks, taken on the starting database, decide how far a finalization gets.** -/
theorem finalizeTransaction_cases (h : f.finalizeTransaction db = .ok (db', result)) :
    (result.isSuccess = false ∧ f.parentAccepts db = false ∧ db' = db) ∨
    (result.isSuccess = false ∧ f.parentAccepts db = true ∧ f.attemptUnreadable db = false ∧
      f.attemptSound db = false ∧ db' = f.closeRequest db) ∨
    (result.isSuccess = false ∧ f.parentAccepts db = true ∧ f.attemptSound db = true ∧
      f.reservationSound db = false ∧ db' = f.closeAttempt (f.closeRequest db)) ∨
    (f.parentAccepts db = true ∧ f.attemptSound db = true ∧ f.reservationSound db = true ∧
      (db', result) = f.finalized db) := by
  unfold finalizeTransaction at h
  split at h
  · rename_i hr
    cases h
    have hno : f.parentAccepts db = false := by
      rw [← Bool.not_eq_true, ← requestRefusal?_eq_none, hr]
      simp
    exact .inl ⟨requestRefusal?_not_success hr, hno, rfl⟩
  rename_i hr
  have hp := requestRefusal?_eq_none.mp hr
  dsimp only at h
  have hd : f.attemptRefusal? (f.closeRequest db) = f.attemptRefusal? db := rfl
  rw [hd] at h
  split at h
  · cases h
  · rename_i ha
    cases h
    refine .inr (.inl ⟨attemptRefusal?_not_success ha, hp, ?_, ?_, rfl⟩)
    · rw [← Bool.not_eq_true, ← attemptRefusal?_error, ha]
      rintro ⟨e, he⟩
      cases he
    · rw [← Bool.not_eq_true, ← attemptRefusal?_ok_none, ha]
      simp
  · rename_i ha
    have hso := attemptRefusal?_ok_none.mp ha
    have hd : f.reservationRefusal? (f.closeAttempt (f.closeRequest db)) =
        f.reservationRefusal? db := rfl
    rw [hd] at h
    split at h
    · rename_i hs
      cases h
      have hno : f.reservationSound db = false := by
        rw [← Bool.not_eq_true, ← reservationRefusal?_eq_none, hs]
        simp
      exact .inr (.inr (.inl ⟨reservationRefusal?_not_success hs, hp, hso, hno, rfl⟩))
    · rename_i hs
      cases h
      exact .inr (.inr (.inr ⟨hp, hso, reservationRefusal?_eq_none.mp hs, rfl⟩))

/-- And run forwards: sound rows finalize. -/
theorem finalizeTransaction_of_sound (hp : f.parentAccepts db = true)
    (ha : f.attemptSound db = true) (hr : f.reservationSound db = true) :
    f.finalizeTransaction db = .ok (f.finalized db) := by
  have hd : f.attemptRefusal? (f.closeRequest db) = f.attemptRefusal? db := rfl
  have hre' : f.reservationRefusal? (f.closeAttempt (f.closeRequest db)) =
    f.reservationRefusal? db := rfl
  simp only [finalizeTransaction, requestRefusal?_eq_none.mpr hp, hd,
    attemptRefusal?_ok_none.mpr ha, hre', reservationRefusal?_eq_none.mpr hr]
  rfl

/-! ## A refused finalization writes nothing -/

/-- The request, attempt, reservation, usage and hold rows of two databases agree. -/
structure SameLedgers (db db' : Db) : Prop where
  requests : db'.requests = db.requests
  attempts : db'.attempts = db.attempts
  reservations : db'.reservations = db.reservations
  attemptUsage : db'.attemptUsage = db.attemptUsage
  userBudget : db'.userBudget = db.userBudget
  instanceBudget : db'.instanceBudget = db.instanceBudget

theorem SameLedgers.refl (db : Db) : SameLedgers db db := ⟨rfl, rfl, rfl, rfl, rfl, rfl⟩

/-- Everything a terminal request has to leave behind. -/
structure ClosedTogether (f : Finalization) (requestId : Int) (db db' : Db) : Prop where
  attempt : ∃ a, db'.attempts.get? f.identity.attemptId = some a ∧ a.requestId = requestId ∧
    a.completedAt.isSome = true
  reservation : ∃ r, db'.reservations.get? f.identity.reservationId = some r ∧
    r.requestId = requestId ∧ (r.status = "released" ∨ r.status = "expired")
  userHold : ∀ h, db.userBudget.activeHold? requestId = some h →
    ∃ h', db'.userBudget.holds.get? requestId = some h' ∧ h'.status = .settled
  instanceHold : ∀ h, db.instanceBudget.activeHold? requestId = some h →
    ∃ h', db'.instanceBudget.holds.get? requestId = some h' ∧ h'.status = .settled

/-- Requests that turn terminal between two databases are closed together. -/
def ClosesTogether (f : Finalization) (db db' : Db) : Prop :=
  ∀ requestId r r', db.requests.get? requestId = some r → db'.requests.get? requestId = some r' →
    isTerminalStatus r.status = false → isTerminalStatus r'.status = true →
    ClosedTogether f requestId db db'

theorem isTerminalStatus_targetStatus : isTerminalStatus f.targetStatus = true := by
  unfold targetStatus
  cases f.data.outcome <;> decide

theorem closeRequest_requests_eq_iff :
    (f.closeRequest db).requests = db.requests ↔ f.requestTransitions db = false := by
  refine AutoTable.update_eq_self_iff ?_ ?_
  · intro r hr
    simp only [selectsRequest, Bool.and_eq_true, decide_eq_true_eq] at hr
    exact hr.1.2
  · intro r hr heq
    -- the selected row is not terminal and the written one is
    have hst : f.targetStatus = r.status := congrArg Request.status heq
    have ht := isTerminalStatus_targetStatus (f := f)
    rw [hst] at ht
    simp [selectsRequest, ht] at hr

theorem closeAttempt_attempts_eq_iff :
    (f.closeAttempt db).attempts = db.attempts ↔ f.attemptTransitions db = false := by
  refine AutoTable.update_eq_self_iff ?_ ?_
  · intro a ha
    simp only [selectsAttempt, Bool.and_eq_true, decide_eq_true_eq] at ha
    exact ha.1
  · intro a ha heq
    have hd : some f.now = a.completedAt := congrArg Attempt.completedAt heq
    simp [selectsAttempt, ← hd] at ha

/-- **A finalization that goes through closes the attempt, releases the reservation and
settles the holds of the request it closes.** -/
theorem finalized_closes (hat : f.attemptSound db = true) (hs : f.reservationSound db = true)
    (ht : f.terminalizeRequest = true) :
    ClosedTogether f f.identity.dbRequestId db (f.finalized db).1 := by
  obtain ⟨a, hget, ha⟩ := (any_eq_true _ _).mp hat
  obtain ⟨r, hg, hr⟩ := (any_eq_true _ _).mp hs
  simp only [Bool.and_eq_true, decide_eq_true_eq] at ha
  simp only [reservationMatches, Bool.and_eq_true, Bool.or_eq_true, decide_eq_true_eq] at hr
  have hi : a.id = f.identity.attemptId := Table.key_of_get? hget
  have hid : r.id = f.identity.reservationId := Table.key_of_get? hg
  refine ⟨?_, ?_, ?_, ?_⟩
  · rw [get?_finalized_attempts, hget]
    -- an open attempt is closed here, a closed one stays closed
    cases hd : a.completedAt with
    | none => simp [selectsAttempt, hi, hd, closedAttempt, ha.1.1.1.1.1]
    | some t => simp [selectsAttempt, hd, ha.1.1.1.1.1]
  · rw [get?_finalized_reservations, hg]
    rcases hr.2 with (hst | hst) | hst <;>
      simp [selectsReservation, hid, hst, releasedReservation, hr.1.1.1]
  all_goals
    intro h hact
    simp only [finalized, settle, ht]
    exact BudgetScope.settled_maybeSettle hact _ _

theorem closesTogether_of_same (h : db'.requests = db.requests) : ClosesTogether f db db' := by
  intro requestId r r' hget hget' ho hd
  rw [h, hget, some.injEq] at hget'
  rw [← hget', ho] at hd
  cases hd

theorem closesTogether_finalized (ha : f.attemptSound db = true)
    (hr : f.reservationSound db = true) : ClosesTogether f db (f.finalized db).1 := by
  intro requestId r r' hget hget' ho hd
  rw [get?_finalized_requests, hget, map_some, some.injEq] at hget'
  split at hget'
  · -- only the terminal update closes a request, and it names one row
    rename_i hs
    simp only [selectsRequest, Bool.and_eq_true, decide_eq_true_eq] at hs
    have hid : r.id = requestId := Table.key_of_get? hget
    rw [← hid, hs.1.2]
    exact finalized_closes ha hr hs.1.1
  · rw [← hget', ho] at hd
    cases hd

theorem finalizeTransaction_error {e : SqlError} (h : f.finalizeTransaction db = .error e) :
    f.attemptUnreadable db = true := by
  unfold finalizeTransaction at h
  split at h
  · cases h
  dsimp only at h
  split at h
  · rename_i ha
    exact attemptRefusal?_error.mp ⟨_, ha⟩
  · cases h
  · split at h <;> cases h

/-- What a caller sees of a transaction that returned. -/
theorem finalizeDurable_of_ok (h : f.finalizeTransaction db = .ok (db', result)) :
    (f.finalizeDurable db).1 = db' ∧
    ((∃ e, (f.finalizeDurable db).2 = .error e) ↔ result.isSuccess = false) := by
  unfold finalizeDurable Db.withTransaction
  rw [h]
  cases result <;> simp [TxnResult.isSuccess]

theorem finalizeDurable_of_error {e : SqlError} (h : f.finalizeTransaction db = .error e) :
    (f.finalizeDurable db).1 = db ∧ ∃ e, (f.finalizeDurable db).2 = .error e := by
  unfold finalizeDurable Db.withTransaction
  rw [h]
  exact ⟨rfl, _, rfl⟩

/-- **What a finalization leaves behind**, by how far it got. -/
theorem finalizeDurable_cases (f : Finalization) (db : Db) :
    (∃ e, (f.finalizeDurable db).2 = .error e) ∧ ((f.finalizeDurable db).1 = db ∨
        (f.finalizeDurable db).1 = f.closeRequest db ∨
        (f.finalizeDurable db).1 = f.closeAttempt (f.closeRequest db)) ∨
      f.attemptSound db = true ∧ (f.finalizeDurable db).1 = (f.finalized db).1 := by
  cases hrun : f.finalizeTransaction db with
  | error e =>
    obtain ⟨hdb, he⟩ := finalizeDurable_of_error hrun
    exact .inl ⟨he, .inl hdb⟩
  | ok out =>
    obtain ⟨db', result⟩ := out
    obtain ⟨hdb, hr⟩ := finalizeDurable_of_ok hrun
    rw [hdb]
    rcases finalizeTransaction_cases hrun with ⟨hno, _, heq⟩ | ⟨hno, _, _, _, heq⟩ |
        ⟨hno, _, _, _, heq⟩ | ⟨_, hs, _, heq⟩
    · exact .inl ⟨hr.mpr hno, .inl heq⟩
    · exact .inl ⟨hr.mpr hno, .inr (.inl heq)⟩
    · exact .inl ⟨hr.mpr hno, .inr (.inr heq)⟩
    · exact .inr ⟨hs, congrArg Prod.fst heq⟩

/-- A finalization that succeeded passed the checks. -/
theorem finalizeDurable_eq_finalized {r : FinalizationResult}
    (h : (f.finalizeDurable db).2 = .ok r) :
    f.attemptSound db = true ∧ (f.finalizeDurable db).1 = (f.finalized db).1 := by
  rcases f.finalizeDurable_cases db with ⟨⟨e, he⟩, _⟩ | hs
  · rw [he] at h
    cases h
  · exact hs

variable (f) in
/--
The rows disagree in a way the transaction finds out too late: the request is
written (or the open attempt is) before the row that stops it is looked at.
-/
def tears (db : Db) : Bool :=
  f.parentAccepts db && !f.attemptUnreadable db &&
    (f.requestTransitions db && !(f.attemptSound db && f.reservationSound db) ||
      f.attemptTransitions db && f.attemptSound db && !f.reservationSound db)

/--
**A refused finalization writes nothing, and a request turns terminal only
together with its attempt, its reservation and its holds, exactly when the rows
do not tear.**
-/
theorem refusal_keeps_ledgers_iff (f : Finalization) (db : Db) :
    ((∀ e, (f.finalizeDurable db).2 = .error e → SameLedgers db (f.finalizeDurable db).1) ∧
      ClosesTogether f db (f.finalizeDurable db).1) ↔ f.tears db = false := by
  cases hrun : f.finalizeTransaction db with
  | error e =>
    rw [(finalizeDurable_of_error hrun).1]
    have hun := finalizeTransaction_error hrun
    refine iff_of_true ⟨fun _ _ => .refl db, closesTogether_of_same rfl⟩ ?_
    simp [tears, hun]
  | ok out =>
    obtain ⟨db', result⟩ := out
    obtain ⟨hdb, hrefused⟩ := finalizeDurable_of_ok hrun
    rw [hdb]
    rcases finalizeTransaction_cases hrun with ⟨_, hparent, rfl⟩ |
        ⟨hno, hparent, hread, hatt, rfl⟩ | ⟨hno, hparent, hatt, hres, rfl⟩ |
        ⟨hparent, hatt, hres, heq⟩
    · refine iff_of_true ⟨fun _ _ => .refl _, closesTogether_of_same rfl⟩ ?_
      simp [tears, hparent]
    · -- stopped at the attempt row: only the request may have been written
      have htears : f.tears db = f.requestTransitions db := by
        simp [tears, hparent, hread, hatt]
      rw [htears, ← closeRequest_requests_eq_iff]
      obtain ⟨e, he⟩ := hrefused.mpr hno
      refine ⟨fun h => (h.1 e he).requests, fun h => ⟨fun _ _ => ?_, closesTogether_of_same h⟩⟩
      exact ⟨h, rfl, rfl, rfl, rfl, rfl⟩
    · -- stopped at the reservation row: the attempt may have been written as well
      have hread : f.attemptUnreadable db = false := by
        rw [← Bool.not_eq_true, ← attemptRefusal?_error, attemptRefusal?_ok_none.mpr hatt]
        rintro ⟨e, he⟩
        cases he
      have htears : f.tears db = (f.requestTransitions db || f.attemptTransitions db) := by
        simp [tears, hparent, hread, hatt, hres]
      rw [htears, Bool.or_eq_false_iff, ← closeRequest_requests_eq_iff,
        ← closeAttempt_attempts_eq_iff]
      obtain ⟨e, he⟩ := hrefused.mpr hno
      refine ⟨fun h => ⟨(h.1 e he).requests, (h.1 e he).attempts⟩,
        fun h => ⟨fun _ _ => ?_, closesTogether_of_same h.1⟩⟩
      exact ⟨h.1, h.2, rfl, rfl, rfl, rfl⟩
    · cases heq
      refine iff_of_true ⟨fun e he => ?_, closesTogether_finalized hatt hres⟩ ?_
      · cases hrefused.mp ⟨e, he⟩
      · simp [tears, hatt, hres]

/-- The accounts ran out after attempt 1 had failed and was closed without a status. -/
def afterLastAccount : Finalization where
  identity := ⟨"r", 1, 1, 1, 1, "account", "p", "m", "openai", "openai", 1,
    Publication.firstAttribution⟩
  data := { outcome := .upstreamError, statusCode := some 503, errorClass := some "NoEligibleRoute" }
  terminalizeRequest := true
  now := "2026-01-02 00:00:03"
  sanitizeDetail := id

/-- The request turns terminal, its hold stays active, and the call reports a violation. -/
theorem late_conflict_closes_request :
    (afterLastAccount.finalizeDurable Publication.drainedInstance).2 =
      .error (.invariant "attempt" 1 "terminal facts conflict") ∧
    ¬ SameLedgers Publication.drainedInstance
      (afterLastAccount.finalizeDurable Publication.drainedInstance).1 ∧
    ¬ ClosesTogether afterLastAccount Publication.drainedInstance
      (afterLastAccount.finalizeDurable Publication.drainedInstance).1 := by
  refine ⟨by decide +kernel, fun hsame => ?_, fun hcloses => ?_⟩
  · have hrow := congrArg (fun t => (t.get? 1).map Request.status) hsame.requests
    revert hrow
    decide +kernel
  · have hclosed := hcloses 1 _ _ rfl rfl (by decide +kernel) (by decide +kernel)
    obtain ⟨h, hget, hst⟩ := hclosed.userHold _ rfl
    have hactive : ((afterLastAccount.finalizeDurable
        Publication.drainedInstance).1.userBudget.holds.get? 1).map HoldRow.status =
          some .active := by decide +kernel
    rw [hget, map_some, hst] at hactive
    cases hactive

end Finalization

end EggPool.Coordinator
