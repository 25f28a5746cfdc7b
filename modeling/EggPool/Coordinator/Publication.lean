import EggPool.Routing.Claim
import EggPool.Store.Db

/-!
# Durable publication

One transaction turns a selection claim into a pending request, an attempt and a
reservation, after the principal, the duplicate and the budget checks. A first
attempt checks both budget scopes and then writes. A retry extends the user's
hold and only then asks the instance scope.

`publishTransaction_effect` lists what the transaction can do, with the database
each outcome leaves; every other result about publication starts there.
-/

namespace EggPool.Coordinator

open EggPool.Lib EggPool.Budget EggPool.Routing EggPool.Store BudgetScope

structure PublicationInput where
  (proxyRequestId clientProtocol upstreamProtocol : String)
  streamed : Bool
  (attemptNumber reservationTtlSeconds : Int)
  budgetProof : Option BudgetProof
deriving DecidableEq, Repr

/-- The statements at which a publication transaction can fail. -/
inductive PublicationStage
  | requestInsert | reservationInsert | attemptInsert | routingDecisionInsert | beforeCommit
deriving DecidableEq, Repr

/-- What later finalization needs to find the rows of one attempt again. -/
structure FinalizationIdentity where
  proxyRequestId : String
  (dbRequestId attemptId reservationId accountId : Int)
  (accountName providerId modelId clientProtocol upstreamProtocol : String)
  attemptNumber : Int
  attribution : RequestAttribution
deriving DecidableEq, Repr

inductive TransactionOutcome
  | created (requestId attemptId reservationId routingDecisionId : Int)
  | observed (identity : FinalizationIdentity)
  | conflict | principalChanged | budgetExceeded | budgetNotEnforceable | priorAttemptNotFinalized
deriving DecidableEq, Repr

def TransactionOutcome.isCreated : TransactionOutcome → Bool
  | .created .. => true
  | _ => false

/-- Everything the transaction closure captures. -/
structure Publication where
  claim : SelectionClaim
  input : PublicationInput
  attribution : RequestAttribution
  prepared : PreparedRoutingDecisionRow
  clock : Clock
  /-- The stages at which the database (or an injected fault) fails this transaction. -/
  fails : PublicationStage → Bool

namespace Publication

variable (p : Publication)

/-! ## Reading -/

variable (db : Db)

def credentialActive (credentialId userId : String) : Bool :=
  match p.attribution.principalKind with
  | .agentToken => (db.directory.userCredentials credentialId).any fun c =>
    c.userId = userId && c.revokedAt.isNone && c.expiresAt.all (p.clock.now < ·)
  | .browserSession => (db.directory.webSessions credentialId).any fun s =>
    s.userId = userId && s.revokedAt.isNone && p.clock.now < s.expiresAt &&
      p.clock.sessionFloor < s.lastUsedAt
  | .legacySharedKey => true

def principalCurrent : Bool :=
  p.attribution.userId.all fun userId =>
    (db.directory.users userId).any (fun u => u.state = .active && some u.authEpoch = p.attribution.authEpoch)
      && p.attribution.credentialId.all (p.credentialActive db · userId)

/-- The existing row under this proxy id was published for the same call. -/
def sameRequest (r : Request) : Bool :=
  r.modelId = p.claim.canonicalModelId && r.protocol = p.input.clientProtocol &&
    r.streamed = (if p.input.streamed then 1 else 0) && r.attribution = p.attribution

variable (requestId : Int)

/-- The attempt before this one is closed and holds no reservation. -/
def priorConverged : Bool :=
  (db.latestAttempt? requestId (p.input.attemptNumber - 1)).any fun (a, r) =>
    a.completedAt.isSome && !r.any (·.status = "active")

def identity (requestId attemptId reservationId : Int) : FinalizationIdentity where
  proxyRequestId := p.input.proxyRequestId
  dbRequestId := requestId
  attemptId := attemptId
  reservationId := reservationId
  accountId := p.claim.accountId
  accountName := p.claim.accountName
  providerId := p.claim.providerId
  modelId := p.claim.canonicalModelId
  clientProtocol := p.input.clientProtocol
  upstreamProtocol := p.input.upstreamProtocol
  attemptNumber := p.input.attemptNumber
  attribution := p.attribution

/-- The attempt number is taken: the same attempt again, or another one in its place. -/
def observeAttempt (attempt : Attempt)
    (reservation? : Option Reservation) : Except SqlError TransactionOutcome :=
  match attempt.providerId, attempt.modelId, attempt.protocol with
  | some providerId, some modelId, some protocol =>
    if attempt.accountId ≠ p.claim.accountId || providerId ≠ p.claim.providerId ||
        modelId ≠ p.claim.canonicalModelId || protocol ≠ p.input.upstreamProtocol then
      .ok .conflict
    else
      match reservation? with
      | none => .ok .conflict
      | some reservation =>
        match db.directory.accounts attempt.accountId with
        | none => .error .queryReturnedNoRows
        | some accountName => .ok (.observed { p.identity requestId attempt.id reservation.id with
            accountName := accountName })
  -- a NULL column does not read as a string
  | _, _, _ => .error .invalidColumnType

/-! ## Writing -/

/-- Foreign keys of a row that names the claim's account and model. -/
def referencesExist : Bool :=
  (db.directory.accounts p.claim.accountId).isSome && db.directory.models p.claim.canonicalModelId

def newReservation (requestId id : Int) : Reservation where
  id := id
  requestId := requestId
  accountId := p.claim.accountId
  modelId := p.claim.canonicalModelId
  reservedMicrodollars := p.claim.projectedCostMicrodollars
  estimatedTokens := p.claim.projectedTokens
  expiresAt := some (p.clock.expiry p.input.reservationTtlSeconds)

def newAttempt (requestId id : Int) : Attempt where
  id := id
  requestId := requestId
  attemptNumber := p.input.attemptNumber
  accountId := p.claim.accountId
  providerId := some p.claim.providerId
  modelId := some p.claim.canonicalModelId
  protocol := some p.input.upstreamProtocol
  streamed := if p.input.streamed then 1 else 0

theorem id_newReservation (requestId id : Int) : (p.newReservation requestId id).id = id := rfl

theorem id_newAttempt (requestId id : Int) : (p.newAttempt requestId id).id = id := rfl

/-- The reservation, the attempt and the routing decision of one published attempt. -/
def addAttempt : Db :=
  { db with
    reservations := db.reservations.append (p.newReservation requestId)
      (p.id_newReservation requestId)
    attempts := db.attempts.append (p.newAttempt requestId) (p.id_newAttempt requestId)
    routingDecisions := db.routingDecisions.append (fun id => {
      id := id
      requestId := requestId
      attemptNumber := p.input.attemptNumber
      modelId := p.claim.canonicalModelId
      providerId := p.claim.providerId
      protocol := p.input.upstreamProtocol
      selectedAccountName := p.claim.accountName
      prepared := p.prepared }) (fun _ => rfl) }

def insertAttemptRows : Txn TransactionOutcome := fun db =>
  if p.fails .reservationInsert then .error .invalidQuery
  else if !p.referencesExist db then .error .constraintViolation
  else if p.fails .attemptInsert then .error .invalidQuery
  else if p.fails .routingDecisionInsert then .error .invalidQuery
  else if p.prepared.selectedAccountId.any (fun id => (db.directory.accounts id).isNone) then
    .error .constraintViolation
  else if p.fails .beforeCommit then .error .invalidQuery
  else .ok (p.addAttempt db requestId, .created requestId (db.attempts.seq + 1)
    (db.reservations.seq + 1) (db.routingDecisions.seq + 1))

/-- `UPDATE requests SET account_id, reserved_microdollars, provider_id … AND status = 'pending'` -/
def reassign : Db :=
  { db with
    requests := db.requests.update (fun r => r.id = requestId && r.status = "pending")
      (fun r => { r with
        accountId := p.claim.accountId
        reservedMicrodollars := p.claim.projectedCostMicrodollars
        providerId := p.claim.providerId })
      (fun _ => rfl) }

def denied : BudgetCheck → Option TransactionOutcome
  | .exceeded => some .budgetExceeded
  | .notEnforceable => some .budgetNotEnforceable
  | .allowed => none

def userRetry : BudgetCheck × BudgetHold :=
  UserBudget.checkRetry db.userBudget requestId p.claim.projectedTokens
    p.claim.projectedCostMicrodollars p.input.budgetProof

def instanceRetry : BudgetCheck × Option BudgetHold :=
  InstanceBudget.checkRetry db.instanceBudget requestId p.claim.projectedTokens
    p.claim.projectedCostMicrodollars p.input.budgetProof

/-- Check a retry against the user's rules and extend the user's hold. -/
def extendUserBudget : Txn (Option TransactionOutcome) := fun db =>
  match p.attribution.userId with
  | none => .ok (db, none)
  | some _ =>
    match denied (p.userRetry db requestId).1 with
    | some outcome => .ok (db, some outcome)
    | none =>
      match db.userBudget.extendReservation requestId (p.userRetry db requestId).2.tokens
          (p.userRetry db requestId).2.microdollars with
      | none => .error (.invalidParameterName "active user budget reservation missing")
      | some scope => .ok ({ db with userBudget := scope }, none)

/-- Check a retry against the instance rules and extend the instance hold, if there is one. -/
def extendInstanceBudget : Txn (Option TransactionOutcome) := fun db =>
  match denied (p.instanceRetry db requestId).1 with
  | some outcome => .ok (db, some outcome)
  | none =>
    match (p.instanceRetry db requestId).2 with
    | none => .ok (db, none)
    | some hold =>
      match db.instanceBudget.extendReservation requestId hold.tokens hold.microdollars with
      | none => .error (.invalidParameterName "active instance budget reservation missing")
      | some scope => .ok ({ db with instanceBudget := scope }, none)

/-- A further attempt of a pending request. -/
def publishRetry : Txn TransactionOutcome := fun db =>
  match p.extendUserBudget requestId db with
  | .error e => .error e
  | .ok (db, some outcome) => .ok (db, outcome)
  | .ok (db, none) =>
    match p.extendInstanceBudget requestId db with
    | .error e => .error e
    -- the user's hold is already extended here, and this return commits
    | .ok (db, some outcome) => .ok (db, outcome)
    | .ok (db, none) =>
      if (db.directory.accounts p.claim.accountId).isNone then .error .constraintViolation
      else p.insertAttemptRows requestId (p.reassign db requestId)

/-- The proxy id is known: a conflict, a duplicate, or a retry. -/
def publishExisting (request : Request) : Txn TransactionOutcome := fun db =>
  if !p.sameRequest request then .ok (db, .conflict)
  else if request.status ≠ "pending" then .ok (db, .conflict)
  else
    match db.latestAttempt? request.id p.input.attemptNumber with
    | some (attempt, reservation?) =>
      (p.observeAttempt db request.id attempt reservation?).map (db, ·)
    | none =>
      if 1 < p.input.attemptNumber && !p.priorConverged db request.id then
        .ok (db, .priorAttemptNotFinalized)
      else p.publishRetry request.id db

/-- The user's admission, if the request is attributed to one. -/
def userInitial (permit : BudgetPermit) :
    BudgetCheck × Option (String × BudgetPermit × BudgetHold) :=
  match p.attribution.userId with
  | none => (.allowed, none)
  | some userId =>
    let (check, permit, hold) := UserBudget.checkInitial db.userBudget permit userId
      p.claim.canonicalModelId p.claim.projectedTokens p.claim.projectedCostMicrodollars
      p.input.budgetProof
    (check, some (userId, permit, hold))

/-- The instance admission, with the hold to take if some rule matched. -/
def instanceInitial (permit : BudgetPermit) : BudgetCheck × Option (BudgetPermit × BudgetHold) :=
  let (check, permit?, hold) := InstanceBudget.checkInitial db.instanceBudget permit
    p.claim.canonicalModelId p.claim.projectedTokens p.claim.projectedCostMicrodollars
    p.input.budgetProof
  (check, permit?.map (·, hold))

def newRequest (id : Int) : Request where
  id := id
  accountId := p.claim.accountId
  modelId := p.claim.canonicalModelId
  providerId := p.claim.providerId
  protocol := p.input.clientProtocol
  streamed := if p.input.streamed then 1 else 0
  status := "pending"
  reservedMicrodollars := p.claim.projectedCostMicrodollars
  proxyRequestId := some p.input.proxyRequestId
  firstAttemptAt := if p.input.attemptNumber = 1 then some p.clock.now else none
  completedAt := none
  attribution := p.attribution
  facts := {}

theorem id_newRequest (id : Int) : (p.newRequest id).id = id := rfl

/-- The request row and the holds of a new logical request. -/
def addRequest (userHold? : Option (String × BudgetPermit × BudgetHold))
    (instanceHold? : Option (BudgetPermit × BudgetHold)) : Db :=
  let requestId := db.requests.seq + 1
  let expiresAt := p.clock.expiry p.input.reservationTtlSeconds
  { db with
    requests := db.requests.append p.newRequest p.id_newRequest
    userBudget := match userHold? with
      | none => db.userBudget
      | some (userId, permit, hold) => db.userBudget.insertReservation requestId userId
          p.claim.canonicalModelId permit hold expiresAt
    instanceBudget := match instanceHold? with
      | none => db.instanceBudget
      | some (permit, hold) => db.instanceBudget.insertReservation requestId ()
          p.claim.canonicalModelId permit hold expiresAt }

/-- The primary keys the new request's holds would take are free. -/
def holdKeysFree (userHold? : Option (String × BudgetPermit × BudgetHold))
    (instanceHold? : Option (BudgetPermit × BudgetHold)) : Bool :=
  (userHold?.isNone || (db.userBudget.holds.get? (db.requests.seq + 1)).isNone) &&
    (instanceHold?.isNone || (db.instanceBudget.holds.get? (db.requests.seq + 1)).isNone)

/-- A new logical request: both scopes are asked before anything is written. -/
def publishFirst : Txn TransactionOutcome := fun db =>
  match db.directory.policyRevision with
  | none => .error .queryReturnedNoRows
  | some revision =>
    let permit : BudgetPermit := ⟨revision, p.clock.dayStart, p.clock.monthStart⟩
    match denied (p.userInitial db permit).1 with
    | some outcome => .ok (db, outcome)
    | none =>
      match denied (p.instanceInitial db permit).1 with
      | some outcome => .ok (db, outcome)
      | none =>
        if p.fails .requestInsert then .error .invalidQuery
        else if !p.referencesExist db then .error .constraintViolation
        else if !holdKeysFree db (p.userInitial db permit).2 (p.instanceInitial db permit).2 then
          .error .constraintViolation
        else p.insertAttemptRows (db.requests.seq + 1)
          (p.addRequest db (p.userInitial db permit).2 (p.instanceInitial db permit).2)

def publishTransaction : Txn TransactionOutcome := fun db =>
  if !p.principalCurrent db then .ok (db, .principalChanged)
  else
    match db.requestByProxyId? p.input.proxyRequestId with
    | some request => p.publishExisting request db
    | none => p.publishFirst db

/-! ## What the transaction can do -/

/-- The row under this proxy id is one a further attempt may be added to. -/
def retries (request : Request) : Bool :=
  p.sameRequest request && request.status = "pending" &&
    (db.latestAttempt? request.id p.input.attemptNumber).isNone &&
    (p.input.attemptNumber ≤ 1 || p.priorConverged db request.id)

def userExtended : UserBudget.Scope :=
  if p.attribution.userId.isSome then
    db.userBudget.addToHold requestId (p.userRetry db requestId).2.tokens
      (p.userRetry db requestId).2.microdollars
  else db.userBudget

def instanceExtended : InstanceBudget.Scope :=
  match (p.instanceRetry db requestId).2 with
  | none => db.instanceBudget
  | some hold => db.instanceBudget.addToHold requestId hold.tokens hold.microdollars

/-- The user's rules admit a retry, or there is no user. -/
def userAdmits : Bool :=
  p.attribution.userId.isNone || (p.userRetry db requestId).1 = .allowed

/-- What a transaction that returned left behind, by outcome. -/
inductive Effect (db : Db) : Db → TransactionOutcome → Prop
  /-- Refused before any write. -/
  | refused {outcome : TransactionOutcome} :
      outcome.isCreated = false → Effect db db outcome
  /-- The instance scope refused a retry after the user's hold was extended. -/
  | stranded {request : Request} {outcome : TransactionOutcome} :
      p.principalCurrent db = true →
      db.requestByProxyId? p.input.proxyRequestId = some request →
      p.retries db request = true →
      p.userAdmits db request.id = true →
      denied (p.instanceRetry db request.id).1 = some outcome →
      Effect db { db with userBudget := p.userExtended db request.id } outcome
  /-- A further attempt of a pending request. -/
  | retried {request : Request} :
      db.requestByProxyId? p.input.proxyRequestId = some request →
      p.retries db request = true →
      p.userAdmits db request.id = true →
      (p.instanceRetry db request.id).1 = .allowed →
      Effect db
        (p.addAttempt (p.reassign { db with
          userBudget := p.userExtended db request.id
          instanceBudget := p.instanceExtended db request.id } request.id) request.id)
        (.created request.id (db.attempts.seq + 1) (db.reservations.seq + 1)
          (db.routingDecisions.seq + 1))
  /-- The first attempt of a new request. -/
  | first {revision : Int} :
      db.requestByProxyId? p.input.proxyRequestId = none →
      (p.userInitial db ⟨revision, p.clock.dayStart, p.clock.monthStart⟩).1 = .allowed →
      (p.instanceInitial db ⟨revision, p.clock.dayStart, p.clock.monthStart⟩).1 = .allowed →
      holdKeysFree db (p.userInitial db ⟨revision, p.clock.dayStart, p.clock.monthStart⟩).2
        (p.instanceInitial db ⟨revision, p.clock.dayStart, p.clock.monthStart⟩).2 = true →
      Effect db
        (p.addAttempt (p.addRequest db
          (p.userInitial db ⟨revision, p.clock.dayStart, p.clock.monthStart⟩).2
          (p.instanceInitial db ⟨revision, p.clock.dayStart, p.clock.monthStart⟩).2)
          (db.requests.seq + 1))
        (.created (db.requests.seq + 1) (db.attempts.seq + 1) (db.reservations.seq + 1)
          (db.routingDecisions.seq + 1))

variable {p} {db db' : Db} {outcome : TransactionOutcome}

theorem denied_eq_none {c : BudgetCheck} : denied c = none ↔ c = .allowed := by
  cases c <;> simp [denied]

theorem isCreated_of_denied {c : BudgetCheck} (h : denied c = some outcome) :
    outcome.isCreated = false := by
  cases c <;> simp [denied] at h <;> subst h <;> rfl

variable {requestId : Int}

theorem insertAttemptRows_ok (h : p.insertAttemptRows requestId db = .ok (db', outcome)) :
    db' = p.addAttempt db requestId ∧
    outcome = .created requestId (db.attempts.seq + 1) (db.reservations.seq + 1)
      (db.routingDecisions.seq + 1) := by
  unfold insertAttemptRows at h
  repeat (split at h; · cases h)
  cases h
  exact ⟨rfl, rfl⟩

theorem isCreated_of_observeAttempt {a : Attempt} {r : Option Reservation}
    (h : p.observeAttempt db requestId a r = .ok outcome) : outcome.isCreated = false := by
  unfold observeAttempt at h
  split at h
  · split at h
    · cases h; rfl
    split at h
    · cases h; rfl
    split at h
    · cases h
    · cases h; rfl
  · cases h

/-- The user half of a retry: refused with nothing written, or the extended scope. -/
theorem extendUserBudget_ok {r : Option TransactionOutcome}
    (h : p.extendUserBudget requestId db = .ok (db', r)) : match r with
      | some o => o.isCreated = false ∧ db' = db
      | none => p.userAdmits db requestId = true ∧
        db' = { db with userBudget := p.userExtended db requestId } := by
  unfold extendUserBudget at h
  split at h
  · rename_i hu
    cases h
    exact ⟨by simp [userAdmits, hu], by simp [userExtended, hu]⟩
  · rename_i hu
    split at h
    · rename_i o ho
      cases h
      exact ⟨isCreated_of_denied ho, rfl⟩
    · rename_i ha
      split at h
      · cases h
      rename_i hs
      cases h
      unfold extendReservation at hs
      split at hs <;> cases hs
      exact ⟨by simp [userAdmits, denied_eq_none.mp ha], by simp [userExtended, hu]⟩

/-- The instance half of a retry. -/
theorem extendInstanceBudget_ok {r : Option TransactionOutcome}
    (h : p.extendInstanceBudget requestId db = .ok (db', r)) : match r with
      | some o => denied (p.instanceRetry db requestId).1 = some o ∧ db' = db
      | none => (p.instanceRetry db requestId).1 = .allowed ∧
        db' = { db with instanceBudget := p.instanceExtended db requestId } := by
  unfold extendInstanceBudget at h
  split at h
  · rename_i o ho
    cases h
    exact ⟨ho, rfl⟩
  · rename_i ha
    have ha := denied_eq_none.mp ha
    split at h
    · rename_i hn
      cases h
      exact ⟨ha, by simp [instanceExtended, hn]⟩
    · rename_i hh
      split at h
      · cases h
      rename_i hs
      cases h
      unfold extendReservation at hs
      split at hs <;> cases hs
      exact ⟨ha, by simp [instanceExtended, hh]⟩

/-- The instance check does not read the user's scope. -/
theorem instanceRetry_userBudget (scope : UserBudget.Scope) (requestId : Int) :
    p.instanceRetry { db with userBudget := scope } requestId = p.instanceRetry db requestId := rfl

variable {request : Request}

theorem publishRetry_effect (hc : p.principalCurrent db = true)
    (hf : db.requestByProxyId? p.input.proxyRequestId = some request)
    (hr : p.retries db request = true)
    (h : p.publishRetry request.id db = .ok (db', outcome)) : p.Effect db db' outcome := by
  unfold publishRetry at h
  split at h
  · cases h
  · rename_i hu
    cases h
    obtain ⟨hno, rfl⟩ := extendUserBudget_ok hu
    exact .refused hno
  · rename_i hu
    obtain ⟨ha, rfl⟩ := extendUserBudget_ok hu
    split at h
    · cases h
    · rename_i hi
      cases h
      obtain ⟨hd, rfl⟩ := extendInstanceBudget_ok hi
      exact .stranded hc hf hr ha hd
    · rename_i hi
      obtain ⟨hl, rfl⟩ := extendInstanceBudget_ok hi
      split at h
      · cases h
      obtain ⟨rfl, rfl⟩ := insertAttemptRows_ok h
      exact .retried hf hr ha hl

theorem publishExisting_effect (hc : p.principalCurrent db = true)
    (hf : db.requestByProxyId? p.input.proxyRequestId = some request)
    (h : p.publishExisting request db = .ok (db', outcome)) : p.Effect db db' outcome := by
  unfold publishExisting at h
  split at h
  · cases h; exact .refused rfl
  split at h
  · cases h; exact .refused rfl
  split at h
  · rename_i a r _
    cases ho : p.observeAttempt db request.id a r with
    | error e => rw [ho] at h; cases h
    | ok o =>
      rw [ho] at h
      cases h
      exact .refused (isCreated_of_observeAttempt ho)
  · split at h
    · cases h; exact .refused rfl
    rename_i hp
    have hr : p.input.attemptNumber ≤ 1 ∨ p.priorConverged db request.id = true := by
      rcases lt_or_ge 1 p.input.attemptNumber with hn | hn
      · exact .inr (by simpa [hn] using hp)
      · exact .inl hn
    refine publishRetry_effect hc hf ?_ h
    simp_all [retries]

theorem publishFirst_effect (hf : db.requestByProxyId? p.input.proxyRequestId = none)
    (h : p.publishFirst db = .ok (db', outcome)) : p.Effect db db' outcome := by
  unfold publishFirst at h
  split at h
  · cases h
  dsimp only at h
  split at h
  · rename_i ho
    cases h
    exact .refused (isCreated_of_denied ho)
  rename_i hu
  split at h
  · rename_i ho
    cases h
    exact .refused (isCreated_of_denied ho)
  rename_i hi
  repeat (split at h; · cases h)
  rename_i hkey
  obtain ⟨rfl, rfl⟩ := insertAttemptRows_ok h
  exact .first hf (denied_eq_none.mp hu) (denied_eq_none.mp hi) (by simpa using hkey)

/-- **Every publication that returned had one of the four effects.** -/
theorem publishTransaction_effect (h : p.publishTransaction db = .ok (db', outcome)) :
    p.Effect db db' outcome := by
  unfold publishTransaction at h
  split at h
  · cases h; exact .refused rfl
  rename_i hc
  have hc : p.principalCurrent db = true := by simpa using hc
  split at h
  · rename_i hf
    exact publishExisting_effect hc hf h
  · rename_i hf
    exact publishFirst_effect hf h

/-! ## A refused publication writes nothing -/

/-- The rows a publication owns are the same in two databases. -/
structure SameRows (db db' : Db) : Prop where
  requests : db'.requests = db.requests
  attempts : db'.attempts = db.attempts
  reservations : db'.reservations = db.reservations
  userHolds : db'.userBudget.holds = db.userBudget.holds
  instanceHolds : db'.instanceBudget.holds = db.instanceBudget.holds

variable (p) in
/-- A retry of a user's request that the user's rules admit and the instance rules refuse. -/
def strandsHold (db : Db) : Bool :=
  p.principalCurrent db && (db.requestByProxyId? p.input.proxyRequestId).any fun request =>
    p.retries db request && p.attribution.userId.isSome &&
      (p.userRetry db request.id).1 = .allowed &&
      ((p.userRetry db request.id).2.tokens ≠ 0 ||
        (p.userRetry db request.id).2.microdollars ≠ 0) &&
      (p.instanceRetry db request.id).1 ≠ .allowed

theorem activeHold?_of_userRetry (h : (p.userRetry db requestId).1 = .allowed) :
    ∃ hold, db.userBudget.activeHold? requestId = some hold := by
  unfold userRetry UserBudget.checkRetry at h
  split at h
  · cases h
  · exact ⟨_, by assumption⟩

/-- The stranding path, run forwards. -/
theorem publishTransaction_stranded (hc : p.principalCurrent db = true)
    (hf : db.requestByProxyId? p.input.proxyRequestId = some request)
    (hr : p.retries db request = true) (hs : p.attribution.userId.isSome = true)
    (ha : (p.userRetry db request.id).1 = .allowed)
    (hd : denied (p.instanceRetry db request.id).1 = some outcome) : p.publishTransaction db =
      .ok ({ db with userBudget := p.userExtended db request.id }, outcome) := by
  obtain ⟨userId, hu⟩ := Option.isSome_iff_exists.mp hs
  obtain ⟨hold, hh⟩ := activeHold?_of_userRetry ha
  simp only [retries, Bool.and_eq_true, decide_eq_true_eq, Option.isNone_iff_eq_none,
    Bool.or_eq_true] at hr
  obtain ⟨⟨⟨hm, hp⟩, hn⟩, hpr⟩ := hr
  have he : p.extendUserBudget request.id db =
      .ok ({ db with userBudget := p.userExtended db request.id }, none) := by
    simp [extendUserBudget, hu, denied_eq_none.mpr ha, extendReservation, hh, userExtended]
  have hi : p.extendInstanceBudget request.id
      { db with userBudget := p.userExtended db request.id } =
        .ok ({ db with userBudget := p.userExtended db request.id }, some outcome) := by
    simp [extendInstanceBudget, instanceRetry_userBudget, hd]
  have hre : ¬ (1 < p.input.attemptNumber ∧ p.priorConverged db request.id = false) := by
    rintro ⟨hlt, hno⟩
    rcases hpr with hle | hy
    · omega
    · rw [hno] at hy
      cases hy
  have ht : p.publishRetry request.id db =
      .ok ({ db with userBudget := p.userExtended db request.id }, outcome) := by
    simp [publishRetry, he, hi]
  simp [publishTransaction, hc, hf, publishExisting, hm, hp, hn, hre, ht]

/--
**A publication that creates nothing leaves every row as it was, unless it
strands a hold.** The exception is exact: when the instance scope refuses a retry
that the user scope admitted with a non-zero amount, the user's hold row stays
extended.
-/
theorem refusal_keeps_rows_iff (p : Publication) (db : Db) :
    ((∀ outcome, (db.withTransaction p.publishTransaction).2 = .ok outcome →
        outcome.isCreated = false) →
      SameRows db (db.withTransaction p.publishTransaction).1) ↔
    p.strandsHold db = false := by
  constructor
  · intro hkeeps
    by_contra hstr
    rw [Bool.not_eq_false, strandsHold, Bool.and_eq_true, Option.any_eq_true] at hstr
    obtain ⟨hcur, request, hfind, hrest⟩ := hstr
    simp only [Bool.and_eq_true, Bool.or_eq_true, decide_eq_true_eq] at hrest
    obtain ⟨⟨⟨⟨hr, huser⟩, hallowed⟩, hamount⟩, hrefused⟩ := hrest
    obtain ⟨o, ho⟩ := Option.ne_none_iff_exists'.mp (fun h => hrefused (denied_eq_none.mp h))
    have hrun := publishTransaction_stranded hcur hfind hr huser hallowed ho
    have hsame := hkeeps (by
      intro o' ho'
      rw [Db.withTransaction, hrun] at ho'
      cases ho'
      exact isCreated_of_denied ho)
    rw [Db.withTransaction, hrun] at hsame
    obtain ⟨hold, hhold⟩ := activeHold?_of_userRetry hallowed
    have hzero := hsame.userHolds
    rw [userExtended, if_pos huser, addToHold_holds_eq_iff hhold] at hzero
    rcases hamount with h | h
    · exact h hzero.1
    · exact h hzero.2
  · intro hno hrefused
    cases hrun : p.publishTransaction db with
    | error e =>
      rw [Db.withTransaction, hrun]
      exact ⟨rfl, rfl, rfl, rfl, rfl⟩
    | ok result =>
      obtain ⟨db', o⟩ := result
      have ho := hrefused o (by rw [Db.withTransaction, hrun])
      rw [Db.withTransaction, hrun]
      cases publishTransaction_effect hrun with
      | refused _ => exact ⟨rfl, rfl, rfl, rfl, rfl⟩
      | @stranded request _ hcur hfind hr hadm hden =>
        -- only a zero extension is left, and it does not show
        refine ⟨rfl, rfl, rfl, ?_, rfl⟩
        cases hu : p.attribution.userId with
        | none => simp [userExtended, hu]
        | some userId =>
          have hallowed : (p.userRetry db request.id).1 = .allowed := by
            simpa [userAdmits, hu] using hadm
          have hrefusal : (p.instanceRetry db request.id).1 ≠ .allowed := by
            intro h
            rw [h] at hden
            cases hden
          obtain ⟨hold, hhold⟩ := activeHold?_of_userRetry hallowed
          simp [userExtended, hu]
          rw [addToHold_holds_eq_iff hhold]
          simpa [strandsHold, hcur, hfind, hr, hu, hallowed, hrefusal] using hno
      | retried | first => cases ho

/-- The hold of request 1: 20 tokens. -/
def firstHold {ω : Type} (owner : ω) : HoldRow ω where
  requestId := 1
  owner := owner
  modelId := "m"
  policyVersion := 1
  dayStart := "2026-01-02"
  monthStart := "2026-01-01"
  heldTokens := 20
  heldMicrodollars := 0
  observedTokens := 0
  observedMicrodollars := 0
  tokenUsageComplete := false
  costUsageComplete := false
  enforcement := .estimated
  boundTokens := 0
  boundMicrodollars := 0
  priceSource := none
  status := .active
  expiresAt := "2026-01-02 00:10:00"
  settledAt := none

def firstAttribution : RequestAttribution :=
  ⟨some "user", none, some 1, .agentToken, .logical, none⟩

/--
A pending request of a user with no rules, whose first attempt has failed. The
instance cap of 20 tokens is taken by the request's own hold.
-/
def drainedInstance : Db where
  directory := {
    users := fun _ => some ⟨.active, 1⟩
    userCredentials := fun _ => none
    webSessions := fun _ => none
    accounts := fun _ => some "account"
    models := fun _ => true
    policyRevision := some 1 }
  requests := AutoTable.empty.append (fun id => ⟨id, 1, "m", "p", "openai", 0, "pending", 0,
    some "r", none, none, firstAttribution, {}⟩) (fun _ => rfl)
  attempts := AutoTable.empty.append (fun id => {
    id := id, requestId := 1, attemptNumber := 1, accountId := 1, providerId := some "p"
    modelId := some "m", protocol := some "openai", streamed := 0
    completedAt := some "2026-01-02 00:00:01" }) (fun _ => rfl)
  reservations := AutoTable.empty.append (fun id => {
    id := id, requestId := 1, accountId := 1, modelId := "m", reservedMicrodollars := 0
    estimatedTokens := 10, expiresAt := none, status := "released" }) (fun _ => rfl)
  routingDecisions := AutoTable.empty
  userBudget := ⟨[], Table.empty.insert (firstHold "user"), Buckets.empty⟩
  instanceBudget := ⟨[{
      owner := (), scopeModel := none, window := .day, maxRequests := none, maxTokens := some 20
      maxMicrodollars := none, maxConcurrent := none, enforcement := .estimated }],
    Table.empty.insert (firstHold ()), Buckets.empty⟩
  attemptUsage := Table.empty

/-- The second attempt of that request, projected at 10 tokens. -/
def secondAttempt : Publication where
  claim := ⟨2, 1, "account", "p", "m", none, 10, 0⟩
  input := ⟨"r", "openai", "openai", false, 2, 600, none⟩
  attribution := firstAttribution
  prepared := ⟨"[]", "\x7b\x7d", 1, 1, 0, some 1, none, none⟩
  clock := ⟨"2026-01-02 00:00:02", "2026-01-02", "2026-01-01", "2026-01-01 12:00:02", fun _ => ""⟩
  fails := fun _ => false

theorem refused_retry_keeps_extension :
    (drainedInstance.withTransaction secondAttempt.publishTransaction).2 = .ok .budgetExceeded ∧
    ¬ SameRows drainedInstance
      (drainedInstance.withTransaction secondAttempt.publishTransaction).1 := by
  refine ⟨by decide +kernel, fun hsame => ?_⟩
  have hrow := congrArg (fun t => (t.get? 1).map HoldRow.heldTokens) hsame.userHolds
  revert hrow
  decide +kernel

end Publication

end EggPool.Coordinator
