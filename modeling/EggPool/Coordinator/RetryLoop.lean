import EggPool.Lib.Run
import EggPool.Coordinator.AttemptEnd

/-!
# The retry loops

The finite and the streaming coordinator serve a request in rounds. A round claims
an account, finds a wire to it, publishes an attempt and submits it; the attempt's
end closes the loop or starts the next round. When no account is left the loop
ends with what it remembers of the last attempts.

The two loops differ in how they fill in five steps and agree in everything else,
so a loop is a structure of those steps, and `step` is one round of any loop. The
answers of the router, the wire resolver, the claim book and the upstream are the
inputs of a round; the database is real, so that a publication and a cleanup do
to the rows what their transactions do.
-/

namespace EggPool.Coordinator

open EggPool.Lib EggPool.Budget EggPool.Routing EggPool.Store

/-! ## The publication service -/

/-- The stages outside the transaction at which a publication can fail. -/
inductive ServiceStage
  | validation | afterCommit | claimConversion
deriving DecidableEq, Repr

/-- The attempt is durable, but its claim was not converted. -/
structure PostCommitInterruption where
  identity : FinalizationIdentity
  claim : SelectionClaim
deriving DecidableEq, Repr

inductive PublicationError
  | invalidInput (text : String)
  | claimIdentity (text : String)
  | database (error : SqlError)
  | injected (stage : ServiceStage)
  | duplicateConflict (proxyRequestId : String)
  | principalChanged | budgetExceeded | budgetNotEnforceable | priorAttemptNotFinalized
  | claim (error : ClaimError)
  | compensation (primary : PublicationError) (compensation : ClaimError)
  | postCommit (interruption : PostCommitInterruption)
deriving DecidableEq, Repr

inductive PublicationOutcome
  | published (identity : FinalizationIdentity)
  | alreadyPublished (identity : FinalizationIdentity)
deriving DecidableEq, Repr

/-- What the claim book answers to the operations on this round's claim. -/
structure ClaimAnswers where
  (rollback convert : Except ClaimError ClaimTransition)
  /-- The second try, after an interrupted publication. -/
  reconvert : Except ClaimError ClaimTransition

/-- The claim is back in the book. -/
def rolledBack : Except ClaimError ClaimTransition → Bool
  | .ok .rolledBack | .ok .alreadyTransitioned => true
  | _ => false

/-- The claim counts as an active request. -/
def converted : Except ClaimError ClaimTransition → Bool
  | .ok .converted | .ok .alreadyTransitioned => true
  | _ => false

namespace Publication

variable (p : Publication)

/-- The texts that may not be empty, in the order they are checked. -/
def requiredTexts : List (String × String) :=
  [("proxy request ID", p.input.proxyRequestId), ("client protocol", p.input.clientProtocol),
    ("upstream protocol", p.input.upstreamProtocol), ("account name", p.claim.accountName),
    ("provider ID", p.claim.providerId), ("model ID", p.claim.canonicalModelId)]

def validate (fails : ServiceStage → Bool) : Except PublicationError Unit :=
  if fails .validation then .error (.injected .validation)
  else
    match p.requiredTexts.find? (fun field => trim field.2 = "") with
    | some field => .error (.invalidInput (field.1 ++ " is empty"))
    | none =>
      if p.claim.accountId ≤ 0 then
        .error (.claimIdentity "selected account has no durable ID")
      else if p.input.attemptNumber ≤ 0 then
        .error (.invalidInput "attempt number must be positive")
      else if p.claim.projectedTokens < 0 || p.claim.projectedCostMicrodollars < 0 then
        .error (.claimIdentity "claim estimates must be non-negative")
      else if p.input.reservationTtlSeconds ≤ 0 then
        .error (.invalidInput "reservation TTL must be positive")
      else .ok ()

end Publication

def rollbackAfterError (answers : ClaimAnswers) (primary : PublicationError) : PublicationError :=
  match answers.rollback with
  | .error compensation => .compensation primary compensation
  | .ok .rolledBack | .ok .alreadyTransitioned => primary
  | .ok .converted =>
    .invalidInput "unexpected claim transition during rollback: Converted"
  | .ok .released => .invalidInput "unexpected claim transition during rollback: Released"

/-- The answer to a second publication of an attempt that is there already. -/
def observedOutcome (answers : ClaimAnswers) (identity : FinalizationIdentity) :
    Except PublicationError PublicationOutcome :=
  match answers.rollback with
  | .error compensation => .error (.claim compensation)
  | .ok .rolledBack | .ok .alreadyTransitioned => .ok (.alreadyPublished identity)
  | .ok .converted =>
    .error (.invalidInput "unexpected claim transition after duplicate publication: Converted")
  | .ok .released =>
    .error (.invalidInput "unexpected claim transition after duplicate publication: Released")

/-- What comes after the commit: the claim is converted, or the publication is interrupted. -/
def convertAfterCommit (fails : ServiceStage → Bool) (answers : ClaimAnswers)
    (interruption : PostCommitInterruption) : Except PublicationError PublicationOutcome :=
  if fails .afterCommit || fails .claimConversion || !converted answers.convert then
    .error (.postCommit interruption)
  else .ok (.published interruption.identity)

/-- The answer to each outcome of the transaction. -/
def answerOutcome (fails : ServiceStage → Bool) (answers : ClaimAnswers) (p : Publication) :
    TransactionOutcome → Except PublicationError PublicationOutcome
  | .created requestId attemptId reservationId _ =>
    convertAfterCommit fails answers ⟨p.identity requestId attemptId reservationId, p.claim⟩
  | .observed identity => observedOutcome answers identity
  | .conflict =>
    .error (rollbackAfterError answers (.duplicateConflict p.input.proxyRequestId))
  | .principalChanged => .error (rollbackAfterError answers .principalChanged)
  | .budgetExceeded => .error (rollbackAfterError answers .budgetExceeded)
  | .budgetNotEnforceable => .error (rollbackAfterError answers .budgetNotEnforceable)
  | .priorAttemptNotFinalized => .error (rollbackAfterError answers .priorAttemptNotFinalized)

/-- `serializes` says whether the routing decision could be written as text. -/
def publishOwned (fails : ServiceStage → Bool) (serializes : Bool) (answers : ClaimAnswers)
    (p : Publication) (db : Db) : Db × Except PublicationError PublicationOutcome :=
  match p.validate fails with
  | .error e => (db, .error (rollbackAfterError answers e))
  | .ok () =>
    if !serializes then (db, .error (rollbackAfterError answers (.database .invalidQuery)))
    else
      match db.withTransaction p.publishTransaction with
      | (db, .error e) => (db, .error (rollbackAfterError answers (.database e)))
      | (db, .ok outcome) => (db, answerOutcome fails answers p outcome)

/-! ## The state of a loop -/

inductive CoordinatorError
  | noEligibleRoute | remoteCompactionUnsupported | embeddingsUnsupported
  | missingProvider (providerId : String)
  | missingWireProfile (providerId : String)
  | publication (error : PublicationError)
  | claim (error : ClaimError)
  | finalization (error : FinalizationError)
deriving DecidableEq, Repr

/-- Where a claim of the run ended up. -/
inductive ClaimFate
  | rolledBack | finalizationCommand | execution | dropped
deriving DecidableEq, Repr

/-- The response owner a run returns, with the finalization it owes. -/
structure Execution where
  identity : FinalizationIdentity
  claim : Option SelectionClaim
  data : FinalizationData
  /-- A live stream, whose driver still settles the data. -/
  live : Bool
deriving DecidableEq, Repr

structure Loop where
  db : Db
  attemptNumber : Nat
  excludedAccounts : List String
  preferredAccount : Option String
  attemptedWires : String → List WireSurface
  lastIdentity : Option FinalizationIdentity
  lastUpstream : Option LastUpstream
  lastFailure : Option LastFailure
  (compactCapabilityMissed embeddingCapabilityMissed : Bool)
  /-- Bookkeeping: every claim obtained so far and where it went. -/
  claims : List (SelectionClaim × ClaimFate)
  /-- Bookkeeping: the last attempt of the run that was committed. -/
  durable : Option FinalizationIdentity

namespace Loop

def start (db : Db) : Loop where
  db := db
  attemptNumber := 1
  excludedAccounts := []
  preferredAccount := none
  attemptedWires := fun _ => []
  lastIdentity := none
  lastUpstream := none
  lastFailure := none
  compactCapabilityMissed := false
  embeddingCapabilityMissed := false
  claims := []
  durable := none

variable (l : Loop)

def record (claim : SelectionClaim) (fate : ClaimFate) : Loop :=
  { l with claims := l.claims ++ [(claim, fate)] }

/-- The account cannot serve this request: do not select it again. -/
def exclude (accountName : String) : Loop :=
  { l with
    excludedAccounts := accountName :: l.excludedAccounts
    preferredAccount := none }

def attempted (accountName : String) (surface : WireSurface) : Loop :=
  { l with attemptedWires :=
    Function.update l.attemptedWires accountName (surface :: l.attemptedWires accountName) }

/-- `u32::MAX` -/
def U32_MAX : Nat := 4294967295

def prepareNext (identity : FinalizationIdentity) (effects : FailureEffects) : Loop :=
  let l := { l with attemptNumber := min (l.attemptNumber + 1) U32_MAX }
  if effects.retryScope = .wire then { l with preferredAccount := some identity.accountName }
  else l.exclude identity.accountName

end Loop

/-- A loop goes on, or has ended with a result. -/
inductive Progress
  | running (l : Loop)
  | done (l : Loop) (result : Except CoordinatorError Execution)

/-! ## The steps a loop fills in -/

/-- What the configuration offers for a claimed account. -/
inductive Candidates
  | missingProvider | compactMissed | embeddingMissed | missingWireProfile
  | surfaces (tariff : Option Int) (candidates : List WireSurface)

structure LoopRequest where
  proxyRequestId : String
  attribution : RequestAttribution
  (requestBytes budgetInputWorstCaseTokens : Int)
  budgetRequestedOutputTokens : Option Int

/-- One round, as its surroundings answer. -/
structure Round (σ : Type) where
  /-- `select_and_claim`, or `select_and_claim_for_account` for a preferred account. -/
  select : List String → Option String → Except ClaimError (Option SelectionClaim)
  /-- The order in which the wire resolver offers the candidates. -/
  resolve : List WireSurface → List WireSurface
  answers : ClaimAnswers
  prepared : PreparedRoutingDecisionRow
  serializes : Bool
  clock : Clock
  fails : PublicationStage → Bool
  serviceFails : ServiceStage → Bool
  submission : σ
  elapsedMs : Int
  /-- The time of the cleanup transaction. -/
  now : String

/-- What became of the response; `started` says whether its handoff had begun. -/
inductive Downstream
  | delivered
  | writeFailed (started : Bool)
  | dropped (started : Bool)
deriving DecidableEq, Repr

/-- What the body driver of a live stream has stored and seen when the stream ends. -/
structure StreamDriver where
  stored : Option FinalizationData
  usage : Option CanonicalUsage
  elapsedMs : Int

/-- A retry loop over submissions of type `σ`. -/
structure RetryLoop (σ : Type) where
  request : LoopRequest
  clientProtocol : String
  streamed : Bool
  retryPolicy : RetryPolicy
  sanitizeDetail : String → String
  candidates : SelectionClaim → Candidates
  /-- An interrupted publication is taken up again. -/
  resumesPostCommit : Bool
  attemptEnd : AttemptContext → σ → AttemptEnd
  /-- No account is left: the end of the run, at this time since it began. -/
  exhausted : Loop → Int → Except CoordinatorError Execution
  finalData : Execution → StreamDriver → Downstream → FinalizationData

def DEFAULT_RESERVATION_TTL_SECONDS : Int := 900

def ClaimFate.ofRollback (answer : Except ClaimError ClaimTransition) : ClaimFate :=
  if EggPool.Coordinator.rolledBack answer then .rolledBack else .dropped

namespace RetryLoop

variable {σ : Type} (loop : RetryLoop σ)

/-! ## One round -/

def publication (l : Loop) (claim : SelectionClaim) (tariff : Option Int) (surface : WireSurface)
    (round : Round σ) : Publication where
  claim := claim
  input := {
    proxyRequestId := loop.request.proxyRequestId
    clientProtocol := loop.clientProtocol
    upstreamProtocol := protocolForSurface surface
    streamed := loop.streamed
    attemptNumber := l.attemptNumber
    reservationTtlSeconds := DEFAULT_RESERVATION_TTL_SECONDS
    budgetProof := some ⟨loop.request.budgetInputWorstCaseTokens,
      loop.request.budgetRequestedOutputTokens, tariff⟩ }
  attribution := loop.request.attribution
  prepared := round.prepared
  clock := round.clock
  fails := round.fails

/-- `claim.rollback_claim()?`, then the rest of the round. -/
def giveBack (l : Loop) (claim : SelectionClaim) (round : Round σ) (next : Loop → Progress) :
    Progress :=
  let l := l.record claim (.ofRollback round.answers.rollback)
  match round.answers.rollback with
  | .error e => .done l (.error (.claim e))
  | .ok _ => next l

/-- The finalization that closes a failed attempt. -/
def cleanup (identity : FinalizationIdentity) (data : FinalizationData) (round : Round σ) :
    Finalization where
  identity := identity
  data := data
  terminalizeRequest := false
  now := round.now
  sanitizeDetail := loop.sanitizeDetail

def afterAttempt (l : Loop) (claim : SelectionClaim) (identity : FinalizationIdentity)
    (round : Round σ) : AttemptEnd → Progress
  | .terminal data => .done (l.record claim .execution) (.ok ⟨identity, some claim, data, false⟩)
  | .stream data => .done (l.record claim .execution) (.ok ⟨identity, some claim, data, true⟩)
  | .retry effects data lastUpstream lastFailure =>
    let l := { l.record claim .finalizationCommand with
      lastUpstream := lastUpstream.or l.lastUpstream
      lastFailure := lastFailure.or l.lastFailure }
    match (loop.cleanup identity data round).finalizeDurable l.db with
    | (db, .error e) => .done { l with db := db } (.error (.finalization e))
    | (db, .ok _) => .running ({ l with db := db }.prepareNext identity effects)

/-- Prepare and submit a published attempt. -/
def submit (l : Loop) (claim : SelectionClaim) (identity : FinalizationIdentity)
    (surface : WireSurface) (alternateWireAvailable : Bool) (round : Round σ) : Progress :=
  loop.afterAttempt { l with lastIdentity := some identity } claim identity round
    (loop.attemptEnd {
      identity := identity
      surface := surface
      alternateWireAvailable := alternateWireAvailable
      attemptNumber := l.attemptNumber
      requestBytes := loop.request.requestBytes
      elapsedMs := round.elapsedMs
      retryPolicy := loop.retryPolicy } round.submission)

def publishRound (l : Loop) (claim : SelectionClaim) (tariff : Option Int) (surface : WireSurface)
    (alternateWireAvailable : Bool) (round : Round σ) : Progress :=
  match publishOwned round.serviceFails round.serializes round.answers
      (loop.publication l claim tariff surface round) l.db with
  | (db, .ok (.published identity)) =>
    loop.submit { l with db := db, durable := some identity } claim identity surface
      alternateWireAvailable round
  | (db, .ok (.alreadyPublished _)) =>
    .done ({ l with db := db }.record claim (.ofRollback round.answers.rollback))
      (.error (.publication (.duplicateConflict loop.request.proxyRequestId)))
  | (db, .error (.postCommit interruption)) =>
    let l := { l with db := db, durable := some interruption.identity }
    if loop.resumesPostCommit && converted round.answers.reconvert then
      loop.submit l claim interruption.identity surface alternateWireAvailable round
    else
      -- the claim goes down with the error
      .done (l.record claim .dropped) (.error (.publication (.postCommit interruption)))
  | (db, .error e) =>
    .done ({ l with db := db }.record claim (.ofRollback round.answers.rollback))
      (.error (.publication e))

/-- Take the first wire of the account that was not tried yet. -/
def wireRound (l : Loop) (claim : SelectionClaim) (tariff : Option Int)
    (candidates : List WireSurface) (round : Round σ) : Progress :=
  let resolved := round.resolve candidates
  match resolved.find? (fun surface => !(l.attemptedWires claim.accountName).contains surface) with
  | none => giveBack l claim round (fun l => .running (l.exclude claim.accountName))
  | some surface =>
    let l := l.attempted claim.accountName surface
    loop.publishRound l claim tariff surface
      (resolved.any (fun surface => !(l.attemptedWires claim.accountName).contains surface)) round

def claimRound (l : Loop) (claim : SelectionClaim) (round : Round σ) : Progress :=
  match loop.candidates claim with
  | .missingProvider =>
    giveBack l claim round (fun l => .done l (.error (.missingProvider claim.providerId)))
  | .compactMissed =>
    giveBack { l with compactCapabilityMissed := true } claim round
      (fun l => .running (l.exclude claim.accountName))
  | .embeddingMissed =>
    giveBack { l with embeddingCapabilityMissed := true } claim round
      (fun l => .running (l.exclude claim.accountName))
  | .missingWireProfile =>
    giveBack l claim round (fun l => .done l (.error (.missingWireProfile claim.providerId)))
  | .surfaces tariff candidates => loop.wireRound l claim tariff candidates round

def step : Progress → Round σ → Progress
  | .done l result, _ => .done l result
  | .running l, round =>
    match round.select l.excludedAccounts l.preferredAccount with
    | .error e => .done l (.error (.claim e))
    | .ok none => .done l (loop.exhausted l round.elapsedMs)
    | .ok (some claim) => loop.claimRound l claim round

/-- The finalization a returned execution runs in the end. -/
def terminalCommand (execution : Execution) (driver : StreamDriver) (downstream : Downstream)
    (now : String) : Finalization where
  identity := execution.identity
  data := loop.finalData execution driver downstream
  terminalizeRequest := true
  now := now
  sanitizeDetail := loop.sanitizeDetail

end RetryLoop

/-! ## The two coordinators -/

structure ProviderConfig where
  hasEmbeddingsPath : Bool
  embeddingModels : List String
  /-- The surface's operator facts advertise native remote compaction. -/
  nativeCompaction : WireSurface → Bool
  maxMicrodollarsPerMillionTokens : Option Int

structure CoordinatorConfig where
  providers : List (String × ProviderConfig)
  providerProfiles : String → List WireSurface
  retryPolicy : RetryPolicy
  sanitizeDetail : String → String

def MAX_CLIENT_ERROR_BYTES : Int := 512

/-- The exhaustion facts of a run that remembers an upstream answer. -/
def exhaustedUpstream (request : LoopRequest) (identity : FinalizationIdentity)
    (last : LastUpstream) : Execution where
  identity := identity
  claim := none
  data := failureData identity identity.upstreamProtocol last.effects (some last.status)
    last.upstreamRequestId last.headersElapsedMs request.requestBytes
    (if MAX_CLIENT_ERROR_BYTES < last.bodyLen then 0 else last.bodyLen)
  live := false

/-- The exhaustion facts of a run that remembers nothing. -/
def exhaustedUnknown (request : LoopRequest) (identity : FinalizationIdentity) (elapsedMs : Int) :
    Execution where
  identity := identity
  claim := none
  data := {
    outcome := .upstreamError
    statusCode := some 503
    errorClass := some "NoEligibleRoute"
    releaseReason := some "attempt_failed"
    bytesReceived := request.requestBytes
    latencyMs := elapsedMs
    cacheCounterStatus := some "not_reported" }
  live := false

/-- A response that was not delivered is finalized as cancelled or interrupted. -/
def writeFailedData (data : FinalizationData) (started : Bool) : FinalizationData :=
  { data with
    outcome := if started then .clientCancelled else .interrupted
    errorClass := some
      (if started then "DownstreamWriteFailed" else "DownstreamCancelledBeforeStart")
    releaseReason := some "downstream_write_failed" }

namespace CoordinatorConfig

variable (config : CoordinatorConfig)

/-! ### Finite -/

structure FiniteInput where
  request : LoopRequest
  operation : InferenceOperation
  /-- `client_surface.protocol()` -/
  surfaceProtocol : String
  modelId : String

def compactSurfaces (provider : ProviderConfig) (profiles : List WireSurface) : List WireSurface:=
  profiles.filter (fun surface => surface = .openaiResponses && provider.nativeCompaction surface)

def remoteCompactionCapable : Bool :=
  config.providers.any fun (providerId, provider) =>
    !(compactSurfaces provider (config.providerProfiles providerId)).isEmpty

def servesEmbeddings (provider : ProviderConfig) (modelId : String) : Bool :=
  provider.hasEmbeddingsPath && provider.embeddingModels.contains modelId

/-- The checks before the first round. -/
def finiteStart (input : FiniteInput) (db : Db) : Progress :=
  if input.operation = .embedding &&
      !config.providers.any (fun entry => servesEmbeddings entry.2 input.modelId) then
    .done (Loop.start db) (.error .embeddingsUnsupported)
  else if input.operation = .compact && !config.providers.isEmpty &&
      !config.remoteCompactionCapable then
    .done (Loop.start db) (.error .remoteCompactionUnsupported)
  else .running (Loop.start db)

theorem finiteStart_of {P : Progress → Prop} (input : FiniteInput) {db : Db}
    (hr : P (.running (Loop.start db))) (hd : ∀ e, P (.done (Loop.start db) (.error e))) :
    P (config.finiteStart input db) := by
  unfold finiteStart
  split
  · exact hd _
  split
  · exact hd _
  · exact hr

def finiteCandidates (input : FiniteInput) (claim : SelectionClaim) : Candidates :=
  match config.providers.lookup claim.providerId with
  | none => .missingProvider
  | some provider =>
    if input.operation = .embedding && !servesEmbeddings provider input.modelId then
      .embeddingMissed
    else
      let profiles := config.providerProfiles claim.providerId
      let tariff := provider.maxMicrodollarsPerMillionTokens
      if profiles.isEmpty then .missingWireProfile
      else
        match input.operation with
        | .compact =>
          if (compactSurfaces provider profiles).isEmpty then .compactMissed
          else .surfaces tariff (compactSurfaces provider profiles)
        | .embedding =>
          if (profiles.filter (· = .openaiChatCompletions)).isEmpty then .embeddingMissed
          else .surfaces tariff (profiles.filter (· = .openaiChatCompletions))
        | .generate => .surfaces tariff profiles

def finiteExhausted (input : FiniteInput) (l : Loop) (elapsedMs : Int) :
    Except CoordinatorError Execution :=
  match l.lastIdentity with
  | some identity =>
    match l.lastUpstream with
    | some last => .ok (exhaustedUpstream input.request identity last)
    | none => .ok (exhaustedUnknown input.request identity elapsedMs)
  | none =>
    if l.compactCapabilityMissed then .error .remoteCompactionUnsupported
    else if l.embeddingCapabilityMissed then .error .embeddingsUnsupported
    else .error .noEligibleRoute

def finiteFinalData (execution : Execution) : Downstream → FinalizationData
  | .delivered => execution.data
  | .writeFailed started => writeFailedData execution.data started
  | .dropped _ => { execution.data with
      outcome := .interrupted
      errorClass := some "CoordinatorInterrupted"
      releaseReason := some "pending_response_dropped" }

def finite (input : FiniteInput) : RetryLoop FiniteSubmission where
  request := input.request
  clientProtocol := if input.operation = .embedding then "openai_embeddings"
    else input.surfaceProtocol
  streamed := false
  retryPolicy := config.retryPolicy
  sanitizeDetail := config.sanitizeDetail
  candidates := config.finiteCandidates input
  resumesPostCommit := true
  attemptEnd := fun ctx submission => ctx.finiteEnd input.operation submission
  exhausted := finiteExhausted input
  finalData := fun execution _ downstream => finiteFinalData execution downstream

/-! ### Streaming -/

structure StreamInput where
  request : LoopRequest
  surfaceProtocol : String

def streamCandidates (claim : SelectionClaim) : Candidates :=
  match config.providers.lookup claim.providerId with
  | none => .missingProvider
  | some provider =>
    if (config.providerProfiles claim.providerId).isEmpty then .missingWireProfile
    else .surfaces provider.maxMicrodollarsPerMillionTokens
      (config.providerProfiles claim.providerId)

/-- The exhaustion facts of a run whose last failure came before the handoff. -/
def exhaustedFailure (request : LoopRequest) (identity : FinalizationIdentity)
    (failure : LastFailure) (elapsedMs : Int) : Execution where
  identity := identity
  claim := none
  data := { failureData identity failure.upstreamProtocol failure.effects failure.status none
      elapsedMs request.requestBytes 0 with
    isRetryOutcome := false
    retryCategory := some "exhausted" }
  live := false

def streamExhausted (input : StreamInput) (l : Loop) (elapsedMs : Int) :
    Except CoordinatorError Execution :=
  match l.lastIdentity with
  | some identity =>
    match l.lastUpstream with
    | some last => .ok (exhaustedUpstream input.request identity last)
    | none =>
      match l.lastFailure with
      | some failure => .ok (exhaustedFailure input.request identity failure elapsedMs)
      | none => .ok (exhaustedUnknown input.request identity elapsedMs)
  | none => .error .noEligibleRoute

/-- What a stream that was not delivered is finalized as, unless its driver knows better. -/
def streamCut (data : FinalizationData) : Downstream → FinalizationData
  | .delivered => data
  | .writeFailed started => writeFailedData data started
  | .dropped started => { data with
      outcome := if started then .clientCancelled else .interrupted
      errorClass := some
        (if started then "DownstreamCancelledAfterStart" else "CoordinatorInterrupted")
      releaseReason := some
        (if started then "downstream_write_failed" else "pending_response_dropped") }

/-- Fold in the usage the decoder has seen so far. -/
def foldMidstreamUsage (data : FinalizationData) : Option CanonicalUsage → FinalizationData
  | none => data
  | some usage => { data with
      inputTokens := boundedI64 usage.inputTokens
      outputTokens := boundedI64 usage.outputTokens
      cacheCounterStatus := some (cacheStatus usage.cacheCounterStatus) }

def streamFinalData (execution : Execution) (driver : StreamDriver) (downstream : Downstream) :
    FinalizationData :=
  let data :=
    if execution.live then
      match driver.stored with
      -- a stored terminal is authoritative
      | some data => data
      | none => foldMidstreamUsage (streamCut execution.data downstream) driver.usage
    else streamCut execution.data downstream
  { data with latencyMs := driver.elapsedMs }

def streaming (input : StreamInput) : RetryLoop StreamSubmission where
  request := input.request
  clientProtocol := input.surfaceProtocol
  streamed := true
  retryPolicy := config.retryPolicy
  sanitizeDetail := config.sanitizeDetail
  candidates := config.streamCandidates
  resumesPostCommit := false
  attemptEnd := AttemptContext.streamEnd
  exhausted := streamExhausted input
  finalData := streamFinalData

end CoordinatorConfig

end EggPool.Coordinator
