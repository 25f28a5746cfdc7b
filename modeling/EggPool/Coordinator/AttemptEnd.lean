import EggPool.Coordinator.Failure
import EggPool.Coordinator.Finalization

/-!
# How one attempt ends

A published attempt ends in one of three ways: it is closed as failed and the loop
goes on, it hands back a terminal response, or it hands back a live stream. What
the attempt met (a failed preparation, a transport error, a timeout, a decoded or
undecodable answer) decides which, through the failure classifier.

Both coordinators are here, the finite one for its three operations. Each gives
the facts to be written with the end: the cleanup of a retry, or the data of the
finalization the caller will run.
-/

namespace EggPool.Coordinator

open EggPool.Lib EggPool.Routing

inductive WireSurface
  | openaiChatCompletions | openaiResponses | anthropicMessages | geminiInteractions
  | geminiGenerateContent
deriving DecidableEq, Repr

def protocolForSurface : WireSurface → String
  | .anthropicMessages => "anthropic"
  | .geminiInteractions | .geminiGenerateContent => "gemini"
  | .openaiChatCompletions | .openaiResponses => "openai"

inductive InferenceOperation
  | generate | compact | embedding
deriving DecidableEq, Repr

/-! ## What an attempt can meet -/

inductive TransportError
  | responseBodyTooLarge | other
deriving DecidableEq, Repr

inductive AttemptError
  | wireBodyTooLarge | wire | clientPool
  | transport (error : TransportError)
  | invalidInput | injected
deriving DecidableEq, Repr

structure UpstreamResponse where
  status : Nat
  retryAfter : Option Nat
  upstreamRequestId : Option String
  (headersElapsedMs bodyLen : Int)
deriving DecidableEq, Repr

structure ProviderErrorEvidence where
  (errorType message : Option String)
deriving DecidableEq, Repr

inductive CacheCounterStatus
  | reported | notReported | unknownFormat
deriving DecidableEq, Repr

structure CanonicalUsage where
  (inputTokens outputTokens totalTokens cachedInputTokens cacheReadInputTokens : Option Nat := none)
  (cacheWriteInputTokens cacheCreationInputTokens reasoningTokens : Option Nat := none)
  cacheCounterStatus : CacheCounterStatus := .notReported
deriving DecidableEq, Repr

/-- What the wire runtime makes of a response body. -/
inductive Decoded
  | unadaptable (bodyTooLarge : Bool)
  | success (usage : Option CanonicalUsage) (clientBodyLen : Int)
  | providerError (error : ProviderErrorEvidence)
  | malformed
deriving DecidableEq, Repr

/-- What a finite attempt meets after its publication. -/
inductive FiniteSubmission
  | admissionMismatch
  | preparationFailed (error : AttemptError)
  | submitFailed (error : AttemptError)
  | bodyReadFailed (response : UpstreamResponse) (error : TransportError)
  | answered (response : UpstreamResponse) (decoded : Decoded)
deriving DecidableEq, Repr

/-- What a streaming attempt meets after its publication. -/
inductive StreamSubmission
  | preparationFailed (error : AttemptError)
  | submitFailed (error : AttemptError)
  | headerTimeout
  | errorBodyReadFailed (error : TransportError)
  | errorAnswered (response : UpstreamResponse) (decoded : Decoded)
  | firstByteTimeout
  | prefetchFailed (error : TransportError)
  | streamUnavailable
  | streaming (response : UpstreamResponse) (prefetchedLen : Int) (firstByteMs : Option Int)
deriving DecidableEq, Repr

/-- `text.contains(part)` -/
def textContains (text part : String) : Bool :=
  text.toList.tails.any (fun suffix => part.toList.isPrefixOf suffix)

def providerErrorSignal (error : ProviderErrorEvidence) : Option String :=
  let text := String.ofList
    ((error.errorType.getD "" ++ " " ++ error.message.getD "").toList.map Char.toLower)
  let has := textContains text
  if has "invalid" && (has "key" || has "credential") then some "credential_invalid"
  else if has "wire" && has "auth" then some "wire_auth_mismatch"
  else if has "unsupported" && has "surface" then some "wire_surface_unsupported"
  else if has "schema" then some "wire_schema_mismatch"
  else if has "model" && (has "not found" || has "absent") then some "model_absent"
  else if has "rate" || has "too many" then some "rate_limited"
  else if has "quota" then some "quota_exhausted"
  else none

/-! ## The facts written at the end of an attempt -/

/-- `bounded_request_id` -/
def boundedRequestId (value : Option String) : Option String :=
  value.map fun value =>
    String.ofList ((value.toList.take 128).filter
      (fun c => !(c.toNat < 32 || (127 ≤ c.toNat && c.toNat < 160))))

def boundedI64 (value : Option Nat) : Int := min (value.getD 0 : Int) I64.MAX

def cacheStatus : CacheCounterStatus → String
  | .reported => "reported"
  | .notReported => "not_reported"
  | .unknownFormat => "unknown_format"

/-- An attempt under way: its identity and wire, and what its facts are made of. -/
structure AttemptContext where
  identity : FinalizationIdentity
  surface : WireSurface
  alternateWireAvailable : Bool
  attemptNumber : Nat
  (requestBytes elapsedMs : Int)
  retryPolicy : RetryPolicy

namespace AttemptContext

variable (ctx : AttemptContext)

def upstreamProtocol : String := protocolForSurface ctx.surface

def successData (usage : Option CanonicalUsage) (response : UpstreamResponse)
    (providerBytes : Int) : FinalizationData :=
  let usage := usage.getD {}
  let cacheWrite := usage.cacheWriteInputTokens.or usage.cacheCreationInputTokens
  { outcome := .completed
    statusCode := some response.status
    inputTokens := boundedI64 usage.inputTokens
    outputTokens := boundedI64 usage.outputTokens
    cacheReadTokens := boundedI64 usage.cacheReadInputTokens
    cacheWriteTokens := boundedI64 cacheWrite
    reasoningTokens := boundedI64 usage.reasoningTokens
    costMicrodollars := 0
    cacheCounterStatus := some (cacheStatus usage.cacheCounterStatus)
    cachedInputTokens := usage.cachedInputTokens.map (boundedI64 <| some ·)
    cacheReadInputTokens := usage.cacheReadInputTokens.map (boundedI64 <| some ·)
    cacheCreationInputTokens := usage.cacheCreationInputTokens.map (boundedI64 <| some ·)
    cacheWriteInputTokens := cacheWrite.map (boundedI64 <| some ·)
    inputTokensReported := usage.inputTokens.map (boundedI64 <| some ·)
    outputTokensReported := usage.outputTokens.map (boundedI64 <| some ·)
    totalTokensReported := usage.totalTokens.map (boundedI64 <| some ·)
    transcoded := ctx.identity.clientProtocol ≠ ctx.identity.upstreamProtocol
    upstreamProtocol := some ctx.identity.upstreamProtocol
    latencyMs := ctx.elapsedMs
    firstByteMs := some response.headersElapsedMs
    bytesReceived := ctx.requestBytes
    bytesEmitted := providerBytes
    upstreamRequestId := boundedRequestId response.upstreamRequestId
    releaseReason := some "completed" }

end AttemptContext

def failureData (identity : FinalizationIdentity) (upstreamProtocol : String)
    (effects : FailureEffects) (status : Option Nat) (upstreamRequestId : Option String)
    (elapsedMs requestBytes providerBytes : Int) : FinalizationData where
  outcome := .upstreamError
  statusCode := status
  costMicrodollars := 0
  cacheCounterStatus := some "not_reported"
  latencyMs := elapsedMs
  firstByteMs := some elapsedMs
  bytesReceived := requestBytes
  bytesEmitted := providerBytes
  upstreamRequestId := boundedRequestId upstreamRequestId
  errorClass := some effects.evidenceClass
  errorDetail := some effects.clientOutcome
  releaseReason := some "attempt_failed"
  retryCategory := some (categoryLabel effects.category)
  isRetryOutcome := effects.retry
  transcoded := identity.clientProtocol ≠ upstreamProtocol
  upstreamProtocol := some upstreamProtocol

def retryCleanupData (identity : FinalizationIdentity) (upstreamProtocol : String)
    (effects : FailureEffects) (status : Option Nat) (upstreamRequestId : Option String)
    (elapsedMs requestBytes providerBytes : Int) : FinalizationData :=
  { failureData identity upstreamProtocol effects status upstreamRequestId elapsedMs requestBytes
      providerBytes with
    releaseReason := some "attempt_retryable" }

namespace AttemptContext

variable (ctx : AttemptContext)

def localFailureData (status : Nat) (errorClass : String) : FinalizationData where
  outcome := .clientError
  statusCode := some status
  errorClass := some errorClass
  cacheCounterStatus := some "not_reported"
  releaseReason := some "capability_rejected"
  bytesReceived := ctx.requestBytes
  bytesEmitted := 0
  transcoded := ctx.identity.clientProtocol ≠ ctx.upstreamProtocol
  upstreamProtocol := some ctx.upstreamProtocol

def upstreamPrepFailureData (status : Nat) (errorClass : String) : FinalizationData :=
  { ctx.localFailureData status errorClass with
    outcome := .upstreamError
    releaseReason := some "attempt_failed" }

/-- Placeholder until the body driver stores the natural terminal. -/
def streamOpenData (response : UpstreamResponse) (prefetchedLen : Int)
    (firstByteMs : Option Int) : FinalizationData where
  outcome := .interrupted
  statusCode := some 200
  costMicrodollars := 0
  cacheCounterStatus := some "not_reported"
  latencyMs := ctx.elapsedMs
  firstByteMs := firstByteMs
  bytesReceived := ctx.requestBytes
  bytesEmitted := prefetchedLen
  upstreamRequestId := boundedRequestId response.upstreamRequestId
  errorClass := some "StreamNotTerminated"
  releaseReason := some "pending_response_dropped"
  transcoded := ctx.identity.clientProtocol ≠ ctx.upstreamProtocol
  upstreamProtocol := some ctx.upstreamProtocol

end AttemptContext

/-! ## The end of an attempt -/

/-- The last upstream error answer, kept for when the accounts run out. -/
structure LastUpstream where
  status : Nat
  bodyLen : Int
  effects : FailureEffects
  upstreamRequestId : Option String
  headersElapsedMs : Int
deriving DecidableEq, Repr

/-- The last failure before the handoff, as the streaming loop keeps it. -/
structure LastFailure where
  effects : FailureEffects
  status : Option Nat
  upstreamProtocol : String
deriving DecidableEq, Repr

inductive AttemptEnd
  /-- Close the attempt as failed and go on, remembering an answer or a failure. -/
  | retry (effects : FailureEffects) (cleanup : FinalizationData)
      (lastUpstream : Option LastUpstream) (lastFailure : Option LastFailure)
  | terminal (data : FinalizationData)
  | stream (data : FinalizationData)
deriving DecidableEq, Repr

def shouldRetry (effects : FailureEffects) : Bool :=
  effects.retry && (effects.action = .retryAccount || effects.action = .retryWire)

def wirePrepFailure : AttemptError → Nat × String
  | .wireBodyTooLarge => (413, "RequestBodyTooLarge")
  | .invalidInput => (500, "ProviderConfiguration")
  | _ => (502, "RequestAdaptation")

/-- Statuses that stay an upstream error although nothing is retried. -/
def upstreamFault (status : Nat) : Bool :=
  status = 408 || status = 425 || status = 429 || (500 ≤ status && status ≤ 599)

namespace AttemptContext

variable (ctx : AttemptContext)

def observation (source : FailureSource) (status : Option Nat)
    (categoryHint : Option FailureCategory) (signal : Option String) (dispatchPhase : String) :
    FailureObservation where
  attemptNumber := ctx.attemptNumber
  source := source
  status := status
  categoryHint := categoryHint
  wireRejection := signal.any isWireRejectionSignal
  signal := signal.map normalizeSignal
  alternateWireAvailable := ctx.alternateWireAvailable
  dispatchPhase := dispatchPhase

def decide (observation : FailureObservation) : FailureEffects :=
  observation.classify ctx.retryPolicy

/-- Retry a failure with this status on record, or end with `terminal`. -/
def retryOr (effects : FailureEffects) (status : Option Nat) (upstreamRequestId : Option String)
    (elapsedMs providerBytes : Int) (lastUpstream : Option LastUpstream)
    (lastFailure : Option LastFailure) (terminal : FinalizationData) : AttemptEnd :=
  if shouldRetry effects then
    .retry effects
      (retryCleanupData ctx.identity ctx.identity.upstreamProtocol effects status upstreamRequestId
        elapsedMs ctx.requestBytes providerBytes)
      lastUpstream lastFailure
  else .terminal terminal

/-- A failure that is passed on as it was classified when it is not retried. -/
def retryOrFail (effects : FailureEffects) (status : Option Nat)
    (upstreamRequestId : Option String) (elapsedMs providerBytes : Int)
    (lastFailure : Option LastFailure) : AttemptEnd :=
  ctx.retryOr effects status upstreamRequestId elapsedMs providerBytes none lastFailure
    (failureData ctx.identity ctx.identity.upstreamProtocol effects status upstreamRequestId
      elapsedMs ctx.requestBytes providerBytes)

variable (response : UpstreamResponse)

/-- A decoded provider error: kept for later when retried, passed through otherwise. -/
def providerErrorEnd (error : ProviderErrorEvidence) : AttemptEnd :=
  let effects := ctx.decide { ctx.observation .providerResponse (some response.status) none
    (providerErrorSignal error) "response_status" with retryAfter := response.retryAfter }
  let data := failureData ctx.identity ctx.identity.upstreamProtocol effects (some response.status)
    response.upstreamRequestId response.headersElapsedMs ctx.requestBytes response.bodyLen
  ctx.retryOr effects (some response.status) response.upstreamRequestId response.headersElapsedMs
    response.bodyLen
    (some ⟨response.status, response.bodyLen, effects, response.upstreamRequestId,
      response.headersElapsedMs⟩)
    none
    (if !effects.retry && !upstreamFault response.status then
      { data with
        outcome := .clientError
        releaseReason := some "capability_rejected"
        retryCategory := some "never"
        isRetryOutcome := false }
    else data)

/-! ### The finite coordinator -/

def finiteSubmitFailed (error : AttemptError) : AttemptEnd :=
  let (source, hint) : FailureSource × Option FailureCategory := match error with
    | .transport .responseBodyTooLarge => (.providerResponse, some .fatal)
    | .transport _ => (.transport, none)
    | _ => (.localPreparation, none)
  ctx.retryOrFail (ctx.decide (ctx.observation source none hint none "transport"))
    none none ctx.elapsedMs 0 none

def finiteBodyReadFailed (error : TransportError) : AttemptEnd :=
  let (source, hint) : FailureSource × Option FailureCategory := match error with
    | .responseBodyTooLarge => (.providerResponse, some .fatal)
    | .other => (.transport, none)
  ctx.retryOrFail (ctx.decide (ctx.observation source none hint none "body_read"))
    none response.upstreamRequestId response.headersElapsedMs 0 none

def compactAnswered : Decoded → AttemptEnd
  | .unadaptable _ =>
    -- an answer that does not decode is retried without being remembered
    ctx.retryOrFail
      (ctx.decide (ctx.observation .providerResponse (some 502) none none "response_adaptation"))
      (some 502) response.upstreamRequestId response.headersElapsedMs response.bodyLen none
  | .success usage _ => .terminal (ctx.successData usage response response.bodyLen)
  | .providerError error => ctx.providerErrorEnd response error
  | .malformed => .terminal (ctx.localFailureData 500 "MalformedResponse")

def embeddingAnswered (decoded : Decoded) : AttemptEnd :=
  if !(200 ≤ response.status && response.status < 300) then
    ctx.retryOrFail
      (ctx.decide { ctx.observation .providerResponse (some response.status) none none
        "embedding_status" with retryAfter := response.retryAfter })
      (some response.status) response.upstreamRequestId response.headersElapsedMs response.bodyLen
      none
  else
    match decoded with
    | .success usage clientBodyLen => .terminal (ctx.successData usage response clientBodyLen)
    | _ => .terminal (failureData ctx.identity ctx.identity.upstreamProtocol
        (ctx.decide (ctx.observation .providerResponse (some 502) (some .fatal) none
          "embedding_response"))
        (some 502) response.upstreamRequestId response.headersElapsedMs ctx.requestBytes
        response.bodyLen)

def generateAnswered : Decoded → AttemptEnd
  | .unadaptable bodyTooLarge => .terminal (ctx.upstreamPrepFailureData 502
      (if bodyTooLarge then "ResponseBodyTooLarge" else "ResponseAdaptation"))
  | .success usage clientBodyLen => .terminal (ctx.successData usage response clientBodyLen)
  | .providerError error => ctx.providerErrorEnd response error
  | .malformed => .terminal (ctx.upstreamPrepFailureData 502 "MalformedResponse")

def finiteEnd (operation : InferenceOperation) : FiniteSubmission → AttemptEnd
  | .admissionMismatch => .terminal (ctx.localFailureData 400 "InvalidFacts")
  | .preparationFailed error => .terminal
      (ctx.upstreamPrepFailureData (wirePrepFailure error).1 (wirePrepFailure error).2)
  | .submitFailed error => ctx.finiteSubmitFailed error
  | .bodyReadFailed response error => ctx.finiteBodyReadFailed response error
  | .answered response decoded =>
    match operation with
    | .compact => ctx.compactAnswered response decoded
    | .embedding => ctx.embeddingAnswered response decoded
    | .generate => ctx.generateAnswered response decoded

/-! ### The streaming coordinator -/

/-- A transport failure or a timer before the handoff; `terminal` adjusts the terminal facts. -/
def preHandoff (source : FailureSource) (dispatchPhase : String)
    (terminal : FinalizationData → FinalizationData) : AttemptEnd :=
  let effects := ctx.decide (ctx.observation source none none none dispatchPhase)
  ctx.retryOr effects none none ctx.elapsedMs 0 none
    (some ⟨effects, none, ctx.identity.upstreamProtocol⟩)
    (terminal (failureData ctx.identity ctx.identity.upstreamProtocol effects none none
      ctx.elapsedMs ctx.requestBytes 0))

def preHandoffTransportTerminal (error : AttemptError) (dispatchPhase : String) : AttemptEnd :=
  ctx.preHandoff (match error with | .transport _ => .transport | _ => .localPreparation)
    dispatchPhase id

def preHandoffTimeoutTerminal (outcome errorClass dispatchPhase : String) : AttemptEnd :=
  ctx.preHandoff .transport dispatchPhase fun data =>
    { data with errorClass := some errorClass, errorDetail := some outcome }

def streamPrepFailure : AttemptError → Nat × String
  | .wireBodyTooLarge => (413, "RequestBodyTooLarge")
  | _ => (502, "RequestAdaptation")

def streamErrorAnswered : Decoded → AttemptEnd
  | .unadaptable _ => .terminal (ctx.upstreamPrepFailureData 502 "ResponseAdaptation")
  | .success usage _ => .terminal (ctx.successData usage response response.bodyLen)
  | .providerError error => ctx.providerErrorEnd response error
  | .malformed => .terminal (ctx.upstreamPrepFailureData 502 "MalformedResponse")

def streamEnd : StreamSubmission → AttemptEnd
  | .preparationFailed error => .terminal
      (ctx.upstreamPrepFailureData (streamPrepFailure error).1 (streamPrepFailure error).2)
  | .submitFailed error => ctx.preHandoffTransportTerminal error "response_headers"
  | .headerTimeout => ctx.preHandoffTimeoutTerminal "response_header_timeout"
      "ResponseHeaderTimeout" "response_headers"
  | .errorBodyReadFailed error =>
    ctx.preHandoffTransportTerminal (.transport error) "error_response_read"
  | .errorAnswered response decoded => ctx.streamErrorAnswered response decoded
  | .firstByteTimeout => ctx.preHandoffTimeoutTerminal "first_byte_timeout" "FirstByteTimeout"
      "first_byte_prefetch"
  | .prefetchFailed error =>
    ctx.preHandoffTransportTerminal (.transport error) "first_byte_prefetch"
  | .streamUnavailable => .terminal (ctx.localFailureData 500 "StreamUnavailable")
  | .streaming response prefetchedLen firstByteMs =>
    .stream (ctx.streamOpenData response prefetchedLen firstByteMs)

end AttemptContext

end EggPool.Coordinator
