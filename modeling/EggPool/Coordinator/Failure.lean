import EggPool.Lib.Text

/-!
# Classifying a failed attempt

Every failure before the response was handed on is observed, classified once, and
answered with effects: what happens to the account, the model and the wire, what
the client is told, and whether another attempt is made. The evidence class is
the text the attempt row keeps as its error class.

`classify` is the source's function branch by branch. `evidence_startsLower` is
what the retry loops need of it later: no evidence class is one of the error
classes the coordinators make up themselves.
-/

namespace EggPool.Coordinator

open EggPool.Lib

inductive FailureSource
  | transport | providerResponse | client | clientValidation | localPreparation | database
  | cancellation
deriving DecidableEq, Repr

inductive FailureCategory
  | badRequest | authentication | quota | rateLimit | temporary | transientTransport
  | modelUnavailable | wireRejected | cancelled | fatal
deriving DecidableEq, Repr

def categoryLabel : FailureCategory → String
  | .badRequest => "bad_request"
  | .authentication => "authentication"
  | .quota => "quota"
  | .rateLimit => "rate_limit"
  | .temporary => "temporary"
  | .transientTransport => "transient_transport"
  | .modelUnavailable => "model_unavailable"
  | .wireRejected => "wire_rejected"
  | .cancelled => "cancelled"
  | .fatal => "fatal"

inductive BackoffReason
  | authenticationFailed | quotaExhausted | rateLimited | modelUnavailable | connectTimeout
  | connectionFailure | upstreamServerError | unknown
deriving DecidableEq, Repr

def BackoffReason.asStr : BackoffReason → String
  | .authenticationFailed => "authentication_failed"
  | .quotaExhausted => "quota_exhausted"
  | .rateLimited => "rate_limited"
  | .modelUnavailable => "model_unavailable"
  | .connectTimeout => "connect_timeout"
  | .connectionFailure => "connection_failure"
  | .upstreamServerError => "upstream_server_error"
  | .unknown => "unknown"

def FailureCategory.backoffReason (category : FailureCategory) (status : Option Nat) :
    BackoffReason :=
  match category with
  | .authentication => .authenticationFailed
  | .quota => .quotaExhausted
  | .rateLimit => .rateLimited
  | .modelUnavailable => .modelUnavailable
  | .transientTransport => .connectionFailure
  | .temporary => if status = some 408 then .connectTimeout else .upstreamServerError
  | .badRequest | .wireRejected | .cancelled | .fatal => .unknown

inductive RetryScope
  | none | account | wire | wait
deriving DecidableEq, Repr

def RetryScope.label : RetryScope → String
  | .none => "none"
  | .account => "other_account"
  | .wire => "same_account_other_wire"
  | .wait => "wait"

inductive NextAction
  | complete | retryAccount | retryWire | waitRateLimit | exhaust
deriving DecidableEq, Repr

def NextAction.label : NextAction → String
  | .retryAccount => "other_account_same_wire"
  | .retryWire => "alternate_wire_same_account"
  | .waitRateLimit => "wait_rate_limit"
  | .complete | .exhaust => "none"

structure FailureObservation where
  attemptNumber : Nat
  source : FailureSource
  status : Option Nat
  categoryHint : Option FailureCategory := none
  (responseStarted downstreamStarted wireRejection : Bool := false)
  /-- In milliseconds, as all durations here. -/
  retryAfter : Option Nat := none
  signal : Option String := none
  alternateWireAvailable : Bool := false
  dispatchPhase : String := "response_status"
deriving DecidableEq, Repr

structure FailureEffects where
  category : FailureCategory
  retryScope : RetryScope
  action : NextAction
  (applyAccountPenalty quarantineModel persistBackoff retry : Bool)
  (clientOutcome accountEffect modelEffect circuitEffect wireEffect : String)
  backoffReason : Option String
  (retryAfter backoffUntil : Option Nat)
  (retryAction retryScopeLabel evidenceClass : String)
  (circuitPenalty releaseProbeOnly providerAttributable downstreamStarted : Bool)
deriving DecidableEq, Repr

structure RetryPolicy where
  (maxAttempts maxRetryAfter : Nat)
  /-- The health policy's backoff at a first failure, where it has one. -/
  policyBackoffDuration : BackoffReason → Option Nat

def normalizeSignal (value : String) : String :=
  String.ofList ((((value.toList.filter (fun c =>
    c.isAlphanum || c = '_' || c = '-')).take 80).map Char.toLower))

def isWireRejectionSignal (signal : String) : Bool :=
  ["wire_auth_mismatch", "wire_surface_unsupported", "wire_schema_mismatch",
    "model_unsupported_on_surface"].contains signal

def wireEvidenceClass (signal : String) : String :=
  if signal = "wire_auth_mismatch" then "wire_auth_mismatch_rejection"
  else if signal = "wire_surface_unsupported" then "wire_surface_unsupported_rejection"
  else if signal = "wire_schema_mismatch" then "wire_schema_mismatch_rejection"
  else if signal = "model_unsupported_on_surface" then "model_unsupported_on_surface_rejection"
  else "wire_rejection"

/-- The variables `classify` fills in. -/
structure Classification where
  category : FailureCategory
  retryScope : RetryScope := .none
  action : NextAction := .complete
  (accountEffect modelEffect circuitEffect wireEffect : String := "none")
  clientOutcome : String
  persistBackoff : Bool := false
  backoffReason : Option BackoffReason := none
  backoffUntil : Option Nat := none
  providerAttributable : Bool := false
  evidenceClass : String
deriving DecidableEq, Repr

/-- `if retryable \x7b retry_scope = …; action = …; \x7d` -/
def Classification.retrying (c : Classification) (retryable : Bool) (scope : RetryScope)
    (action : NextAction) : Classification :=
  if retryable then { c with retryScope := scope, action := action } else c

namespace FailureObservation

variable (observation : FailureObservation) (policy : RetryPolicy)

def signalText : String := (observation.signal.map normalizeSignal).getD ""

/-- The failure is on this side of the wire. -/
def isLocal : Bool :=
  (match observation.source with
    | .client | .clientValidation | .localPreparation | .database | .cancellation => true
    | .transport | .providerResponse => false) ||
  observation.categoryHint = some .badRequest

def retryable : Bool :=
  !observation.responseStarted && !observation.downstreamStarted &&
    observation.attemptNumber < policy.maxAttempts

def statusIn (low high : Nat) : Bool :=
  observation.status.any (fun s => low ≤ s && s ≤ high)

def hintedCategory : FailureCategory :=
  observation.categoryHint.getD <|
    match observation.source with
    | .cancellation => .cancelled
    | .client | .clientValidation | .localPreparation | .database => .badRequest
    | .transport => .transientTransport
    | .providerResponse =>
      if observation.status = some 401 || observation.status = some 403 then .authentication
      else if observation.status = some 408 || observation.status = some 425 ||
        observation.status = some 429 then .rateLimit
      else if observation.statusIn 400 499 then .badRequest
      else if observation.statusIn 500 599 then .temporary
      else .fatal

/-- The provider said that this wire does not fit, and there is another one to try. -/
def offersAnotherWire : Bool :=
  observation.alternateWireAvailable && observation.dispatchPhase = "response_status"

def firstCategory : FailureCategory :=
  if observation.wireRejection ||
      (observation.offersAnotherWire && isWireRejectionSignal observation.signalText) then
    .wireRejected
  else observation.hintedCategory

def sourceEvidence : String :=
  match observation.source with
  | .transport => "transport_failure"
  | .database => "database_local"
  | .cancellation => "cancellation_local"
  | .clientValidation => "client_validation"
  | .localPreparation => "local_preparation_local"
  | .client => "client_validation"
  | .providerResponse => "provider_response"

/-- The variables before the first branch. -/
def unclassified : Classification where
  category := observation.firstCategory
  clientOutcome := if observation.statusIn 400 499 then "client_error" else "upstream_error"
  evidenceClass := observation.sourceEvidence

/-- `match (observation.status, signal)`, arm by arm. -/
def classifyResponse : Classification :=
  let c := observation.unclassified
  let signal := observation.signalText
  let retryable := observation.retryable policy
  let status := observation.status
  let timed (category : FailureCategory) : Classification :=
    { c with
      category := category
      persistBackoff := true
      backoffReason := some (category.backoffReason status)
      backoffUntil := policy.policyBackoffDuration (category.backoffReason status)
      providerAttributable := true }
  if signal = "credential_invalid" || signal = "authentication_failed" then
    { c with
      category := .authentication
      accountEffect := "disable_auth"
      circuitEffect := "failure"
      persistBackoff := true
      backoffReason := some (FailureCategory.authentication.backoffReason none)
      evidenceClass := "explicit_credential_invalid"
      providerAttributable := true }
    |>.retrying retryable .account .retryAccount
  else if isWireRejectionSignal signal && observation.offersAnotherWire then
    { c with category := .wireRejected, wireEffect := "reject_candidate" }
    |>.retrying retryable .wire .retryWire
  else if status = some 400 then
    { c with category := .badRequest, evidenceClass := "http_400_validation" }
  else if status = some 401 && signal = "model_absent" then
    { timed .modelUnavailable with
      modelEffect := "quarantine"
      evidenceClass := "runtime_model_absent_404" }
    |>.retrying retryable .account .retryAccount
  else if status = some 401 then
    { c with
      category := .authentication
      accountEffect := "failure"
      circuitEffect := "failure"
      persistBackoff := true
      backoffReason := some (FailureCategory.authentication.backoffReason none)
      evidenceClass := "http_401_ambiguous"
      providerAttributable := true }
    |>.retrying retryable .account .retryAccount
  else if status = some 402 || (signal = "quota_exhausted" &&
      (status = some 403 || status = some 409 || status = some 422)) then
    { c with
      category := .quota
      accountEffect := "quota"
      persistBackoff := true
      backoffReason := some (FailureCategory.quota.backoffReason status)
      evidenceClass := "quota_exhausted"
      providerAttributable := true }
    |>.retrying retryable .account .retryAccount
  else if status = some 403 then
    { c with category := .badRequest, evidenceClass := "http_403_no_evidence" }
  else if status = some 404 && signal = "model_absent" then
    { timed .modelUnavailable with
      modelEffect := "quarantine"
      evidenceClass := "runtime_model_absent_404" }
    |>.retrying retryable .account .retryAccount
  else if status = some 404 && observation.offersAnotherWire then
    { c with
      category := .wireRejected
      wireEffect := "reject_candidate"
      evidenceClass := wireEvidenceClass signal }
    |>.retrying retryable .wire .retryWire
  else if status = some 408 then
    { timed .temporary with
      accountEffect := "failure"
      modelEffect := "quarantine"
      circuitEffect := "failure"
      evidenceClass := "http_408_timeout"
      clientOutcome := "timeout" }
    |>.retrying retryable .account .retryAccount
  else if status = some 429 || status = some 425 ||
      (signal = "rate_limited" && (status = some 409 || status = some 422)) then
    { c with
      category := .rateLimit
      accountEffect := "rate_limit"
      persistBackoff := true
      backoffReason := some (FailureCategory.rateLimit.backoffReason status)
      backoffUntil := observation.retryAfter.map (min · policy.maxRetryAfter)
      evidenceClass := "http_429_rate_limited"
      providerAttributable := true }
    |>.retrying retryable .account .retryAccount
  else if status = some 409 || status = some 422 then
    { c with category := .badRequest, evidenceClass := "http_409_no_evidence" }
  else if observation.statusIn 500 599 then
    { timed .temporary with
      accountEffect := "failure"
      modelEffect := "quarantine"
      circuitEffect := "failure"
      evidenceClass := "http_" ++ toString (status.getD 500) ++ "_server_error" }
    |>.retrying retryable .account .retryAccount
  else c

/-- Local failures, rejected wires and transport failures come before the response arms. -/
def classifyBranch : Classification :=
  let c := observation.unclassified
  let retryable := observation.retryable policy
  if observation.isLocal then
    { c with
      category := if observation.source = .cancellation then .cancelled else .badRequest
      clientOutcome := "client_error" }
  else if observation.firstCategory = .wireRejected && !observation.responseStarted then
    { c with wireEffect := "reject_candidate" } |>.retrying retryable .wire .retryWire
  else if observation.source = .transport then
    { c with
      category := .transientTransport
      accountEffect := "failure"
      circuitEffect := "failure"
      persistBackoff := true
      backoffReason := some (FailureCategory.transientTransport.backoffReason none)
      backoffUntil :=
        policy.policyBackoffDuration (FailureCategory.transientTransport.backoffReason none)
      providerAttributable := true
      clientOutcome := "service_unavailable" }
    |>.retrying retryable .account .retryAccount
  else observation.classifyResponse policy

/-- Nothing is retried once a response is under way; what is left of the budget is given up. -/
def settleAction (c : Classification) : Classification :=
  if observation.responseStarted || observation.downstreamStarted then
    { c with retryScope := .none, action := .complete }
  else if c.action = .complete && observation.retryable policy &&
      !(c.category = .badRequest || c.category = .authentication || c.category = .cancelled ||
        c.category = .quota || c.category = .fatal) then
    { c with action := .exhaust }
  else c

/-- The last corrections of the evidence class. -/
def settleEvidence (evidence : String) : String :=
  let evidence :=
    if isWireRejectionSignal observation.signalText && observation.alternateWireAvailable then
      wireEvidenceClass observation.signalText
    else evidence
  if observation.source = .providerResponse && observation.status.isNone &&
      evidence = "provider_response" then "provider_response_unknown"
  else evidence

def classify : FailureEffects :=
  let c := observation.settleAction policy (observation.classifyBranch policy)
  let circuitPenalty := c.circuitEffect ≠ "none"
  { category := c.category
    retryScope := c.retryScope
    action := c.action
    applyAccountPenalty := c.accountEffect ≠ "none"
    quarantineModel := c.modelEffect = "quarantine"
    persistBackoff := c.persistBackoff
    retry := c.action = .retryAccount || c.action = .retryWire || c.action = .waitRateLimit
    clientOutcome := c.clientOutcome
    accountEffect := c.accountEffect
    modelEffect := c.modelEffect
    circuitEffect := c.circuitEffect
    wireEffect := c.wireEffect
    backoffReason := c.backoffReason.map BackoffReason.asStr
    retryAfter := observation.retryAfter.map (min · policy.maxRetryAfter)
    backoffUntil := c.backoffUntil
    retryAction := c.action.label
    retryScopeLabel := c.retryScope.label
    evidenceClass := observation.settleEvidence c.evidenceClass
    circuitPenalty := circuitPenalty
    releaseProbeOnly := !circuitPenalty && c.accountEffect = "none" && c.modelEffect = "none" &&
      !c.persistBackoff
    providerAttributable := c.providerAttributable
    downstreamStarted := observation.downstreamStarted || observation.responseStarted }

/-! ## Evidence classes are lower case -/

/-- The text begins with a lower-case letter. -/
def startsLower (text : String) : Bool := text.toList.head?.any Char.isLower

variable {observation policy}

@[simp]
theorem evidenceClass_retrying (c : Classification) (r : Bool) (s : RetryScope) (a : NextAction) :
    (c.retrying r s a).evidenceClass = c.evidenceClass := by
  unfold Classification.retrying
  split <;> rfl

@[simp]
theorem evidenceClass_settleAction (c : Classification) :
    (observation.settleAction policy c).evidenceClass = c.evidenceClass := by
  unfold settleAction
  split
  · rfl
  split <;> rfl

theorem startsLower_ite {c : Prop} [Decidable c] {a b : String} (ha : startsLower a = true)
    (hb : startsLower b = true) : startsLower (if c then a else b) = true := by
  split
  · exact ha
  · exact hb

theorem startsLower_wireEvidenceClass (s : String) : startsLower (wireEvidenceClass s) = true:= by
  refine startsLower_ite ?_ <| startsLower_ite ?_ <| startsLower_ite ?_ <| startsLower_ite ?_ ?_
  all_goals decide +kernel

theorem startsLower_sourceEvidence : startsLower observation.sourceEvidence = true := by
  unfold sourceEvidence
  split <;> decide +kernel

theorem startsLower_classifyResponse :
    startsLower (observation.classifyResponse policy).evidenceClass = true := by
  -- in every arm the class is a fixed text, a wire class, a status text, or the first one
  have hs (n : Nat) : startsLower ("http_" ++ toString n ++ "_server_error") = true := by
    simp [startsLower]
  simp only [classifyResponse, apply_ite Classification.evidenceClass, evidenceClass_retrying]
  refine startsLower_ite ?_ <| startsLower_ite startsLower_sourceEvidence <|
    startsLower_ite ?_ <| startsLower_ite ?_ <| startsLower_ite ?_ <| startsLower_ite ?_ <|
    startsLower_ite ?_ <| startsLower_ite ?_ <|
    startsLower_ite (startsLower_wireEvidenceClass _) <|
    startsLower_ite ?_ <| startsLower_ite ?_ <| startsLower_ite ?_ <|
    startsLower_ite (hs _) startsLower_sourceEvidence
  all_goals decide +kernel

theorem startsLower_classifyBranch :
    startsLower (observation.classifyBranch policy).evidenceClass = true := by
  unfold classifyBranch
  split
  · exact startsLower_sourceEvidence
  split
  · rw [evidenceClass_retrying]
    exact startsLower_sourceEvidence
  split
  · rw [evidenceClass_retrying]
    exact startsLower_sourceEvidence
  · exact startsLower_classifyResponse

/-- **An evidence class begins with a lower-case letter.** -/
theorem evidence_startsLower : startsLower (observation.classify policy).evidenceClass = true := by
  show startsLower (observation.settleEvidence
    (observation.settleAction policy (observation.classifyBranch policy)).evidenceClass) = true
  rw [evidenceClass_settleAction]
  refine startsLower_ite (by decide +kernel) (startsLower_ite ?_ ?_)
  · exact startsLower_wireEvidenceClass _
  · exact startsLower_classifyBranch

/-! ## A retry needs an attempt that is left -/

/-- Nothing is retried, or another attempt is allowed. -/
def Allowed (observation : FailureObservation) (policy : RetryPolicy) (c : Classification) : Prop :=
  c.action = .complete ∨ observation.retryable policy = true

theorem allowed_ite {p : Prop} [Decidable p] {a b : Classification}
    (ha : observation.Allowed policy a) (hb : observation.Allowed policy b) :
    observation.Allowed policy (if p then a else b) := by
  split
  · exact ha
  · exact hb

theorem allowed_retrying {c : Classification} (h : c.action = .complete) (s : RetryScope)
    (a : NextAction) :
    observation.Allowed policy (c.retrying (observation.retryable policy) s a) := by
  unfold Classification.retrying
  split
  · rename_i hr
    exact .inr hr
  · exact .inl h

theorem allowed_classifyBranch : observation.Allowed policy (observation.classifyBranch policy) := by
  refine allowed_ite (.inl rfl) <| allowed_ite (allowed_retrying rfl _ _) <|
    allowed_ite (allowed_retrying rfl _ _) ?_
  refine allowed_ite ?_ <| allowed_ite ?_ <| allowed_ite (.inl rfl) <| allowed_ite ?_ <|
    allowed_ite ?_ <| allowed_ite ?_ <| allowed_ite (.inl rfl) <| allowed_ite ?_ <|
    allowed_ite ?_ <| allowed_ite ?_ <| allowed_ite ?_ <| allowed_ite (.inl rfl) <|
    allowed_ite ?_ (.inl rfl)
  all_goals exact allowed_retrying rfl _ _

/-- **What is retried is within the attempts of the policy.** -/
theorem attemptNumber_lt_of_retry (h : (observation.classify policy).retry = true) :
    observation.attemptNumber < policy.maxAttempts := by
  have hall := @allowed_classifyBranch observation policy
  have hr : observation.retryable policy = true := by
    unfold classify settleAction at h
    dsimp only at h
    split at h
    · cases h
    split at h
    · cases h
    rcases hall with hc | ht
    · rw [hc] at h
      cases h
    · exact ht
  simp only [retryable, Bool.and_eq_true, decide_eq_true_eq] at hr
  exact hr.2

end FailureObservation

end EggPool.Coordinator
