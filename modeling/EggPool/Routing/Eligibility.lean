import EggPool.Routing.Claim

/-!
# Which accounts a request can be routed to

An account has to pass a row of gates; the first one that stops it gives the
reason recorded for its exclusion. What passes is scored, put in order and tried
until a health probe is granted.

The catalog, the health manager, the quarantine and the quota estimator are read
through lookups. Scores are floating point numbers: they enter as the candidates
they leave valid and as the order they induce, of which only that it is an order
of the same candidates is assumed.

`selectAndClaim_eq_some` and `selectAndClaim_preferred` say which accounts can be
claimed: exactly the claimable ones.
-/

namespace EggPool.Routing

open EggPool.Lib List

inductive CapabilityStatus
  | supported | unsupported | unknown | mixed | conflicting
deriving DecidableEq, Repr

structure ThinkingCapability where
  status : CapabilityStatus
  supportedEfforts : List String
  (toggle effort budget : CapabilityStatus)
  (budgetTokensMin budgetTokensMax : Option Nat)
deriving DecidableEq, Repr

structure ProviderModelIdentity where
  modelId : String
  protocol : Option String
  thinking : ThinkingCapability
deriving DecidableEq, Repr

structure ThinkingRequirement where
  requested : Bool
  requestedToggle : Option Bool
  effort : Option String
  budgetTokens : Option Nat
  explicitDisable : Bool
deriving DecidableEq, Repr

/-- A configured action per capability problem; an absent one rejects. -/
abbrev CapabilityPolicy := List (String × String)

structure RoutingRequestFacts where
  canonicalModelId : String
  (providerId requestedProtocol clientProtocol : Option String := none)
  requestSurface : String := "chat_completions"
  transcodeProtocols : List String := []
  projectedTokens : Int := 0
  catalogStaleAfterS : Option Int := none
  thinking : Option ThinkingRequirement := none
  capabilityPolicy : CapabilityPolicy := []
  now : Int := 0
deriving DecidableEq, Repr

structure AccountIdentity where
  accountId : Int
  (accountName providerId : String)
  (enabled hasUsableCredentials : Bool)
  routingPriority : Nat
  (supportedProtocols supportedRequestSurfaces : List String)
deriving DecidableEq, Repr

structure RoutingCandidate where
  (accountName providerId canonicalModelId upstreamModelId : String)
  protocol : Option String
  priority : Nat
  requiresTranscode : Bool
deriving DecidableEq, Repr

inductive LocalQuotaMode
  | scoreOnly | hardCap
deriving DecidableEq, Repr

/-- The health manager, as routing reads it. -/
structure HealthManager where
  isModelHealthyReadOnly : String → String → Bool
  healthState : String → Option String
  tryAcquireRequest : String → String → Bool

structure QuarantineKey where
  (providerId accountName canonicalModelId : String)
  upstreamModelId : Option String
  upstreamProtocol : String
  now : Int
deriving DecidableEq, Repr

/-- What a selection reads. -/
structure RoutingState where
  registry : Table AccountIdentity.accountName
  getProviderModel : String → String → Option ProviderModelIdentity
  accountSupportsModel : String → String → Bool
  accountModelIsFresh : String → Int → Int → Bool
  health : Option HealthManager
  quarantine : Option (QuarantineKey → Bool)
  /-- `is_within_limits` of an account's quota record, at a time and for some tokens. -/
  withinLimits : String → Option (Int → Int → Bool)
  quotaMode : LocalQuotaMode
  capabilityPolicy : CapabilityPolicy
  /-- The score is eligible and finite. -/
  validScore : RoutingCandidate → Bool
  /-- Priority, score, native preference, name, then the fairness rotation. -/
  order : List RoutingCandidate → List RoutingCandidate
  order_perm : ∀ l, (order l).Perm l
  estimateCost : String → String → Int → Int → Int

/-! ## Thinking controls -/

def eqIgnoreAsciiCase (a b : String) : Bool :=
  a.toList.map Char.toLower = b.toList.map Char.toLower

variable (policy : CapabilityPolicy)

/-- The policy rejects: the action is absent or `reject`. -/
def rejects (key : String) : Bool :=
  (policy.lookup key).all (· = "reject")

def controlExclusion (status : CapabilityStatus) (unsupported unknown : String) : Option String :=
  match status with
  | .unsupported => if rejects policy "unsupported_control" then some unsupported else none
  | .unknown => if rejects policy "unknown_thinking" then some unknown else none
  | .conflicting => some "thinking_conflicting"
  | .supported | .mixed => none

def statusExclusion : CapabilityStatus → Option String
  | .unsupported => if rejects policy "unsupported_thinking" then some "thinking_unsupported" else none
  | .unknown => if rejects policy "unknown_thinking" then some "thinking_unknown" else none
  | .conflicting => some "thinking_conflicting"
  | .mixed => if rejects policy "mixed_thinking" then some "thinking_conflicting" else none
  | .supported => none

def effortExclusion (capability : ThinkingCapability) (effort : String) : Option String :=
  (controlExclusion policy capability.effort "thinking_effort_unsupported"
    "thinking_effort_unknown").or
  (if capability.effort = .supported && !capability.supportedEfforts.isEmpty &&
      !capability.supportedEfforts.any (fun value => eqIgnoreAsciiCase value effort ||
        (eqIgnoreAsciiCase value "med" && eqIgnoreAsciiCase effort "medium")) then
    some "thinking_effort_unsupported" else none)

def budgetExclusion (capability : ThinkingCapability) (budget : Nat) : Option String :=
  (controlExclusion policy capability.budget "thinking_budget_unsupported"
    "thinking_budget_unknown").or
  (if capability.budget = .supported && (capability.budgetTokensMin.any (budget < ·) ||
      capability.budgetTokensMax.any (· < budget)) then
    some "thinking_budget_unsupported" else none)

def thinkingExclusion (entry : ProviderModelIdentity) (requirement : ThinkingRequirement)
    (policy : CapabilityPolicy) : Option String :=
  let capability := entry.thinking
  (if requirement.requested && !requirement.explicitDisable then
    statusExclusion policy capability.status else none).or <|
  (if requirement.requestedToggle.isSome then
    controlExclusion policy capability.toggle "thinking_toggle_unsupported"
      "thinking_toggle_unknown" else none).or <|
  (requirement.effort.bind (effortExclusion policy capability)).or <|
  requirement.budgetTokens.bind (budgetExclusion policy capability)

namespace RoutingState

variable (env : RoutingState) (identity : AccountIdentity) (facts : RoutingRequestFacts)

/-! ## The gates -/

def accountGate : Option String :=
  if !identity.enabled then some "disabled"
  else if !identity.hasUsableCredentials then some "auth_failed"
  else none

/-- A request pinned to a provider takes accounts of that provider only. -/
def providerGate : Option String :=
  if facts.providerId.any (· ≠ identity.providerId) then
    some (if identity.providerId = "" then "no_provider" else "wrong_provider")
  else none

def surfaceGate : Option String :=
  if facts.requestSurface ≠ "chat_completions" &&
      !identity.supportedRequestSurfaces.contains facts.requestSurface then some "no_surface"
  else none

def protocolGate : Option String :=
  if facts.requestedProtocol.any (fun requested =>
      !identity.supportedProtocols.contains requested &&
        !facts.transcodeProtocols.any identity.supportedProtocols.contains) then
    some "no_protocol"
  else none

def healthReason : Option String → String
  | some "authentication_failed" => "auth_failed"
  | some "quota_exhausted" => "quota_exhausted"
  | some "cooldown" => "cooldown"
  | some "rate_limited" => "rate_limited"
  | _ => "circuit_open"

def healthGate : Option String :=
  env.health.bind fun health =>
    if !health.isModelHealthyReadOnly identity.accountName facts.canonicalModelId then
      some (healthReason (health.healthState identity.accountName))
    else none

def providerModel : Option ProviderModelIdentity :=
  env.getProviderModel facts.canonicalModelId identity.providerId

/-- Quarantined under the catalog's upstream name, or under the canonical name alone. -/
def quarantineGate : Option String :=
  env.quarantine.bind fun isModelQuarantinedFor =>
    let entry := env.providerModel identity facts
    let key (upstreamModelId : Option String) : QuarantineKey := {
      providerId := identity.providerId
      accountName := identity.accountName
      canonicalModelId := facts.canonicalModelId
      upstreamModelId := upstreamModelId
      upstreamProtocol := ((entry.bind (·.protocol)).or facts.requestedProtocol).getD "unknown"
      now := facts.now }
    if entry.any (fun model => isModelQuarantinedFor (key (some model.modelId))) ||
        isModelQuarantinedFor (key none) then some "model_quarantined"
    else none

def catalogGate : Option String :=
  if !env.accountSupportsModel identity.accountName facts.canonicalModelId then some "no_model"
  else if facts.catalogStaleAfterS.any
      (fun ttl => !env.accountModelIsFresh identity.accountName ttl facts.now) then
    some "model_stale"
  else none

def thinkingGate : Option String :=
  let policy := if facts.capabilityPolicy.isEmpty then env.capabilityPolicy
    else facts.capabilityPolicy
  facts.thinking.bind fun requirement =>
    if requirement.requested && !requirement.explicitDisable then
      match env.providerModel identity facts with
      | some entry => thinkingExclusion entry requirement policy
      | none => some "thinking_unknown"
    else none

/-- An account with no quota record cannot be shown to be within its limits. -/
def quotaGate : Option String :=
  if env.quotaMode = .hardCap &&
      !(env.withinLimits identity.accountName).any (· facts.now facts.projectedTokens) then
    some "quota_exhausted"
  else none

def resolvedProtocol : Option String := (env.providerModel identity facts).bind (·.protocol)

/-- A catalog miss with a requested protocol must not pass as native. -/
def requiresTranscode : Bool :=
  if (env.resolvedProtocol identity facts).isNone && facts.requestedProtocol.isSome then true
  else facts.requestedProtocol.any fun requested =>
    (env.resolvedProtocol identity facts).any (· ≠ requested)

def transcodeGate : Option String :=
  if env.requiresTranscode identity facts &&
      facts.transcodeProtocols.all (fun protocol =>
        some protocol ≠ env.resolvedProtocol identity facts) then some "protocol_mismatch"
  else none

/-- The first gate that stops the account. -/
def exclusion : Option String :=
  (accountGate identity).or <| (providerGate identity facts).or <|
  (surfaceGate identity facts).or <| (protocolGate identity facts).or <|
  (env.healthGate identity facts).or <| (env.quarantineGate identity facts).or <|
  (env.catalogGate identity facts).or <| (env.thinkingGate identity facts).or <|
  (env.quotaGate identity facts).or <| env.transcodeGate identity facts

def candidateForAccount : Except String RoutingCandidate :=
  match env.exclusion identity facts with
  | some reason => .error reason
  | none => .ok {
      accountName := identity.accountName
      providerId := identity.providerId
      canonicalModelId := facts.canonicalModelId
      upstreamModelId := facts.canonicalModelId
      protocol := (env.resolvedProtocol identity facts).or facts.requestedProtocol
      priority := identity.routingPriority
      requiresTranscode := env.requiresTranscode identity facts }

/-! ## Selection -/

/-- The accounts that pass every gate and have a valid score. -/
def buildEligibleCandidates : List RoutingCandidate :=
  (env.registry.rows.filterMap fun identity => (env.candidateForAccount identity facts).toOption)
    |>.filter env.validScore

/-- Fail closed: without a health manager no account is taken to be healthy. -/
def probeAvailableReadOnly (candidate : RoutingCandidate) : Bool :=
  env.health.any fun health =>
    health.isModelHealthyReadOnly candidate.accountName facts.canonicalModelId

def acquireProbe (candidate : RoutingCandidate) : Bool :=
  env.health.all fun health =>
    health.tryAcquireRequest candidate.accountName facts.canonicalModelId

/-- The candidate a selection settles on. -/
def selectCandidate (excludeAccounts : List String) (preferredAccount : Option String) :
    Option RoutingCandidate :=
  let candidates := env.buildEligibleCandidates facts
    |>.filter (fun c => !excludeAccounts.contains c.accountName)
    |>.filter (fun c => preferredAccount.all (c.accountName = ·))
    |>.filter (env.probeAvailableReadOnly facts)
  (env.order candidates).find? (env.acquireProbe facts)

/-- The claim on a candidate, under the identifier the book gives it. -/
def claimFor (claimId : Nat) (candidate : RoutingCandidate) : SelectionClaim where
  id := claimId
  accountId := ((env.registry.get? candidate.accountName).map (·.accountId)).getD 0
  accountName := candidate.accountName
  providerId := candidate.providerId
  canonicalModelId := candidate.canonicalModelId
  protocol := candidate.protocol
  projectedTokens := max facts.projectedTokens 0
  projectedCostMicrodollars := env.estimateCost candidate.accountName facts.canonicalModelId
    (max facts.projectedTokens 0) facts.now

/-- `select_and_claim`, when the estimator and the book take the claim. -/
def selectAndClaim (claimId : Nat) (excludeAccounts : List String)
    (preferredAccount : Option String) : Option SelectionClaim :=
  (env.selectCandidate facts excludeAccounts preferredAccount).map (env.claimFor facts claimId)

/-! ## Who can be claimed -/

/-- Eligible, healthy, and granted a probe. -/
def claimable : List RoutingCandidate :=
  (env.buildEligibleCandidates facts).filter fun c =>
    env.probeAvailableReadOnly facts c && env.acquireProbe facts c

variable {env identity facts} {c : RoutingCandidate}

/-- A candidate is an account of the registry that nothing stopped. -/
theorem mem_buildEligibleCandidates (h : c ∈ env.buildEligibleCandidates facts) :
    ∃ identity ∈ env.registry.rows, env.exclusion identity facts = none ∧
      c.accountName = identity.accountName ∧ c.providerId = identity.providerId ∧
      c.canonicalModelId = facts.canonicalModelId := by
  obtain ⟨hmem, _⟩ := mem_filter.mp h
  obtain ⟨identity, hid, hc⟩ := mem_filterMap.mp hmem
  refine ⟨identity, hid, ?_⟩
  unfold candidateForAccount at hc
  cases hex : env.exclusion identity facts with
  | some reason => rw [hex] at hc; cases hc
  | none =>
    rw [hex] at hc
    cases hc
    exact ⟨rfl, rfl, rfl, rfl⟩

/-- **A pinned request only has candidates of its provider.** -/
theorem providerId_of_pinned (h : c ∈ env.buildEligibleCandidates facts) {provider : String}
    (hp : facts.providerId = some provider) : c.providerId = provider := by
  obtain ⟨identity, _, hex, _, hr, _⟩ := mem_buildEligibleCandidates h
  have hg : providerGate identity facts = none := by
    simp only [exclusion, Option.or_eq_none_iff] at hex
    exact hex.2.1
  simp only [providerGate, hp, Option.any_some, decide_eq_true_eq, ite_not] at hg
  split at hg
  · rename_i heq
    rw [hr, ← heq]
  · cases hg

theorem accountName_of_candidate {identity : AccountIdentity}
    (h : (env.candidateForAccount identity facts).toOption = some c) :
    c.accountName = identity.accountName := by
  unfold candidateForAccount at h
  split at h <;> cases h
  rfl

/-- No account is a candidate twice. -/
theorem buildEligibleCandidates_nodup :
    ((env.buildEligibleCandidates facts).map (·.accountName)).Nodup := by
  refine pairwise_map.mpr (List.Pairwise.filter _ (env.registry.sorted.filterMap _ ?_))
  intro identity ide' hlt c hc c' hc'
  rw [accountName_of_candidate hc, accountName_of_candidate hc']
  exact hlt.ne

/-- What is claimed is claimable, whoever was excluded or preferred. -/
theorem selectAndClaim_eq_some {ci : Nat} {ea : List String}
    {p : Option String} {cl : SelectionClaim} (h : env.selectAndClaim facts ci ea p = some cl) :
    ∃ c ∈ env.claimable facts, cl = env.claimFor facts ci c := by
  obtain ⟨c, hs, hc⟩ := Option.map_eq_some_iff.mp h
  refine ⟨c, ?_, hc.symm⟩
  have hp := find?_some hs
  have hmem := (env.order_perm _).mem_iff.mp (mem_of_find?_eq_some hs)
  simp only [mem_filter] at hmem
  exact mem_filter.mpr ⟨hmem.1.1.1, by simp [hmem.2, hp]⟩

/-- **And every claimable account is claimed by a selection that prefers it.** -/
theorem selectAndClaim_preferred (h : c ∈ env.claimable facts) (ci : Nat) :
    env.selectAndClaim facts ci [] (some c.accountName) = some (env.claimFor facts ci c) := by
  obtain ⟨hc, hr⟩ := mem_filter.mp h
  rw [Bool.and_eq_true] at hr
  rw [selectAndClaim, Option.map_eq_some_iff]
  refine ⟨c, ?_, rfl⟩
  -- whatever the search finds bears the preferred name, and there is something to find
  have hmem : c ∈ env.order (((env.buildEligibleCandidates facts).filter
      (fun c => !([] : List String).contains c.accountName)).filter
      (fun c' => (some c.accountName).all (c'.accountName = ·))
      |>.filter (env.probeAvailableReadOnly facts)) := by
    rw [(env.order_perm _).mem_iff]
    simp [hc, hr.1]
  cases hf : env.selectCandidate facts [] (some c.accountName) with
  | none =>
    have hno := find?_eq_none.mp hf c hmem
    exact absurd hr.2 hno
  | some c' =>
    have hmem' := (env.order_perm _).mem_iff.mp (mem_of_find?_eq_some hf)
    simp only [mem_filter, Option.all_some, decide_eq_true_eq] at hmem'
    rw [inj_on_of_nodup_map buildEligibleCandidates_nodup hmem'.1.1.1 hc hmem'.1.2]

end RoutingState

end EggPool.Routing
