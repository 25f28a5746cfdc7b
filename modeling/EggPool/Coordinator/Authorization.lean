import EggPool.Lib.Run
import EggPool.Coordinator.Endpoints

/-!
# Which provider a name ends up at

The policy is asked once about each name that leads to an upstream call: the name
the client wrote, the route an alias picked, the selector model of the alias. The
provider is chosen afterwards, by routing. When the name came with a suffix and
the policy saw it, routing is pinned to that provider and the answer stays true.
When the policy saw the bare name, routing may take any provider that has the
model, also one a rule denies together with that model.

`dispatches` collects the calls of one request with what the policy was asked
for each; `claims_allowed_iff` says when every account claimed for them is one
the policy allows.
-/

namespace EggPool.Coordinator

open EggPool.Lib EggPool.Policy EggPool.Routing RoutingState

/-- The routing facts of a body, whose other parts `inputs` holds. -/
def fromModelId (inputs : RoutingRequestFacts) (modelId : String) (knownProviders : List String) :
    RoutingRequestFacts :=
  let parsed := parseModelProvider modelId knownProviders
  { inputs with canonicalModelId := parsed.1, providerId := parsed.2 }

/-- An upstream call about to be routed, and the provider the policy was asked about. -/
structure Dispatch where
  facts : RoutingRequestFacts
  asked : Option String
deriving DecidableEq, Repr

namespace InferenceState

variable (state : InferenceState) (request : InferenceRequest) (inputs : RoutingRequestFacts)

/--
The facts of a call for a body with this `model` field, pinned as resolution says.
Both coordinators refuse facts whose model is not the body's.
-/
def routingFacts (bodyModel : String) (pin : Option String) :
    Except EndpointError RoutingRequestFacts :=
  let canonicalModel := trim bodyModel
  let facts := { fromModelId inputs canonicalModel state.knownProviders with providerId := pin }
  if facts.canonicalModelId ≠ canonicalModel then .error .admission else .ok facts

/-- The call `execute_selector` makes while an alias is resolved. -/
def selectorDispatch : Except EndpointError Dispatch := do
  let modelValue ← modelField request
  let policy ← state.policyFor request.userId
  state.directCheck policy modelValue
  match state.registry (trim modelValue) with
  | none => .error .internal
  | some router =>
    request.canonical
    state.ensureConcreteModelAllowed policy router.selectorModel
    if !request.consultsSelector || state.isVirtual router.selectorModel then .error .admission
    else
      let supplied := parseModelProvider router.selectorModel state.knownProviders
      let facts ← state.routingFacts inputs supplied.1 supplied.2
      return ⟨facts, (parseProviderQualifiedModel router.selectorModel state.knownProviders).2⟩

/-- The provider the last check of a resolution names. -/
def askedProvider (resolved : ResolvedInference) : Option String :=
  match resolved.virtualResolution with
  | none => resolved.providerId
  | some _ => (parseProviderQualifiedModel resolved.concreteModel state.knownProviders).2

/-- The call for the request itself. -/
def requestDispatch : Except EndpointError Dispatch := do
  let resolved ← state.resolveConcrete request
  let facts ← state.routingFacts inputs resolved.bodyModel resolved.providerId
  return ⟨facts, state.askedProvider resolved⟩

/-- Every upstream call made for a request, the selector's with its own inputs. -/
def dispatches (selectorInputs : RoutingRequestFacts) : List Dispatch :=
  (state.selectorDispatch request selectorInputs).toOption.toList ++
    (state.requestDispatch request inputs).toOption.toList

/-! ## What the policy was asked about each call -/

variable {state request inputs} {policy : ModelPolicySnapshot}

/-- Facts that pass the guard name a model that parses to itself. -/
theorem routingFacts_eq_ok {b : String} {pin : Option String} {f : RoutingRequestFacts}
    (h : state.routingFacts inputs b pin = .ok f) :
    parseProviderQualifiedModel f.canonicalModelId state.knownProviders =
        (f.canonicalModelId, none) ∧ f.canonicalModelId = trim b ∧ f.providerId = pin:= by
  unfold routingFacts fromModelId at h
  dsimp only at h
  split at h
  · cases h
  rename_i hg
  rw [parseModelProvider_eq, not_not] at hg
  rw [parseModelProvider_eq, hg, Except.ok.injEq] at h
  rw [← h]
  exact ⟨parse_eq_self_iff.mp hg, rfl, rfl⟩

/-- The selector model is called where the policy allowed it. -/
theorem selectorDispatch_eq_ok {d : Dispatch}
    (hl : state.policyFor request.userId = .ok (some policy))
    (h : state.selectorDispatch request inputs = .ok d) :
    policy.allows d.facts.canonicalModelId d.asked = true ∧ d.asked = d.facts.providerId := by
  unfold selectorDispatch at h
  obtain ⟨mv, _, h⟩ := bind_eq_ok.mp h
  obtain ⟨policy?, hr, h⟩ := bind_eq_ok.mp h
  obtain rfl : some policy = policy? := Except.ok.inj (hl.symm.trans hr)
  obtain ⟨_, _, h⟩ := bind_eq_ok.mp h
  split at h
  · cases h
  obtain ⟨_, _, h⟩ := bind_eq_ok.mp h
  obtain ⟨_, hc, h⟩ := bind_eq_ok.mp h
  split at h
  · cases h
  obtain ⟨facts, hf, h⟩ := bind_eq_ok.mp h
  obtain ⟨_, hm, hp⟩ := routingFacts_eq_ok hf
  rw [parseModelProvider_eq, parse_fst_trimmed] at hm
  rw [parseModelProvider_eq] at hp
  rw [← Except.ok.inj h, hm]
  exact ⟨ensureConcreteModelAllowed_eq_ok.mp hc, hp.symm⟩

/-- What resolution checked last: the name as written, or the route without its suffix. -/
theorem resolveConcrete_eq_ok {resolved : ResolvedInference}
    (hp : state.policyFor request.userId = .ok (some policy))
    (h : state.resolveConcrete request = .ok resolved) :
    trim resolved.bodyModel = resolved.concreteModel ∧ ((resolved.virtualResolution = none ∧
        policy.allows resolved.concreteModel resolved.providerId = true) ∨
      (resolved.virtualResolution.isSome = true ∧
        state.ensureConcreteModelAllowed (some policy) resolved.concreteModel = .ok ())) := by
  unfold resolveConcrete at h
  obtain ⟨mv, _, h⟩ := bind_eq_ok.mp h
  obtain ⟨policy?, hre, h⟩ := bind_eq_ok.mp h
  obtain rfl : some policy = policy? := Except.ok.inj (hp.symm.trans hre)
  obtain ⟨_, hc, h⟩ := bind_eq_ok.mp h
  split at h
  · -- an alias
    unfold resolveVirtual at h
    simp only [bind_eq_ok] at h
    obtain ⟨_, _, _, _, sel, _, found, hf, _, hro, ht⟩ := h
    have hr : found = resolved := Except.ok.inj ht
    subst hr
    obtain ⟨route, _, _, _, _, hb, hn, _, ha⟩ := finishVirtualResolution_eq_ok hf
    refine ⟨?_, .inr ⟨ha, hro⟩⟩
    rw [hb, hn, parse_fst_trimmed]
  · -- a concrete name
    have hr := Except.ok.inj h
    rw [← hr]
    dsimp only
    refine ⟨?_, .inl ⟨rfl, ensureModelAllowed_eq_ok.mp hc⟩⟩
    split
    · exact parse_fst_trimmed mv state.knownProviders
    · rename_i hs
      exact (not_not.mp hs).symm

/-- The request is called with an answer for its provider, or with one for the bare model. -/
theorem requestDispatch_eq_ok {d : Dispatch}
    (hy : state.policyFor request.userId = .ok (some policy))
    (h : state.requestDispatch request inputs = .ok d) :
    policy.allows d.facts.canonicalModelId d.asked = true ∧
      (d.asked = none ∨ d.asked = d.facts.providerId) := by
  unfold requestDispatch at h
  simp only [bind_eq_ok] at h
  obtain ⟨res, hr, facts, hf, h⟩ := h
  obtain ⟨hb, hc⟩ := resolveConcrete_eq_ok hy hr
  obtain ⟨hs, hl, hp⟩ := routingFacts_eq_ok hf
  rw [hb] at hl
  rw [← Except.ok.inj h, hl, hp]
  rcases hc with ⟨hdi, hw⟩ | ⟨ha, hw⟩
  · have hk : state.askedProvider res = res.providerId := by
      simp only [askedProvider, hdi]
    rw [hk]
    exact ⟨hw, .inr rfl⟩
  · -- the guard has made sure that the route has no second suffix
    rw [hl] at hs
    have hk : state.askedProvider res = none := by
      obtain ⟨rsl, hm⟩ := Option.isSome_iff_exists.mp ha
      simp only [askedProvider, hm, hs]
    rw [ensureConcreteModelAllowed_eq_ok, hs] at hw
    rw [hk]
    exact ⟨hw, .inl rfl⟩

/-- **Every call was allowed by the policy: for the provider it is pinned to, or for no provider.** -/
theorem allowed_of_mem_dispatches {selectorInputs : RoutingRequestFacts} {d : Dispatch}
    (hp : state.policyFor request.userId = .ok (some policy))
    (h : d ∈ state.dispatches request inputs selectorInputs) :
    policy.allows d.facts.canonicalModelId d.asked = true ∧
      (d.asked = none ∨ d.asked = d.facts.providerId) := by
  rcases List.mem_append.mp h with h | h
  · cases hs : state.selectorDispatch request selectorInputs with
    | error e => rw [hs] at h; cases h
    | ok d' =>
      rw [hs] at h
      obtain rfl := List.mem_singleton.mp h
      obtain ⟨hl, ha⟩ := selectorDispatch_eq_ok hp hs
      exact ⟨hl, .inr ha⟩
  · cases hr : state.requestDispatch request inputs with
    | error e => rw [hr] at h; cases h
    | ok d' =>
      rw [hr] at h
      obtain rfl := List.mem_singleton.mp h
      exact requestDispatch_eq_ok hp hr

variable {env : RoutingState} {selectorInputs : RoutingRequestFacts}

/-- A call the policy allowed for its provider only claims accounts of that provider. -/
theorem allows_of_asked {d : Dispatch} {c : RoutingCandidate} {provider : String}
    (hl : policy.allows d.facts.canonicalModelId d.asked = true)
    (ha : d.asked = d.facts.providerId) (hs : d.asked = some provider)
    (hc : c ∈ env.claimable d.facts) :
    policy.allows d.facts.canonicalModelId (some c.providerId) = true := by
  have hp : d.facts.providerId = some provider := by rw [← ha, hs]
  have hc' := (List.mem_filter.mp hc).1
  rw [providerId_of_pinned hc' hp, ← hs]
  exact hl

/--
**Every account claimed for a request belongs to a provider the snapshot allows
the model with, if and only if no call that was allowed by its bare name can reach
an account whose provider a rule denies together with the model.**
-/
theorem claims_allowed_iff (hpolicy : state.policyFor request.userId = .ok (some policy)) :
    (∀ d ∈ state.dispatches request inputs selectorInputs,
      ∀ claimId excludeAccounts preferredAccount claim,
        env.selectAndClaim d.facts claimId excludeAccounts preferredAccount = some claim →
        policy.allows claim.canonicalModelId (some claim.providerId) = true) ↔
    ∀ d ∈ state.dispatches request inputs selectorInputs, d.asked = none →
      ∀ c ∈ env.claimable d.facts,
        policy.qualifiedVerdict d.facts.canonicalModelId c.providerId ≠ some false := by
  constructor
  · intro h d hd hbare c hc
    obtain ⟨hallowed, _⟩ := allowed_of_mem_dispatches hpolicy hd
    rw [hbare] at hallowed
    have hclaim := h d hd 0 [] (some c.accountName) _ (selectAndClaim_preferred hc 0)
    have hmodel : c.canonicalModelId = d.facts.canonicalModelId := by
      obtain ⟨_, _, _, _, _, hmodel⟩ := mem_buildEligibleCandidates (List.mem_filter.mp hc).1
      exact hmodel
    rw [← ModelPolicySnapshot.allows_some_iff_of_allows hallowed, ← hmodel]
    exact hclaim
  · intro h d hd claimId excludeAccounts preferredAccount claim hclaim
    obtain ⟨c, hc, rfl⟩ := selectAndClaim_eq_some hclaim
    obtain ⟨_, _, _, _, _, hmodel⟩ := mem_buildEligibleCandidates (List.mem_filter.mp hc).1
    obtain ⟨hallowed, hasked⟩ := allowed_of_mem_dispatches hpolicy hd
    show policy.allows c.canonicalModelId (some c.providerId) = true
    rw [hmodel]
    cases hsome : d.asked with
    | none =>
      rw [hsome] at hallowed
      exact (ModelPolicySnapshot.allows_some_iff_of_allows hallowed).mpr (h d hd hsome c hc)
    | some provider =>
      have hpinned : d.asked = d.facts.providerId := by
        rcases hasked with hnone | hpinned
        · rw [hnone] at hsome
          cases hsome
        · exact hpinned
      exact allows_of_asked hallowed hpinned hsome hc

/-- One healthy account, at the provider `p`, that has every model. -/
def onlyProviderP : RoutingState where
  registry := ⟨[⟨1, "a", "p", true, true, 0, ["openai"], []⟩], List.pairwise_singleton _ _⟩
  getProviderModel := fun _ _ => none
  accountSupportsModel := fun _ _ => true
  accountModelIsFresh := fun _ _ _ => true
  health := some ⟨fun _ _ => true, fun _ => none, fun _ _ => true⟩
  quarantine := none
  withinLimits := fun _ => none
  quotaMode := .scoreOnly
  capabilityPolicy := []
  validScore := fun _ => true
  order := id
  order_perm := fun _ => List.Perm.refl _
  estimateCost := fun _ _ _ _ => 0

def bareRequest : InferenceRequest := { autoRequest with model := some "m" }

def pinnedRequest : InferenceRequest := { autoRequest with model := some "n/p" }

def plainInputs : RoutingRequestFacts := { canonicalModelId := "" }

/-- A request pinned by its own suffix leaves nothing to a bare name. -/
theorem claims_allowed_when_pinned :
    autoState.policyFor pinnedRequest.userId = .ok (some pairDenied) ∧
      ∀ d ∈ autoState.dispatches pinnedRequest plainInputs plainInputs,
        ∀ claimId excludeAccounts preferredAccount claim,
          onlyProviderP.selectAndClaim d.facts claimId excludeAccounts preferredAccount
            = some claim →
          pairDenied.allows claim.canonicalModelId (some claim.providerId) = true :=
  ⟨rfl, (claims_allowed_iff rfl).mpr (by decide +kernel)⟩

/-- The model `m` is claimed at `p`, which an instance denial forbids. -/
theorem denied_pair_is_claimed :
    ∃ d ∈ autoState.dispatches bareRequest plainInputs plainInputs,
      ∃ claim, onlyProviderP.selectAndClaim d.facts 0 [] none = some claim ∧
        pairDenied.instanceDenials (qualify claim.canonicalModelId claim.providerId) = true ∧
        pairDenied.allows claim.canonicalModelId (some claim.providerId) = false := by
  have hcall : autoState.dispatches bareRequest plainInputs plainInputs =
      [⟨{ plainInputs with canonicalModelId := "m" }, none⟩] := by decide +kernel
  exact ⟨_, List.mem_singleton.mpr rfl, _, rfl, by decide +kernel, by decide +kernel⟩

end InferenceState

end EggPool.Coordinator
