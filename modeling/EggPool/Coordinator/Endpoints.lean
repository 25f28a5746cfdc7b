import EggPool.Policy.ModelPolicy
import EggPool.Routing.Eligibility

/-!
# Resolving a model name

A request names a concrete model or a virtual alias. A concrete name is checked
against the policy as it was written, suffix included; the suffix is then cut off
and stays as a routing pin. An alias is checked under its own name, its selector
model is checked, and the route that was picked is checked *after* its suffix was
cut off.

The first result compares that last check with the one a direct request for the
same route would meet.
-/

namespace EggPool.Coordinator

open EggPool.Lib EggPool.Policy EggPool.Routing

inductive EndpointError
  | missingModel | modelForbidden | principalChanged | admission | internal
deriving DecidableEq, Repr

inductive ModelPolicyError
  | userUnavailable | invalidPolicyInput | preferredModelDenied | defaultProfileNotFound | database
deriving DecidableEq, Repr

structure CompiledModelRoute where
  (routeId label model : String)
deriving DecidableEq, Repr

structure CompiledModelRouter where
  (virtualModel selectorModel : String)
  routeForId : String → Option CompiledModelRoute

inductive SelectionSource
  | selector | default
deriving DecidableEq, Repr

def SelectionSource.asStr : SelectionSource → String
  | .selector => "selector"
  | .default => "default"

/-- What the affinity cache or the selector settled on. -/
structure ModelSelection where
  (routeId routeLabel concreteModel : String)
  source : SelectionSource
  affinityHit : Bool
  selectorAttempts : Nat
deriving DecidableEq, Repr

structure VirtualResolution where
  (virtualModel routeId routeLabel concreteModel decisionSource : String)
  affinityHit : Bool
deriving DecidableEq, Repr

structure ResolvedInference where
  /-- The `model` field of the body that goes on. -/
  bodyModel : String
  concreteModel : String
  providerId : Option String
  virtualResolution : Option VirtualResolution
  selectorAttempts : Nat
deriving DecidableEq, Repr

structure InferenceState where
  knownProviders : List String
  /-- The virtual aliases. -/
  registry : String → Option CompiledModelRouter
  modelPolicy : Option (String → Except ModelPolicyError ModelPolicySnapshot)

/-- One request, with what the model-independent parts of its resolution return. -/
structure InferenceRequest where
  /-- The `model` field, if it is a string. -/
  model : Option String
  userId : Option String
  /-- The early canonical view of the body. -/
  canonical : Except EndpointError Unit
  /-- The affinity cache did not answer, so the selector model is called. -/
  consultsSelector : Bool
  /-- The route picked for an alias: by the cache, the selector, or its fallback. -/
  selection : Except EndpointError ModelSelection

namespace InferenceState

variable (state : InferenceState)

def isVirtual (modelId : String) : Bool := (state.registry modelId).isSome

def modelField (request : InferenceRequest) : Except EndpointError String :=
  match request.model with
  | some model => if trim model = "" then .error .missingModel else .ok model
  | none => .error .missingModel

/-- The snapshot an attributed request is held to; none for an unattributed one. -/
def policyFor (userId : Option String) : Except EndpointError (Option ModelPolicySnapshot) :=
  match userId with
  | none => .ok none
  | some userId =>
    match state.modelPolicy with
    | none => .error .internal
    | some snapshot =>
      match snapshot userId with
      | .ok policy => .ok (some policy)
      | .error .userUnavailable => .error .principalChanged
      | .error _ => .error .internal

variable (policy : Option ModelPolicySnapshot)

def ensureModelAllowed (modelId : String) (providerId : Option String) : Except EndpointError Unit:=
  if policy.any (fun policy => !policy.allows modelId providerId) then .error .modelForbidden
  else .ok ()

def ensureConcreteModelAllowed (modelName : String) : Except EndpointError Unit :=
  let parsed := parseProviderQualifiedModel modelName state.knownProviders
  ensureModelAllowed policy parsed.1 parsed.2

def finishVirtualResolution (router : CompiledModelRouter) (selection : ModelSelection) :
    Except EndpointError ResolvedInference :=
  if state.isVirtual selection.concreteModel then .error .admission
  else
    match router.routeForId selection.routeId with
    | none => .error .admission
    | some route =>
      if route.label ≠ selection.routeLabel || route.model ≠ selection.concreteModel then
        .error .admission
      else
        let parsed := parseProviderQualifiedModel selection.concreteModel state.knownProviders
        .ok {
          bodyModel := parsed.1
          concreteModel := parsed.1
          providerId := parsed.2
          virtualResolution := some {
            virtualModel := router.virtualModel
            routeId := selection.routeId
            routeLabel := selection.routeLabel
            concreteModel := selection.concreteModel
            decisionSource := selection.source.asStr
            affinityHit := selection.affinityHit }
          selectorAttempts := selection.selectorAttempts }

def resolveVirtual (request : InferenceRequest) (router : CompiledModelRouter)
    (policy : Option ModelPolicySnapshot) : Except EndpointError ResolvedInference := do
  request.canonical
  state.ensureConcreteModelAllowed policy router.selectorModel
  let selection ← request.selection
  let resolved ← state.finishVirtualResolution router selection
  -- the suffix is already gone from `concreteModel` here
  state.ensureConcreteModelAllowed policy resolved.concreteModel
  return resolved

/-- The policy check on the name a client wrote. -/
def directCheck (modelValue : String) : Except EndpointError Unit :=
  let requested := parseProviderQualifiedModel modelValue state.knownProviders
  ensureModelAllowed policy requested.1 requested.2

def resolveConcrete (request : InferenceRequest) : Except EndpointError ResolvedInference := do
  let modelValue ← modelField request
  let policy ← state.policyFor request.userId
  state.directCheck policy modelValue
  match state.registry (trim modelValue) with
  | some router => state.resolveVirtual request router policy
  | none =>
    let requested := parseProviderQualifiedModel modelValue state.knownProviders
    return {
      -- the body is only rewritten when the name changed
      bodyModel := if requested.1 ≠ trim modelValue then requested.1 else modelValue
      concreteModel := requested.1
      providerId := requested.2
      virtualResolution := none
      selectorAttempts := 0 }

/-! ## The check of a route and the check of its name -/

variable {state} {policy : ModelPolicySnapshot}

@[simp]
theorem isOk_ensureModelAllowed (m : String) (providerId : Option String) :
    (ensureModelAllowed (some policy) m providerId).isOk = policy.allows m providerId := by
  unfold ensureModelAllowed
  cases h : policy.allows m providerId <;> simp [h, Except.toBool]

theorem ensureModelAllowed_eq_ok {m : String} {p : Option String} :
    ensureModelAllowed (some policy) m p = .ok () ↔ policy.allows m p = true:= by
  unfold ensureModelAllowed
  cases h : policy.allows m p <;> simp [h]

theorem ensureConcreteModelAllowed_eq_ok {m : String} :
    state.ensureConcreteModelAllowed (some policy) m = .ok () ↔
      policy.allows (parseProviderQualifiedModel m state.knownProviders).1
        (parseProviderQualifiedModel m state.knownProviders).2 = true := by
  unfold ensureConcreteModelAllowed
  exact ensureModelAllowed_eq_ok

/-- What an alias resolves to once its route was found. -/
theorem finishVirtualResolution_eq_ok {router : CompiledModelRouter} {selection : ModelSelection}
    {r : ResolvedInference} (h : state.finishVirtualResolution router selection = .ok r) :
    ∃ route, router.routeForId selection.routeId = some route ∧
      route.label = selection.routeLabel ∧ route.model = selection.concreteModel ∧
      state.isVirtual route.model = false ∧ r.bodyModel = r.concreteModel ∧
      r.concreteModel = (parseProviderQualifiedModel route.model state.knownProviders).1 ∧
      r.providerId = (parseProviderQualifiedModel route.model state.knownProviders).2 ∧
      r.virtualResolution.isSome = true := by
  unfold finishVirtualResolution at h
  split at h
  · cases h
  rename_i hv
  split at h
  · cases h
  rename_i route hr
  split at h
  · cases h
  rename_i hm
  rw [Except.ok.injEq] at h
  simp only [Bool.or_eq_true, decide_eq_true_eq, not_or, not_not] at hm
  have hc : state.isVirtual route.model = false := by
    rw [hm.2]
    simpa using hv
  refine ⟨route, hr, hm.1, hm.2, hc, ?_⟩
  rw [← h, hm.2]
  exact ⟨rfl, rfl, rfl, rfl⟩

/-- The check an alias's route meets: the route's name without its suffix, parsed again. -/
theorem isOk_resolveVirtual {request : InferenceRequest} {router : CompiledModelRouter}
    {selection : ModelSelection} {route : CompiledModelRoute} (hn : request.canonical = .ok ())
    (hs : state.ensureConcreteModelAllowed (some policy) router.selectorModel = .ok ())
    (ht : request.selection = .ok selection) (hr : router.routeForId selection.routeId = some route)
    (hl : route.label = selection.routeLabel) (hm : route.model = selection.concreteModel)
    (hc : state.isVirtual route.model = false) :
    (state.resolveVirtual request router (some policy)).isOk =
      (state.ensureConcreteModelAllowed (some policy)
        (parseProviderQualifiedModel route.model state.knownProviders).1).isOk := by
  unfold resolveVirtual
  rw [hn, hs, ht]
  simp only [bind, Except.bind, finishVirtualResolution, hr, ← hl, ← hm, hc]
  simp only [Bool.false_eq_true, ne_eq, not_true_eq_false, decide_false, Bool.or_self, if_false]
  cases state.ensureConcreteModelAllowed (some policy)
    (parseProviderQualifiedModel route.model state.knownProviders).1 <;> rfl

variable (state policy) in
/--
Cutting the suffix off a reference loses no rule. Either there is no known suffix;
or no rule keyed by the base *and* its provider decides against what the base is
granted on its own; or, where the base ends in a known provider again, the two
different pairs the two readings ask for get the same answer.
-/
def suffixCarriesNoRule (reference : String) : Bool :=
  match parseProviderQualifiedModel reference state.knownProviders with
  | (_, none) => true
  | (base, some provider) =>
    match parseProviderQualifiedModel base state.knownProviders with
    | (_, none) => policy.instanceDenials base ||
        (policy.qualifiedVerdict base provider).all (· = policy.allows base none)
    | (inner, some next) => policy.allows base (some provider) = policy.allows inner (some next)

/-- Without a rule for the pair the two answers agree, and only then. -/
theorem allows_some_eq_iff {b p : String} :
    (policy.allows b none = policy.allows b (some p)) ↔ (policy.instanceDenials b ||
        (policy.qualifiedVerdict b p).all (· = policy.allows b none)) = true := by
  rw [ModelPolicySnapshot.allows_some]
  exact ModelPolicySnapshot.eq_getD_iff ModelPolicySnapshot.not_denied_of_allows

/-- **Checking a reference after its suffix is cut off agrees with checking it as written,
exactly when the suffix carries no rule.** -/
theorem stripped_check_agrees_iff (reference : String) :
    ((state.ensureConcreteModelAllowed (some policy)
        (parseProviderQualifiedModel reference state.knownProviders).1).isOk =
      (state.directCheck (some policy) reference).isOk) ↔
    state.suffixCarriesNoRule policy reference = true := by
  unfold ensureConcreteModelAllowed directCheck suffixCarriesNoRule
  rw [isOk_ensureModelAllowed, isOk_ensureModelAllowed]
  cases hp : parseProviderQualifiedModel reference state.knownProviders with
  | mk base provider? =>
    cases provider? with
    | none =>
      -- nothing was cut off, so the second parse repeats the first
      have hb : base = trim reference := by
        have := parse_of_unqualified (by rw [hp] :
          (parseProviderQualifiedModel reference state.knownProviders).2 = none)
        rw [hp] at this
        exact congrArg Prod.fst this
      have ha : parseProviderQualifiedModel base state.knownProviders = (base, none) := by
        rw [hb, parse_trim, hp, hb]
      simp [ha]
    | some pro =>
      have ht : trim base = base := by
        have := parse_fst_trimmed reference state.knownProviders
        rwa [hp] at this
      dsimp only
      cases ha : parseProviderQualifiedModel base state.knownProviders with
      | mk inner next? =>
        cases next? with
        | none =>
          have hi : inner = base := by
            have := parse_of_unqualified (by rw [ha] :
              (parseProviderQualifiedModel base state.knownProviders).2 = none)
            rw [ha, ht] at this
            exact congrArg Prod.fst this
          subst hi
          exact allows_some_eq_iff
        | some next =>
          rw [decide_eq_true_eq]
          exact eq_comm

variable {request : InferenceRequest} {router : CompiledModelRouter} {selection : ModelSelection}
  {route : CompiledModelRoute}

/--
**An alias's route is let through exactly when a direct request for the same
reference would be, if and only if the reference's suffix carries no rule.**

The hypotheses say that the request reaches the check: its body is readable, the
selector model is allowed, and the selection names a route of the router.
-/
theorem route_check_agrees_iff (hcanonical : request.canonical = .ok ())
    (hselector : state.ensureConcreteModelAllowed (some policy) router.selectorModel = .ok ())
    (hselection : request.selection = .ok selection)
    (hroute : router.routeForId selection.routeId = some route)
    (hlabel : route.label = selection.routeLabel) (hmodel : route.model = selection.concreteModel)
    (hconcrete : state.isVirtual route.model = false) :
    ((state.resolveVirtual request router (some policy)).isOk =
      (state.directCheck (some policy) route.model).isOk) ↔
    state.suffixCarriesNoRule policy route.model = true := by
  rw [isOk_resolveVirtual hcanonical hselector hselection hroute hlabel hmodel hconcrete]
  exact stripped_check_agrees_iff route.model

/-- Everything is allowed except the model `m` at the provider `p`. -/
def pairDenied : ModelPolicySnapshot where
  role := "member"
  defaultEffect := some .allow
  profileRules := fun _ => none
  userOverrides := fun _ => none
  instanceDenials := fun id => id = "m/p"

/-- The alias `auto` with the one route `m/p`. -/
def autoRouter : CompiledModelRouter where
  virtualModel := "auto"
  selectorModel := "s"
  routeForId := fun id => if id = "r" then some ⟨"r", "only", "m/p"⟩ else none

def autoState : InferenceState where
  knownProviders := ["p"]
  registry := fun id => if id = "auto" then some autoRouter else none
  modelPolicy := some (fun _ => .ok pairDenied)

def autoRequest : InferenceRequest where
  model := some "auto"
  userId := some "u"
  canonical := .ok ()
  consultsSelector := true
  selection := .ok ⟨"r", "only", "m/p", .selector, false, 1⟩

def pairAllowed : ModelPolicySnapshot := { pairDenied with instanceDenials := fun _ => false }

/-- Without the denial the two checks agree. -/
theorem route_check_agrees_without_rule :
    autoState.suffixCarriesNoRule pairAllowed "m/p" = true ∧
      (autoState.resolveVirtual autoRequest autoRouter (some pairAllowed)).isOk =
        (autoState.directCheck (some pairAllowed) "m/p").isOk :=
  have hrule : autoState.suffixCarriesNoRule pairAllowed "m/p" = true := by decide +kernel
  ⟨hrule, (@route_check_agrees_iff autoState pairAllowed autoRequest autoRouter
      ⟨"r", "only", "m/p", .selector, false, 1⟩ ⟨"r", "only", "m/p"⟩
      rfl (by decide +kernel) rfl (by decide) rfl rfl (by decide)).mpr hrule⟩

/-- The route `m/p` passes through the alias although a request for `m/p` is refused. -/
theorem route_check_misses_pair_denial :
    (autoState.resolveVirtual autoRequest autoRouter (some pairDenied)).isOk = true ∧
      autoState.directCheck (some pairDenied) "m/p" = .error .modelForbidden := by
  decide +kernel

end InferenceState

end EggPool.Coordinator
