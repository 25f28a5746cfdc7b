import EggPool.Coordinator.Endpoints

/-!
# What discovery shows

Discovery lists the catalog ids a policy allows, and the aliases. It reads an id as a model at
the provider behind its last slash, whatever stands there; a request for the same id finds a
provider there only if it is a known one. So an id with a slash and no known provider is shown
by the rules of its base, and served by its own.
-/

namespace EggPool.Policy

open EggPool.Lib

namespace ModelPolicySnapshot

variable (policy : ModelPolicySnapshot)

def allowsCatalogId (publicId : String) : Bool :=
  match rsplitOnce publicId '/' with
  | some (modelId, providerId) => policy.allows modelId (some providerId)
  | none => policy.allows publicId none

/--
The verdict of the rules keyed by the base of an id, where they get to decide: an
instance denial, else the user's override if there is none for the id, else the
profile's rule if there is none for the id either.
-/
def baseVerdict (base id : String) : Option Bool :=
  if policy.instanceDenials base then some false
  else if (policy.userOverrides id).isSome then none
  else
    match policy.userOverrides base with
    | some effect => some (effect = .allow)
    | none =>
      if (policy.profileRules id).isSome then none
      else (policy.profileRules base).map (· = .allow)

variable {policy}

/-- **The answer for a pair is the answer for its name, unless a rule for the base decides.** -/
theorem allows_some_qualified (base provider : String) :
    policy.allows base (some provider) = (!policy.instanceDenials (qualify base provider) &&
      (policy.baseVerdict base (qualify base provider)).getD
        (policy.allows (qualify base provider) none)) := by
  unfold allows baseVerdict exactEffect
  simp only [Option.map_some, Option.any_some, Option.bind_some, Option.map_none, Option.any_none,
    Option.bind_none, Option.none_or, Bool.or_false]
  cases policy.instanceDenials (qualify base provider) with
  | true => simp
  | false =>
    cases policy.instanceDenials base with
    | true => simp
    | false =>
      cases policy.userOverrides (qualify base provider) with
      | some effect => simp
      | none =>
        cases policy.userOverrides base with
        | some effect => simp
        | none =>
          cases policy.profileRules (qualify base provider) with
          | some effect => simp
          | none => cases policy.profileRules base <;> simp

end ModelPolicySnapshot

end EggPool.Policy

namespace EggPool.Coordinator

open EggPool.Lib EggPool.Policy ModelPolicySnapshot

namespace InferenceState

variable (state : InferenceState) (policy : ModelPolicySnapshot)

def policyAllowsModelReference (modelName : String) : Bool :=
  let parsed := parseProviderQualifiedModel modelName state.knownProviders
  policy.allows parsed.1 parsed.2

/-- The aliases a user may ask for, of those in the registry; `routes` are the routes of one. -/
def authorizedVirtualModelIds (virtualModelIds : List String)
    (routes : CompiledModelRouter → List CompiledModelRoute) : List String :=
  virtualModelIds.filter fun modelId =>
    match state.registry modelId with
    | none => false
    | some router => policy.allows modelId none &&
      state.policyAllowsModelReference policy router.selectorModel &&
      (routes router).any fun route => state.policyAllowsModelReference policy route.model

def authorizedDiscoveryModelIds (catalogModelIds virtualModelIds : List String)
    (routes : CompiledModelRouter → List CompiledModelRoute) : List String :=
  ((catalogModelIds.filter policy.allowsCatalogId ++
    state.authorizedVirtualModelIds policy virtualModelIds routes).insertionSort (· ≤ ·)).dedup

/--
The two readings of an id agree. They ask the same, as for an id without blanks that has no
slash or ends in a known provider. Or the request asks for the id as it stands, and no rule for
its base decides against the answer; or blanks make two questions of the id, and both have the
same answer.
-/
def discoveryAgrees (id : String) : Bool :=
  let asked := parseProviderQualifiedModel id state.knownProviders
  match rsplitOnce id '/' with
  | none => asked = (id, none) || policy.allows id none = policy.allows asked.1 asked.2
  | some (base, suffix) =>
    if asked = (id, none) then
      policy.instanceDenials id || (policy.baseVerdict base id).all (· = policy.allows id none)
    else
      asked = (base, some suffix) ||
        policy.allows base (some suffix) = policy.allows asked.1 asked.2

variable {state policy} {id : String}

theorem discoveryAgrees_iff : state.discoveryAgrees policy id = true ↔
    (policy.allowsCatalogId id = true ↔ state.directCheck (some policy) id = .ok ()) := by
  rw [directCheck, ensureModelAllowed_eq_ok, ← Bool.eq_iff_iff, discoveryAgrees, allowsCatalogId]
  generalize parseProviderQualifiedModel id state.knownProviders = asked
  cases hs : rsplitOnce id '/' with
  | none =>
    simp only [Bool.or_eq_true, decide_eq_true_eq]
    exact or_iff_right_of_imp fun h => by rw [h]
  | some parts =>
    obtain ⟨base, suffix⟩ := parts
    dsimp only
    split
    · rename_i ha
      -- the pair that discovery asks for has the name of the id
      have hq : qualify base suffix = id := by
        rw [← String.toList_inj, ← append_of_rsplitOnce hs]
        simp [qualify]
      rw [ha, allows_some_qualified, hq]
      exact (eq_getD_iff not_denied_of_allows).symm.trans eq_comm
    · simp only [Bool.or_eq_true, decide_eq_true_eq]
      exact or_iff_right_of_imp fun h => by rw [h]

variable {catalogModelIds virtualModelIds : List String}
  {routes : CompiledModelRouter → List CompiledModelRoute}

theorem mem_authorizedDiscoveryModelIds (h : state.isVirtual id = false) :
    id ∈ state.authorizedDiscoveryModelIds policy catalogModelIds virtualModelIds routes ↔
      id ∈ catalogModelIds ∧ policy.allowsCatalogId id = true := by
  rw [authorizedDiscoveryModelIds, List.mem_dedup, List.mem_insertionSort, List.mem_append,
    List.mem_filter]
  refine or_iff_left fun hv => ?_
  have hr : state.registry id = none := by simpa [isVirtual] using h
  have ha := (List.mem_filter.mp hv).2
  rw [hr] at ha
  cases ha

/-- **Discovery shows the models a user can call, and no others, exactly if the two readings of
every id agree.** -/
theorem discovery_matches_requests_iff (state : InferenceState) (policy : ModelPolicySnapshot)
    (catalogModelIds virtualModelIds : List String)
    (routes : CompiledModelRouter → List CompiledModelRoute) :
    (∀ id ∈ catalogModelIds, state.isVirtual id = false →
      (id ∈ state.authorizedDiscoveryModelIds policy catalogModelIds virtualModelIds routes ↔
        state.directCheck (some policy) id = .ok ())) ↔
    ∀ id ∈ catalogModelIds, state.isVirtual id = false →
      state.discoveryAgrees policy id = true := by
  refine forall₃_congr fun id hid hv => ?_
  rw [mem_authorizedDiscoveryModelIds hv, and_iff_right hid, discoveryAgrees_iff]

/-- Everything is allowed except the model `meta`. -/
def metaDenied : ModelPolicySnapshot := { pairDenied with instanceDenials := (· = "meta") }

/-- A model with a slash in its name is hidden with `meta`, and can be called. -/
theorem discovery_hides_allowed_model : autoState.isVirtual "meta/llama" = false ∧
    "meta/llama" ∉ autoState.authorizedDiscoveryModelIds metaDenied ["meta/llama"] [] (fun _ => []) ∧
    autoState.directCheck (some metaDenied) "meta/llama" = .ok () := by
  decide +kernel

end InferenceState

end EggPool.Coordinator
