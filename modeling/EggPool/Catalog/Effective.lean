import EggPool.Lib.OrdMap

/-!
# Effective limits and capabilities

What the catalog reports of a model for one provider and for all of them together. A
provider's answer applies its overrides to its row. The common answer takes the least limits
of the rows as they are and joins their reasoning efforts, so it is conservative exactly if no
override goes below all rows and the rows name the same efforts.
-/

namespace EggPool.Catalog

open EggPool.Lib List

inductive CapabilityStatus
  | supported | unsupported | unknown | mixed | conflicting
deriving DecidableEq

def CapabilityStatus.parse : String → CapabilityStatus
  | "supported" => .supported
  | "unsupported" => .unsupported
  | "mixed" => .mixed
  | "conflicting" => .conflicting
  | _ => .unknown

structure ThinkingCapability where
  status : CapabilityStatus
  source : String
  nativeProtocols : List String
  supportedEfforts : List String
  toggle : CapabilityStatus
  effort : CapabilityStatus
  budget : CapabilityStatus
  budgetTokensMin : Option Nat
  budgetTokensMax : Option Nat

structure ModelCapabilities where
  supportsTools : Option Bool
  supportsVision : Option Bool
  thinking : ThinkingCapability

/-- The limits of a model, each with its own field in every record that has limits. -/
inductive Limit
  | context | input | output

structure EffectiveModelLimits where
  tokens : Limit → Option Nat
  enforce : Bool
  source : Limit → String

/-- A row of `models` or of `provider_models`. -/
structure ModelIdentity where
  capabilities : ModelCapabilities
  limits : EffectiveModelLimits

structure ModelOverrideConfig where
  maxTokens : Limit → Option Nat
  enforceContextLimit : Bool

structure ThinkingCapabilityOverrideConfig where
  status : Option String
  source : Option String
  toggle : Option String
  effort : Option String
  budget : Option String

structure MediaCapabilityOverrideConfig where
  base64 : Option Bool
  url : Option Bool

structure ModelCapabilitiesOverrideConfig where
  thinking : Option ThinkingCapabilityOverrideConfig
  imageInput : Option MediaCapabilityOverrideConfig

/-- The overrides by model, for one provider or for all. -/
structure Overrides where
  modelOverrides : String → Option ModelOverrideConfig
  modelCapabilities : String → Option ModelCapabilitiesOverrideConfig

structure Config extends Overrides where
  providers : String → Option Overrides

/-- What the cache reads to answer. -/
structure CatalogView where
  models : OrdMap String ModelIdentity
  providerModels : OrdMap (String ×ₗ String) ModelIdentity
  config : Option Config

/-- The value all rows have in a field, or what stands for a disagreement. -/
def agreed {α β : Type} [DecidableEq β] (first : α) (rows : List α) (field : α → β) (mixed : β) : β :=
  if rows.all (field · = field first) then field first else mixed

/-- A sorted list without repetitions: a `BTreeSet`. -/
def sortedSet (values : List String) : List String := values.dedup.insertionSort (· ≤ ·)

def ModelCapabilities.aggregate (first : ModelCapabilities) (rows : List ModelCapabilities) :
    ModelCapabilities where
  supportsTools := agreed first rows (·.supportsTools) none
  supportsVision := agreed first rows (·.supportsVision) none
  thinking :=
    { status := if (rows.map (·.thinking.status)).dedup.length = 1 then first.thinking.status
        else .mixed
      source := "aggregate"
      nativeProtocols := sortedSet (rows.flatMap (·.thinking.nativeProtocols))
      supportedEfforts := sortedSet (rows.flatMap (·.thinking.supportedEfforts))
      toggle := agreed first rows (·.thinking.toggle) .unknown
      effort := agreed first rows (·.thinking.effort) .unknown
      budget := agreed first rows (·.thinking.budget) .unknown
      budgetTokensMin := (rows.filterMap (·.thinking.budgetTokensMin)).max?
      budgetTokensMax := (rows.filterMap (·.thinking.budgetTokensMax)).min? }

namespace CatalogView

variable (c : CatalogView) (model : String)

def providerOverride (provider : Option String) : Option Overrides :=
  provider.bind fun provider => c.config.bind fun config => config.providers provider

def applyOverrides (base : EffectiveModelLimits) (provider : Option String) :
    EffectiveModelLimits :=
  let own := (c.providerOverride provider).bind fun config => config.modelOverrides model
  let overall := c.config.bind fun config => config.modelOverrides model
  { tokens := fun limit => (own.bind (·.maxTokens limit)).or
      ((overall.bind (·.maxTokens limit)).or (base.tokens limit))
    source := fun limit =>
      if (own.bind (·.maxTokens limit)).isSome then "provider_override"
      else if (overall.bind (·.maxTokens limit)).isSome then "global_override"
      else base.source limit
    enforce := (own.or overall).elim base.enforce (·.enforceContextLimit) }

def applyCapabilityOverrides (base : ModelCapabilities) (provider : Option String) :
    ModelCapabilities :=
  match ((c.providerOverride provider).bind fun config => config.modelCapabilities model).or
      (c.config.bind fun config => config.modelCapabilities model) with
  | none => base
  | some override =>
    let thinking := match override.thinking with
      | none => base.thinking
      | some given => { base.thinking with
          status := given.status.elim base.thinking.status .parse
          source := given.source.getD base.thinking.source
          toggle := given.toggle.elim base.thinking.toggle .parse
          effort := given.effort.elim base.thinking.effort .parse
          budget := given.budget.elim base.thinking.budget .parse }
    { base with
      thinking := thinking
      supportsVision :=
        if override.imageInput.any fun image => image.base64 = some true || image.url = some true
        then some true else base.supportsVision }

/-- The provider rows of a model, by provider. -/
def rowsOf : List (String × ModelIdentity) :=
  c.providerModels.rows.filterMap fun row =>
    if (ofLex row.1).1 = model then some ((ofLex row.1).2, row.2) else none

def getEffectiveLimits : Option String → Option EffectiveModelLimits
  | some provider => (c.providerModels.lookup (toLex (model, provider))).map fun entry =>
      c.applyOverrides model entry.limits (some provider)
  | none =>
    let rows := (c.rowsOf model).map fun row => row.2.limits
    if rows.isEmpty then
      (c.models.lookup model).map fun entry => c.applyOverrides model entry.limits none
    else some (c.applyOverrides model
      { tokens := fun limit => (rows.filterMap (·.tokens limit)).min?
        enforce := rows.any (·.enforce)
        source := fun _ => "conservative" } none)

def getProviderCapabilities (provider : String) : Option ModelCapabilities :=
  (c.providerModels.lookup (toLex (model, provider))).map fun entry =>
    c.applyCapabilityOverrides model entry.capabilities (some provider)

/-- What each provider of the model answers. -/
def answers : List ModelCapabilities :=
  (c.rowsOf model).map fun row => c.applyCapabilityOverrides model row.2.capabilities (some row.1)

def getEffectiveCapabilities : Option String → Option ModelCapabilities
  | some provider => c.getProviderCapabilities model provider
  | none =>
    match c.answers model with
    | [] => (c.models.lookup model).map fun entry =>
        c.applyCapabilityOverrides model entry.capabilities none
    | first :: rest => some (.aggregate first (first :: rest))

end CatalogView

/-! ## Conservative answers -/

/-- What can be reported as supported. -/
inductive Capability
  | tools | vision | thinking | toggle | effort | budget
  | reasoningEffort (name : String)

def ModelCapabilities.Supports (m : ModelCapabilities) : Capability → Prop
  | .tools => m.supportsTools = some true
  | .vision => m.supportsVision = some true
  | .thinking => m.thinking.status = .supported
  | .toggle => m.thinking.toggle = .supported
  | .effort => m.thinking.effort = .supported
  | .budget => m.thinking.budget = .supported
  | .reasoningEffort name => name ∈ m.thinking.supportedEfforts

namespace CatalogView

variable (c : CatalogView) (model : String)

/-- No limit is above a provider's own. -/
def LimitsConservative : Prop :=
  ∀ all ∈ c.getEffectiveLimits model none, ∀ provider,
    ∀ own ∈ c.getEffectiveLimits model (some provider), ∀ limit, ∀ x ∈ all.tokens limit,
      ∀ y ∈ own.tokens limit, x ≤ y

/-- What is supported is supported by each provider. -/
def CapabilitiesConservative : Prop :=
  ∀ all ∈ c.getEffectiveCapabilities model none, ∀ provider,
    ∀ own ∈ c.getEffectiveCapabilities model (some provider), ∀ capability,
      all.Supports capability → own.Supports capability

/-- The limit that the configuration of a provider sets for the model. -/
def ownLimit (provider : String) (limit : Limit) : Option Nat :=
  ((c.providerOverride (some provider)).bind (·.modelOverrides model)).bind (·.maxTokens limit)

/-- An override of a limit that rows have is not below all of them. -/
def OverridesReach : Prop :=
  ∀ row ∈ c.rowsOf model, ∀ limit, ∀ y ∈ c.ownLimit model row.1 limit,
    (∃ known ∈ c.rowsOf model, (known.2.limits.tokens limit).isSome) →
      ∃ least ∈ c.rowsOf model, ∃ x ∈ least.2.limits.tokens limit, x ≤ y

/-- The rows name the same efforts. -/
def SameEfforts : Prop :=
  ∀ row ∈ c.rowsOf model, ∀ other ∈ c.rowsOf model,
    row.2.capabilities.thinking.supportedEfforts ⊆ other.2.capabilities.thinking.supportedEfforts

/-- The configuration has no override for the model that holds for all providers. -/
def NoGlobalOverride : Prop :=
  ∀ config ∈ c.config, config.modelOverrides model = none ∧ config.modelCapabilities model = none

variable {c model}

theorem mem_rowsOf {provider : String} {row : ModelIdentity} : (provider, row) ∈ c.rowsOf model ↔
    c.providerModels.lookup (toLex (model, provider)) = some row := by
  rw [OrdMap.lookup_eq_some]
  simp only [rowsOf, mem_filterMap, Option.ite_none_right_eq_some, Option.some.injEq,
    Prod.mk.injEq]
  constructor
  · rintro ⟨known, hk, rfl, rfl, rfl⟩
    exact hk
  · exact fun h => ⟨_, h, rfl, rfl, rfl⟩

theorem NoGlobalOverride.overall (h : c.NoGlobalOverride model) :
    c.config.bind (fun config => config.modelOverrides model) = none ∧
      c.config.bind (fun config => config.modelCapabilities model) = none := by
  cases hc : c.config with
  | none => exact ⟨rfl, rfl⟩
  | some config => exact h config hc

/-- The common limit is the least of the rows that have one. -/
theorem limits_all (h : c.NoGlobalOverride model) (hr : c.rowsOf model ≠ []) :
    ∃ all, c.getEffectiveLimits model none = some all ∧ ∀ limit,
      all.tokens limit = ((c.rowsOf model).filterMap (·.2.limits.tokens limit)).min? := by
  refine ⟨_, if_neg (by simpa using hr), fun limit => ?_⟩
  simp [applyOverrides, providerOverride, h.overall.1, filterMap_map, Function.comp_def]

theorem limits_own (h : c.NoGlobalOverride model) {row : String × ModelIdentity}
    (hr : row ∈ c.rowsOf model) : ∃ own, c.getEffectiveLimits model (some row.1) = some own ∧
      ∀ limit, own.tokens limit =
        (c.ownLimit model row.1 limit).or (row.2.limits.tokens limit) := by
  refine ⟨_, Option.map_eq_some_iff.mpr ⟨row.2, mem_rowsOf.mp hr, rfl⟩, fun limit => ?_⟩
  simp [applyOverrides, ownLimit, h.overall.1]

theorem limitsConservative_iff (h : c.NoGlobalOverride model) :
    c.LimitsConservative model ↔ c.OverridesReach model := by
  constructor
  · rintro hc row hr limit y hy ⟨known, hk, hs⟩
    obtain ⟨all, ha, ht⟩ := limits_all h (ne_nil_of_mem hr)
    obtain ⟨own, ho, hw⟩ := limits_own h hr
    obtain ⟨z, hz⟩ := Option.isSome_iff_exists.mp hs
    obtain ⟨x, hx⟩ := Option.isSome_iff_exists.mp (isSome_min?_of_mem
      (l := (c.rowsOf model).filterMap (·.2.limits.tokens limit)) (mem_filterMap.mpr ⟨_, hk, hz⟩))
    obtain ⟨least, hl, hm⟩ := mem_filterMap.mp (min?_eq_some_iff.mp hx).1
    exact ⟨least, hl, x, hm,
      hc all ha row.1 own ho limit x ((ht limit).trans hx) y (by rw [hw, hy]; rfl)⟩
  · intro hc all ha provider own ho limit x hx y hy
    obtain ⟨row, hr, -⟩ := Option.map_eq_some_iff.mp ho
    replace hr := mem_rowsOf.mpr hr
    obtain ⟨all', ha', ht⟩ := limits_all h (ne_nil_of_mem hr)
    obtain ⟨own', ho', hw⟩ := limits_own h hr
    cases ha.symm.trans ha'
    cases ho.symm.trans ho'
    rw [Option.mem_def, ht] at hx
    obtain ⟨hm, hle⟩ := min?_eq_some_iff.mp hx
    rw [Option.mem_def, hw, Option.or_eq_some_iff] at hy
    rcases hy with hy | ⟨-, hy⟩
    · obtain ⟨known, hk, hkx⟩ := mem_filterMap.mp hm
      obtain ⟨least, hl, z, hz, hzy⟩ :=
        hc _ hr limit y hy ⟨known, hk, Option.isSome_iff_exists.mpr ⟨x, hkx⟩⟩
      exact (hle z (mem_filterMap.mpr ⟨least, hl, hz⟩)).trans hzy
    · exact hle y (mem_filterMap.mpr ⟨_, hr, hy⟩)

/-! ## Capabilities -/

theorem eq_of_agreed {α β : Type} [DecidableEq β] {first : α} {rows : List α} {field : α → β}
    {mixed b : β} (h : agreed first rows field mixed = b) (hb : b ≠ mixed) {row : α}
    (hr : row ∈ rows) : field row = b := by
  unfold agreed at h
  split at h
  · rename_i ha
    rw [← h]
    exact of_decide_eq_true (all_eq_true.mp ha row hr)
  · exact absurd h.symm hb

/-- What an aggregate reports as supported is supported by each row, efforts apart. -/
theorem supports_of_aggregate {first : ModelCapabilities} {rows : List ModelCapabilities}
    {capability : Capability} (hf : first ∈ rows)
    (h : (ModelCapabilities.aggregate first rows).Supports capability)
    (hn : ∀ name, capability ≠ .reasoningEffort name) {row : ModelCapabilities} (hr : row ∈ rows) :
    row.Supports capability := by
  cases capability with
  | tools | vision | toggle | effort | budget => exact eq_of_agreed h (by decide) hr
  | thinking =>
    dsimp only [ModelCapabilities.Supports, ModelCapabilities.aggregate] at h ⊢
    split at h
    · rename_i hd
      obtain ⟨status, hs⟩ := length_eq_one_iff.mp hd
      have he : ∀ m ∈ rows, m.thinking.status = status := fun m hm => by
        simpa [hs] using List.mem_dedup.mpr (mem_map_of_mem (f := fun m => m.thinking.status) hm)
      rw [he row hr, ← he first hf, h]
    · cases h
  | reasoningEffort name => exact absurd rfl (hn name)

theorem supportedEfforts_override (base : ModelCapabilities) (provider : Option String) :
    (c.applyCapabilityOverrides model base provider).thinking.supportedEfforts =
      base.thinking.supportedEfforts := by
  unfold applyCapabilityOverrides
  split
  · rfl
  · dsimp only
    split <;> rfl

theorem capabilities_all {row : String × ModelIdentity} (h : row ∈ c.rowsOf model) :
    ∃ first ∈ c.answers model,
      c.getEffectiveCapabilities model none = some (.aggregate first (c.answers model)) := by
  obtain ⟨first, rest, he⟩ := exists_cons_of_ne_nil (l := c.answers model)
    (ne_nil_of_mem (mem_map_of_mem h))
  refine ⟨first, by rw [he]; exact mem_cons_self, ?_⟩
  rw [getEffectiveCapabilities, he]

/-- An effort is reported if some row names it. -/
theorem supports_effort_iff {first : ModelCapabilities} {name : String} :
    (ModelCapabilities.aggregate first (c.answers model)).Supports (.reasoningEffort name) ↔
      ∃ row ∈ c.rowsOf model, name ∈ row.2.capabilities.thinking.supportedEfforts := by
  simp only [ModelCapabilities.Supports, ModelCapabilities.aggregate, sortedSet,
    mem_insertionSort, List.mem_dedup, mem_flatMap, answers, mem_map]
  constructor
  · rintro ⟨_, ⟨row, hr, rfl⟩, hn⟩
    rw [supportedEfforts_override] at hn
    exact ⟨row, hr, hn⟩
  · rintro ⟨row, hr, hn⟩
    refine ⟨_, ⟨row, hr, rfl⟩, ?_⟩
    rwa [supportedEfforts_override]

theorem capabilitiesConservative_iff : c.CapabilitiesConservative model ↔ c.SameEfforts model := by
  constructor
  · intro hc row hr other ho name hn
    obtain ⟨first, -, ha⟩ := capabilities_all hr
    have hs := hc _ ha other.1 _ (Option.map_eq_some_iff.mpr ⟨other.2, mem_rowsOf.mp ho, rfl⟩)
      (.reasoningEffort name) (supports_effort_iff.mpr ⟨row, hr, hn⟩)
    rwa [ModelCapabilities.Supports, supportedEfforts_override] at hs
  · intro hc all ha provider own ho capability hs
    obtain ⟨row, hr, rfl⟩ := Option.map_eq_some_iff.mp ho
    replace hr := mem_rowsOf.mpr hr
    obtain ⟨first, hf, ha'⟩ := capabilities_all hr
    cases ha.symm.trans ha'
    cases capability with
    | reasoningEffort name =>
      obtain ⟨other, ho, hn⟩ := supports_effort_iff.mp hs
      rw [ModelCapabilities.Supports, supportedEfforts_override]
      exact hc other ho _ hr hn
    | _ => exact supports_of_aggregate hf hs nofun (mem_map.mpr ⟨_, hr, rfl⟩)

/-- **The answer without a provider is conservative exactly if no override goes below all rows and
the rows name the same efforts.** -/
theorem conservative_iff (c : CatalogView) (model : String) (h : c.NoGlobalOverride model) :
    c.LimitsConservative model ∧ c.CapabilitiesConservative model ↔
      c.OverridesReach model ∧ c.SameEfforts model := by
  rw [limitsConservative_iff h, capabilitiesConservative_iff]

/-- One row with a limit of its own and two efforts. -/
def sharedRow : ModelIdentity where
  capabilities := ⟨none, none, ⟨.supported, "live", [], ["high", "low"], .unknown, .unknown, .unknown,
    none, none⟩⟩
  limits := ⟨fun _ => some 8192, true, fun _ => "live"⟩

/-- Two providers with that row, one of them with a smaller context limit by configuration. -/
def loweredContext (context : Nat) : CatalogView where
  models := .empty
  providerModels := (OrdMap.set .empty (toLex ("m", "p")) sharedRow).set (toLex ("m", "q")) sharedRow
  config := some
    { modelOverrides := fun _ => none
      modelCapabilities := fun _ => none
      providers := fun provider => if provider = "p" then some
        { modelOverrides := fun _ => some ⟨fun | .context => some context | _ => none, true⟩
          modelCapabilities := fun _ => none } else none }

theorem noGlobalOverride_loweredContext (n : Nat) : (loweredContext n).NoGlobalOverride "m" := by
  rintro config ⟨⟩
  exact ⟨rfl, rfl⟩

theorem conservative_same_context : (loweredContext 8192).LimitsConservative "m" ∧
    (loweredContext 8192).CapabilitiesConservative "m" := by
  have hrow : ∀ row ∈ (loweredContext 8192).rowsOf "m", row.2 = sharedRow := by
    intro row hr
    have hl := mem_rowsOf.mp hr
    simp only [loweredContext, OrdMap.lookup_set, OrdMap.lookup_empty] at hl
    split at hl
    · exact (Option.some.inj hl).symm
    split at hl
    · exact (Option.some.inj hl).symm
    · cases hl
  refine (conservative_iff _ _ (noGlobalOverride_loweredContext _)).mpr ⟨?_, ?_⟩
  · intro row hr limit y hy _
    refine ⟨row, hr, 8192, by rw [hrow row hr]; rfl, ?_⟩
    by_cases hp : row.1 = "p" <;> cases limit <;>
      simp_all [ownLimit, providerOverride, loweredContext]
  · intro row hr other ho
    rw [hrow row hr, hrow other ho]
    exact Subset.refl _

/-- The common answer allows a context that one of the providers is configured to refuse. -/
theorem common_context_above_override : (loweredContext 4096).NoGlobalOverride "m" ∧
    ((loweredContext 4096).getEffectiveLimits "m" none).bind (·.tokens .context) = some 8192 ∧
    ((loweredContext 4096).getEffectiveLimits "m" (some "p")).bind (·.tokens .context) =
      some 4096 :=
  ⟨noGlobalOverride_loweredContext _, by decide +kernel, by decide +kernel⟩

end CatalogView

end EggPool.Catalog
