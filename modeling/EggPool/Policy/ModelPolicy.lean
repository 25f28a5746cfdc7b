import EggPool.Lib.Text

/-!
# Model names and the model policy

A client names a model as `model` or `model/provider`; the suffix is a provider
only when it is a known one. A policy snapshot answers for a model with or
without a provider: instance denials first, then the user's overrides, then the
profile's rules, and in each table the qualified name before the bare one.

The last section says what naming a provider changes: `qualifiedVerdict` is the
part of the answer that comes from a rule keyed by the model *and* the provider.
-/

namespace EggPool.Policy

open EggPool.Lib

/-! ## Names -/

/--
Parse `model/provider`. Splits on the final `/`; the suffix is a provider only
when it matches a known provider, otherwise the input is returned unchanged.
-/
def parseProviderQualifiedModel (model : String) (knownProviders : List String) :
    String × Option String :=
  let normalized := trim model
  if !normalized.toList.contains '/' then (normalized, none)
  else
    match rsplitOnce normalized '/' with
    | none => (normalized, none)
    | some (base, candidate) =>
      if trim base = "" || trim candidate = "" then (normalized, none)
      else if !knownProviders.contains (trim candidate) then (normalized, none)
      else (trim base, some (trim candidate))

/-- The catalog's own parser of the same names. -/
def parseModelProvider (modelId : String) (knownProviders : List String) : String × Option String:=
  let normalized := trim modelId
  match rsplitOnce normalized '/' with
  | none => (normalized, none)
  | some (base, candidate) =>
    if trim base = "" || trim candidate = "" || !knownProviders.contains (trim candidate) then
      (normalized, none)
    else (trim base, some (trim candidate))

section Names

variable {model base provider : String} {known : List String}

/-- **The two parsers agree.** -/
theorem parseModelProvider_eq (model : String) (known : List String) :
    parseModelProvider model known = parseProviderQualifiedModel model known := by
  unfold parseModelProvider parseProviderQualifiedModel
  dsimp only
  cases hs : rsplitOnce (trim model) '/' with
  | none => simp
  | some par =>
    have hl : (trim model).toList.contains '/' = true := by
      rw [List.contains_iff_mem]
      by_contra hno
      rw [rsplitOnce_eq_none.mpr hno] at hs
      cases hs
    grind

/-- What a parsed name can be: the trimmed input, or a trimmed base with a known provider. -/
theorem parse_cases (model : String) (known : List String) :
    parseProviderQualifiedModel model known = (trim model, none) ∨
    ∃ base c, rsplitOnce (trim model) '/' = some (base, c) ∧ known.contains (trim c) = true ∧
      parseProviderQualifiedModel model known = (trim base, some (trim c)) := by
  fun_cases parseProviderQualifiedModel model known with
  | case5 normalized _ base c hs _ hk => exact .inr ⟨base, c, hs, by simpa using hk, rfl⟩
  | _ => exact .inl rfl

/-- Parsing starts by trimming. -/
theorem parse_trim (model : String) (known : List String) :
    parseProviderQualifiedModel (trim model) known = parseProviderQualifiedModel model known := by
  simp [parseProviderQualifiedModel, trim_trim]

theorem parse_fst_trimmed (model : String) (known : List String) :
    trim (parseProviderQualifiedModel model known).1 =
      (parseProviderQualifiedModel model known).1 := by
  rcases parse_cases model known with h | ⟨base, can, _, _, h⟩
  · rw [h]; exact trim_trim model
  · rw [h]; exact trim_trim base

/-- A name without a known provider parses to itself, however often. -/
theorem parse_of_unqualified (h : (parseProviderQualifiedModel model known).2 = none) :
    parseProviderQualifiedModel model known = (trim model, none) := by
  rcases parse_cases model known with heq | ⟨base, can, _, _, heq⟩
  · exact heq
  · rw [heq] at h
    cases h

/-- **A parse that changes nothing found no provider.** -/
theorem parse_eq_self_iff : (parseProviderQualifiedModel model known).1 = model ↔
      parseProviderQualifiedModel model known = (model, none) := by
  constructor
  · intro h
    rcases parse_cases model known with heq | ⟨base, can, hs, _, heq⟩
    · rw [heq] at h
      rw [heq, show trim model = model from h]
    -- the base is shorter than the name
    rw [heq] at h
    have hlt := congrArg List.length (append_of_rsplitOnce hs)
    rw [List.length_append, List.length_cons] at hlt
    have hle := length_trim_le base
    have hle' := length_trim_le model
    rw [show trim base = model from h] at hle
    omega
  · intro h
    rw [h]

end Names

/-! ## The policy -/

inductive Effect
  | allow | deny
deriving DecidableEq, Repr

/-- The rules in force for one admitted request. -/
structure ModelPolicySnapshot where
  role : String
  defaultEffect : Option Effect
  (profileRules userOverrides : String → Option Effect)
  instanceDenials : String → Bool

/-- `format!("\x7bmodel_id\x7d/\x7bprovider\x7d")` -/
def qualify (modelId provider : String) : String := modelId ++ "/" ++ provider

/-- The qualified rule before the bare one. -/
def exactEffect (rules : String → Option Effect) (modelId : String) (qualified : Option String) :
    Option Effect :=
  (qualified.bind rules).or (rules modelId)

namespace ModelPolicySnapshot

variable (policy : ModelPolicySnapshot)

def allows (modelId : String) (providerId : Option String) : Bool :=
  let qualified := providerId.map (qualify modelId)
  if policy.instanceDenials modelId || qualified.any policy.instanceDenials then false
  else
    match exactEffect policy.userOverrides modelId qualified with
    | some effect => effect = .allow
    | none =>
      match exactEffect policy.profileRules modelId qualified with
      | some effect => effect = .allow
      | none =>
        policy.defaultEffect.getD (if policy.role = "admin" then .allow else .deny) = .allow

/-! ## What naming the provider changes -/

/--
The verdict of the rules keyed by this model and this provider, where they get to
decide: an instance denial, else the user's override, else the profile's rule if
the user has no override for the bare model.
-/
def qualifiedVerdict (modelId provider : String) : Option Bool :=
  if policy.instanceDenials (qualify modelId provider) then some false
  else
    match policy.userOverrides (qualify modelId provider) with
    | some effect => some (effect = .allow)
    | none =>
      if (policy.userOverrides modelId).isSome then none
      else (policy.profileRules (qualify modelId provider)).map (· = .allow)

variable {policy}

/-- **The answer for a pair is the answer for the model, unless a rule for the pair decides.** -/
theorem allows_some (m provider : String) :
    policy.allows m (some provider) = (!policy.instanceDenials m &&
        (policy.qualifiedVerdict m provider).getD (policy.allows m none)) := by
  unfold allows qualifiedVerdict exactEffect
  simp only [Option.map_some, Option.any_some, Option.bind_some, Option.map_none, Option.any_none,
    Bool.or_false]
  cases policy.instanceDenials m with
  | true => simp
  | false =>
    cases policy.instanceDenials (qualify m provider) with
    | true => simp
    | false =>
      cases policy.userOverrides (qualify m provider) with
      | some effect => simp
      | none =>
        cases policy.userOverrides m with
        | some effect => simp
        | none => cases policy.profileRules (qualify m provider) <;> simp

/-- A verdict that agrees with the answer it replaces makes no difference, and only such a one. -/
theorem eq_getD_iff {denied answer : Bool} {verdict : Option Bool}
    (h : answer = true → denied = false) : answer = (!denied && verdict.getD answer) ↔
      (denied || verdict.all (· = answer)) = true := by
  cases denied with
  | true =>
    cases answer with
    | true => cases h rfl
    | false => simp
  | false => cases verdict <;> simp [eq_comm]

theorem not_denied_of_allows {m : String} {p : Option String}
    (h : policy.allows m p = true) : policy.instanceDenials m = false := by
  cases hd : policy.instanceDenials m with
  | false => rfl
  | true =>
    unfold allows at h
    simp [hd] at h

/-- A model that is allowed on its own is denied with a provider by a rule for the pair only. -/
theorem allows_some_iff_of_allows {m provider : String} (h : policy.allows m none = true) :
    policy.allows m (some provider) = true ↔ policy.qualifiedVerdict m provider ≠ some false:= by
  rw [allows_some, not_denied_of_allows h, h]
  cases policy.qualifiedVerdict m provider with
  | none => simp
  | some ver => cases ver <;> simp

end ModelPolicySnapshot

end EggPool.Policy
