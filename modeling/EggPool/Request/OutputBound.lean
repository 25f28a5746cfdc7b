import EggPool.Lib.I64
import EggPool.Wire.Codec

/-!
# The output bound a request is charged for

The output limit of a request is read twice: by the decoder, for the request that is sent on,
and by the admission, for the budget proof. Both go through the spellings of the surface in the
same order and skip those that are null, but they part at a zero and at a limit beyond `i64`.

The decoder's other fields are two arbitrary decoders here, one before and one after the limit.
-/

namespace EggPool.Request

open EggPool.Lib EggPool.Wire EggPool.Wire.Finite

def Protocol.asStr : Protocol → String
  | .openai => "openai"
  | .anthropic => "anthropic"
  | .gemini => "gemini"

def ClientSurface.asStr : ClientSurface → String
  | .chatCompletions => "chat_completions"
  | .responses => "responses"
  | .messages => "messages"

/-! ## The budget's reading -/

inductive LimitError
  | invalidPositiveInteger (field : String)
deriving DecidableEq

/-- `for key in keys` of `requested_output_tokens`. -/
def requestedAmong (object : Map) : List String → Except LimitError (Option Nat)
  | [] => .ok none
  | key :: keys =>
    match object.get key with
    | none => requestedAmong object keys
    | some candidate =>
      if candidate.isNull then requestedAmong object keys
      else match candidate.asU64 with
        | none => .error (.invalidPositiveInteger key)
        | some number =>
          if number = 0 then .error (.invalidPositiveInteger key) else .ok (some number)

def requestedOutputTokens (value : Value) (protocol requestSurface : String) :
    Except LimitError (Option Nat) :=
  let keys := if requestSurface = "responses" then
      ["max_output_tokens", "max_completion_tokens", "max_tokens"]
    else if protocol = "anthropic" then ["max_tokens"]
    else ["max_completion_tokens", "max_tokens"]
  match value.asObject with
  | none => .ok none
  | some object => requestedAmong object keys

structure BudgetAdmissionFacts where
  inputWorstCaseTokens : Int
  requestedOutputTokens : Option Int
deriving DecidableEq

def budgetAdmissionFacts (rawBodyLen : Nat) (value : Value) (surface : ClientSurface)
    (reservationTokens contextTokens : Nat) : BudgetAdmissionFacts where
  inputWorstCaseTokens := max (max (max (min rawBodyLen I64.MAX) (min reservationTokens I64.MAX))
    (min contextTokens I64.MAX)) 0
  requestedOutputTokens :=
    (requestedOutputTokens value (Protocol.asStr surface.protocol)
      (ClientSurface.asStr surface)).toOption.join
      |>.bind (fun bound => if (bound : Int) ≤ I64.MAX then some (bound : Int) else none)
      |>.filter (0 < ·)

/-! ## The decoder's reading -/

inductive DecodeError
  | topLevelNotObject
  | invalidLimit (field : String)
  /-- Every error of the other fields. -/
  | other
deriving DecidableEq

def outputKey (surface : ClientSurface) : String :=
  if surface = .responses then "max_output_tokens" else "max_tokens"

def outputKeys (surface : ClientSurface) (protocol : Protocol) : List String :=
  if surface = .responses then ["max_output_tokens", "max_completion_tokens", "max_tokens"]
  else if protocol = .anthropic then ["max_tokens"]
  else ["max_completion_tokens", "max_tokens"]

/-- `for key in keys` of `decode_requested_output_tokens`. -/
def decodedAmong (object : Map) (surface : ClientSurface) :
    List String → Except DecodeError (Option Nat)
  | [] => .ok none
  | key :: keys =>
    match object.get key with
    | none => decodedAmong object surface keys
    | some candidate =>
      if candidate.isNull then decodedAmong object surface keys
      else match candidate.asU64 with
        | none => .error (.invalidLimit (outputKey surface))
        | some number => .ok (if 0 < number then some number else none)

def outputLimit (object : Map) (surface : ClientSurface) (protocol : Protocol) :
    Except DecodeError (Option Nat) := do
  let resolved ← decodedAmong object surface (outputKeys surface protocol)
  if resolved.isNone && (outputKeys surface protocol).any fun key =>
      (object.get key).bind Value.asU64 = some 0 then .ok (some 0)
  else .ok resolved

/-! ## Admission -/

/-- The canonical request, with `max_output_tokens` among its fields. -/
structure CanonicalRequest (α β : Type) where
  before : α
  maxOutputTokens : Option Nat
  after : β

structure AdmittedRequest (α β : Type) where
  canonical : CanonicalRequest α β
  budgetFacts : BudgetAdmissionFacts

section Admission

variable {α β : Type} (before : Map → ClientSurface → Except DecodeError α)
  (after : Map → ClientSurface → Except DecodeError β)

def structuralCanonicalRequestFromObject (object : Map) (surface : ClientSurface) :
    Except DecodeError (CanonicalRequest α β) := do
  let first ← before object surface
  let maxOutputTokens ← outputLimit object surface surface.protocol
  let rest ← after object surface
  .ok ⟨first, maxOutputTokens, rest⟩

def admitParsedRequest (rawBodyLen : Nat) (value : Value) (surface : ClientSurface)
    (reservationTokens contextTokens : Nat) : Except DecodeError (AdmittedRequest α β) :=
  match value.asObject with
  | none => .error .topLevelNotObject
  | some object => do
    let canonical ← structuralCanonicalRequestFromObject before after object surface
    .ok ⟨canonical, budgetAdmissionFacts rawBodyLen value surface reservationTokens contextTokens⟩

/-- A compact request is a Responses request that passes some checks first. -/
def admitCompactParsedRequest (checks : Map → Except DecodeError Unit) (rawBodyLen : Nat)
    (value : Value) (reservationTokens contextTokens : Nat) :
    Except DecodeError (AdmittedRequest α β) :=
  match value.asObject with
  | none => .error .topLevelNotObject
  | some object => do
    checks object
    admitParsedRequest before after rawBodyLen value .responses reservationTokens contextTokens

end Admission

/-! ## The two readings -/

section Agreement

variable {object : Map} {surface : ClientSurface} {keys : List String}

/-- Where the decoder reads a limit, the budget reads the same one; its error at a zero is no
limit either. -/
theorem requestedAmong_eq {r : Option Nat} (h : decodedAmong object surface keys = .ok r) :
    (requestedAmong object keys).toOption.join = r ∧ ∀ n, r = some n → 0 < n := by
  induction keys with
  | nil =>
    cases h
    exact ⟨rfl, nofun⟩
  | cons key keys ih =>
    unfold decodedAmong at h
    unfold requestedAmong
    cases hkey : object.get key with
    | none =>
      rw [hkey] at h
      exact ih h
    | some c =>
      rw [hkey] at h
      dsimp only at h ⊢
      by_cases hnull : c.isNull = true
      · rw [if_pos hnull] at h ⊢
        exact ih h
      rw [if_neg hnull] at h ⊢
      cases hc : c.asU64 with
      | none =>
        rw [hc] at h
        cases h
      | some n =>
        rw [hc] at h
        by_cases hz : n = 0
        · subst hz
          cases h
          exact ⟨rfl, nofun⟩
        · have hp := Nat.pos_of_ne_zero hz
          dsimp only at h
          rw [if_pos hp] at h
          cases h
          refine ⟨by simp [hz, Except.toOption], ?_⟩
          rintro m ⟨⟩
          exact hp

theorem requestedOutputTokens_eq {value : Value} {limit : Option Nat}
    (ho : value.asObject = some object)
    (h : outputLimit object surface surface.protocol = .ok limit) :
    (requestedOutputTokens value (Protocol.asStr surface.protocol)
      (ClientSurface.asStr surface)).toOption.join = limit.filter (0 < ·) := by
  have hkeys : requestedOutputTokens value (Protocol.asStr surface.protocol)
      (ClientSurface.asStr surface) = requestedAmong object (outputKeys surface surface.protocol) := by
    simp only [requestedOutputTokens, ho]
    cases surface <;> rfl
  obtain ⟨r, hr, hl⟩ := bind_eq_ok.mp h
  obtain ⟨heq, hp⟩ := requestedAmong_eq hr
  rw [hkeys, heq]
  cases r with
  | none =>
    -- the decoder may still answer zero
    split at hl <;> cases hl <;> rfl
  | some n =>
    cases hl
    simp [Option.filter_some, hp n rfl]

/-- A bound the budget can reckon with. -/
def isBound (n : Nat) : Bool := 0 < n && (n : Int) ≤ I64.MAX

/-- What is charged is what the canonical request asks for, as far as it is a positive `i64`. -/
theorem bound_of_outputLimit {value : Value} {limit : Option Nat} {raw res ctx : Nat}
    (ho : value.asObject = some object)
    (h : outputLimit object surface surface.protocol = .ok limit) :
    (budgetAdmissionFacts raw value surface res ctx).requestedOutputTokens =
      (limit.filter isBound).map Int.ofNat := by
  rw [budgetAdmissionFacts, requestedOutputTokens_eq ho h]
  cases limit with
  | none => rfl
  | some n =>
    by_cases hp : 0 < n
    · by_cases hm : (n : Int) ≤ I64.MAX
      · simp [Option.filter_some, isBound, hp, hm]
      · simp [Option.filter_some, isBound, hp, hm]
    · simp [Option.filter_some, isBound, hp]

end Agreement

/-- The budget's bound is the canonical request's, when that is positive and an `i64`, and absent
otherwise. -/
def AdmittedRequest.ChargedAsSent {α β : Type} (admitted : AdmittedRequest α β) : Prop :=
  admitted.budgetFacts.requestedOutputTokens =
    (admitted.canonical.maxOutputTokens.filter isBound).map Int.ofNat

section Admission

variable {α β : Type} (before : Map → ClientSurface → Except DecodeError α)
  (after : Map → ClientSurface → Except DecodeError β) (rawBodyLen : Nat) (value : Value)
  (reservationTokens contextTokens : Nat)

theorem chargedAsSent_of_admit {before : Map → ClientSurface → Except DecodeError α}
    {after : Map → ClientSurface → Except DecodeError β} {raw res ctx : Nat} {value : Value}
    {surface : ClientSurface} {a : AdmittedRequest α β}
    (h : admitParsedRequest before after raw value surface res ctx = .ok a) : a.ChargedAsSent:= by
  unfold admitParsedRequest at h
  cases ho : value.asObject with
  | none =>
    rw [ho] at h
    cases h
  | some object =>
    rw [ho] at h
    obtain ⟨canonical, hc, h⟩ := bind_eq_ok.mp h
    cases h
    obtain ⟨first, -, hc⟩ := bind_eq_ok.mp hc
    obtain ⟨limit, hl, hc⟩ := bind_eq_ok.mp hc
    obtain ⟨rest, -, hc⟩ := bind_eq_ok.mp hc
    cases hc
    exact bound_of_outputLimit ho hl

/-- **Every admitted body is charged for the bound that is sent.** -/
theorem charged_bound_is_sent :
    (∀ (surface : ClientSurface) (admitted : AdmittedRequest α β),
      admitParsedRequest before after rawBodyLen value surface reservationTokens contextTokens =
        .ok admitted → admitted.ChargedAsSent) ∧
    (∀ (checks : Map → Except DecodeError Unit) (admitted : AdmittedRequest α β),
      admitCompactParsedRequest before after checks rawBodyLen value reservationTokens
        contextTokens = .ok admitted → admitted.ChargedAsSent) := by
  refine ⟨fun surface admitted h => chargedAsSent_of_admit h, fun checks admitted h => ?_⟩
  unfold admitCompactParsedRequest at h
  split at h
  · cases h
  · obtain ⟨-, -, h⟩ := bind_eq_ok.mp h
    exact chargedAsSent_of_admit h

end Admission

/-- A null spelling is passed over for the next one. -/
theorem charged_bound_is_sent_null :
    ∃ admitted : AdmittedRequest Unit Unit,
      admitted.canonical.maxOutputTokens = some 7 ∧
      admitted.budgetFacts.requestedOutputTokens = some 7 := by
  refine ⟨_, ?_, (charged_bound_is_sent (fun _ _ => .ok ()) (fun _ _ => .ok ()) 9 (.object
    [("max_output_tokens", .null), ("max_tokens", .number (.posInt 7))]) 0 0).1 .responses _ rfl⟩
  rfl

/-- A limit of 2^63 is sent on and is no bound for the budget. -/
theorem huge_bound_is_not_charged :
    (admitParsedRequest (fun _ _ => .ok ()) (fun _ _ => .ok ()) 9 (.object
      [("max_tokens", .number (.posInt 9223372036854775808))]) .messages 0 0).toOption.map
        (fun admitted => (admitted.canonical.maxOutputTokens,
          admitted.budgetFacts.requestedOutputTokens)) =
      some (some 9223372036854775808, none) := by
  decide

end EggPool.Request
