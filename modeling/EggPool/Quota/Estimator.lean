import EggPool.Lib.I64

/-!
# The quota estimator's ownership counters

Six counters per account: requests, tokens and cost that are *pending* (claimed,
not yet durable) and that are *reserved* (durable, not yet settled). Every map
of the estimator is only ever read with a default of zero and written by key, so
it is modelled by its lookup function.

No operation changes anything before its last check has passed, so an operation
returns either an error or the new state.
-/

namespace EggPool.Quota

open EggPool.Lib Function

/-- What can be wrong with a quota operation. -/
inductive QuotaInvariantError
  | negativeValue (field : String)
  | pendingOwnershipUnderflow (account : String)
  | pendingCostUnderflow (account : String)
  | reservationOwnershipUnderflow (account : String)
  | invalidWeight
deriving DecidableEq, Repr

/-- The fields of an account's quota record that the ownership counters mirror. -/
structure AccountQuota where
  accountName : String
  (reservedCost reservedRequests reservedTokens : Int)
deriving DecidableEq, Repr

/-- `AccountQuota::new`. -/
def AccountQuota.new (accountName : String) : AccountQuota := ⟨accountName, 0, 0, 0⟩

structure EstimatorState where
  accounts : String → Option AccountQuota
  (reservedCost reservedRequests reservedTokens pendingCost pendingRequests : String → Int)
  pendingTokens : String → Int

/-- The estimator's own `saturating_add`, which clamps both sides at zero first. -/
def saturatingAdd (left right : Int) : Int := I64.saturatingAdd (max left 0) (max right 0)

def requireNonNegative (value : Int) (field : String) : Except QuotaInvariantError Unit :=
  if value < 0 then .error (.negativeValue field) else .ok ()

def checkSubtractable (current : Int) (name : String) (value : Int) :
    Except QuotaInvariantError Unit :=
  if current < value then .error (.reservationOwnershipUnderflow name) else .ok ()

namespace EstimatorState

/-- No counter holds anything; any accounts may be registered. -/
def init (accounts : String → Option AccountQuota) : EstimatorState where
  accounts := accounts
  reservedCost := fun _ => 0
  reservedRequests := fun _ => 0
  reservedTokens := fun _ => 0
  pendingCost := fun _ => 0
  pendingRequests := fun _ => 0
  pendingTokens := fun _ => 0

variable (s : EstimatorState) (name : String)

def ensureAccount : EstimatorState :=
  match s.accounts name with
  | some _ => s
  | none => { s with accounts := Function.update s.accounts name (some (AccountQuota.new name)) }

/-- Copy the sum of reserved and pending into the account's quota record. -/
def syncMirrors : EstimatorState :=
  match s.accounts name with
  | none => s
  | some quota =>
    { s with accounts := Function.update s.accounts name (some { quota with
        reservedCost := saturatingAdd (s.reservedCost name) (s.pendingCost name)
        reservedRequests := saturatingAdd (s.reservedRequests name) (s.pendingRequests name)
        reservedTokens := saturatingAdd (s.reservedTokens name) (s.pendingTokens name) }) }

/-- Store an account's pending counters. -/
def setPending (requests tokens cost : Int) : EstimatorState :=
  { s with
    pendingRequests := Function.update s.pendingRequests name requests
    pendingTokens := Function.update s.pendingTokens name tokens
    pendingCost := Function.update s.pendingCost name cost }

/-- Store an account's reserved counters. -/
def setReserved (requests tokens cost : Int) : EstimatorState :=
  { s with
    reservedRequests := Function.update s.reservedRequests name requests
    reservedTokens := Function.update s.reservedTokens name tokens
    reservedCost := Function.update s.reservedCost name cost }

def addPendingClaim (tokens cost : Int) : Except QuotaInvariantError EstimatorState := do
  requireNonNegative tokens "pending tokens"
  requireNonNegative cost "pending cost"
  let s := s.ensureAccount name
  return (s.setPending name (saturatingAdd (s.pendingRequests name) 1)
    (saturatingAdd (s.pendingTokens name) tokens)
    (saturatingAdd (s.pendingCost name) cost)).syncMirrors name

/-- The ownership checks shared by releasing and converting a pending claim. -/
def checkPending (tokens cost : Int) : Except QuotaInvariantError Unit := do
  requireNonNegative tokens "pending tokens"
  requireNonNegative cost "pending cost"
  if s.pendingRequests name < 1 ∨ s.pendingTokens name < tokens then
    throw (.pendingOwnershipUnderflow name)
  if s.pendingCost name < cost then
    throw (.pendingCostUnderflow name)

def releasePendingClaim (tokens cost : Int) : Except QuotaInvariantError EstimatorState := do
  s.checkPending name tokens cost
  return (s.setPending name (s.pendingRequests name - 1) (s.pendingTokens name - tokens)
    (s.pendingCost name - cost)).syncMirrors name

def convertPendingClaim (tokens cost : Int) : Except QuotaInvariantError EstimatorState := do
  s.checkPending name tokens cost
  let s := s.setPending name (s.pendingRequests name - 1) (s.pendingTokens name - tokens)
    (s.pendingCost name - cost)
  return (s.setReserved name (saturatingAdd (s.reservedRequests name) 1)
    (saturatingAdd (s.reservedTokens name) tokens)
    (saturatingAdd (s.reservedCost name) cost)).syncMirrors name

def removeReservation (requests tokens cost : Int) : Except QuotaInvariantError EstimatorState := do
  requireNonNegative requests "reservation requests"
  requireNonNegative tokens "reservation tokens"
  requireNonNegative cost "reservation cost"
  checkSubtractable (s.reservedRequests name) name requests
  checkSubtractable (s.reservedTokens name) name tokens
  checkSubtractable (s.reservedCost name) name cost
  return (s.setReserved name (s.reservedRequests name - requests)
    (s.reservedTokens name - tokens) (s.reservedCost name - cost)).syncMirrors name

/-! ## Positions

An account's three pending counters, or its three reserved ones, move together;
as triples they are added and compared component by component.
-/

/-- Requests, tokens and cost pending for an account. -/
def pending : ℤ × ℤ × ℤ :=
  (s.pendingRequests name, s.pendingTokens name, s.pendingCost name)

/-- Requests, tokens and cost reserved for an account. -/
def reserved : ℤ × ℤ × ℤ :=
  (s.reservedRequests name, s.reservedTokens name, s.reservedCost name)

variable (s : EstimatorState) (name : String)

@[simp]
theorem pending_syncMirrors : (s.syncMirrors name).pending = s.pending := by
  unfold syncMirrors
  split <;> rfl

@[simp]
theorem reserved_syncMirrors : (s.syncMirrors name).reserved = s.reserved := by
  unfold syncMirrors
  split <;> rfl

@[simp]
theorem pending_ensureAccount : (s.ensureAccount name).pending = s.pending := by
  unfold ensureAccount
  split <;> rfl

@[simp]
theorem reserved_ensureAccount : (s.ensureAccount name).reserved = s.reserved := by
  unfold ensureAccount
  split <;> rfl

variable (r t c : Int)

theorem pending_setPending :
    (s.setPending name r t c).pending = update s.pending name (r, t, c) := by
  funext x
  by_cases h : x = name
  · subst h; simp [pending, setPending]
  · simp [pending, setPending, h]

theorem reserved_setReserved :
    (s.setReserved name r t c).reserved = update s.reserved name (r, t, c) := by
  funext x
  by_cases h : x = name
  · subst h; simp [reserved, setReserved]
  · simp [reserved, setReserved, h]

@[simp]
theorem reserved_setPending : (s.setPending name r t c).reserved = s.reserved := rfl

@[simp]
theorem pending_setReserved : (s.setReserved name r t c).pending = s.pending := rfl

/-- The estimator's addition is exact on counters that stay within range. -/
theorem saturatingAdd_eq {a b : Int} (ha : 0 ≤ a) (hb : 0 ≤ b) (h : a + b ≤ I64.MAX) :
    saturatingAdd a b = a + b := by
  unfold saturatingAdd
  rw [max_eq_left ha, max_eq_left hb]
  refine I64.saturatingAdd_eq ?_ h
  unfold I64.MIN
  omega

/-- The addition stops at the end of the range, a subtraction does not. -/
theorem saturatingAdd_sub_eq_iff {x d : Int} (h0 : 0 ≤ d) (hd : d ≤ I64.MAX) :
    saturatingAdd x d - d = x ↔ 0 ≤ x ∧ x + d ≤ I64.MAX := by
  unfold saturatingAdd I64.saturatingAdd
  have hm : I64.MIN ≤ 0 := by decide
  omega

theorem le_saturatingAdd {x d : Int} (hd : d ≤ I64.MAX) : d ≤ saturatingAdd x d := by
  unfold saturatingAdd I64.saturatingAdd
  omega

section Specs

variable {s : EstimatorState} {name : String} {tokens cost : Int}

section

variable (ht : 0 ≤ tokens)

include ht

theorem checkPending_ok (hc : 0 ≤ cost) (hp : ((1, tokens, cost) : ℤ × ℤ × ℤ) ≤ s.pending name) :
    s.checkPending name tokens cost = .ok () := by
  obtain ⟨h1, h2, h3⟩ := hp
  simp only [pending] at h1 h2 h3
  have ht' : ¬ tokens < 0 := by omega
  have hc' : ¬ cost < 0 := by omega
  have hr : ¬ (s.pendingRequests name < 1 ∨ s.pendingTokens name < tokens) := by omega
  have hk : ¬ s.pendingCost name < cost := by omega
  simp only [checkPending, requireNonNegative, if_neg ht', if_neg hc', if_neg hr, if_neg hk]
  rfl

theorem releasePendingClaim_ok (hc : 0 ≤ cost)
    (hp : ((1, tokens, cost) : ℤ × ℤ × ℤ) ≤ s.pending name) :
    ∃ s', s.releasePendingClaim name tokens cost = .ok s' ∧
      s'.pending = update s.pending name (s.pending name - (1, tokens, cost)) ∧
      s'.reserved = s.reserved := by
  refine ⟨_, by rw [releasePendingClaim, checkPending_ok ht hc hp]; rfl, ?_, ?_⟩
  · rw [pending_syncMirrors, pending_setPending]; rfl
  · rw [reserved_syncMirrors, reserved_setPending]

theorem convertPendingClaim_ok (hc : 0 ≤ cost)
    (hp : ((1, tokens, cost) : ℤ × ℤ × ℤ) ≤ s.pending name) (hr : 0 ≤ s.reserved name) :
    ∃ s', s.convertPendingClaim name tokens cost = .ok s' ∧
      s'.pending = update s.pending name (s.pending name - (1, tokens, cost)) ∧
      (s.reserved name + (1, tokens, cost) ≤ (I64.MAX, I64.MAX, I64.MAX) →
        s'.reserved = update s.reserved name (s.reserved name + (1, tokens, cost))) := by
  obtain ⟨hr1, hr2, hr3⟩ := hr
  refine ⟨_, by rw [convertPendingClaim, checkPending_ok ht hc hp]; rfl, ?_, ?_⟩
  · rw [pending_syncMirrors, pending_setReserved, pending_setPending]; rfl
  rintro ⟨hf1, hf2, hf3⟩
  rw [reserved_syncMirrors, reserved_setReserved]
  congr 1
  refine Prod.ext (saturatingAdd_eq hr1 (by decide) hf1)
    (Prod.ext (saturatingAdd_eq hr2 ht hf2) (saturatingAdd_eq hr3 hc hf3))

/-- The counters of the account after a claim, also at the ends of their range. -/
theorem addPendingClaim_eq_ok (hc : 0 ≤ cost) : ∃ s', s.addPendingClaim name tokens cost = .ok s' ∧
      s'.pending = update s.pending name (saturatingAdd (s.pendingRequests name) 1,
        saturatingAdd (s.pendingTokens name) tokens, saturatingAdd (s.pendingCost name) cost) ∧
      s'.reserved = s.reserved := by
  have ht' : ¬ tokens < 0 := by omega
  have hc' : ¬ cost < 0 := by omega
  refine ⟨_, by
    simp only [addPendingClaim, requireNonNegative, if_neg ht', if_neg hc']; rfl, ?_, ?_⟩
  · have hp' := congrFun (pending_ensureAccount s name) name
    simp only [pending, Prod.mk.injEq] at hp'
    rw [pending_syncMirrors, pending_setPending, pending_ensureAccount, hp'.1, hp'.2.1, hp'.2.2]
  · rw [reserved_syncMirrors, reserved_setPending, reserved_ensureAccount]

theorem addPendingClaim_eq_error (hc : cost < 0) :
    s.addPendingClaim name tokens cost = .error (.negativeValue "pending cost") := by
  have ht' : ¬ tokens < 0 := by omega
  simp only [addPendingClaim, requireNonNegative, if_neg ht', if_pos hc]
  rfl

theorem addPendingClaim_ok (hc : 0 ≤ cost) (hp : 0 ≤ s.pending name)
    (hfit : s.pending name + (1, tokens, cost) ≤ (I64.MAX, I64.MAX, I64.MAX)) :
    ∃ s', s.addPendingClaim name tokens cost = .ok s' ∧
      s'.pending = update s.pending name (s.pending name + (1, tokens, cost)) ∧
      s'.reserved = s.reserved := by
  obtain ⟨hp1, hp2, hp3⟩ := hp
  obtain ⟨hf1, hf2, hf3⟩ := hfit
  obtain ⟨s', ha, hn, hr⟩ : ∃ s', s.addPendingClaim name tokens cost = .ok s' ∧ _ :=
    addPendingClaim_eq_ok ht hc
  refine ⟨s', ha, ?_, hr⟩
  rw [hn]
  congr 1
  refine Prod.ext (saturatingAdd_eq hp1 (by decide) hf1)
    (Prod.ext (saturatingAdd_eq hp2 ht hf2) (saturatingAdd_eq hp3 hc hf3))

end

/-- **Taking a claim off again is exact where adding it was.** -/
theorem add_release_pending (s : EstimatorState) (name : String) (ht : 0 ≤ tokens) (hc : 0 ≤ cost)
    (ht' : tokens ≤ I64.MAX) (hc' : cost ≤ I64.MAX) :
    ∃ a re, s.addPendingClaim name tokens cost = .ok a ∧
      a.releasePendingClaim name tokens cost = .ok re ∧
      re.reserved = s.reserved ∧ (re.pending = s.pending ↔ 0 ≤ s.pending name ∧
        s.pending name + (1, tokens, cost) ≤ (I64.MAX, I64.MAX, I64.MAX)) := by
  obtain ⟨a, ha, hp, hr⟩ : ∃ s', s.addPendingClaim name tokens cost = .ok s' ∧ _ :=
    addPendingClaim_eq_ok ht hc
  have ho : (1 : Int) ≤ I64.MAX := by decide
  have hh : ((1, tokens, cost) : ℤ × ℤ × ℤ) ≤ a.pending name := by
    rw [hp, update_self]
    exact ⟨le_saturatingAdd ho, le_saturatingAdd ht', le_saturatingAdd hc'⟩
  obtain ⟨re, hl, hp', hr'⟩ := releasePendingClaim_ok ht hc hh
  refine ⟨a, re, ha, hl, hr'.trans hr, ?_⟩
  rw [hp', hp, update_self, update_idem, update_eq_iff]
  have hq := saturatingAdd_sub_eq_iff (x := s.pendingRequests name) zero_le_one ho
  have hk := saturatingAdd_sub_eq_iff (x := s.pendingTokens name) ht ht'
  have hs := saturatingAdd_sub_eq_iff (x := s.pendingCost name) hc hc'
  constructor
  · rintro ⟨heq, -⟩
    simp only [pending, Prod.mk_sub_mk, Prod.mk.injEq] at heq
    obtain ⟨h1, h1'⟩ := hq.mp heq.1
    obtain ⟨h2, h2'⟩ := hk.mp heq.2.1
    obtain ⟨h3, h3'⟩ := hs.mp heq.2.2
    exact ⟨⟨h1, h2, h3⟩, h1', h2', h3'⟩
  · rintro ⟨⟨h1, h2, h3⟩, h1', h2', h3'⟩
    refine ⟨?_, fun _ _ => rfl⟩
    exact Prod.ext (hq.mpr ⟨h1, h1'⟩)
      (Prod.ext (hk.mpr ⟨h2, h2'⟩) (hs.mpr ⟨h3, h3'⟩))

theorem removeReservation_ok (ht : 0 ≤ tokens) (hc : 0 ≤ cost)
    (hr : ((1, tokens, cost) : ℤ × ℤ × ℤ) ≤ s.reserved name) :
    ∃ s', s.removeReservation name 1 tokens cost = .ok s' ∧ s'.pending = s.pending ∧
      s'.reserved = update s.reserved name (s.reserved name - (1, tokens, cost)) := by
  obtain ⟨h1, h2, h3⟩ := hr
  simp only [reserved] at h1 h2 h3
  have ht' : ¬ tokens < 0 := by omega
  have hc' : ¬ cost < 0 := by omega
  have h1' : ¬ s.reservedRequests name < 1 := by omega
  have h2' : ¬ s.reservedTokens name < tokens := by omega
  have h3' : ¬ s.reservedCost name < cost := by omega
  refine ⟨_, by
    simp only [removeReservation, requireNonNegative, checkSubtractable, if_neg ht', if_neg hc',
      if_neg h1', if_neg h2', if_neg h3']; rfl, ?_, ?_⟩
  · rw [pending_syncMirrors, pending_setReserved]
  · rw [reserved_syncMirrors, reserved_setReserved]; rfl

end Specs

end EstimatorState

end EggPool.Quota
