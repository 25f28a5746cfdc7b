import EggPool.Lib.Table
import EggPool.Quota.Estimator

/-!
# The local claim book

A selection claim is a token that says "this request holds one unit of that
account". The book keeps one record per token with its place in the lifecycle,
the estimator keeps the quota the token holds. Each operation below runs under
the book lock, so it is one function of the book and the estimator.

The book's lock is poisoned only by a holder that panicked; no operation here
does, so the flag is an argument of `publish` and nothing sets it.
-/

namespace EggPool.Routing

open EggPool.Lib EggPool.Quota

inductive ClaimState
  | pending | converted | released | rolledBack
deriving DecidableEq, Repr

inductive ClaimError
  | alreadyTransitioned (claimId : Nat) (state : String)
  | notPending (claimId : Nat)
  | quota (error : QuotaInvariantError)
  | unknownAccount (accountName : String)
  | activeOwnershipUnderflow (accountName : String)
  | poisoned
deriving DecidableEq, Repr

inductive ClaimTransition
  | rolledBack | converted | released | alreadyTransitioned
deriving DecidableEq, Repr

structure OwnedClaim where
  state : ClaimState
  (quotaReleased converted : Bool)
deriving DecidableEq, Repr

/-- The token a successful publish returns. -/
structure SelectionClaim where
  id : Nat
  accountId : Int
  (accountName providerId canonicalModelId : String)
  protocol : Option String
  (projectedTokens projectedCostMicrodollars : Int)
deriving DecidableEq, Repr

/-- The ordered map of claim records. -/
abbrev ClaimRecords := Table (Prod.fst : Nat × OwnedClaim → Nat)

structure ClaimBook where
  nextId : Nat
  activeRequests : String → Int
  claims : ClaimRecords
  terminalOrder : List Nat

/-- `u64::MAX`. -/
def U64_MAX : Nat := 18446744073709551615

/-- Upper bound on retained claim records. -/
def CLAIM_RECORD_HARD_CAP : Nat := 4096

/-- What a claim operation leaves behind and answers. -/
structure ClaimOutcome where
  book : ClaimBook
  estimator : EstimatorState
  result : Except ClaimError ClaimTransition

namespace OwnedClaim

/-- Whether pruning may drop the record: it is terminal and holds no quota. -/
def evictable (c : OwnedClaim) : Bool :=
  (c.quotaReleased || !c.converted) && (c.state == .released || c.state == .rolledBack)

/-- A record that still owes a release: its slot, or its converted quota. -/
def owes (c : OwnedClaim) : Bool :=
  c.state == .pending || c.state == .converted || (c.converted && !c.quotaReleased)

theorem evictable_eq_not_owes (c : OwnedClaim) : c.evictable = !c.owes := by
  obtain ⟨sta, qr, converted⟩ := c
  cases sta <;> cases qr <;> cases converted <;> rfl

end OwnedClaim

namespace ClaimBook

/-- `ClaimBook::default`. -/
def empty : ClaimBook := ⟨0, fun _ => 0, Table.empty, []⟩

variable (b : ClaimBook)

/-- The record of a claim. -/
def claim? (id : Nat) : Option OwnedClaim := (b.claims.get? id).map Prod.snd

/-- Rewrite a claim's record in place, as through `claims.get_mut`. -/
def modifyClaim (id : Nat) (g : OwnedClaim → OwnedClaim) : ClaimBook :=
  { b with claims := b.claims.update (fun r => r.1 == id) (fun r => (r.1, g r.2)) (fun _ => rfl) }

/-- The prune loop, with the number of rounds left. -/
def pruneLoop : Nat → ClaimBook → ClaimBook
  | 0, b => b
  | n + 1, b =>
    if b.claims.size ≤ CLAIM_RECORD_HARD_CAP then b
    else match b.terminalOrder with
      | [] => b
      | id :: rest =>
        if (b.claim? id).any OwnedClaim.evictable then
          pruneLoop n { b with claims := b.claims.erase id, terminalOrder := rest }
        else pruneLoop n { b with terminalOrder := rest ++ [id] }

def pruneTerminalClaims : ClaimBook := b.pruneLoop b.terminalOrder.length

/-- Fails when the active count cannot absorb one decrement. -/
def ensureActiveOwnership (accountName : String) : Except ClaimError Unit :=
  if b.activeRequests accountName < 1 then .error (.activeOwnershipUnderflow accountName)
  else .ok ()

/-- One slot less for an account. -/
def lowerActive (accountName : String) : ClaimBook :=
  { b with activeRequests :=
    Function.update b.activeRequests accountName (b.activeRequests accountName - 1) }

def decrementActive (accountName : String) : Except ClaimError ClaimBook := do
  b.ensureActiveOwnership accountName
  return b.lowerActive accountName

/-- Enter a token whose identifier is already chosen. -/
def register (id : Nat) (accountName : String) : ClaimBook where
  nextId := id
  activeRequests := Function.update b.activeRequests accountName
    (I64.saturatingAdd (b.activeRequests accountName) 1)
  claims := b.claims.insert (id, ⟨.pending, false, false⟩)
  terminalOrder := b.terminalOrder ++ [id]

end ClaimBook

/-- Prune, refuse at the cap or when identifiers run out, otherwise enter the token. -/
def publish (poisoned : Bool) (b : ClaimBook) (claim : SelectionClaim) :
    ClaimBook × Except ClaimError SelectionClaim :=
  if poisoned then (b, .error .poisoned)
  else
    let b := b.pruneTerminalClaims
    if CLAIM_RECORD_HARD_CAP ≤ b.claims.size then (b, .error .poisoned)
    else if U64_MAX ≤ b.nextId then (b, .error .poisoned)
    else (b.register (b.nextId + 1) claim.accountName, .ok { claim with id := b.nextId + 1 })

namespace SelectionClaim

variable (c : SelectionClaim)

/-- Give up a pending claim's quota. -/
def releasePending (e : EstimatorState) : Except QuotaInvariantError EstimatorState :=
  e.releasePendingClaim c.accountName c.projectedTokens c.projectedCostMicrodollars

def rollbackClaim (b : ClaimBook) (e : EstimatorState) : ClaimOutcome :=
  match b.claim? c.id with
  | none => ⟨b, e, .error (.unknownAccount c.accountName)⟩
  | some owned =>
    if owned.state ≠ .pending then ⟨b, e, .ok .alreadyTransitioned⟩
    else match b.ensureActiveOwnership c.accountName with
      | .error err => ⟨b, e, .error err⟩
      | .ok () => match c.releasePending e with
        | .error err => ⟨b, e, .error (.quota err)⟩
        | .ok e => match b.decrementActive c.accountName with
          | .error err => ⟨b, e, .error err⟩
          | .ok b =>
            ⟨(b.modifyClaim c.id ({ · with state := .rolledBack })).pruneTerminalClaims, e,
              .ok .rolledBack⟩

def convertClaimAfterDurablePublication (b : ClaimBook) (e : EstimatorState) : ClaimOutcome :=
  match b.claim? c.id with
  | none => ⟨b, e, .error (.unknownAccount c.accountName)⟩
  | some owned =>
    if owned.state = .converted then ⟨b, e, .ok .alreadyTransitioned⟩
    else if owned.state ≠ .pending then ⟨b, e, .error (.notPending c.id)⟩
    else match e.convertPendingClaim c.accountName c.projectedTokens
        c.projectedCostMicrodollars with
      | .error err => ⟨b, e, .error (.quota err)⟩
      | .ok e =>
        ⟨b.modifyClaim c.id ({ · with state := .converted, converted := true }), e,
          .ok .converted⟩

/-- The last steps of an active release: the slot, the record, the prune. -/
def releaseSlot (b : ClaimBook) (e : EstimatorState) : ClaimOutcome :=
  match b.decrementActive c.accountName with
  | .error err => ⟨b, e, .error err⟩
  | .ok b =>
    ⟨(b.modifyClaim c.id ({ · with state := .released })).pruneTerminalClaims, e, .ok .released⟩

def releaseActiveClaim (b : ClaimBook) (e : EstimatorState) : ClaimOutcome :=
  match b.claim? c.id with
  | none => ⟨b, e, .error (.unknownAccount c.accountName)⟩
  | some owned =>
    if owned.state = .released ∨ owned.state = .rolledBack then ⟨b, e, .ok .alreadyTransitioned⟩
    else if owned.state = .pending then
      -- a claim that never became durable still holds pending quota
      match b.ensureActiveOwnership c.accountName with
      | .error err => ⟨b, e, .error err⟩
      | .ok () => match c.releasePending e with
        | .error err => ⟨b, e, .error (.quota err)⟩
        | .ok e => c.releaseSlot b e
    else c.releaseSlot b e

def releaseQuotaReservation (b : ClaimBook) (e : EstimatorState) : ClaimOutcome :=
  match b.claim? c.id with
  | none => ⟨b, e, .error (.unknownAccount c.accountName)⟩
  | some owned =>
    if owned.quotaReleased || !owned.converted then ⟨b, e, .ok .alreadyTransitioned⟩
    else match e.removeReservation c.accountName 1 c.projectedTokens
        c.projectedCostMicrodollars with
      | .error err => ⟨b, e, .error (.quota err)⟩
      | .ok e => ⟨b.modifyClaim c.id ({ · with quotaReleased := true }), e, .ok .released⟩

end SelectionClaim

/-- The four operations on a token. -/
inductive ClaimOp
  | rollback | convert | releaseActive | releaseQuota
deriving DecidableEq, Repr

/-- Run one operation on a token. -/
def ClaimOp.apply : ClaimOp → SelectionClaim → ClaimBook → EstimatorState → ClaimOutcome
  | .rollback => SelectionClaim.rollbackClaim
  | .convert => SelectionClaim.convertClaimAfterDurablePublication
  | .releaseActive => SelectionClaim.releaseActiveClaim
  | .releaseQuota => SelectionClaim.releaseQuotaReservation

/-! ## The transitions, under their guards -/

namespace SelectionClaim

variable {c : SelectionClaim} {b : ClaimBook} {e e' : EstimatorState} {owned : OwnedClaim}

theorem decrementActive_eq {a : String} (h : 1 ≤ b.activeRequests a) :
    b.decrementActive a = .ok (b.lowerActive a) := by
  have hlt : ¬ b.activeRequests a < 1 := by omega
  simp only [ClaimBook.decrementActive, ClaimBook.ensureActiveOwnership, if_neg hlt]
  rfl

theorem releaseSlot_eq (ha : 1 ≤ b.activeRequests c.accountName) :
    c.releaseSlot b e = ⟨((b.lowerActive c.accountName).modifyClaim c.id
        ({ · with state := .released })).pruneTerminalClaims, e, .ok .released⟩ := by
  simp [releaseSlot, decrementActive_eq ha]

section

variable (hc : b.claim? c.id = some owned)

include hc

theorem rollbackClaim_eq (hs : owned.state = .pending)
    (ha : 1 ≤ b.activeRequests c.accountName) (he : c.releasePending e = .ok e') :
    c.rollbackClaim b e = ⟨((b.lowerActive c.accountName).modifyClaim c.id
        ({ · with state := .rolledBack })).pruneTerminalClaims, e', .ok .rolledBack⟩ := by
  have hlt : ¬ b.activeRequests c.accountName < 1 := by omega
  simp only [rollbackClaim, hc, hs, ne_eq, not_true_eq_false, if_false,
    ClaimBook.ensureActiveOwnership, if_neg hlt, he, decrementActive_eq ha]

theorem convertClaim_eq (hs : owned.state = .pending)
    (he : e.convertPendingClaim c.accountName c.projectedTokens c.projectedCostMicrodollars =
      .ok e') :
    c.convertClaimAfterDurablePublication b e =
      ⟨b.modifyClaim c.id ({ · with state := .converted, converted := true }), e',
        .ok .converted⟩ := by
  simp [convertClaimAfterDurablePublication, hc, hs, he]

theorem releaseActiveClaim_pending_eq
    (hs : owned.state = .pending) (ha : 1 ≤ b.activeRequests c.accountName)
    (he : c.releasePending e = .ok e') : c.releaseActiveClaim b e = c.releaseSlot b e' := by
  have hlt : ¬ b.activeRequests c.accountName < 1 := by omega
  simp [releaseActiveClaim, hc, hs, ClaimBook.ensureActiveOwnership, hlt, he]

theorem releaseActiveClaim_converted_eq
    (hs : owned.state = .converted) : c.releaseActiveClaim b e = c.releaseSlot b e := by
  simp [releaseActiveClaim, hc, hs]

theorem releaseQuotaReservation_eq (hr : owned.quotaReleased = false) (hv : owned.converted = true)
    (he : e.removeReservation c.accountName 1 c.projectedTokens c.projectedCostMicrodollars =
      .ok e') :
    c.releaseQuotaReservation b e =
      ⟨b.modifyClaim c.id ({ · with quotaReleased := true }), e', .ok .released⟩ := by
  simp [releaseQuotaReservation, hc, hr, hv, he]

end

end SelectionClaim

end EggPool.Routing
