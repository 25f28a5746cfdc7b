import EggPool.Health.HealthManager
import EggPool.Routing.Eligibility

/-!
# Selecting and claiming

`select_and_claim` as a whole: the scan of the accounts, the fairness rotation, the probe of
the first candidate that grants one, the pending quota, the entry in the claim book, and the
compensation when one of the last two refuses. The selection lock makes a call one step.

A router holds what a selection reads and what it changes. The clock is read many times in a
call, once or more for each account, so it is a function of the account. Scores stay what
they are in `Eligibility`: an order, and here also who counts as tied with the best.
-/

namespace EggPool.Routing

open EggPool.Lib EggPool.Quota

/-! ## Fairness -/

inductive FairnessMode
  | off | roundRobin | random
deriving DecidableEq, Repr

inductive FairnessScope
  | providerModelProtocol | providerModel | priorityModelProtocol
deriving DecidableEq, Repr

structure FairnessKey where
  providerId : Option String
  modelId : String
  protocol : Option String
  priority : Nat
  clientProtocol : Option String
deriving DecidableEq, Repr

def FairnessKey.toKeyString (key : FairnessKey) : String :=
  "provider=" ++ key.providerId.getD "*" ++ "|model=" ++ key.modelId ++ "|protocol=" ++
    key.protocol.getD "*" ++ "|tier=" ++ toString key.priority ++
    match key.clientProtocol with
    | some clientProtocol => "|client_protocol=" ++ clientProtocol
    | none => ""

/-- What a selection decides about fairness, without what only a trace shows. -/
structure FairnessDecision where
  applied : Bool
  key : String
  candidateCount : Nat
  selectedIndex : Option Nat
  selectedAccountName : Option String
  reason : String
  orderedAccounts : List String
deriving DecidableEq, Repr

def FAIRNESS_KEY_HARD_CAP : Nat := 4096

structure RotorState where
  positions : OrdMap String Nat
  /-- Least recently used first. -/
  lru : List String

namespace RotorState

def position (rotor : RotorState) (key : String) : Nat := (rotor.positions.lookup key).getD 0

/-- By account name, then turned to the key's position. -/
def orderNamed (rotor : RotorState) (key : FairnessKey) (candidates : List RoutingCandidate) :
    List RoutingCandidate :=
  (candidates.mergeSort fun a b => a.accountName ≤ b.accountName).rotate
    (rotor.position key.toKeyString)

def commitKeyed (rotor : RotorState) (key : String) (candidateCount : Nat) : RotorState :=
  if candidateCount < 2 then rotor
  else
    let rotor : RotorState :=
      if (rotor.positions.lookup key).isSome then
        { rotor with lru := rotor.lru.filter (· ≠ key) }
      else if FAIRNESS_KEY_HARD_CAP ≤ rotor.positions.size then
        match rotor.lru with
        | [] => rotor
        | oldest :: lru => ⟨rotor.positions.erase oldest, lru⟩
      else rotor
    { positions := rotor.positions.set key (min (rotor.position key + 1) U64_MAX)
      lru := rotor.lru ++ [key] }

end RotorState

/-! ## The router -/

structure Router where
  /-- Registry, catalog, quarantine and policy; its view of health is not used. -/
  config : RoutingState
  /-- Priority, score, native preference, name. -/
  scoreOrder : List RoutingCandidate → List RoutingCandidate
  scoreOrder_perm : ∀ l, (scoreOrder l).Perm l
  /-- The score differs from the first one's by less than the epsilon. -/
  nearTie : RoutingCandidate → RoutingCandidate → Bool
  preferNative : Bool
  fairnessMode : FairnessMode
  fairnessScope : FairnessScope
  /-- The injected randomness. -/
  chooseIndex : Nat → Nat
  health : Option Health.HealthManager
  estimator : EstimatorState
  book : ClaimBook
  /-- The claim book's lock was poisoned. -/
  poisoned : Bool
  rotor : RotorState

/-- What the clock shows at the looks a selection takes at an account. -/
structure SelectionClock where
  (scan gate look ask : String → Rat)

namespace Router

/-- The lookups of `Eligibility`, from the health manager as it is. -/
def healthView (health : Health.HealthManager) (shown : String → Rat) : HealthManager where
  isModelHealthyReadOnly name model := health.isModelHealthy name model (shown name)
  healthState name := ((health.snapshot name (shown name)).1).map (·.healthState)
  tryAcquireRequest name model := (health.tryAcquireRequest name model (shown name)).1

variable (r : Router)

def view (clock : SelectionClock) : RoutingState :=
  { r.config with health := r.health.map (healthView · clock.scan) }

variable (facts : RoutingRequestFacts)

/-- The accounts stopped for their health; a look at the reason tidies their records. -/
def unhealthyAccounts (clock : SelectionClock) : List String :=
  (r.config.registry.rows.filter fun identity =>
    ((RoutingState.accountGate identity).or <| (RoutingState.providerGate identity facts).or <|
      (RoutingState.surfaceGate identity facts).or <|
      RoutingState.protocolGate identity facts).isNone &&
    ((r.view clock).healthGate identity facts).isSome).map (·.accountName)

/-- The accounts that are scored; the scorer's snapshot renews their quota mirrors. -/
def scoredAccounts (clock : SelectionClock) : List String :=
  (r.config.registry.rows.filterMap fun identity =>
    ((r.view clock).candidateForAccount identity facts).toOption).map (·.accountName)

/-- What the scan of the accounts leaves behind. -/
def scanned (clock : SelectionClock) : Router :=
  { r with
    health := r.health.map fun health =>
      (r.unhealthyAccounts facts clock).foldl
        (fun health name => (health.snapshot name (clock.scan name)).2) health
    estimator := (r.scoredAccounts facts clock).foldl EstimatorState.syncMirrors r.estimator }

def probeAvailableReadOnly (clock : SelectionClock) (facts : RoutingRequestFacts)
    (candidate : RoutingCandidate) : Bool :=
  r.health.any fun health => health.isModelHealthy candidate.accountName facts.canonicalModelId
    (clock.gate candidate.accountName)

/-- The candidates in the order of their scores. -/
def candidates (excludeAccounts : List String)
    (preferredAccount : Option String) (clock : SelectionClock) : List RoutingCandidate :=
  r.scoreOrder ((r.view clock).buildEligibleCandidates facts)
    |>.filter (fun c => !excludeAccounts.contains c.accountName)
    |>.filter (fun c => preferredAccount.all (c.accountName = ·))
    |>.filter ((r.scanned facts clock).probeAvailableReadOnly clock facts)

def fairnessKey (priority : Nat) (protocol : Option String) : FairnessKey where
  providerId := if r.fairnessScope = .priorityModelProtocol then none else facts.providerId
  modelId := facts.canonicalModelId
  protocol := if r.fairnessScope = .providerModel then none else protocol
  priority := priority
  clientProtocol := facts.clientProtocol

/-- In the band of candidates that are taken in turn. -/
def inBand (best candidate : RoutingCandidate) : Bool :=
  candidate.priority = best.priority &&
    (!r.preferNative || candidate.requiresTranscode = best.requiresTranscode) &&
    r.nearTie best candidate

def fairnessOrder (candidates : List RoutingCandidate) :
    List RoutingCandidate × Option FairnessDecision :=
  match candidates with
  | [] => ([], none)
  | best :: _ =>
    let key := r.fairnessKey facts best.priority best.protocol
    let band := candidates.filter (r.inBand best)
    let rest := candidates.filter fun candidate => !r.inBand best candidate
    if r.fairnessMode = .off || band.length < 2 then
      (band ++ rest, some {
        applied := false
        key := key.toKeyString
        candidateCount := candidates.length
        selectedIndex := none
        selectedAccountName := none
        reason := if r.fairnessMode = .off then "disabled" else "not_tied"
        orderedAccounts := [] })
    else
      let ordered := if r.fairnessMode = .roundRobin then r.rotor.orderNamed key band
        else band.rotate (r.chooseIndex band.length)
      (ordered ++ rest, some {
        applied := true
        key := key.toKeyString
        candidateCount := band.length
        selectedIndex := some 0
        selectedAccountName := ordered.head?.map (·.accountName)
        reason := "ok"
        orderedAccounts := ordered.map (·.accountName) })

/-- The decision once it is known who refused a probe and who was taken. -/
def acceptedFairness (fairness : FairnessDecision) (selected : RoutingCandidate)
    (rejectedAccounts : List String) : FairnessDecision :=
  if !fairness.applied then fairness
  else
    let band := fairness.orderedAccounts.filter fun account => !rejectedAccounts.contains account
    match band.idxOf? selected.accountName with
    | some index =>
      { fairness with
        candidateCount := max fairness.candidateCount band.length
        selectedIndex := some index
        selectedAccountName := some selected.accountName
        orderedAccounts := band }
    | none =>
      { fairness with
        applied := false
        candidateCount := 0
        selectedIndex := none
        selectedAccountName := none
        reason := "probe_unavailable"
        orderedAccounts := [] }

def commitFairness (fairness : FairnessDecision) : Router :=
  if r.fairnessMode = .roundRobin ∧ 1 < fairness.candidateCount then
    { r with rotor := r.rotor.commitKeyed fairness.key fairness.candidateCount }
  else r

/-! ## Probes -/

/-- Whether the account lets the request through, and if so whether it now holds a probe. -/
def acquireProbe (clock : SelectionClock) (name : String) : Router × Option Bool :=
  match r.health with
  | none => (r, some false)
  | some health =>
    let (seen, health) := health.snapshot name (clock.look name)
    let before := (seen.map (·.circuitBreaker.state)).getD .closed
    let (allowed, health) :=
      health.tryAcquireRequest name facts.canonicalModelId (clock.ask name)
    ({ r with health := some health }, if allowed then some (before != .closed) else none)

/-- The first candidate that lets the request through, and who did not. -/
def acquireFirst (facts : RoutingRequestFacts) (clock : SelectionClock) :
    List RoutingCandidate → Router → Router × Option (RoutingCandidate × Bool) × List String
  | [], r => (r, none, [])
  | candidate :: rest, r =>
    match r.acquireProbe facts clock candidate.accountName with
    | (r, some ownsProbe) => (r, some (candidate, ownsProbe), [])
    | (r, none) =>
      let (r, accepted, rejected) := acquireFirst facts clock rest r
      (r, accepted, candidate.accountName :: rejected)

def releaseProbe (name : String) : Router :=
  { r with health := r.health.map (·.releaseRequest name) }

/-- Give a probe back if the selection holds it. -/
def giveBack (name : String) (ownsProbe : Bool) : Router :=
  if ownsProbe then r.releaseProbe name else r

/-! ## Claims -/

/-- From the accepted candidate on: the pending quota, the entry in the book, the rotor. -/
def claimAccepted (candidate : RoutingCandidate)
    (ownsProbe : Bool) (fairness : Option FairnessDecision) :
    Router × Except ClaimError (Option SelectionClaim) :=
  let claim := r.config.claimFor facts 0 candidate
  match r.estimator.addPendingClaim claim.accountName claim.projectedTokens
      claim.projectedCostMicrodollars with
  | .error error => (r.giveBack candidate.accountName ownsProbe, .error (.quota error))
  | .ok estimator =>
    let r := { r with estimator := estimator }
    match publish r.poisoned r.book claim with
    | (book, .ok published) =>
      let r := { r with book := book }
      (match fairness.filter (·.applied) with
        | some decision => r.commitFairness decision
        | none => r, .ok (some published))
    | (book, .error error) =>
      let r := { r with book := book }
      let r := match r.estimator.releasePendingClaim claim.accountName claim.projectedTokens
          claim.projectedCostMicrodollars with
        | .ok estimator => { r with estimator := estimator }
        -- only logged
        | .error _ => r
      (r.giveBack candidate.accountName ownsProbe, .error error)

def selectAndClaimWithPreference
    (excludeAccounts : List String) (preferredAccount : Option String) (clock : SelectionClock) :
    Router × Except ClaimError (Option SelectionClaim) :=
  let candidates := r.candidates facts excludeAccounts preferredAccount clock
  let (ordered, fairness) := r.fairnessOrder facts candidates
  match acquireFirst facts clock ordered (r.scanned facts clock) with
  | (r, none, _) => (r, .ok none)
  | (r, some (candidate, ownsProbe), rejected) =>
    r.claimAccepted facts candidate ownsProbe
      (fairness.map (acceptedFairness · candidate rejected))

/-- `select_and_claim`. -/
def selectAndClaim (excludeAccounts : List String)
    (clock : SelectionClock) : Router × Except ClaimError (Option SelectionClaim) :=
  r.selectAndClaimWithPreference facts excludeAccounts none clock

/-- `select_and_claim_for_account`. -/
def selectAndClaimForAccount (accountName : String)
    (clock : SelectionClock) : Router × Except ClaimError (Option SelectionClaim) :=
  r.selectAndClaimWithPreference facts [] (some accountName) clock

end Router

end EggPool.Routing
