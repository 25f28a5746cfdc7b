import EggPool.Quota.Estimator

/-!
# Scoring accounts

Scores are read from copies of the estimator's state. The public path copies it into a map
by name; the router's path copies it into a list, in the order of the names. Either way the
mirrors of an account are brought up to date before it is copied.

What is computed from a copy is floating point arithmetic, the same for both paths: it is
left abstract, as are the numbers and the scores. So is the rest of an account's quota record,
which neither path writes: a scorer finds it by the name.
-/

namespace EggPool.Quota

open Function

structure QuotaAccountSnapshot where
  quota : AccountQuota
  (reservedCost reservedRequests reservedTokens pendingCost pendingRequests pendingTokens : Int)

namespace EstimatorState

variable (s : EstimatorState) (name : String)

/-- A copy of what is known about an account. -/
def copyOf : Option QuotaAccountSnapshot :=
  (s.accounts name).map fun quota =>
    ⟨quota, s.reservedCost name, s.reservedRequests name, s.reservedTokens name,
      s.pendingCost name, s.pendingRequests name, s.pendingTokens name⟩

/-- The loop of `snapshot`, over the map so far. -/
def snapshotLoop (s : EstimatorState) (copies : String → Option QuotaAccountSnapshot) :
    List String → String → Option QuotaAccountSnapshot
  | [] => copies
  | name :: names =>
    let s := s.syncMirrors name
    match s.copyOf name with
    | some copy => s.snapshotLoop (update copies name (some copy)) names
    | none => s.snapshotLoop copies names

def snapshot (names : List String) : String → Option QuotaAccountSnapshot :=
  s.snapshotLoop (fun _ => none) names

def snapshotOrdered (s : EstimatorState) : List String → List (Option QuotaAccountSnapshot)
  | [] => []
  | name :: names =>
    let s := s.syncMirrors name
    s.copyOf name :: s.snapshotOrdered names

/-- Bringing one account up to date changes no up-to-date copy. -/
theorem copyOf_syncMirrors (other : String) :
    ((s.syncMirrors other).syncMirrors name).copyOf name = (s.syncMirrors name).copyOf name := by
  by_cases hn : name = other
  · subst hn
    cases hq : s.accounts name <;> simp [syncMirrors, copyOf, hq]
  · cases ho : s.accounts other <;> cases hq : s.accounts name <;>
      simp [syncMirrors, copyOf, ho, hq, hn]

theorem snapshotOrdered_eq (names : List String) : ∀ s : EstimatorState,
    s.snapshotOrdered names = names.map fun name => (s.syncMirrors name).copyOf name := by
  induction names with
  | nil => intro s; rfl
  | cons name names ih =>
    intro s
    simp only [snapshotOrdered, ih, copyOf_syncMirrors, List.map_cons]

theorem snapshotLoop_eq (names : List String) (name : String) : ∀ s copies,
    snapshotLoop s copies names name =
      if name ∈ names then ((s.syncMirrors name).copyOf name).or (copies name)
      else copies name := by
  induction names with
  | nil => intro s copies; rfl
  | cons first names ih =>
    intro s copies
    by_cases hn : name = first
    · -- a name that comes up again is copied again, with the same outcome
      subst hn
      cases hc : (s.syncMirrors name).copyOf name <;>
        simp [snapshotLoop, ih, copyOf_syncMirrors, hc]
    · cases hc : (s.syncMirrors first).copyOf first <;>
        simp [snapshotLoop, ih, copyOf_syncMirrors, hc, hn]

end EstimatorState

/-- The scorer: what it makes of a copy, and of an account that is not there. -/
structure QuotaFairScorer (F S : Type) where
  scoreOne : String → QuotaAccountSnapshot → (activeRequests projectedTokens : Int) →
    (healthPenalty now : F) → S
  emptyScore : String → S

namespace QuotaFairScorer

variable {F S : Type} [Zero F] (scorer : QuotaFairScorer F S) (estimator : EstimatorState)
  (names : List String) (activeRequests : String → Option Int)

def scoreAccounts (projectedTokens : String → Option Int) (healthPenalties : String → Option F)
    (now : F) : List S :=
  let snapshots := estimator.snapshot names
  names.map fun name =>
    match snapshots name with
    | none => scorer.emptyScore name
    | some snapshot => scorer.scoreOne name snapshot ((activeRequests name).getD 0)
        ((projectedTokens name).getD 0) ((healthPenalties name).getD 0) now

/-- The router's path: one number of tokens for all, and no health penalty. -/
def scoreOrdered (projectedTokens : Int) (now : F) : List S :=
  (names.zip (estimator.snapshotOrdered names)).map fun (name, snapshot) =>
    match snapshot with
    | none => scorer.emptyScore name
    | some snapshot => scorer.scoreOne name snapshot ((activeRequests name).getD 0)
        projectedTokens 0 now

/-- The score of one name, from its own copy. -/
def scoreFor (projectedTokens : Int) (now : F) (name : String) : S :=
  match (estimator.syncMirrors name).copyOf name with
  | none => scorer.emptyScore name
  | some snapshot => scorer.scoreOne name snapshot ((activeRequests name).getD 0)
      projectedTokens 0 now

theorem scoreOrdered_eq (projectedTokens : Int) (now : F) :
    scorer.scoreOrdered estimator names activeRequests projectedTokens now =
      names.map (scorer.scoreFor estimator activeRequests projectedTokens now) := by
  rw [scoreOrdered, EstimatorState.snapshotOrdered_eq, ← List.map_prod_left_eq_zip, List.map_map]
  rfl

/-- **The router's path scores every name as the public one does.** -/
theorem scoreOrdered_eq_scoreAccounts {projectedTokens : Int} {tokens : String → Option Int}
    {penalties : String → Option F} (now : F)
    (ht : ∀ name ∈ names, (tokens name).getD 0 = projectedTokens)
    (hp : ∀ name ∈ names, (penalties name).getD 0 = 0) :
    scorer.scoreOrdered estimator names activeRequests projectedTokens now =
      scorer.scoreAccounts estimator names activeRequests tokens penalties now := by
  rw [scoreOrdered_eq, scoreAccounts]
  refine List.map_congr_left fun name hn => ?_
  have hs : estimator.snapshot names name = (estimator.syncMirrors name).copyOf name := by
    rw [EstimatorState.snapshot, EstimatorState.snapshotLoop_eq, if_pos hn, Option.or_none]
  rw [hs, ht name hn, hp name hn]
  rfl

theorem scoreOrdered_eq_scoreAccounts_missing_account :
    let scorer : QuotaFairScorer ℤ ℤ :=
      ⟨fun _ copy active tokens _ _ => copy.pendingTokens + active + tokens, fun _ => -1⟩
    let estimator := { EstimatorState.init fun name =>
      if name = "a" then some (.new name) else none with pendingTokens := fun _ => 5 }
    let active := fun _ => some 1
    scorer.scoreOrdered estimator ["b", "a"] active 2 0 = [-1, 8] ∧
      scorer.scoreOrdered estimator ["b", "a"] active 2 0 =
        scorer.scoreAccounts estimator ["b", "a"] active (fun _ => some 2) (fun _ => none) 0 :=
  ⟨by decide, scoreOrdered_eq_scoreAccounts _ _ _ _ _ (fun _ _ => rfl) (fun _ _ => rfl)⟩

end QuotaFairScorer

end EggPool.Quota
