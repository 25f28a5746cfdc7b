import EggPool.Quota.Scorer
import EggPool.Routing.Eligibility

/-!
# Candidates and exclusions

Every account the registry enumerates is scored and put in order as a candidate, or it is
recorded with a reason. It can be stopped at a gate or by its score, and candidates are put in
order at the end, so neither list depends on the order of the registry: names are distinct, and
a name decides between candidates that are alike otherwise.

Scores are abstract. `total_cmp` on floating point numbers is a linear order.
-/

namespace EggPool.Routing

open EggPool.Lib EggPool.Quota List

structure RoutingExclusion where
  (accountName reasonCode : String)
deriving DecidableEq, Repr

/-- An order in which a registry may enumerate its accounts. -/
structure Enumeration (registry : Table AccountIdentity.accountName) where
  all : List AccountIdentity
  perm : all.Perm registry.rows

/-- How a policy scores, and what is read from a score. -/
structure Scoring (F S : Type) extends QuotaFairScorer F S where
  isEligible : S → Bool
  finalScore : S → F
  isFinite : F → Bool
  preferNative : Bool

namespace Scoring

variable {F S : Type} (scoring : Scoring F S)

def isValid (c : RoutingCandidate × S) : Bool :=
  scoring.isEligible c.2 && scoring.isFinite (scoring.finalScore c.2)

/-- Higher priority first, then the score, then native before transcoded, then the name. -/
def sortKey (c : RoutingCandidate × S) : ℕᵒᵈ ×ₗ F ×ₗ Bool ×ₗ String :=
  toLex (.toDual c.1.priority, toLex (scoring.finalScore c.2,
    toLex (scoring.preferNative && c.1.requiresTranscode, c.1.accountName)))

/-- What passes the gates has a valid score or none. -/
theorem perm_scores (score : RoutingCandidate → S) (eligible : List RoutingCandidate) :
    (((eligible.map fun c => (c, score c)).filter scoring.isValid).map (·.1.accountName) ++
      ((eligible.map fun c => (c, score c)).filter fun c => !scoring.isValid c).map
        (·.1.accountName)).Perm (eligible.map (·.accountName)) := by
  rw [← map_append]
  exact ((filter_append_perm _ _).map _).trans (.of_eq map_map)

variable [LinearOrder F]

def sort (scored : List (RoutingCandidate × S)) : List (RoutingCandidate × S) :=
  scored.mergeSort fun left right => scoring.sortKey left ≤ scoring.sortKey right

variable {scoring} {l l' : List (RoutingCandidate × S)}

theorem sort_perm : (scoring.sort l).Perm l := mergeSort_perm _ _

theorem sort_pairwise :
    (scoring.sort l).Pairwise fun left right => scoring.sortKey left ≤ scoring.sortKey right := by
  refine (pairwise_mergeSort ?_ ?_ l).imp of_decide_eq_true
  · intro a b c hab hbc
    exact decide_eq_true ((of_decide_eq_true hab).trans (of_decide_eq_true hbc))
  · intro a b
    simpa using le_total (scoring.sortKey a) (scoring.sortKey b)

/-- Sorting candidates of distinct names forgets the order they came in. -/
theorem sort_eq_of_perm (hp : l.Perm l') (hd : (l.map (·.1.accountName)).Nodup) :
    scoring.sort l = scoring.sort l' := by
  refine Perm.eq_of_pairwise ?_ sort_pairwise sort_pairwise
    (sort_perm.trans (hp.trans sort_perm.symm))
  intro a b ha hb hab hba
  have hk : scoring.sortKey a = scoring.sortKey b := hab.antisymm hba
  simp only [sortKey, EmbeddingLike.apply_eq_iff_eq, Prod.mk.injEq] at hk
  exact inj_on_of_nodup_map hd (sort_perm.mem_iff.mp ha)
    (hp.mem_iff.mpr (sort_perm.mem_iff.mp hb)) hk.2.2.2

end Scoring

namespace RoutingState

variable {F S : Type} [Zero F] (env : RoutingState) (facts : RoutingRequestFacts)
  (scoring : Scoring F S) (estimator : EstimatorState) (activeRequests : String → Option Int)
  (now : F)

def stopped (identity : AccountIdentity) : Option RoutingExclusion :=
  match env.candidateForAccount identity facts with
  | .error reason => some ⟨identity.accountName, reason⟩
  | .ok _ => none

/-- What a candidate scores depends on its name only. -/
theorem zip_scoreOrdered (eligible : List RoutingCandidate) (tokens : Int) :
    eligible.zip (scoring.scoreOrdered estimator (eligible.map (·.accountName)) activeRequests
      tokens now) = eligible.map fun c =>
        (c, scoring.scoreFor estimator activeRequests tokens now c.accountName) := by
  rw [QuotaFairScorer.scoreOrdered_eq, map_map]
  exact map_prod_left_eq_zip.symm

variable [LinearOrder F]

/-- `build_eligible_candidates`, with both of its lists. -/
def buildEligibleCandidatesAndExclusions (registry : List AccountIdentity) :
    List (RoutingCandidate × S) × List RoutingExclusion :=
  let eligible := registry.filterMap fun identity =>
    (env.candidateForAccount identity facts).toOption
  let scores := scoring.scoreOrdered estimator (eligible.map (·.accountName)) activeRequests
    (max facts.projectedTokens 0) now
  let scored := eligible.zip scores
  (scoring.sort (scored.filter scoring.isValid),
    registry.filterMap (env.stopped facts) ++
      (scored.filter fun c => !scoring.isValid c).map fun c => ⟨c.1.accountName, "malformed_score"⟩)

/-- An account passes the gates or is stopped at one. -/
theorem perm_gates {accounts : List AccountIdentity} :
    ((accounts.filterMap fun identity => (env.candidateForAccount identity facts).toOption).map
        (·.accountName) ++ (accounts.filterMap (env.stopped facts)).map (·.accountName)).Perm
      (accounts.map (·.accountName)) := by
  induction accounts with
  | nil => exact .refl _
  | cons identity accounts ih =>
    cases hc : env.candidateForAccount identity facts with
    | error reason =>
      simp only [filterMap_cons, stopped, hc, Except.toOption, map_cons]
      exact perm_middle.trans (ih.cons _)
    | ok c =>
      have hn : c.accountName = identity.accountName :=
        accountName_of_candidate (congrArg Except.toOption hc)
      simp only [filterMap_cons, stopped, hc, Except.toOption, map_cons, cons_append, hn]
      exact ih.cons _

variable {env facts}

/-- **Every account is a candidate or excluded, once, and the order of the registry does not
matter.** -/
theorem eligible_partition (first second : Enumeration env.registry) :
    let lists (registry : Enumeration env.registry) := env.buildEligibleCandidatesAndExclusions
      facts scoring estimator activeRequests now registry.all
    let names := (lists first).1.map (·.1.accountName) ++ (lists first).2.map (·.accountName)
    names.Perm (first.all.map (·.accountName)) ∧ names.Nodup ∧
      (lists first).1 = (lists second).1 ∧ (lists first).2.Perm (lists second).2 := by
  intro lists names
  have hp : names.Perm (first.all.map (·.accountName)) := by
    refine Perm.trans ?_ (perm_gates env facts)
    simp only [names, lists, buildEligibleCandidatesAndExclusions, zip_scoreOrdered,
      map_append, map_map]
    refine ((Scoring.sort_perm.map _).append perm_append_comm).trans ?_
    rw [← append_assoc]
    exact (scoring.perm_scores _ _).append_right _
  have hn : names.Nodup := hp.nodup_iff.mpr ((first.perm.map _).nodup_iff.mpr
    (pairwise_map.mpr (env.registry.sorted.imp ne_of_lt)))
  have he := first.perm.trans second.perm.symm
  refine ⟨hp, hn, ?_, ?_⟩
  · have hd := (Scoring.sort_perm.map _).nodup_iff.mp (nodup_append.mp hn).1
    simp only [lists, buildEligibleCandidatesAndExclusions, zip_scoreOrdered] at hd ⊢
    exact Scoring.sort_eq_of_perm (((he.filterMap _).map _).filter _) hd
  · simp only [lists, buildEligibleCandidatesAndExclusions, zip_scoreOrdered]
    exact (he.filterMap _).append ((((he.filterMap _).map _).filter _).map _)

end RoutingState

end EggPool.Routing
