import EggPool.Routing.FailedSelection

/-!
# A selection that claims an account

Who is claimed is the first in the order of asking that lets the request through, and whoever
was asked earlier has refused. The order of asking puts a higher priority first whatever
fairness does: the band that is taken in turn is part of the first tier, and outside of it
the candidates stand as the scores left them.
-/

namespace EggPool.Routing

open EggPool.Lib EggPool.Quota List

/-! ## The order of the scores -/

section Scores

variable {σ : Type} [LinearOrder σ]

/-- What candidates are compared by: priority downwards, then score, native preference, name. -/
def sortKey (preferNative : Bool) (score : RoutingCandidate → σ) (c : RoutingCandidate) :
    ℕᵒᵈ ×ₗ σ ×ₗ Bool ×ₗ String :=
  toLex (OrderDual.toDual c.priority, toLex (score c,
    toLex (preferNative && c.requiresTranscode, c.accountName)))

def sortScored (preferNative : Bool) (score : RoutingCandidate → σ) (l : List RoutingCandidate) :
    List RoutingCandidate :=
  l.insertionSort fun left right => sortKey preferNative score left ≤ sortKey preferNative score right

theorem sortScored_perm (p : Bool) (s : RoutingCandidate → σ)
    (l : List RoutingCandidate) : (sortScored p s l).Perm l :=
  perm_insertionSort _ _

/-- No priority is followed by a higher one. -/
def TiersDescend (l : List RoutingCandidate) : Prop :=
  l.Pairwise fun left right => right.priority ≤ left.priority

theorem priority_le_of_sortKey_le {p : Bool} {s : RoutingCandidate → σ} {l r : RoutingCandidate}
    (h : sortKey p s l ≤ sortKey p s r) : r.priority ≤ l.priority:= by
  rcases Prod.Lex.toLex_le_toLex.mp h with hlt | ⟨heq, _⟩
  · exact Nat.le_of_lt hlt
  · exact (OrderDual.toDual_inj.mp heq).ge

end Scores

namespace Router

/--
The router whose candidates have these scores. Who is tied with the best stays what it is in
`r`, so that every epsilon is covered.
-/
def scoredBy {σ : Type} [LinearOrder σ] (r : Router) (score : RoutingCandidate → σ) : Router :=
  { r with
    scoreOrder := sortScored r.preferNative score
    scoreOrder_perm := sortScored_perm r.preferNative score }

/-! ## The order of asking -/

theorem mem_candidates {r : Router} {f : RoutingRequestFacts} {ea : List String}
    {p : Option String} {cl : SelectionClock} {c : RoutingCandidate} :
    c ∈ r.candidates f ea p cl ↔ (c ∈ (r.view cl).buildEligibleCandidates f ∧ c.accountName ∉ ea) ∧
        p.all (c.accountName = ·) = true ∧
        (r.scanned f cl).probeAvailableReadOnly cl f c = true := by
  unfold candidates
  simp only [mem_filter, (r.scoreOrder_perm _).mem_iff, Bool.not_eq_true',
    contains_eq_mem, decide_eq_false_iff_not, and_assoc]

theorem tiersDescend_candidates {σ : Type} [LinearOrder σ] (r : Router)
    (s : RoutingCandidate → σ) (f : RoutingRequestFacts) (ea : List String)
    (p : Option String) (cl : SelectionClock) : TiersDescend ((r.scoredBy s).candidates f ea p cl):=
  ((((pairwise_insertionSort _ _).imp priority_le_of_sortKey_le).filter _).filter _).filter _

/-- **Fairness does not mix the tiers.** -/
theorem tiersDescend_fairnessOrder (r : Router) (f : RoutingRequestFacts)
    {ca : List RoutingCandidate} (h : TiersDescend ca) : TiersDescend (r.fairnessOrder f ca).1:= by
  cases ca with
  | nil => exact .nil
  | cons best tail =>
    have hs : ∀ c ∈ best :: tail, c.priority ≤ best.priority :=
      forall_mem_cons.mpr ⟨le_rfl, fun _ => rel_of_pairwise_cons h⟩
    obtain ⟨band, hr, he⟩ := r.fairnessOrder_cons f best tail
    have hp : ∀ c ∈ band, c.priority = best.priority := by
      intro c hc
      have hb := (mem_filter.mp (hr.mem_iff.mp hc)).2
      simp only [inBand, Bool.and_eq_true, decide_eq_true_eq] at hb
      exact hb.1.1
    rw [he]
    refine pairwise_append.mpr ⟨?_, h.filter _, ?_⟩
    · exact pairwise_of_forall_mem_list fun a ha b hb =>
        ((hp b hb).trans (hp a ha).symm).le
    intro a ha b hb
    rw [hp a ha]
    exact hs b (mem_filter.mp hb).1

/-! ## Whom the loop accepts -/

/-- The accounts whose probe was refused before one was granted. -/
def refusedAccounts (r : Router) (facts : RoutingRequestFacts) (excludeAccounts : List String)
    (preferredAccount : Option String) (clock : SelectionClock) : List String :=
  (acquireFirst facts clock (r.ordered facts excludeAccounts preferredAccount clock)
    (r.scanned facts clock)).2.2

theorem accountName_of_publish {p : Bool} {b b' : ClaimBook}
    {c pu : SelectionClaim} (h : publish p b c = (b', .ok pu)) : pu.accountName = c.accountName:= by
  revert h
  fun_cases publish p b c with
  | case4 => rintro ⟨⟩; rfl
  | _ => exact fun h => by cases (Prod.mk.inj h).2

/-- The rotor once a claim is published. -/
def rotorAfter (r : Router) (fairness : Option FairnessDecision) : RotorState :=
  match fairness.filter (·.applied) with
  | some decision => (r.commitFairness decision).rotor
  | none => r.rotor

theorem rotor_commitFairness (r : Router) (d : FairnessDecision) : (r.commitFairness d).rotor =
      if r.fairnessMode = .roundRobin ∧ 1 < d.candidateCount then
        r.rotor.commitKeyed d.key d.candidateCount else r.rotor := by
  unfold commitFairness
  split <;> rfl

theorem rotorAfter_congr {r r' : Router} (hm : r'.fairnessMode = r.fairnessMode)
    (hr : r'.rotor = r.rotor) (fairness : Option FairnessDecision) :
    r'.rotorAfter fairness = r.rotorAfter fairness := by
  unfold rotorAfter
  cases fairness.filter (·.applied) with
  | none => exact hr
  | some dcs =>
    dsimp only
    rw [rotor_commitFairness, rotor_commitFairness, hm, hr]

theorem claimAccepted_ok {r : Router} {f : RoutingRequestFacts} {c : RoutingCandidate}
    {o : Bool} {fairness : Option FairnessDecision} {cl : SelectionClaim}
    (h : (r.claimAccepted f c o fairness).2 = .ok (some cl)) : cl.accountName = c.accountName ∧
      (r.claimAccepted f c o fairness).1.rotor = r.rotorAfter fairness := by
  unfold claimAccepted at h ⊢
  dsimp only at h ⊢
  revert h
  rcases r.estimator.addPendingClaim (r.config.claimFor f 0 c).accountName
      (r.config.claimFor f 0 c).projectedTokens
      (r.config.claimFor f 0 c).projectedCostMicrodollars with err | estimator
  · intro h
    cases h
  rcases hp : publish r.poisoned r.book (r.config.claimFor f 0 c) with
    ⟨book, err | pub⟩
  · intro h
    cases h
  intro h
  cases h
  have hs : ({ r with estimator := estimator, book := book } : Router).rotorAfter fairness =
      r.rotorAfter fairness := by apply rotorAfter_congr <;> rfl
  refine ⟨accountName_of_publish hp, .trans ?_ hs⟩
  unfold rotorAfter
  cases fairness.filter (·.applied) <;> rfl

/-- **Whom a selection claims**: everyone asked before has refused. -/
theorem selectAndClaim_ok {r : Router} {f : RoutingRequestFacts} {ea : List String}
    {p : Option String} {cl : SelectionClock} {c : SelectionClaim}
    (h : (r.selectAndClaimWithPreference f ea p cl).2 = .ok (some c)) : ∃ ear ch later,
      r.ordered f ea p cl = ear ++ ch :: later ∧
      r.refusedAccounts f ea p cl = ear.map (·.accountName) ∧
      c.accountName = ch.accountName ∧ (r.selectAndClaimWithPreference f ea p cl).1.rotor =
        r.rotorAfter ((r.fairnessOrder f (r.candidates f ea p
          cl)).2.map (acceptedFairness · ch (ear.map (·.accountName)))) := by
  have ha := asked_acquireFirst f cl (r.ordered f ea p cl) (r.scanned f cl)
  unfold refusedAccounts
  unfold selectAndClaimWithPreference at h ⊢
  unfold ordered at ha ⊢
  dsimp only at h ⊢
  revert h ha
  rcases acquireFirst f cl (r.fairnessOrder f (r.candidates f ea
    p cl)).1 (r.scanned f cl) with ⟨r', _ | ⟨ch, ownsProbe⟩, refused⟩
  · intro h
    cases h
  intro h ha
  obtain ⟨ear, later, ho, rfl⟩ := ha.refused _ rfl
  obtain ⟨hn, hr⟩ := claimAccepted_ok h
  exact ⟨ear, ch, later, ho, rfl, hn,
    hr.trans (rotorAfter_congr (r := r) ha.same.fairnessMode ha.same.rotor _)⟩

/-! ## Priority -/

/-- **No tier is passed over.** A candidate of a higher priority than the claimed account was
not eligible, was excluded, was not probed, or refused the probe. -/
theorem claimed_priority_maximal {σ : Type} [LinearOrder σ] (r : Router)
    (score : RoutingCandidate → σ) (facts : RoutingRequestFacts) (excludeAccounts : List String)
    (clock : SelectionClock) (claim : SelectionClaim)
    (h : ((r.scoredBy score).selectAndClaim facts excludeAccounts clock).2 = .ok (some claim)) :
    ∃ chosen ∈ (r.view clock).buildEligibleCandidates facts,
      chosen.accountName = claim.accountName ∧
      ∀ c ∈ (r.view clock).buildEligibleCandidates facts,
        c.accountName ∉ excludeAccounts →
        (r.scanned facts clock).probeAvailableReadOnly clock facts c = true →
        c.accountName ∉ (r.scoredBy score).refusedAccounts facts excludeAccounts none clock →
        c.priority ≤ chosen.priority := by
  obtain ⟨earlier, chosen, later, hordered, hrefused, hname, -⟩ := selectAndClaim_ok h
  have hdescend := (r.scoredBy score).tiersDescend_fairnessOrder facts
    (tiersDescend_candidates r score facts excludeAccounts none clock)
  have hperm := (r.scoredBy score).fairnessOrder_perm facts
    ((r.scoredBy score).candidates facts excludeAccounts none clock)
  rw [show ((r.scoredBy score).fairnessOrder facts _).1 = earlier ++ chosen :: later from hordered]
    at hdescend hperm
  have hmem : ∀ c, c ∈ earlier ++ chosen :: later ↔
      ((c ∈ (r.view clock).buildEligibleCandidates facts ∧ c.accountName ∉ excludeAccounts) ∧
        (r.scanned facts clock).probeAvailableReadOnly clock facts c = true) := by
    intro c
    rw [hperm.mem_iff, mem_candidates]
    exact ⟨fun h => ⟨h.1, h.2.2⟩, fun h => ⟨h.1, rfl, h.2⟩⟩
  refine ⟨chosen, ((hmem chosen).mp (by simp)).1.1, hname.symm, fun c hc hin hprobe hasked => ?_⟩
  rcases mem_append.mp ((hmem c).mpr ⟨⟨hc, hin⟩, hprobe⟩) with hearlier | hlater
  · rw [hrefused] at hasked
    exact absurd (mem_map_of_mem hearlier) hasked
  rcases mem_cons.mp hlater with rfl | hlater
  · exact le_rfl
  · exact rel_of_pairwise_cons (pairwise_append.mp hdescend).2.1 hlater

/-- Two accounts of different tiers. -/
def tieredRouter : Router :=
  { poisonedRouter 0 with
    config := { (poisonedRouter 0).config with
      registry := (Table.empty.insert ⟨1, "a", "p", true, true, 0, ["openai"], []⟩).insert
        ⟨2, "b", "p", true, true, 1, ["openai"], []⟩ }
    fairnessMode := .roundRobin
    health := some ((Health.HealthManager.empty.registerAccount 1 "a" 0).registerAccount 2 "b" 0)
    poisoned := false }

theorem claimed_priority_maximal_tiered : ∃ claim : SelectionClaim,
    claim.accountName = "b" ∧
    ∃ chosen ∈ (tieredRouter.view stopped).buildEligibleCandidates oneToken,
      chosen.accountName = claim.accountName ∧
      ∀ c ∈ (tieredRouter.view stopped).buildEligibleCandidates oneToken,
        c.accountName ∉ ([] : List String) →
        (tieredRouter.scanned oneToken stopped).probeAvailableReadOnly stopped oneToken c = true →
        c.accountName ∉ (tieredRouter.scoredBy fun _ => (0 : Nat)).refusedAccounts oneToken [] none
          stopped →
        c.priority ≤ chosen.priority := by
  have hname : (((tieredRouter.scoredBy fun _ => (0 : Nat)).selectAndClaim oneToken []
      stopped).2.toOption.join.map (·.accountName)) = some "b" := by decide +kernel
  obtain ⟨claim, hclaim, hb⟩ := Option.map_eq_some_iff.mp hname
  refine ⟨claim, hb, claimed_priority_maximal tieredRouter _ oneToken [] stopped claim ?_⟩
  revert hclaim
  cases ((tieredRouter.scoredBy fun _ => (0 : Nat)).selectAndClaim oneToken [] stopped).2 with
  | error error => exact fun h => by cases h
  | ok claimed => exact fun h => congrArg _ h

end Router

end EggPool.Routing
