import EggPool.Routing.ClaimLedger
import EggPool.Routing.Selection

/-!
# A selection that fails

A selection takes a probe, then pending quota, then a place in the claim book, and gives back
what it took when a later step refuses. Probes, slots and rotor positions are always as they
were. Pending quota is not: it is added with saturation and taken off exactly, so that what
was lost at the upper end of the counter is taken off all the same.
-/

namespace EggPool.Routing

open EggPool.Lib EggPool.Quota EggPool.Health HealthManager EstimatorState CircuitBreaker List

/-! ## Probes -/

/-- A probe in flight afterwards was in flight before, since the same time. -/
def KeepsProbes (before after : CircuitInner Rat) : Prop :=
  after.probeInFlight = true →
    before.probeInFlight = true ∧ after.probeAcquiredAt = before.probeAcquiredAt

theorem KeepsProbes.refl (inner : CircuitInner Rat) : KeepsProbes inner inner :=
  fun h => ⟨h, rfl⟩

theorem KeepsProbes.trans {a b c : CircuitInner Rat} (hab : KeepsProbes a b)
    (hbc : KeepsProbes b c) : KeepsProbes a c := by
  intro h
  obtain ⟨hb, heq⟩ := hbc h
  obtain ⟨ha, heq'⟩ := hab hb
  exact ⟨ha, heq.trans heq'⟩

theorem keepsProbes_dropProbe (a b : CircuitInner Rat) : KeepsProbes a b.dropProbe :=
  nofun

/-- The gate takes a probe exactly if it lets a request through a breaker that is not closed. -/
theorem keepsProbes_allowRequest (b : CircuitBreaker Rat) (i : CircuitInner Rat) (now : Rat)
    (h : (b.allowRequest i now).1 = false ∨ i.state = .closed) :
    KeepsProbes i (b.allowRequest i now).2 := by
  have hrec : KeepsProbes i (b.reclaim i now) := by
    unfold reclaim
    split
    · exact keepsProbes_dropProbe _ _
    · exact .refl _
  unfold allowRequest tryAcquireProbe at h ⊢
  simp only [reclaim_state] at h ⊢
  cases hs : i.state with
  | closed => exact hrec
  | opened =>
    have hr := h.resolve_right (by rw [hs]; decide)
    simp only [hs] at hr ⊢
    split at hr
    · cases hr
    rename_i he
    rwa [if_neg he]
  | halfOpen =>
    have hr := h.resolve_right (by rw [hs]; decide)
    simp only [hs] at hr ⊢
    split at hr
    · rename_i hf
      rwa [if_pos hf]
    · cases hr

/-- No account has a probe in flight that it did not have before. -/
def NoNewProbes (before after : Health.HealthManager) : Prop :=
  ∀ name a', after.accounts.lookup name = some a' →
    ∃ a, before.accounts.lookup name = some a ∧ KeepsProbes a.circuitBreaker a'.circuitBreaker

namespace NoNewProbes

theorem refl (h : Health.HealthManager) : NoNewProbes h h :=
  fun _ a ha => ⟨a, ha, .refl _⟩

theorem trans {h₁ h₂ h₃ : Health.HealthManager} (h12 : NoNewProbes h₁ h₂)
    (h23 : NoNewProbes h₂ h₃) : NoNewProbes h₁ h₃ := by
  intro name c hc
  obtain ⟨b, hb, hbc⟩ := h23 name c hc
  obtain ⟨a, ha, hab⟩ := h12 name b hb
  exact ⟨a, ha, hab.trans hbc⟩

/-- A change to one account that takes no probe. -/
theorem modify (h : Health.HealthManager) (name : String) (f : AccountHealth → AccountHealth)
    (hf : ∀ a, h.accounts.lookup name = some a →
      KeepsProbes a.circuitBreaker (f a).circuitBreaker) : NoNewProbes h (h.modify name f) := by
  intro other a' ha'
  rw [lookup_modify] at ha'
  split at ha'
  · rename_i hn
    subst hn
    obtain ⟨a, ha, rfl⟩ := Option.map_eq_some_iff.mp ha'
    exact ⟨a, ha, hf a ha⟩
  · exact ⟨a', ha', .refl _⟩

end NoNewProbes

variable (h : Health.HealthManager)

theorem noNewProbes_snapshot (name : String) (now : Rat) :
    NoNewProbes h (h.snapshot name now).2 := by
  refine NoNewProbes.modify h name _ fun a _ => ?_
  unfold AccountHealth.normalize
  split <;> exact .refl _

theorem noNewProbes_release (name : String) (f : AccountHealth → AccountHealth) :
    NoNewProbes h ((h.modify name f).releaseRequest name) := by
  rw [releaseRequest, modify_modify]
  exact .modify h name _ fun _ _ => keepsProbes_dropProbe _ _

/-- What asking an account can do to probes: nothing new, or one that its release takes back. -/
theorem tryAcquireRequest_cases (name m : String) (now : Rat) :
    ((h.tryAcquireRequest name m now).1 = false ∧
      NoNewProbes h (h.tryAcquireRequest name m now).2) ∨
    ((h.tryAcquireRequest name m now).1 = true ∧ ∃ a, h.accounts.lookup name = some a ∧
      (a.circuitBreaker.state = .closed → NoNewProbes h (h.tryAcquireRequest name m now).2) ∧
      NoNewProbes h ((h.tryAcquireRequest name m now).2.releaseRequest name)) := by
  unfold Health.HealthManager.tryAcquireRequest
  cases hn : h.accounts.lookup name with
  | none => exact .inl ⟨rfl, .refl _⟩
  | some a =>
    dsimp only
    by_cases hi : (!a.effectivelyHealthy now || a.isModelDisabled m now) = true
    · rw [if_pos hi]
      exact .inl ⟨rfl, .refl _⟩
    rw [if_neg hi]
    have hk : ((AccountHealth.breaker.allowRequest a.circuitBreaker now).1 = false ∨
        a.circuitBreaker.state = .closed) → NoNewProbes h (h.modify name fun a' =>
          { a' with circuitBreaker :=
            (AccountHealth.breaker.allowRequest a.circuitBreaker now).2 }) := by
      intro hq
      refine NoNewProbes.modify h name _ fun a' ha' => ?_
      rw [hn] at ha'
      cases ha'
      exact keepsProbes_allowRequest _ _ _ hq
    cases hall : (AccountHealth.breaker.allowRequest a.circuitBreaker now).1 with
    | false => exact .inl ⟨rfl, hk (.inl hall)⟩
    | true =>
      exact .inr ⟨rfl, a, rfl, fun hc => hk (.inr hc), noNewProbes_release h name _⟩

/-- The answer is found in the account's own record. -/
theorem tryAcquireRequest_answer {h h' : Health.HealthManager} {name : String} (m : String)
    (now : Rat) (heq : h'.accounts.lookup name = h.accounts.lookup name) :
    (h'.tryAcquireRequest name m now).1 = (h.tryAcquireRequest name m now).1 := by
  unfold Health.HealthManager.tryAcquireRequest
  rw [heq]
  cases h.accounts.lookup name with
  | none => rfl
  | some a =>
    dsimp only
    split <;> rfl

theorem lookup_snapshot (name : String) (now : Rat) : (h.snapshot name now).2.accounts.lookup name =
      (h.accounts.lookup name).map (·.normalize now) := by
  unfold HealthManager.snapshot
  rw [lookup_modify, if_pos rfl]

theorem lookup_tryAcquireRequest_of_ne {name other : String}
    (m : String) (now : Rat) (hne : name ≠ other) :
    (h.tryAcquireRequest name m now).2.accounts.lookup other = h.accounts.lookup other := by
  unfold Health.HealthManager.tryAcquireRequest
  split
  · rfl
  split
  · rfl
  · rw [lookup_modify, if_neg hne]

namespace Router

/-- No probe is in flight that was not in flight before. -/
def NoNewProbe (r r' : Router) : Prop :=
  ∀ h', r'.health = some h' → ∃ h, r.health = some h ∧ NoNewProbes h h'

variable (r : Router)

theorem NoNewProbe.refl : NoNewProbe r r := fun h hh => ⟨h, hh, .refl h⟩

theorem NoNewProbe.trans {r₁ r₂ r₃ : Router} (h12 : NoNewProbe r₁ r₂) (h23 : NoNewProbe r₂ r₃) :
    NoNewProbe r₁ r₃ := by
  intro h₃ hh₃
  obtain ⟨h₂, hh₂, h23⟩ := h23 h₃ hh₃
  obtain ⟨h₁, hh₁, h12⟩ := h12 h₂ hh₂
  exact ⟨h₁, hh₁, h12.trans h23⟩

/-- Everything but the health manager is the same. -/
structure SameBut (r r' : Router) : Prop where
  config : r'.config = r.config
  fairnessMode : r'.fairnessMode = r.fairnessMode
  estimator : r'.estimator = r.estimator
  book : r'.book = r.book
  poisoned : r'.poisoned = r.poisoned
  rotor : r'.rotor = r.rotor

variable (facts : RoutingRequestFacts) (clock : SelectionClock) (name : String)

theorem acquireProbe_sameBut : SameBut r (r.acquireProbe facts clock name).1 := by
  unfold acquireProbe
  split <;> exact ⟨rfl, rfl, rfl, rfl, rfl, rfl⟩

theorem acquireProbe_probes : match (r.acquireProbe facts clock name).2 with
      | none => NoNewProbe r (r.acquireProbe facts clock name).1
      | some ownsProbe =>
        NoNewProbe r ((r.acquireProbe facts clock name).1.giveBack name ownsProbe) := by
  unfold acquireProbe
  cases hh : r.health with
  | none => exact .refl r
  | some health =>
    dsimp only
    have hl := noNewProbes_snapshot health name (clock.look name)
    rcases tryAcquireRequest_cases (health.snapshot name (clock.look name)).2 name
        facts.canonicalModelId (clock.ask name) with ⟨hno, hk⟩ | ⟨hy, a, ha, hc, hb⟩
    · rw [hno]
      intro h' hh'
      cases hh'
      exact ⟨health, hh, hl.trans hk⟩
    · rw [hy]
      -- the state the router saw is the one the gate found
      have hs : ((health.snapshot name (clock.look name)).1.map
          (·.circuitBreaker.state)).getD .closed = a.circuitBreaker.state := by
        unfold HealthManager.snapshot at ha ⊢
        simp only [lookup_modify, if_pos] at ha ⊢
        rw [ha]
        rfl
      rw [hs]
      cases ht : a.circuitBreaker.state with
      | closed =>
        intro h' hh'
        cases hh'
        exact ⟨health, hh, hl.trans (hc ht)⟩
      | opened | halfOpen =>
        intro h' hh'
        cases hh'
        exact ⟨health, hh, hl.trans hb⟩

theorem SameBut.trans {r r' r'' : Router} (h : SameBut r r') (h' : SameBut r' r'') :
    SameBut r r'' :=
  ⟨h'.config.trans h.config, h'.fairnessMode.trans h.fairnessMode, h'.estimator.trans h.estimator,
    h'.book.trans h.book, h'.poisoned.trans h.poisoned, h'.rotor.trans h.rotor⟩

/-- Whoever refused left no probe; whoever accepted left one at most, which can be given back.
Everyone before the accepted candidate has refused, and nobody else was asked. -/
structure Asked (ordered : List RoutingCandidate) (r : Router)
    (out : Router × Option (RoutingCandidate × Bool) × List String) : Prop where
  same : SameBut r out.1
  probes : match out.2.1 with
    | none => NoNewProbe r out.1
    | some (candidate, ownsProbe) =>
      NoNewProbe r (out.1.giveBack candidate.accountName ownsProbe)
  refused : ∀ accepted ∈ out.2.1, ∃ earlier later, ordered = earlier ++ accepted.1 :: later ∧
    out.2.2 = earlier.map (·.accountName)

theorem asked_acquireFirst (ordered : List RoutingCandidate) (r : Router) :
    Asked ordered r (acquireFirst facts clock ordered r) := by
  fun_induction acquireFirst facts clock ordered r with
  | case1 r => exact ⟨⟨rfl, rfl, rfl, rfl, rfl, rfl⟩, .refl r, nofun⟩
  | case2 can rest r r' own hp =>
    have hs := r.acquireProbe_sameBut facts clock can.accountName
    have hn := r.acquireProbe_probes facts clock can.accountName
    rw [hp] at hs hn
    refine ⟨hs, hn, ?_⟩
    rintro acc ⟨⟩
    exact ⟨[], rest, rfl, rfl⟩
  | case3 can rest r r' hp r'' acc rej hr ih =>
    have hs := r.acquireProbe_sameBut facts clock can.accountName
    have hn := r.acquireProbe_probes facts clock can.accountName
    rw [hp] at hs hn
    rw [hr] at ih
    refine ⟨hs.trans ih.same, ?_, fun c hc => ?_⟩
    · cases acc with
      | none | some => exact hn.trans ih.probes
    · obtain ⟨earlier, later, ho, hf⟩ := ih.refused c hc
      exact ⟨can :: earlier, later, congrArg _ ho, congrArg _ hf⟩

/-! ## The scan -/

theorem scanned_probes : NoNewProbe r (r.scanned facts clock) := by
  have hf : ∀ (nam : List String) (h : Health.HealthManager), NoNewProbes h
      (nam.foldl (fun health name => (health.snapshot name (clock.scan name)).2) h) := by
    intro nam
    induction nam with
    | nil => exact fun h => .refl h
    | cons name nam ih =>
      exact fun h => (noNewProbes_snapshot h name (clock.scan name)).trans (ih _)
  intro h' hh'
  obtain ⟨h, hh, rfl⟩ := Option.map_eq_some_iff.mp hh'
  exact ⟨h, hh, hf _ h⟩

theorem scanned_counters : (r.scanned facts clock).estimator.pending = r.estimator.pending ∧
      (r.scanned facts clock).estimator.reserved = r.estimator.reserved := by
  have hf : ∀ (nam : List String) (e : EstimatorState),
      (nam.foldl syncMirrors e).pending = e.pending ∧
        (nam.foldl syncMirrors e).reserved = e.reserved := by
    intro nam
    induction nam with
    | nil => exact fun e => ⟨rfl, rfl⟩
    | cons name nam ih =>
      intro e
      obtain ⟨hp, hr⟩ := ih (e.syncMirrors name)
      rw [pending_syncMirrors] at hp
      rw [reserved_syncMirrors] at hr
      exact ⟨hp, hr⟩
  exact hf _ _

/-! ## What a failure leaves behind -/

/-- Quota, slots, rotor and probes are what they were. -/
structure SameState (r r' : Router) : Prop where
  pending : r'.estimator.pending = r.estimator.pending
  reserved : r'.estimator.reserved = r.estimator.reserved
  active : r'.book.activeRequests = r.book.activeRequests
  rotor : r'.rotor = r.rotor
  probes : NoNewProbe r r'

/-- The book takes no claim. -/
def bookRefuses (r : Router) : Bool :=
  r.poisoned || CLAIM_RECORD_HARD_CAP ≤ r.book.pruneTerminalClaims.claims.size ||
    U64_MAX ≤ r.book.pruneTerminalClaims.nextId

/-- The pending counters of the account can take the claim and give it back. -/
def HasRoom (r : Router) (claim : SelectionClaim) : Prop :=
  0 ≤ r.estimator.pending claim.accountName ∧
    r.estimator.pending claim.accountName + claim.amount ≤ (I64.MAX, I64.MAX, I64.MAX)

/-- The amounts are what an `i64` holds. -/
def InRange (claim : SelectionClaim) : Prop :=
  claim.projectedTokens ≤ I64.MAX ∧ claim.projectedCostMicrodollars ≤ I64.MAX

theorem publish_of_refuses {r : Router} (c : SelectionClaim) (h : r.bookRefuses = true) :
    ∃ book, publish r.poisoned r.book c = (book, .error .poisoned) ∧
      book.activeRequests = r.book.activeRequests := by
  fun_cases publish r.poisoned r.book c with
  | case1 => exact ⟨_, rfl, rfl⟩
  | case2 | case3 => exact ⟨_, rfl, ClaimBook.prune_active _⟩
  | case4 hp b hc hid => simp [bookRefuses, hp, hc, hid, b] at h

theorem publish_of_not_refuses {r : Router} (c : SelectionClaim) (h : r.bookRefuses = false) :
    ∃ book p, publish r.poisoned r.book c = (book, .ok p) := by
  simp only [bookRefuses, Bool.or_eq_false_iff, decide_eq_false_iff_not] at h
  unfold publish
  rw [h.1.1, if_neg Bool.false_ne_true, if_neg h.1.2, if_neg h.2]
  exact ⟨_, _, rfl⟩

/-! ## Whom the selection settles on -/

/-- The candidates in the order in which they are asked. -/
def ordered (r : Router) (facts : RoutingRequestFacts) (excludeAccounts : List String)
    (preferredAccount : Option String) (clock : SelectionClock) : List RoutingCandidate :=
  (r.fairnessOrder facts (r.candidates facts excludeAccounts preferredAccount clock)).1

/-- The account lets the request through. -/
def letsThrough (r : Router) (facts : RoutingRequestFacts) (clock : SelectionClock)
    (candidate : RoutingCandidate) : Bool :=
  (r.acquireProbe facts clock candidate.accountName).2.isSome

/-- Fairness orders the band, which goes before the rest. -/
theorem fairnessOrder_cons (best : RoutingCandidate) (tail : List RoutingCandidate) :
    ∃ band, band.Perm ((best :: tail).filter (r.inBand best)) ∧
      (r.fairnessOrder facts (best :: tail)).1 =
        band ++ (best :: tail).filter fun c => !r.inBand best c := by
  unfold fairnessOrder
  dsimp only
  split
  · exact ⟨_, .refl _, rfl⟩
  refine ⟨_, ?_, rfl⟩
  split
  · exact (rotate_perm _ _).trans (mergeSort_perm _ _)
  · exact rotate_perm _ _

/-- Fairness puts the candidates in another order. -/
theorem fairnessOrder_perm (candidates : List RoutingCandidate) :
    (r.fairnessOrder facts candidates).1.Perm candidates := by
  cases candidates with
  | nil => exact .refl _
  | cons best rest =>
    obtain ⟨band, hb, he⟩ := r.fairnessOrder_cons facts best rest
    rw [he]
    exact (hb.append_right _).trans (filter_append_perm (r.inBand best) (best :: rest))

theorem ordered_nodup (ea : List String) (p : Option String) (clock : SelectionClock) :
    ((r.ordered facts ea p clock).map (·.accountName)).Nodup := by
  have hs : ((r.scoreOrder ((r.view clock).buildEligibleCandidates facts)).map
      (·.accountName)).Nodup :=
    ((r.scoreOrder_perm _).map _).nodup_iff.mpr RoutingState.buildEligibleCandidates_nodup
  refine ((r.fairnessOrder_perm facts _).map _).nodup_iff.mpr (hs.sublist (.map _ ?_))
  exact (filter_sublist.trans filter_sublist).trans filter_sublist

theorem letsThrough_eq (c : RoutingCandidate) : r.letsThrough facts clock c =
      r.health.all fun health =>
        ((health.snapshot c.accountName (clock.look c.accountName)).2.tryAcquireRequest
          c.accountName facts.canonicalModelId (clock.ask c.accountName)).1 := by
  unfold letsThrough acquireProbe
  cases r.health with
  | none => rfl
  | some health =>
    dsimp only
    split
    · rename_i hall
      exact hall.symm
    · rename_i hall
      exact (Bool.eq_false_of_not_eq_true hall).symm

/-- Asking one account changes no other account's answer. -/
theorem letsThrough_acquireProbe {candidate : RoutingCandidate} (ho : candidate.accountName ≠ name) :
    (r.acquireProbe facts clock name).1.letsThrough facts clock candidate =
      r.letsThrough facts clock candidate := by
  rw [letsThrough_eq, letsThrough_eq]
  unfold acquireProbe
  cases hh : r.health with
  | none => simp only [hh]
  | some health =>
    refine tryAcquireRequest_answer _ _ ?_
    rw [lookup_snapshot, lookup_snapshot, lookup_tryAcquireRequest_of_ne _ _ _ ho.symm]
    unfold HealthManager.snapshot
    rw [lookup_modify, if_neg ho.symm]

theorem acquireFirst_eq_find? (ordered : List RoutingCandidate) (r : Router)
    (hn : (ordered.map (·.accountName)).Nodup) :
    (acquireFirst facts clock ordered r).2.1.map Prod.fst =
      ordered.find? (r.letsThrough facts clock) := by
  fun_induction acquireFirst facts clock ordered r with
  | case1 => rfl
  | case2 can rest r r' own hp =>
    rw [find?_cons_of_pos (by rw [letsThrough, hp]; rfl)]
    rfl
  | case3 can rest r r' hp r'' acc rej hr ih =>
    obtain ⟨hf, hn⟩ := nodup_cons.mp hn
    have hs : ∀ c ∈ rest, r'.letsThrough facts clock c = r.letsThrough facts clock c := by
      intro c hc
      have hl := letsThrough_acquireProbe r facts clock can.accountName
        fun heq => hf (mem_map.mpr ⟨c, hc, heq⟩)
      rwa [hp] at hl
    rw [hr] at ih
    rw [find?_cons_of_neg (by rw [letsThrough, hp]; exact Bool.false_ne_true), ← find?_congr hs]
    exact ih hn

/-! ## The claim on the accepted candidate -/

theorem giveBack_sameBut (o : Bool) : SameBut r (r.giveBack name o) := by
  unfold giveBack
  split <;> exact ⟨rfl, rfl, rfl, rfl, rfl, rfl⟩

/-- Probes are seen in the health manager only. -/
theorem NoNewProbe.giveBack_congr {r r₁ r₂ : Router} {name : String} {o : Bool}
    (hp : NoNewProbe r (r₁.giveBack name o)) (hh : r₂.health = r₁.health) :
    NoNewProbe r (r₂.giveBack name o) := by
  unfold giveBack releaseProbe NoNewProbe at hp ⊢
  rw [hh]
  cases o with
  | true => exact hp
  | false => exact fun h' hh' => hp h' (hh.symm.trans hh')

/-- What a claim on an accepted candidate comes to. -/
inductive ClaimOutcome (r : Router) (claim : SelectionClaim) (candidate : RoutingCandidate)
    (ownsProbe : Bool) : Router × Except ClaimError (Option SelectionClaim) → Prop
  | quota (error : QuotaInvariantError) (hcost : claim.projectedCostMicrodollars < 0) :
      ClaimOutcome r claim candidate ownsProbe
        (r.giveBack candidate.accountName ownsProbe, .error (.quota error))
  | published (r' : Router) (published : SelectionClaim)
      (hcost : 0 ≤ claim.projectedCostMicrodollars) (hbook : r.bookRefuses = false) :
      ClaimOutcome r claim candidate ownsProbe (r', .ok (some published))
  | refused (book : ClaimBook) (estimator : EstimatorState)
      (hcost : 0 ≤ claim.projectedCostMicrodollars) (hbook : r.bookRefuses = true)
      (hactive : book.activeRequests = r.book.activeRequests)
      (hreserved : estimator.reserved = r.estimator.reserved)
      (hpending : estimator.pending = r.estimator.pending ↔ r.HasRoom claim) :
      ClaimOutcome r claim candidate ownsProbe
        ({ r with book := book, estimator := estimator }.giveBack candidate.accountName ownsProbe,
          .error .poisoned)

theorem claimAccepted_outcome (c : RoutingCandidate) (o : Bool) (f : Option FairnessDecision)
    (hn : InRange (r.config.claimFor facts 0 c)) :
    ClaimOutcome r (r.config.claimFor facts 0 c) c o (r.claimAccepted facts c o f) := by
  have ht : 0 ≤ (r.config.claimFor facts 0 c).projectedTokens := le_max_right _ _
  unfold claimAccepted
  generalize r.config.claimFor facts 0 c = claim at hn ht ⊢
  dsimp only
  rcases lt_or_ge claim.projectedCostMicrodollars 0 with hc | hc
  · rw [addPendingClaim_eq_error ht hc]
    exact .quota _ hc
  obtain ⟨adde, rel, ha, hr, hs, hd⟩ :=
    add_release_pending r.estimator claim.accountName ht hc hn.1 hn.2
  rw [ha]
  dsimp only
  cases hb : r.bookRefuses with
  | true =>
    obtain ⟨book, hp, hv⟩ := publish_of_refuses claim hb
    rw [hp]
    rw [hr]
    exact .refused book rel hc hb hv hs hd
  | false =>
    obtain ⟨book, pub, hp⟩ := publish_of_not_refuses claim hb
    rw [hp]
    exact .published _ pub hc hb

/-! ## The selection -/

/-- **When a failed selection gives everything back**: the first candidate to let the request
through, if the book refuses its claim, has room for it in its pending counters. -/
def RefusedClaimFits (r : Router) (facts : RoutingRequestFacts) (excludeAccounts : List String)
    (preferredAccount : Option String) (clock : SelectionClock) : Prop :=
  ∀ candidate,
    (r.ordered facts excludeAccounts preferredAccount clock).find?
      ((r.scanned facts clock).letsThrough facts clock) = some candidate →
    0 ≤ (r.config.claimFor facts 0 candidate).projectedCostMicrodollars →
    r.bookRefuses = true → r.HasRoom (r.config.claimFor facts 0 candidate)

/-- The selection has nothing to claim, or a claim on the first that let it through. -/
theorem selectAndClaimWithPreference_cases (ea : List String) (p : Option String) (clock : SelectionClock) :
    ((r.ordered facts ea p clock).find? ((r.scanned facts clock).letsThrough facts clock) = none ∧
      ∃ r', SameBut (r.scanned facts clock) r' ∧ NoNewProbe r r' ∧
        r.selectAndClaimWithPreference facts ea p clock = (r', .ok none)) ∨
    ∃ c, (r.ordered facts ea p clock).find?
        ((r.scanned facts clock).letsThrough facts clock) = some c ∧
      ∃ r' o fairness, SameBut (r.scanned facts clock) r' ∧
        NoNewProbe r (r'.giveBack c.accountName o) ∧
        r.selectAndClaimWithPreference facts ea p clock = r'.claimAccepted facts c o fairness:= by
  have hc := r.scanned_probes facts clock
  have hn := r.ordered_nodup facts ea p clock
  rw [← acquireFirst_eq_find? facts clock _ _ hn]
  have ha := asked_acquireFirst facts clock (r.ordered facts ea p clock) (r.scanned facts clock)
  unfold selectAndClaimWithPreference
  unfold ordered at ha ⊢
  dsimp only
  revert ha
  rcases acquireFirst facts clock (r.fairnessOrder facts (r.candidates facts ea
    p clock)).1 (r.scanned facts clock) with ⟨r', _ | ⟨c, o⟩, rejected⟩
  · intro ha
    exact .inl ⟨rfl, r', ha.same, hc.trans ha.probes, rfl⟩
  · intro ha
    exact .inr ⟨c, rfl, r', o, _, ha.same, hc.trans ha.probes, rfl⟩

theorem sameState_of_sameBut {r r' r'' : Router} {facts : RoutingRequestFacts} {clock : SelectionClock}
    (hs : SameBut (r.scanned facts clock) r') (hl : SameBut r' r'')
    (hp : NoNewProbe r r'') : SameState r r'' := by
  obtain ⟨hn, hr⟩ := r.scanned_counters facts clock
  refine ⟨?_, ?_, ?_, ?_, hp⟩
  · rw [hl.estimator, hs.estimator, hn]
  · rw [hl.estimator, hs.estimator, hr]
  · rw [hl.book, hs.book]
    rfl
  · rw [hl.rotor, hs.rotor]
    rfl

/-- **A selection that claims nothing leaves everything as it was, exactly if the claim it gave
back had fitted into the pending counters.** -/
theorem failed_selection_restores_iff (r : Router) (facts : RoutingRequestFacts)
    (excludeAccounts : List String) (preferredAccount : Option String) (clock : SelectionClock)
    (hrange : ∀ candidate, InRange (r.config.claimFor facts 0 candidate)) :
    ((¬ ∃ claim, (r.selectAndClaimWithPreference facts excludeAccounts preferredAccount clock).2 =
        .ok (some claim)) →
      SameState r (r.selectAndClaimWithPreference facts excludeAccounts preferredAccount clock).1) ↔
    r.RefusedClaimFits facts excludeAccounts preferredAccount clock := by
  unfold RefusedClaimFits
  rcases r.selectAndClaimWithPreference_cases facts excludeAccounts preferredAccount clock with
    ⟨hnone, r', hscan, hprobes, heq⟩ | ⟨candidate, hfound, r', ownsProbe, fairness, hscan, hprobes, heq⟩
  · rw [hnone, heq]
    refine iff_of_true (fun _ => ?_) (fun _ h => by cases h)
    exact sameState_of_sameBut hscan ⟨rfl, rfl, rfl, rfl, rfl, rfl⟩ hprobes
  rw [hfound, heq]
  have hconfig : r'.config = r.config := hscan.config
  have hbook' : r'.bookRefuses = r.bookRefuses := by
    unfold bookRefuses
    rw [hscan.book, hscan.poisoned]
    rfl
  obtain ⟨hpending', hreserved'⟩ := r.scanned_counters facts clock
  rw [← hscan.estimator] at hpending' hreserved'
  have hroom : ∀ claim, r'.HasRoom claim ↔ r.HasRoom claim := by
    intro claim
    unfold HasRoom
    rw [hpending']
  have hout := r'.claimAccepted_outcome facts candidate ownsProbe fairness
    (by rw [hconfig]; exact hrange candidate)
  rw [hconfig] at hout
  revert hout
  generalize r'.claimAccepted facts candidate ownsProbe fairness = out
  intro hout
  cases hout with
  | quota error hcost =>
    refine iff_of_true (fun _ => ?_) ?_
    · exact sameState_of_sameBut hscan (giveBack_sameBut _ _ _) hprobes
    rintro _ h hcost'
    cases h
    omega
  | published r'' published hcost hbook =>
    refine iff_of_true (fun h => absurd ⟨published, rfl⟩ h) ?_
    intro _ _ _ hrefuses
    rw [← hbook', hbook] at hrefuses
    cases hrefuses
  | refused book estimator hcost hbook hactive hreserved hpending =>
    have hback := giveBack_sameBut { r' with book := book, estimator := estimator }
      candidate.accountName ownsProbe
    constructor
    · intro hsame _ h _ _
      cases h
      have hstate := hsame (by rintro ⟨_, ⟨⟩⟩)
      rw [← hroom, ← hpending, hpending', ← hstate.pending, hback.estimator]
    · intro hfits _
      have hfit := hpending.mpr ((hroom _).mpr (hfits candidate rfl hcost (hbook'.symm.trans hbook)))
      refine ⟨?_, ?_, ?_, ?_, hprobes.giveBack_congr rfl⟩
      · rw [hback.estimator]
        exact hfit.trans hpending'
      · rw [hback.estimator]
        exact hreserved.trans hreserved'
      · rw [hback.book]
        exact hactive.trans (congrArg _ hscan.book)
      · rw [hback.rotor]
        exact hscan.rotor

/-- One account without limits, and a book that takes no claim. -/
def poisonedRouter (pendingTokens : Int) : Router where
  config := {
    registry := Table.empty.insert ⟨1, "a", "p", true, true, 0, ["openai"], []⟩
    getProviderModel := fun _ _ => none
    accountSupportsModel := fun _ _ => true
    accountModelIsFresh := fun _ _ _ => true
    health := none
    quarantine := none
    withinLimits := fun _ => none
    quotaMode := .scoreOnly
    capabilityPolicy := []
    validScore := fun _ => true
    order := id
    order_perm := .refl
    estimateCost := fun _ _ _ _ => 0 }
  scoreOrder := id
  scoreOrder_perm := .refl
  nearTie := fun _ _ => true
  preferNative := false
  fairnessMode := .off
  fairnessScope := .providerModel
  chooseIndex := fun _ => 0
  health := some (Health.HealthManager.empty.registerAccount 1 "a" 0)
  estimator := ⟨fun _ => none, fun _ => 0, fun _ => 0, fun _ => 0, fun _ => 0, fun _ => 0,
    fun _ => pendingTokens⟩
  book := .empty
  poisoned := true
  rotor := ⟨.empty, []⟩

/-- A token is asked for, at time zero. -/
def oneToken : RoutingRequestFacts := { canonicalModelId := "m", projectedTokens := 1 }

def stopped : SelectionClock := ⟨fun _ => 0, fun _ => 0, fun _ => 0, fun _ => 0⟩

theorem failed_selection_restores_poisoned :
    ((poisonedRouter 0).selectAndClaimWithPreference oneToken [] none stopped).2.toOption = none ∧
      SameState (poisonedRouter 0)
        ((poisonedRouter 0).selectAndClaimWithPreference oneToken [] none stopped).1 := by
  have hfails : ((poisonedRouter 0).selectAndClaimWithPreference oneToken [] none
      stopped).2.toOption = none := by decide +kernel
  have hone : (1 : Int) ≤ I64.MAX := by decide
  have hzero : (0 : Int) ≤ I64.MAX := by decide
  refine ⟨hfails, (failed_selection_restores_iff (poisonedRouter 0) oneToken [] none stopped
    (fun _ => ⟨hone, hzero⟩)).mpr ?_ ?_⟩
  · exact fun _ _ _ _ => ⟨⟨le_rfl, le_rfl, le_rfl⟩, hone, hone, hzero⟩
  rintro ⟨claim, hclaim⟩
  rw [hclaim] at hfails
  cases hfails

/-- A full counter takes nothing on and gives a token back. -/
theorem refused_claim_lowers_pending :
    ((poisonedRouter I64.MAX).selectAndClaim oneToken [] stopped).2.toOption = none ∧
      (poisonedRouter I64.MAX).estimator.pendingTokens "a" = I64.MAX ∧
      ((poisonedRouter I64.MAX).selectAndClaim oneToken [] stopped).1.estimator.pendingTokens "a" =
        I64.MAX - 1 := by
  decide +kernel

end Router

end EggPool.Routing
