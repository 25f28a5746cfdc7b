import EggPool.Coordinator.Exhaustion
import EggPool.Routing.AcceptedSelection

/-!
# How far a run can go

Four things end a run of a retry loop: the attempts of the policy, which the classifier
counts; the wires of each account, of which none is tried twice; the excluded accounts, which
the router passes over; and the preferred account, for which it does not. The last one does
no harm because an account is preferred only while it is not excluded. So each round submits
an attempt, excludes one more account, or ends the run.
-/

namespace EggPool.Coordinator

open EggPool.Lib EggPool.Budget EggPool.Routing EggPool.Store List RetryLoop
open Router (tieredRouter)

/-! ## Rounds that ask a router -/

/-- A preferred account is asked for alone, and whatever is excluded. -/
def askRouter (r : Router) (facts : RoutingRequestFacts) (clock : SelectionClock)
    (excluded : List String) : Option String → Except ClaimError (Option SelectionClaim)
  | some account => (r.selectAndClaimForAccount facts account clock).2
  | none => (r.selectAndClaim facts excluded clock).2

/-- The claim of a round comes from a router with these accounts, in any state. -/
def Round.Routed {σ : Type} (accounts : List String) (round : Round σ) : Prop :=
  ∃ (r : Router) (facts : RoutingRequestFacts) (clock : SelectionClock),
    (∀ identity ∈ r.config.registry.rows, identity.accountName ∈ accounts) ∧
      round.select = askRouter r facts clock

variable {f : RoutingRequestFacts}

/-- Whom the router claims. -/
theorem claimed_account {r : Router} {clock : SelectionClock}
    {ex : List String} {p : Option String} {claim : SelectionClaim}
    (h : (r.selectAndClaimWithPreference f ex p clock).2 = .ok (some claim)) :
    (∃ identity ∈ r.config.registry.rows, claim.accountName = identity.accountName) ∧
      claim.accountName ∉ ex ∧ ∀ account, p = some account → claim.accountName = account:= by
  obtain ⟨ear, cho, later, ho, -, hn, -⟩ := Router.selectAndClaim_ok h
  have hc : cho ∈ r.ordered f ex p clock := by
    rw [ho]
    exact mem_append_right _ mem_cons_self
  have hca := (r.fairnessOrder_perm f _).mem_iff.mp hc
  obtain ⟨⟨he, hx⟩, hpre, -⟩ := Router.mem_candidates.mp hca
  obtain ⟨identity, hid, -, ha, -⟩ := RoutingState.mem_buildEligibleCandidates he
  rw [hn]
  refine ⟨⟨identity, hid, ha⟩, hx, fun account hs => ?_⟩
  rw [hs] at hpre
  simpa using hpre

theorem Round.Routed.claimed {σ : Type} {accounts excluded : List String} {round : Round σ}
    {p : Option String} {claim : SelectionClaim} (h : round.Routed accounts)
    (hs : round.select excluded p = .ok (some claim))
    (ho : ∀ account, p = some account → account ∉ excluded) :
    claim.accountName ∈ accounts ∧ claim.accountName ∉ excluded := by
  obtain ⟨r, fac, clo, ha, hr⟩ := h
  rw [hr] at hs
  cases p with
  | none =>
    obtain ⟨⟨identity, hid, hn⟩, he, -⟩ := claimed_account hs
    exact ⟨hn ▸ ha identity hid, he⟩
  | some account =>
    obtain ⟨⟨identity, hid, hn⟩, -, hpre⟩ := claimed_account hs
    refine ⟨hn ▸ ha identity hid, ?_⟩
    rw [hpre account rfl]
    exact ho account rfl

/-! ## What a run submits -/

/-- The attempt is retried with another account; one that is not retried ends the run. -/
def AttemptEnd.failsAccount : AttemptEnd → Bool
  | .retry effects _ _ _ => effects.retryScope = .account
  | _ => false

/-- An attempt that was handed to the upstream, and whether it failed for its account. -/
structure Submission where
  account : String
  surface : WireSurface
  accountFailed : Bool
deriving DecidableEq, Repr

namespace RetryLoop

variable {σ : Type} (loop : RetryLoop σ) (l : Loop) (round : Round σ)

/-- The attempt a publication lets the round go on with. -/
def goesOn : Except PublicationError PublicationOutcome → Option FinalizationIdentity
  | .ok (.published identity) => some identity
  | .error (.postCommit interruption) =>
    if loop.resumes round then some interruption.identity else none
  | _ => none

/-- What a round submits. -/
def submitted : Option Submission :=
  match selected l round with
  | .ok (some claim) =>
    match loop.candidates claim with
    | .surfaces tariff candidates => (chosenWire l round claim candidates).bind fun surface =>
      let l' := l.attempted claim.accountName surface
      (loop.goesOn round (publishOwned round.serviceFails round.serializes round.answers
        (loop.publication l' claim tariff surface round) l.db).2).map fun identity =>
          ⟨claim.accountName, surface, (loop.attemptEnd {
            identity := identity
            surface := surface
            alternateWireAvailable := (round.resolve candidates).any fun surface =>
              !(l'.attemptedWires claim.accountName).contains surface
            attemptNumber := l.attemptNumber
            requestBytes := loop.request.requestBytes
            elapsedMs := round.elapsedMs
            retryPolicy := loop.retryPolicy } round.submission).failsAccount⟩
    | _ => none
  | _ => none

/-- What a run submits, round by round. -/
def submissions : Progress → List (Round σ) → List Submission
  | .running l, round :: rounds =>
    (loop.submitted l round).toList ++ submissions (loop.step (.running l) round) rounds
  | _, _ => []

/-- The submission is for the claimed account, on a wire that was not tried yet. -/
def Fits (s : Submission) : Prop :=
  ∃ claim, selected l round = .ok (some claim) ∧ s.account = claim.accountName ∧
    s.surface ∉ l.attemptedWires s.account

/-- What a round does to what is left to try. -/
inductive Move : Option Submission → Progress → Prop
  | stopped {s : Option Submission} {l' : Loop} {result : Except CoordinatorError Execution} :
      (∀ t ∈ s, Fits l round t) → Move s (.done l' result)
  | skipped {claim : SelectionClaim} {l' : Loop} : selected l round = .ok (some claim) →
      l'.excludedAccounts = claim.accountName :: l.excludedAccounts → l'.preferredAccount = none →
      l'.attemptNumber = l.attemptNumber → l'.attemptedWires = l.attemptedWires →
      Move none (.running l')
  | retried {s : Submission} {l' : Loop} : Fits l round s →
      l.attemptNumber < loop.retryPolicy.maxAttempts →
      l'.attemptNumber = min (l.attemptNumber + 1) Loop.U32_MAX →
      l'.attemptedWires = (l.attempted s.account s.surface).attemptedWires →
      (s.accountFailed = false ∧ l'.excludedAccounts = l.excludedAccounts ∧
        l'.preferredAccount = some s.account) ∨
        (l'.excludedAccounts = s.account :: l.excludedAccounts ∧ l'.preferredAccount = none) →
      Move (some s) (.running l')

/-- The classifier lets the loop retry only within the attempts of its policy. -/
def RetriesWithin : Prop :=
  ∀ ctx submission effects data lastUpstream lastFailure,
    loop.attemptEnd ctx submission = .retry effects data lastUpstream lastFailure →
    ctx.attemptNumber < ctx.retryPolicy.maxAttempts

variable {loop l round} {claim : SelectionClaim}

theorem giveBack_move {l₀ : Loop} {s : Option Submission} (hno : s = none)
    (hs : selected l round = .ok (some claim)) (he : l₀.excludedAccounts = l.excludedAccounts) (hn : l₀.attemptNumber = l.attemptNumber)
    (hw : l₀.attemptedWires = l.attemptedWires) : loop.Move l round s (giveBack l₀ claim round
      fun l => .running (l.exclude claim.accountName)) := by
  rw [hno, giveBack]
  split
  · exact .stopped (by simp)
  · exact .skipped hs (congrArg _ he) rfl hn hw

theorem giveBack_stopped {l₀ : Loop} {e : CoordinatorError} {s : Option Submission}
    (hno : s = none) : loop.Move l round s
    (giveBack l₀ claim round fun l => .done l (.error e)) := by
  rw [hno, giveBack]
  split <;> exact .stopped (by simp)

/-- Every way an attempt can end. The published identity is the claimed account's, so a retry
prefers or excludes the account the submission went to. -/
theorem submit_move {i : FinalizationIdentity} {su : WireSurface} {a : Bool}
    {l₀ : Loop} {s : Submission} (ht : loop.RetriesWithin) (hfit : Fits l round s)
    (ha : i.accountName = s.account)
    (hf : s.accountFailed = (loop.attemptEnd ⟨i, su, a, l₀.attemptNumber,
      loop.request.requestBytes, round.elapsedMs, loop.retryPolicy⟩ round.submission).failsAccount)
    (he : l₀.excludedAccounts = l.excludedAccounts) (hn : l₀.attemptNumber = l.attemptNumber)
    (hw : l₀.attemptedWires = (l.attempted s.account s.surface).attemptedWires) :
    loop.Move l round (some s) (loop.submit l₀ claim i su a round) := by
  have ho : ∀ t ∈ some s, Fits l round t := by
    rintro t ⟨⟩
    exact hfit
  unfold submit
  cases hend : loop.attemptEnd ⟨i, su, a, l₀.attemptNumber,
      loop.request.requestBytes, round.elapsedMs, loop.retryPolicy⟩ round.submission with
  | terminal | stream => exact .stopped ho
  | retry eff data lu lf =>
    have hl : l.attemptNumber < loop.retryPolicy.maxAttempts := hn ▸ ht _ _ _ _ _ _ hend
    have hx : min (l₀.attemptNumber + 1) Loop.U32_MAX =
        min (l.attemptNumber + 1) Loop.U32_MAX := by rw [hn]
    rw [hend] at hf
    simp only [afterAttempt]
    split
    · exact .stopped ho
    · simp only [Loop.prepareNext]
      split
      · rename_i hs
        refine .retried hfit hl hx hw (.inl ⟨?_, he, congrArg some ha⟩)
        simp [hf, AttemptEnd.failsAccount, hs]
      · exact .retried hfit hl hx hw (.inr ⟨by simp [Loop.exclude, Loop.record, ha, he], rfl⟩)

/-- The round goes on with an attempt of the claimed account. -/
theorem goesOn_account {p : Publication} {db db' : Db} {i : FinalizationIdentity}
    {r : Except PublicationError PublicationOutcome}
    (hrun : publishOwned round.serviceFails round.serializes round.answers p db = (db', r))
    (hg : loop.goesOn round r = some i) : i.accountName = p.claim.accountName:= by
  unfold goesOn at hg
  rcases publishOwned_cases hrun with hr | ⟨com, hc, ha, -⟩
  · split at hg <;> first | cases hr | cases hg
  split at hg
  · cases hg
    exact hc ▸ ha
  · rename_i inte
    have hs : inte = ⟨com, p.claim⟩ := hc
    split at hg
    · cases hg
      rw [hs]
      exact ha
    · cases hg
  · cases hg

/-- Only a committed publication is submitted. -/
theorem publishRound_move {t : Option Int} {c : List WireSurface}
    {su : WireSurface} (hw : loop.RetriesWithin) (hs : selected l round = .ok (some claim))
    (hn : loop.candidates claim = .surfaces t c) (hc : chosenWire l round claim c = some su) :
    loop.Move l round (loop.submitted l round) (loop.publishRound
      (l.attempted claim.accountName su) claim t su
      ((round.resolve c).any fun wire => !((l.attempted claim.accountName
        su).attemptedWires claim.accountName).contains wire) round) := by
  have hf : su ∉ l.attemptedWires claim.accountName := by
    have hm := find?_some hc
    simpa using hm
  unfold submitted publishRound
  simp only [hs, hn, hc, Option.bind_some]
  rw [show (l.attempted claim.accountName su).db = l.db from rfl]
  generalize hp : loop.publication (l.attempted claim.accountName su) claim t su round = p
  have hl : p.claim = claim := by
    rw [← hp]
    rfl
  cases hrun : publishOwned round.serviceFails round.serializes round.answers p l.db with
  | mk db' res =>
    have ha : ∀ identity, loop.goesOn round res = some identity →
        identity.accountName = claim.accountName :=
      fun identity hg => hl ▸ goesOn_account hrun hg
    cases res with
    | ok o =>
      cases o with
      | published identity =>
        exact submit_move hw ⟨claim, hs, rfl, hf⟩ (ha _ rfl) rfl rfl rfl rfl
      | alreadyPublished => exact .stopped (by simp [goesOn])
    | error e =>
      cases e with
      | postCommit inte =>
        by_cases hr : (loop.resumesPostCommit && converted round.answers.reconvert) = true
        · have hg : loop.goesOn round (.error (.postCommit inte)) = some inte.identity := if_pos hr
          rw [hg]
          dsimp only
          rw [if_pos hr]
          exact submit_move hw ⟨claim, hs, rfl, hf⟩ (ha _ hg) rfl rfl rfl rfl
        · dsimp only
          rw [if_neg hr]
          exact .stopped (by simp [goesOn, resumes, hr])
      | _ => exact .stopped (by simp [goesOn])

variable (l round) in
/-- **One round, inverted, with what it submits.** -/
theorem step_move (hw : loop.RetriesWithin) :
    loop.Move l round (loop.submitted l round) (loop.step (.running l) round) := by
  unfold step
  dsimp only
  split
  · rename_i hs
    exact .stopped (by simp [submitted, selected, hs])
  · rename_i hs
    exact .stopped (by simp [submitted, selected, hs])
  · rename_i claim hs
    replace hs : selected l round = .ok (some claim) := hs
    unfold claimRound
    cases hn : loop.candidates claim with
    | missingProvider | missingWireProfile =>
      exact giveBack_stopped (by simp [submitted, hs, hn])
    | compactMissed | embeddingMissed =>
      exact giveBack_move (by simp [submitted, hs, hn]) hs rfl rfl rfl
    | surfaces tariff candidates =>
      unfold wireRound
      dsimp only
      split
      · rename_i hc
        replace hc : chosenWire l round claim candidates = none := hc
        exact giveBack_move (by simp [submitted, hs, hn, hc]) hs rfl rfl rfl
      · rename_i hc
        exact publishRound_move hw hs hn hc

/-! ## Whole runs -/

/-- What holds between rounds: the preferred account is not excluded, and the attempts are
within their limit. -/
structure Sound (limit : Nat) (l : Loop) : Prop where
  preferred : ∀ account, l.preferredAccount = some account → account ∉ l.excludedAccounts
  number : l.attemptNumber ≤ limit

/-- What is submitted from here on is new to the loop, and so is each submission to those before
it. -/
structure Ahead (limit : Nat) (l : Loop) (log : List Submission) : Prop where
  count : l.attemptNumber + log.length ≤ limit + 1
  wires : ∀ s ∈ log, s.surface ∉ l.attemptedWires s.account
  accounts : ∀ s ∈ log, s.account ∉ l.excludedAccounts
  once : log.Pairwise fun s t => ¬(t.account = s.account ∧ t.surface = s.surface)
  left : log.Pairwise fun s t => s.accountFailed = true → t.account ≠ s.account

variable {accounts : List String} {limit : Nat}

theorem Fits.account_not_mem {s : Submission} (h : Fits l round s) (hs : Sound limit l)
    (hr : round.Routed accounts) : s.account ∉ l.excludedAccounts := by
  obtain ⟨claim, hl, hn, -⟩ := h
  rw [hn]
  exact (hr.claimed hl hs.preferred).2

theorem sound_step {s : Option Submission} {l' : Loop} (hm : loop.Move l round s (.running l'))
    (hs : Sound limit l) (hr : round.Routed accounts)
    (hl : loop.retryPolicy.maxAttempts ≤ limit) : Sound limit l' := by
  cases hm with
  | skipped _ _ hpre hn _ =>
    refine ⟨fun account h => ?_, hn ▸ hs.number⟩
    rw [hpre] at h
    cases h
  | @retried s _ hfit hf hn _ hx =>
    refine ⟨fun account h => ?_, by omega⟩
    rcases hx with ⟨-, he, hpre⟩ | ⟨-, hpre⟩
    · -- the account was claimed in this round, so it was not excluded before it
      rw [hpre] at h
      cases h
      exact he ▸ hfit.account_not_mem hs hr
    · rw [hpre] at h
      cases h

theorem Ahead.nil (h : Sound limit l) : Ahead limit l [] where
  count := Nat.le_succ_of_le h.number
  wires := by simp
  accounts := by simp
  once := .nil
  left := .nil

theorem ahead_skipped {l' : Loop} {log : List Submission} {a : String}
    (h : Ahead limit l' log) (he : l'.excludedAccounts = a :: l.excludedAccounts)
    (hn : l'.attemptNumber = l.attemptNumber)
    (hw : l'.attemptedWires = l.attemptedWires) : Ahead limit l log where
  count := hn ▸ h.count
  wires := hw ▸ h.wires
  accounts := fun s hs hmem => h.accounts s hs (he ▸ mem_cons_of_mem _ hmem)
  once := h.once
  left := h.left

/-- A retried submission goes before what its retry leads to. -/
theorem ahead_retried {l' : Loop} {log : List Submission} {s : Submission}
    (h : Ahead limit l' log) (hfit : Fits l round s) (ha : s.account ∉ l.excludedAccounts)
    (hm : l'.attemptNumber = l.attemptNumber + 1)
    (hw : l'.attemptedWires = (l.attempted s.account s.surface).attemptedWires)
    (he : (s.accountFailed = false ∧ l'.excludedAccounts = l.excludedAccounts) ∨
      l'.excludedAccounts = s.account :: l.excludedAccounts) : Ahead limit l (s :: log) := by
  obtain ⟨_, -, -, hf⟩ := hfit
  have hg : ∀ account, l.attemptedWires account ⊆ l'.attemptedWires account := by
    intro account surface hmem
    rw [hw, Loop.attempted]
    by_cases hs : account = s.account
    · subst hs
      simpa using .inr hmem
    · simpa [Function.update_of_ne hs] using hmem
  have hr : s.surface ∈ l'.attemptedWires s.account := by
    simp [hw, Loop.attempted]
  refine ⟨?_, ?_, ?_, .cons ?_ h.once, .cons ?_ h.left⟩
  · have := h.count
    simp only [length_cons]
    omega
  · rintro t (_ | ⟨_, ht⟩)
    · exact hf
    · exact fun hmem => h.wires t ht (hg _ hmem)
  · rintro t (_ | ⟨_, ht⟩)
    · exact ha
    · intro hmem
      rcases he with ⟨-, heq⟩ | heq
      · exact h.accounts t ht (heq ▸ hmem)
      · exact h.accounts t ht (heq ▸ mem_cons_of_mem _ hmem)
  · rintro t ht ⟨hn, hsu⟩
    exact h.wires t ht (hn ▸ hsu ▸ hr)
  · intro t ht hfa hn
    rcases he with ⟨hno, -⟩ | heq
    · rw [hfa] at hno
      cases hno
    · exact h.accounts t ht (by rw [heq, hn]; exact mem_cons_self)

theorem ahead_run {r : List (Round σ)} (ht : loop.RetriesWithin)
    (hl : loop.retryPolicy.maxAttempts ≤ limit) (hu32 : limit ≤ Loop.U32_MAX)
    (hd : ∀ round ∈ r, round.Routed accounts) (hso : Sound limit l) :
    Ahead limit l (loop.submissions (.running l) r) := by
  induction r generalizing l with
  | nil => exact .nil hso
  | cons round r ih =>
    obtain ⟨hr, hre⟩ := forall_mem_cons.mp hd
    have hm := step_move l round ht
    unfold submissions
    generalize loop.submitted l round = s, loop.step (.running l) round = next at hm ⊢
    cases hm with
    | @stopped s l' res hfit =>
      rw [submissions, append_nil]
      · cases s with
        | none => exact .nil hso
        | some s =>
          have hs := hfit s rfl
          have hn := hso.number
          refine ⟨by simpa using hn, ?_, ?_, by simp, by simp⟩
          · simpa using hs.choose_spec.2.2
          · simpa using hs.account_not_mem hso hr
      · simp
    | skipped hse he hpre hn hw =>
      have hso' := sound_step (.skipped hse he hpre hn hw) hso hr hl
      exact ahead_skipped (ih hre hso') he hn hw
    | retried hfit hf hn hw hx =>
      have hso' := sound_step (.retried hfit hf hn hw hx) hso hr hl
      refine ahead_retried (ih hre hso') hfit (hfit.account_not_mem hso hr) (by omega) hw ?_
      exact hx.imp (fun h => ⟨h.1, h.2.1⟩) And.left

/-- The accounts that are not excluded yet. -/
def room (accounts : List String) (l : Loop) : Nat :=
  (accounts.filter fun account => !l.excludedAccounts.contains account).length

theorem room_exclude {l' : Loop} {a : String} (h : l'.excludedAccounts = a :: l.excludedAccounts) :
    room accounts l' = ((accounts.filter fun a => !l.excludedAccounts.contains a).filter
      (· ≠ a)).length := by
  rw [room, h, filter_filter]
  congr 2
  simp

theorem room_exclude_lt {l' : Loop} {a : String}
    (h : l'.excludedAccounts = a :: l.excludedAccounts) (hmem : a ∈ accounts)
    (hnew : a ∉ l.excludedAccounts) : room accounts l' < room accounts l := by
  rw [room_exclude h]
  refine length_filter_lt_length_iff_exists.mpr ⟨a, ?_, by simp⟩
  simp [hmem, hnew]

theorem run_done (result : Except CoordinatorError Execution) (r : List (Round σ)) :
    run loop.step (.done l result) r = .done l result := by
  induction r with
  | nil => rfl
  | cons round r ih => exact ih

/-- Each round that lets the run go on takes an account or an attempt away. -/
theorem rounds_le_of_running {r : List (Round σ)} (hw : loop.RetriesWithin)
    (hl : loop.retryPolicy.maxAttempts ≤ limit) (hu32 : limit ≤ Loop.U32_MAX)
    (ht : ∀ round ∈ r, round.Routed accounts) (hs : Sound limit l)
    (hrun : (run loop.step (.running l) r).isRunning = true) :
    r.length + l.attemptNumber ≤ room accounts l + limit := by
  induction r generalizing l with
  | nil =>
    have := hs.number
    simp only [length_nil]
    omega
  | cons round r ih =>
    obtain ⟨hr, hre⟩ := forall_mem_cons.mp ht
    have hm := step_move l round hw
    rw [run_cons] at hrun
    generalize loop.submitted l round = s, loop.step (.running l) round = next at hm hrun
    have hs' : ∀ l', next = .running l' → Sound limit l' := by
      rintro l' rfl
      exact sound_step hm hs hr hl
    cases hm with
    | stopped =>
      rw [run_done] at hrun
      cases hrun
    | skipped hse he _ hn _ =>
      obtain ⟨hmem, hnew⟩ := hr.claimed hse hs.preferred
      have hro := room_exclude_lt he hmem hnew
      have := ih hre (hs' _ rfl) hrun
      simp only [length_cons]
      omega
    | @retried _ l' _ hf hn _ hx =>
      have hro : room accounts l' ≤ room accounts l := by
        rcases hx with ⟨-, he, -⟩ | ⟨he, -⟩
        · exact Nat.le_of_eq (by rw [room, he, room])
        · exact room_exclude he ▸ length_filter_le _ _
      have := ih hre (hs' _ rfl) hrun
      simp only [length_cons]
      omega

variable (loop) in
/-- How far a run goes: how often it submits, to whom, and for how many rounds. -/
structure RunBounded (accounts : List String) (start : Progress) (rounds : List (Round σ)) :
    Prop where
  submissions_le : (loop.submissions start rounds).length ≤ max 1 loop.retryPolicy.maxAttempts
  /-- No account and wire surface twice. -/
  once : (loop.submissions start rounds).Pairwise fun s t =>
    ¬(t.account = s.account ∧ t.surface = s.surface)
  /-- No account again after it failed as a whole. -/
  left : (loop.submissions start rounds).Pairwise fun s t =>
    s.accountFailed = true → t.account ≠ s.account
  ends : accounts.length + max 1 loop.retryPolicy.maxAttempts + 1 ≤ rounds.length →
    (run loop.step start rounds).isRunning = false

theorem runBounded_start {rounds : List (Round σ)} (db : Db) (hw : loop.RetriesWithin)
    (hu32 : loop.retryPolicy.maxAttempts ≤ Loop.U32_MAX)
    (hr : ∀ round ∈ rounds, round.Routed accounts) :
    loop.RunBounded accounts (.running (Loop.start db)) rounds := by
  have hl : loop.retryPolicy.maxAttempts ≤ max 1 loop.retryPolicy.maxAttempts := le_max_right _ _
  have hm : max 1 loop.retryPolicy.maxAttempts ≤ Loop.U32_MAX := max_le (by decide) hu32
  have hs : Sound (max 1 loop.retryPolicy.maxAttempts) (Loop.start db) :=
    ⟨nofun, le_max_left _ _⟩
  have ha := ahead_run hw hl hm hr hs
  have hc : 1 + _ ≤ _ := ha.count
  refine ⟨by omega, ha.once, ha.left, fun hn => ?_⟩
  by_contra hrun
  have hle : _ + 1 ≤ _ := rounds_le_of_running hw hl hm hr hs (Bool.not_eq_false _ ▸ hrun)
  have hro : room accounts (Loop.start db) ≤ accounts.length := length_filter_le _ _
  omega

end RetryLoop

namespace CoordinatorConfig

/-- **A run of either coordinator submits no more attempts than its policy allows, none of them
twice to an account on one surface and none to an account that failed, and it ends.** -/
theorem run_bounded (config : CoordinatorConfig)
    (hu32 : config.retryPolicy.maxAttempts ≤ Loop.U32_MAX) (accounts : List String) (db : Db) :
    (∀ (input : FiniteInput) (rounds : List (Round FiniteSubmission)),
      (∀ round ∈ rounds, round.Routed accounts) →
      (config.finite input).RunBounded accounts (config.finiteStart input db) rounds) ∧
    (∀ (input : StreamInput) (rounds : List (Round StreamSubmission)),
      (∀ round ∈ rounds, round.Routed accounts) →
      (config.streaming input).RunBounded accounts (.running (Loop.start db)) rounds) := by
  constructor
  · intro input rounds hrtd
    have hdon : ∀ result, (config.finite input).RunBounded accounts
        (.done (Loop.start db) result) rounds := by
      intro result
      have hnon : (config.finite input).submissions (.done (Loop.start db) result) rounds = [] := by
        cases rounds <;> rfl
      refine ⟨by simp [hnon], by simp [hnon], by simp [hnon], fun _ => ?_⟩
      rw [run_done]
      rfl
    refine config.finiteStart_of input (P := fun start =>
      (config.finite input).RunBounded accounts start rounds) ?_ (fun e => hdon _)
    exact runBounded_start db
      (fun _ _ _ _ _ _ h => (AttemptContext.retried_finiteEnd h).2) hu32 hrtd
  · intro input rounds hrtd
    exact runBounded_start db
      (fun _ _ _ _ _ _ h => (AttemptContext.remembered_streamEnd h).1.2) hu32 hrtd

end CoordinatorConfig

/-! ## When a run gives up -/

/-- The account would take the request if it were asked. -/
def takes (r : Router) (facts : RoutingRequestFacts) (clock : SelectionClock)
    (c : RoutingCandidate) : Bool :=
  (r.scanned facts clock).probeAvailableReadOnly clock facts c &&
    (r.scanned facts clock).letsThrough facts clock c

theorem claimAccepted_ne_none {r : Router}
    {c : RoutingCandidate} {o : Bool} {fa : Option FairnessDecision} :
    (r.claimAccepted f c o fa).2 ≠ .ok none := by
  unfold Router.claimAccepted
  dsimp only
  split
  · nofun
  split
  · nofun
  · nofun

/-- **A selection comes back empty exactly when no account it may take would take the
request.** -/
theorem selected_none_iff {r : Router} {cl : SelectionClock}
    {ex : List String} {p : Option String} :
    (r.selectAndClaimWithPreference f ex p cl).2 = .ok none ↔
      ∀ c ∈ (r.view cl).buildEligibleCandidates f, c.accountName ∉ ex →
        p.all (c.accountName = ·) = true → takes r f cl c = false := by
  have hmem : ∀ c, c ∈ r.ordered f ex p cl ↔ _ :=
    fun c => (r.fairnessOrder_perm f _).mem_iff.trans Router.mem_candidates
  rcases r.selectAndClaimWithPreference_cases f ex p cl with
    ⟨hn, r', -, -, hrun⟩ | ⟨can, hs, r', own, fai, -, -, hrun⟩
  · rw [hrun]
    refine iff_of_true rfl fun c hc hin hpre => ?_
    by_contra ht
    obtain ⟨hp, hl⟩ := Bool.and_eq_true_iff.mp (Bool.not_eq_false _ ▸ ht)
    exact find?_eq_none.mp hn c ((hmem c).mpr ⟨⟨hc, hin⟩, hpre, hp⟩) hl
  · rw [hrun]
    refine iff_of_false claimAccepted_ne_none fun hall => ?_
    obtain ⟨⟨hc, hin⟩, hpre, hp⟩ := (hmem can).mp (mem_of_find?_eq_some hs)
    have hno := hall can hc hin hpre
    rw [takes, hp, find?_some hs] at hno
    cases hno

/-- No account is preferred, or no other account that is left would take the request. -/
def othersRefuse (l : Loop) (r : Router) (facts : RoutingRequestFacts) (clock : SelectionClock) :
    Bool :=
  l.preferredAccount.all fun account =>
    ((r.view clock).buildEligibleCandidates facts).all fun c =>
      l.excludedAccounts.contains c.accountName || c.accountName = account ||
        !takes r facts clock c

/-- Whom an empty selection leaves out. -/
theorem asked_none_iff {l : Loop} {r : Router} {cl : SelectionClock}
    (hn : askRouter r f cl l.excludedAccounts l.preferredAccount = .ok none) :
    (r.selectAndClaim f l.excludedAccounts cl).2 = .ok none ↔ othersRefuse l r f cl = true:= by
  unfold othersRefuse
  cases hpre : l.preferredAccount with
  | none =>
    rw [hpre] at hn
    exact iff_of_true hn rfl
  | some account =>
    rw [hpre] at hn
    have hl := selected_none_iff.mp hn
    rw [Router.selectAndClaim, selected_none_iff, Option.all_some, all_eq_true]
    refine forall₂_congr fun c hc => ?_
    constructor
    · intro h
      by_cases hin : c.accountName ∈ l.excludedAccounts
      · simp [hin]
      · simp [h hin rfl]
    · intro h hin _
      by_cases hs : c.accountName = account
      · exact hl c hc (by simp) (by simp [hs])
      · simpa [hin, hs] using h

namespace CoordinatorConfig

/-- **When a run of either coordinator gives up for lack of a claim, the router has none for the
accounts left exactly when no account is preferred or every other one refuses.** -/
theorem gives_up_iff (config : CoordinatorConfig) :
    (∀ (input : FiniteInput) (db : Db) (rounds : List (Round FiniteSubmission))
        (round : Round FiniteSubmission) (l : Loop) (r : Router) (facts : RoutingRequestFacts)
        (clock : SelectionClock),
      run (config.finite input).step (config.finiteStart input db) rounds = .running l →
      round.select = askRouter r facts clock →
      RetryLoop.selected l round = .ok none →
      ((r.selectAndClaim facts l.excludedAccounts clock).2 = .ok none ↔
        othersRefuse l r facts clock = true)) ∧
    (∀ (input : StreamInput) (db : Db) (rounds : List (Round StreamSubmission))
        (round : Round StreamSubmission) (l : Loop) (r : Router) (facts : RoutingRequestFacts)
        (clock : SelectionClock),
      run (config.streaming input).step (.running (Loop.start db)) rounds = .running l →
      round.select = askRouter r facts clock →
      RetryLoop.selected l round = .ok none →
      ((r.selectAndClaim facts l.excludedAccounts clock).2 = .ok none ↔
        othersRefuse l r facts clock = true)) := by
  constructor
  all_goals
    intro input db rounds round l r facts clock _ hrou hnon
    rw [selected, hrou] at hnon
    exact asked_none_iff hnon

/-! ### Two wires and two accounts -/

def twoWires : CoordinatorConfig :=
  { oneProvider with providerProfiles := fun _ => [.openaiChatCompletions, .openaiResponses] }

def askingRound {σ : Type} (r : Router) (submission : σ) : Round σ :=
  { quietRound none submission with select := askRouter r Router.oneToken Router.stopped }

/-- The wire answers that it has no such path. -/
def wireMissing (r : Router) : Round FiniteSubmission :=
  askingRound r (.answered ⟨404, none, none, 3, 4⟩ (.providerError ⟨none, none⟩))

theorem run_bounded_twoWires : (twoWires.finite generateCall).RunBounded ["a", "b"]
      (twoWires.finiteStart generateCall smallCap) (List.replicate 6 (wireMissing tieredRouter)) ∧
    (twoWires.streaming ⟨sharedKeyCall, "openai"⟩).RunBounded ["a", "b"]
      (.running (Loop.start smallCap)) (List.replicate 6 (askingRound tieredRouter .headerTimeout))
    := by
  obtain ⟨hfin, hstr⟩ := run_bounded twoWires (by decide) ["a", "b"] smallCap
  refine ⟨hfin _ _ fun round hrou => ?_, hstr _ _ fun round hrou => ?_⟩
  all_goals exact eq_of_mem_replicate hrou ▸ ⟨_, _, _, by decide, rfl⟩

/-- Account `a` is switched off. -/
def lapsedRouter (spare : Bool) : Router :=
  { tieredRouter with
    config := { tieredRouter.config with
      registry := (Table.empty.insert ⟨1, "a", "p", false, true, 0, ["openai"], []⟩).insert
        ⟨2, "b", "p", spare, true, 1, ["openai"], []⟩ } }

/-- Account `a` rejected one of its wires, and its other wire is to be tried. -/
def afterWire : Progress :=
  run (twoWires.finite generateCall).step (twoWires.finiteStart generateCall smallCap)
    [wireMissing tieredRouter]

/-- Nobody is left but the account that is switched off. -/
theorem gives_up_alone : afterWire.isRunning = true ∧
    ((lapsedRouter false).selectAndClaim Router.oneToken afterWire.loop.excludedAccounts
      Router.stopped).2 = .ok none := by
  have hrun : afterWire.isRunning = true := by decide +kernel
  have hnon : selected afterWire.loop (wireMissing (lapsedRouter false)) = .ok none := by
    have hsom : (selected afterWire.loop
        (wireMissing (lapsedRouter false))).toOption = some none := by decide +kernel
    revert hsom
    cases selected afterWire.loop (wireMissing (lapsedRouter false)) with
    | error e => exact fun h => by cases h
    | ok claim => exact fun h => congrArg _ (Option.some.inj h)
  exact ⟨hrun, ((gives_up_iff twoWires).1 _ _ _ _ _ _ _ _ (Progress.eq_running hrun) rfl
    hnon).mpr (by decide +kernel)⟩

/-- The account is switched off before its other wire was tried: the request fails although the
other account would take it. -/
theorem wire_retry_gives_up :
    afterWire.isRunning = true ∧ afterWire.loop.preferredAccount = some "a" ∧
    (RetryLoop.selected afterWire.loop (wireMissing (lapsedRouter true))).toOption = some none ∧
    (((lapsedRouter true).selectAndClaim Router.oneToken afterWire.loop.excludedAccounts
      Router.stopped).2.toOption.join.map (·.accountName)) = some "b" := by
  decide +kernel

end CoordinatorConfig

end EggPool.Coordinator
