import EggPool.Coordinator.RoundEffect

/-!
# Who owns what when a run ends

A run that made an attempt durable owes the request a terminal finalization, and
every claim it took has to go somewhere. `Owned` says that both were handed over.
It is not so for every run: an error that reaches the loop after an attempt became
durable is returned as it is, and the rows of that attempt are left without an
owner. `Undisturbed` says which rounds do not end that way, and the main theorem
is that those are all.

The proof is one case analysis over the effects of a round. Losing a claim is
never repaired, so the step lemma turns into an equivalence over whole runs.
-/

namespace EggPool.Coordinator

open EggPool.Lib EggPool.Budget EggPool.Routing EggPool.Store RetryLoop Loop

namespace Progress

/-- The last durable attempt of a run that ended, and what the run returned. -/
def ended? : Progress → Option (Option FinalizationIdentity × Except CoordinatorError Execution)
  | .done l result => some (l.durable, result)
  | .running _ => none

theorem ended?_eq_some {p : Progress} {durable : Option FinalizationIdentity}
    {r : Except CoordinatorError Execution} :
    p.ended? = some (durable, r) ↔ ∃ l, p = .done l r ∧ l.durable = durable := by
  cases p with
  | running l => simp [ended?]
  | done l res' =>
    simp only [ended?, Option.some.injEq, Prod.mk.injEq, done.injEq]
    constructor
    · rintro ⟨hd, hr⟩
      exact ⟨l, ⟨rfl, hr⟩, hd⟩
    · rintro ⟨_, ⟨rfl, hr⟩, hd⟩
      exact ⟨hd, hr⟩

theorem exists_done_of_ended {p : Progress} {d : Option FinalizationIdentity}
    (h : p.ended?.map Prod.fst = some d) : ∃ l r, p = .done l r ∧ l.durable = d := by
  obtain ⟨⟨durable, r⟩, hend, rfl⟩ := Option.map_eq_some_iff.mp h
  obtain ⟨l, hp, hd⟩ := ended?_eq_some.mp hend
  exact ⟨l, r, hp, hd⟩

end Progress

/-- The run handed over its terminal finalization and all its claims. -/
structure Owned (l : Loop) (result : Except CoordinatorError Execution) : Prop where
  /-- A durable attempt has an execution that finalizes the request for it. -/
  terminal : ∀ identity, l.durable = some identity →
    ∃ execution, result = .ok execution ∧ execution.identity = identity
  claims : ∀ claim fate, (claim, fate) ∈ l.claims →
    fate = .rolledBack ∨ fate = .finalizationCommand ∨
      fate = .execution ∧ ∃ execution, result = .ok execution ∧ execution.claim = some claim

namespace Loop

/-- No claim of the run was lost so far. -/
def KeepsClaims (l : Loop) : Prop := ∀ claim fate, (claim, fate) ∈ l.claims → fate ≠ .dropped

/-- Between two rounds no claim is with an execution. -/
def NoneExecuting (l : Loop) : Prop := ∀ claim fate, (claim, fate) ∈ l.claims → fate ≠ .execution

variable {l l' : Loop} {claim : SelectionClaim} {fate : ClaimFate}

/-- What is said of all claims, after one more. -/
theorem forall_claims_append {P : ClaimFate → Prop} (h : l'.claims = l.claims ++ [(claim, fate)]) :
    (∀ c f, (c, f) ∈ l'.claims → P f) ↔ (∀ c f, (c, f) ∈ l.claims → P f) ∧ P fate := by
  simp only [h, List.mem_append, List.mem_singleton, Prod.mk.injEq]
  constructor
  · intro hk
    exact ⟨fun c f hmem => hk c f (.inl hmem), hk claim fate (.inr ⟨rfl, rfl⟩)⟩
  rintro ⟨hk, hf⟩ c f (hmem | ⟨_, rfl⟩)
  · exact hk c f hmem
  · exact hf

theorem keepsClaims_append (h : l'.claims = l.claims ++ [(claim, fate)]) :
    l'.KeepsClaims ↔ l.KeepsClaims ∧ fate ≠ .dropped :=
  forall_claims_append h

theorem noneExecuting_append (h : l'.claims = l.claims ++ [(claim, fate)])
    (hl : l.NoneExecuting) (hf : fate ≠ .execution) : l'.NoneExecuting :=
  (forall_claims_append h).mpr ⟨hl, hf⟩

/-- Between two rounds a claim that was not lost is settled. -/
theorem settled_of_kept (hn : l.NoneExecuting) (hk : l.KeepsClaims)
    (hmem : (claim, fate) ∈ l.claims) : fate = .rolledBack ∨ fate = .finalizationCommand := by
  have he := hn claim fate hmem
  have hd := hk claim fate hmem
  cases fate with
  | rolledBack => exact .inl rfl
  | finalizationCommand => exact .inr rfl
  | execution => exact absurd rfl he
  | dropped => exact absurd rfl hd

end Loop

theorem ofRollback_ne_execution (a : Except ClaimError ClaimTransition) :
    ClaimFate.ofRollback a ≠ .execution := by
  unfold ClaimFate.ofRollback
  split <;> simp

theorem ofRollback_ne_dropped_iff (a : Except ClaimError ClaimTransition) :
    ClaimFate.ofRollback a ≠ .dropped ↔ rolledBack a = true := by
  unfold ClaimFate.ofRollback
  split <;> simp [*]

/-- A run that lost a claim does not own it. -/
theorem Owned.keepsClaims {l : Loop} {r : Except CoordinatorError Execution}
    (h : Owned l r) : l.KeepsClaims := by
  intro claim fate hmem hd
  have hf := h.claims claim fate hmem
  rw [hd] at hf
  simp at hf

/-- An error is a fitting end exactly when nothing is durable and no claim was lost. -/
theorem owned_error_iff {l : Loop} {e : CoordinatorError} (hl : l.NoneExecuting) :
    Owned l (.error e) ↔ l.durable = none ∧ l.KeepsClaims := by
  constructor
  · intro h
    refine ⟨?_, ?_⟩
    · cases hd : l.durable with
      | none => rfl
      | some identity =>
        obtain ⟨_, hno, _⟩ := h.terminal identity hd
        cases hno
    · exact h.keepsClaims
  · rintro ⟨hd, hk⟩
    refine ⟨fun identity h => ?_, fun claim fate hmem => ?_⟩
    · rw [hd] at h
      cases h
    · exact (settled_of_kept hl hk hmem).imp_right .inl

namespace RetryLoop

variable {σ : Type} (loop : RetryLoop σ)

/-! ## The rounds that lose nothing -/

/--
What a round may meet. Before the first durable attempt an error may end the run, as
long as the claim goes back to the book; after it the router has to answer, the
claimed provider has to be configured and the publication must not be refused. An
attempt interrupted after its commit has to be taken up again.
-/
def undisturbed : Progress → Round σ → Bool
  | .done _ _, _ => true
  | .running l, round =>
    match selected l round with
    | .error _ => l.durable.isNone
    | .ok none => true
    | .ok (some claim) =>
      match loop.published? l round with
      | none => rolledBack round.answers.rollback &&
          (l.durable.isNone || !loop.unconfigured claim)
      | some (_, .ok (.published _)) => true
      | some (_, .error (.postCommit _)) => loop.resumes round
      | some _ => rolledBack round.answers.rollback && l.durable.isNone

/-- An undisturbed round, as a condition on runs. -/
def Undisturbed (s : Progress) (round : Round σ) : Prop := loop.undisturbed s round = true

instance (s : Progress) (round : Round σ) : Decidable (loop.Undisturbed s round) :=
  inferInstanceAs (Decidable (loop.undisturbed s round = true))

/-- A loop that has run out of accounts ends with an execution for its last attempt. -/
def EndsOwned : Prop :=
  ∀ l elapsedMs identity, l.lastIdentity = some identity →
    ∃ execution, loop.exhausted l elapsedMs = .ok execution ∧ execution.identity = identity

/-- What holds between two rounds of every run. -/
def Tracked : Progress → Prop
  | .done _ _ => True
  | .running l => l.durable = l.lastIdentity ∧ l.NoneExecuting

/-- Nothing was lost so far. -/
def Accounted : Progress → Prop
  | .done l result => Owned l result
  | .running l => l.KeepsClaims

variable {loop} {l : Loop} {round : Round σ}

section Undisturbed

variable {claim : SelectionClaim}

theorem undisturbed_selectFailed {e : ClaimError} (hs : selected l round = .error e) :
    loop.Undisturbed (.running l) round ↔ l.durable = none := by
  simp [Undisturbed, undisturbed, hs]

section

variable (hs : selected l round = .ok (some claim))

include hs

theorem undisturbed_unpublished (hp : loop.nextPublication? l round = none) :
    loop.Undisturbed (.running l) round ↔ rolledBack round.answers.rollback = true ∧
      (l.durable = none ∨ loop.unconfigured claim = false) := by
  simp [Undisturbed, undisturbed, hs, published?, hp]

theorem undisturbed_refused {db' : Db} {r : Except PublicationError PublicationOutcome}
    (hp : loop.published? l round = some (db', r))
    (hr : EggPool.Coordinator.refused r = true) : loop.Undisturbed (.running l) round ↔
      rolledBack round.answers.rollback = true ∧ l.durable = none := by
  simp only [Undisturbed, undisturbed, hs, hp]
  split
  · rename_i h
    cases h
  · rename_i h
    cases h
    cases hr
  · rename_i h
    cases h
    cases hr
  · rw [Bool.and_eq_true, Option.isNone_iff_eq_none]

theorem undisturbed_interrupted {db' : Db} {i : PostCommitInterruption}
    (hp : loop.published? l round = some (db', .error (.postCommit i))) :
    loop.Undisturbed (.running l) round ↔ loop.resumes round = true := by
  simp [Undisturbed, undisturbed, hs, hp]

theorem undisturbed_submits (hsub : loop.Submits l round) : loop.Undisturbed (.running l) round:= by
  obtain ⟨db', res, hp, hr, hre⟩ := hsub
  simp only [Undisturbed, undisturbed, hs, hp]
  unfold EggPool.Coordinator.refused at hr
  split at hr
  · rfl
  · exact hre _ rfl
  · cases hr

end

end Undisturbed

/-! ## One round -/

theorem tracked_step (s : Progress) (round : Round σ) (h : Tracked s) :
    Tracked (loop.step s round) := by
  cases s with
  | done l res => exact trivial
  | running l =>
    obtain ⟨hd, hn⟩ := h
    have he := loop.step_effect l round
    generalize loop.step (.running l) round = next at he
    cases he with
    | skipped _ _ _ hk hc =>
      refine ⟨?_, noneExecuting_append hc hn (ofRollback_ne_execution _)⟩
      rw [hk.durable, hk.lastIdentity, hd]
    | retried _ _ _ _ _ hid4 hd' _ _ hc =>
      refine ⟨?_, noneExecuting_append hc hn (by simp)⟩
      rw [hid4, hd']
    | _ => exact trivial

/-- An error ends a round well exactly when it loses neither a claim nor an attempt. -/
theorem accounted_error_iff {l l' : Loop} {claim : SelectionClaim} {fate : ClaimFate}
    {e : CoordinatorError} (hn : l.NoneExecuting) (hk : l.KeepsClaims)
    (hc : l'.claims = l.claims ++ [(claim, fate)]) (hf : fate ≠ .execution) :
    Accounted (.done l' (.error e)) ↔ l'.durable = none ∧ fate ≠ .dropped := by
  rw [Accounted, owned_error_iff (noneExecuting_append hc hn hf), keepsClaims_append hc]
  exact ⟨fun h => ⟨h.1, h.2.2⟩, fun h => ⟨h.1, hk, h.2⟩⟩

/-- **A round loses nothing exactly when it is undisturbed.** -/
theorem accounted_step_iff (hend : loop.EndsOwned) (s : Progress) (round : Round σ)
    (ht : Tracked s) (ha : Accounted s) :
    Accounted (loop.step s round) ↔ loop.Undisturbed s round := by
  cases s with
  | done l res => exact ⟨fun _ => rfl, fun _ => ha⟩
  | running l =>
    obtain ⟨hd, hn⟩ := ht
    have he := loop.step_effect l round
    generalize loop.step (.running l) round = next at he
    cases he with
    | selectFailed hs =>
      rw [undisturbed_selectFailed hs, Accounted, owned_error_iff hn]
      exact ⟨fun h => h.1, fun h => ⟨h, ha⟩⟩
    | exhausted hs =>
      refine ⟨fun _ => by simp [Undisturbed, undisturbed, hs], fun _ => ⟨?_, ?_⟩⟩
      · intro identity hid4
        rw [hd] at hid4
        exact hend l round.elapsedMs identity hid4
      · intro claim fate hmem
        exact (settled_of_kept hn ha hmem).imp_right .inl
    | stopped hs hp hw hk hc =>
      rw [undisturbed_unpublished hs hp, accounted_error_iff hn ha hc
        (ofRollback_ne_execution _), hk.durable, ofRollback_ne_dropped_iff]
      rcases hw with hf | hco
      · simp [hf]
      · simp [hco, and_comm]
    | skipped hs hp hco hk hc =>
      rw [undisturbed_unpublished hs hp, Accounted, keepsClaims_append hc,
        ofRollback_ne_dropped_iff]
      exact ⟨fun h => ⟨h.2, .inr hco⟩, fun h => ⟨ha, h.1⟩⟩
    | refused hs hp hr hd' hc =>
      rw [undisturbed_refused hs hp hr, accounted_error_iff hn ha hc
        (ofRollback_ne_execution _), hd', ofRollback_ne_dropped_iff, and_comm]
    | interrupted hs hp hre hd' hc =>
      rw [undisturbed_interrupted hs hp, hre, accounted_error_iff hn ha hc (by simp)]
      simp
    | @ended claim identity _ _ _ hs hsub hrow ho hd' hc =>
      refine ⟨fun _ => undisturbed_submits hs hsub, fun _ => ⟨?_, ?_⟩⟩
      · intro ide' hid4
        rw [hd', Option.some.injEq] at hid4
        exact ⟨_, rfl, hid4⟩
      · intro cla' fate hmem
        rw [hc, List.mem_append, List.mem_singleton] at hmem
        rcases hmem with hmem | heq
        · exact (settled_of_kept hn ha hmem).imp_right .inl
        · cases heq
          exact .inr (.inr ⟨rfl, _, rfl, rfl⟩)
    | retried hs hsub _ _ _ _ _ _ _ hc =>
      refine ⟨fun _ => undisturbed_submits hs hsub, fun _ => ?_⟩
      rw [Accounted, keepsClaims_append hc]
      exact ⟨ha, by simp⟩

/-- A claim that was lost stays on the books of the run. -/
theorem keepsClaims_of_effect {n : Progress} (he : loop.Effect l round n)
    (h : Accounted n) : l.KeepsClaims := by
  have hp : ∀ {l' : Loop} {claim : SelectionClaim} {fate : ClaimFate},
      l'.claims = l.claims ++ [(claim, fate)] → l'.KeepsClaims → l.KeepsClaims :=
    fun hc hk => ((keepsClaims_append hc).mp hk).1
  cases he with
  | selectFailed | exhausted => exact Owned.keepsClaims h
  | stopped _ _ _ _ hc => exact hp hc (Owned.keepsClaims h)
  | skipped _ _ _ _ hc => exact hp hc h
  | refused _ _ _ _ hc | interrupted _ _ _ _ hc | ended _ _ _ _ _ hc =>
    exact hp hc (Owned.keepsClaims h)
  | retried _ _ _ _ _ _ _ _ _ hc => exact hp hc h

theorem not_accounted_step (s : Progress) (round : Round σ) (h : ¬ Accounted s) :
    ¬ Accounted (loop.step s round) := by
  cases s with
  | done l res => exact h
  | running l => exact fun hn => h (keepsClaims_of_effect (loop.step_effect l round) hn)

/-! ## Whole runs -/

theorem tracked_start (db : Db) : Tracked (.running (start db)) :=
  ⟨rfl, nofun⟩

theorem accounted_start (db : Db) : Accounted (.running (start db)) :=
  nofun

/-- A run that never began owes nothing. -/
theorem accounted_refusedStart (db : Db) (e : CoordinatorError) :
    Accounted (.done (start db) (.error e)) :=
  (owned_error_iff (tracked_start db).2).mpr ⟨rfl, accounted_start db⟩

/-- **A run of a loop loses nothing exactly when all its rounds are undisturbed.** -/
theorem accounted_run_iff (hend : loop.EndsOwned) {s : Progress} (ht : Tracked s)
    (ha : Accounted s) (rounds : List (Round σ)) :
    Accounted (run loop.step s rounds) ↔ Along loop.step loop.Undisturbed s rounds :=
  run_iff_along tracked_step (accounted_step_iff hend) not_accounted_step ht ha

end RetryLoop

namespace CoordinatorConfig

variable (config : CoordinatorConfig) (input : FiniteInput)

theorem finite_endsOwned : (config.finite input).EndsOwned := by
  intro l em identity hl
  dsimp only [finite, finiteExhausted]
  rw [hl]
  cases l.lastUpstream with
  | none | some => exact ⟨_, rfl, rfl⟩

theorem streaming_endsOwned (input : StreamInput) : (config.streaming input).EndsOwned := by
  intro l em identity hl
  dsimp only [streaming, streamExhausted]
  rw [hl]
  cases l.lastUpstream with
  | some last => exact ⟨_, rfl, rfl⟩
  | none =>
    cases l.lastFailure with
    | none | some => exact ⟨_, rfl, rfl⟩

/-- **A run of either coordinator that ended handed over its terminal finalization and all its
claims exactly when every round was undisturbed.** -/
theorem ended_run_owned_iff :
    (∀ (input : FiniteInput) (db : Db) (rounds : List (Round FiniteSubmission)) (l : Loop)
        (result : Except CoordinatorError Execution),
      run (config.finite input).step (config.finiteStart input db) rounds = .done l result →
      (Owned l result ↔ Along (config.finite input).step (config.finite input).Undisturbed
        (config.finiteStart input db) rounds)) ∧
    (∀ (input : StreamInput) (db : Db) (rounds : List (Round StreamSubmission)) (l : Loop)
        (result : Except CoordinatorError Execution),
      run (config.streaming input).step (.running (Loop.start db)) rounds = .done l result →
      (Owned l result ↔ Along (config.streaming input).step (config.streaming input).Undisturbed
        (.running (Loop.start db)) rounds)) := by
  constructor
  · intro input db rounds l result hrun
    have hiff := accounted_run_iff (config.finite_endsOwned input)
      (config.finiteStart_of input (P := RetryLoop.Tracked) (tracked_start db) fun _ => trivial)
      (config.finiteStart_of input (P := RetryLoop.Accounted) (accounted_start db)
        (accounted_refusedStart db)) rounds
    rwa [hrun] at hiff
  · intro input db rounds l result hrun
    have hiff := accounted_run_iff (config.streaming_endsOwned input)
      (tracked_start db) (accounted_start db) rounds
    rwa [hrun] at hiff

/-! ### Two accounts under a small instance cap -/

/-- Two accounts at one provider with one wire. -/
def oneProvider : CoordinatorConfig where
  providers := [("p", ⟨false, [], fun _ => false, none⟩)]
  providerProfiles := fun _ => [.openaiChatCompletions]
  retryPolicy := ⟨3, 60, fun _ => none⟩
  sanitizeDetail := id

def sharedKeyCall : LoopRequest where
  proxyRequestId := "r"
  attribution := ⟨none, none, none, .legacySharedKey, .logical, none⟩
  requestBytes := 2
  budgetInputWorstCaseTokens := 10
  budgetRequestedOutputTokens := none

def generateCall : FiniteInput := ⟨sharedKeyCall, .generate, "openai", "m"⟩

/-- An empty store in which the instance may use 15 tokens a day. -/
def smallCap : Db where
  directory := {
    users := fun _ => none
    userCredentials := fun _ => none
    webSessions := fun _ => none
    accounts := fun id => some (if id = 1 then "a" else "b")
    models := fun _ => true
    policyRevision := some 1 }
  requests := AutoTable.empty
  attempts := AutoTable.empty
  reservations := AutoTable.empty
  routingDecisions := AutoTable.empty
  userBudget := ⟨[], Table.empty, Buckets.empty⟩
  instanceBudget := ⟨[{
      owner := (), scopeModel := none, window := .day, maxRequests := none, maxTokens := some 15
      maxMicrodollars := none, maxConcurrent := none, enforcement := .estimated }],
    Table.empty, Buckets.empty⟩
  attemptUsage := Table.empty

/-- A round in which the claim book, the store and the wire resolver answer as they should. -/
def quietRound {σ : Type} (claim : Option SelectionClaim) (submission : σ) : Round σ where
  select := fun _ _ => .ok claim
  resolve := id
  answers := ⟨.ok .rolledBack, .ok .converted, .ok .converted⟩
  prepared := ⟨"[]", "\x7b\x7d", 1, 1, 0, some 1, none, none⟩
  serializes := true
  clock := ⟨"2026-01-02 00:00:02", "2026-01-02", "2026-01-01", "2026-01-01 12:00:02", fun _ => ""⟩
  fails := fun _ => false
  serviceFails := fun _ => false
  submission := submission
  elapsedMs := 5
  now := "2026-01-02 00:00:03"

/-- Account 1 is claimed and its upstream cannot be reached. -/
def unreachable : Round FiniteSubmission :=
  quietRound (some ⟨1, 1, "a", "p", "m", none, 10, 0⟩) (.submitFailed (.transport .other))

/-- Account 2 is claimed; it would answer. -/
def secondAccount : Round FiniteSubmission :=
  quietRound (some ⟨2, 2, "b", "p", "m", none, 10, 0⟩)
    (.answered ⟨200, none, none, 3, 4⟩ (.success none 4))

/-- No account is left. -/
def nobody {σ : Type} (submission : σ) : Round σ := quietRound none submission

/-- The attempt on account 1. -/
def firstIdentity : FinalizationIdentity :=
  ⟨"r", 1, 1, 1, 1, "a", "p", "m", "openai", "openai", 1, sharedKeyCall.attribution⟩

/-- The first attempt is closed as failed, and the accounts run out: the execution owns it. -/
theorem ended_run_owned_exhausted : (∃ l result, run (oneProvider.finite generateCall).step
        (oneProvider.finiteStart generateCall smallCap)
        [unreachable, nobody unreachable.submission] = .done l result ∧
      l.durable = some firstIdentity ∧ Owned l result) ∧
    (∃ l result, run (oneProvider.streaming ⟨sharedKeyCall, "openai"⟩).step
        (.running (Loop.start smallCap))
        [quietRound (some ⟨1, 1, "a", "p", "m", none, 10, 0⟩) .headerTimeout,
          nobody .headerTimeout] = .done l result ∧
      l.durable = some firstIdentity ∧ Owned l result) := by
  obtain ⟨hfinite, hstreaming⟩ := ended_run_owned_iff oneProvider
  refine ⟨?_, ?_⟩
  · obtain ⟨l, result, hrun, hdurable⟩ := Progress.exists_done_of_ended (p := run
      (oneProvider.finite generateCall).step (oneProvider.finiteStart generateCall smallCap)
      [unreachable, nobody unreachable.submission]) (d := some firstIdentity) (by decide +kernel)
    exact ⟨l, result, hrun, hdurable, (hfinite _ _ _ _ _ hrun).mpr
      ⟨by decide +kernel, by decide +kernel, trivial⟩⟩
  · obtain ⟨l, result, hrun, hdurable⟩ := Progress.exists_done_of_ended (p := run
      (oneProvider.streaming ⟨sharedKeyCall, "openai"⟩).step (.running (Loop.start smallCap))
      [quietRound (some ⟨1, 1, "a", "p", "m", none, 10, 0⟩) .headerTimeout,
        nobody .headerTimeout]) (d := some firstIdentity) (by decide +kernel)
    exact ⟨l, result, hrun, hdurable, (hstreaming _ _ _ _ _ hrun).mpr
      ⟨by decide +kernel, by decide +kernel, trivial⟩⟩

/-- The retry hold of account 2 is over the cap: the run ends with the refusal, and the rows of
the first attempt have no owner. -/
theorem refused_retry_abandons_attempt :
    ∃ l, run (oneProvider.finite generateCall).step (oneProvider.finiteStart generateCall smallCap)
        [unreachable, secondAccount] = .done l (.error (.publication .budgetExceeded)) ∧
      l.durable = some firstIdentity ∧ ¬ Owned l (.error (.publication .budgetExceeded)) := by
  have hend : Progress.ended? (run (oneProvider.finite generateCall).step
      (oneProvider.finiteStart generateCall smallCap) [unreachable, secondAccount]) =
      some (some firstIdentity, .error (.publication .budgetExceeded)) := by
    decide +kernel
  obtain ⟨l, hrun, hdurable⟩ := Progress.ended?_eq_some.mp hend
  refine ⟨l, hrun, hdurable, fun howned => ?_⟩
  obtain ⟨_, hno, _⟩ := howned.terminal firstIdentity hdurable
  cases hno

end CoordinatorConfig

end EggPool.Coordinator
