import EggPool.Coordinator.Ownership

/-!
# Whether the terminal finalization of a run goes through

An execution that a run hands back owes the request one terminal finalization. If
the last attempt is still open it always goes through. If the accounts ran out,
the last attempt was closed as failed before, with a status and an error class on
its row, and the finalization has to bring the same facts. The loops assemble
those facts from what they remember, and they do not always remember the attempt
that was closed last.

The invariant between rounds is that the rows of the last attempt are together
and closed with an evidence class. Evidence classes begin in lower case; the
classes the coordinators make up themselves do not, so those always conflict.
-/

namespace EggPool.Coordinator

open EggPool.Lib EggPool.Budget EggPool.Routing EggPool.Store RetryLoop
open FailureObservation (startsLower evidence_startsLower)

namespace Progress

def loop : Progress → Loop
  | .running l => l
  | .done l _ => l

def isRunning : Progress → Bool
  | .running _ => true
  | .done _ _ => false

/-- The execution a run handed back. -/
def execution? : Progress → Option Execution
  | .done _ (.ok execution) => some execution
  | _ => none

theorem eq_running {p : Progress} (h : p.isRunning = true) : p = .running p.loop := by
  cases p with
  | running l => rfl
  | done l res => cases h

theorem exists_execution {p : Progress} (h : p.execution?.isSome = true) :
    ∃ l execution, p = .done l (.ok execution) := by
  cases p with
  | running l => cases h
  | done l res =>
    cases res with
    | error e => cases h
    | ok execution => exact ⟨l, execution, rfl⟩

end Progress

/-- The attempt's row has this status and this error class on record. -/
def recordAgrees (db : Db) (identity : FinalizationIdentity) (status : Option Nat)
    (errorClass : String) : Bool :=
  (db.attempts.get? identity.attemptId).any fun a =>
    status.all (fun value => a.statusCode = some (value : Int)) && a.errorClass = some errorClass

/-- The rows of a closed attempt, with the class of the failure. -/
structure ClosedRows (db : Db) (identity : FinalizationIdentity) : Prop where
  rows : AttemptRows db identity
  closed : ∃ status errorClass, AttemptClosed db identity status (some errorClass) ∧
    startsLower errorClass = true

section Rows

variable {f : Finalization} {db : Db} {errorClass : String}

/-- The facts conflict unless the row has them on record. -/
theorem factsConflict_eq_false_iff {a : Attempt} (hc : f.data.errorClass = some errorClass) :
    f.factsConflict a = false ↔
      (f.data.statusCode.all (fun value => a.statusCode = some (value : Int)) &&
        a.errorClass = some errorClass) = true := by
  have hm : (some errorClass = a.errorClass) ↔ (a.errorClass = some errorClass) := eq_comm
  unfold Finalization.factsConflict Finalization.statusCode
  cases f.data.statusCode with
  | none => simp [hc, hm]
  | some value =>
    have hs : (some (value : Int) = a.statusCode) ↔ (a.statusCode = some (value : Int)) := eq_comm
    simp [hc, hm, hs]

/-- **Over a closed attempt a terminal finalization converges exactly when it brings the
recorded facts.** -/
theorem converges_closed_iff (h : ClosedRows db f.identity) (ht : f.terminalizeRequest = true)
    (hl : f.data.errorClass = some errorClass) :
    Converges f db ↔ recordAgrees db f.identity f.data.statusCode errorClass = true := by
  obtain ⟨a, ha, _⟩ := h.rows.attempt
  obtain ⟨sta, recorded, hd, _⟩ := h.closed
  have hc : a.completedAt.isSome = true := (hd a ha).1
  have ho : a.completedAt ≠ none := by
    intro hn
    rw [hn] at hc
    cases hc
  rw [converges_iff h.rows ht, h.rows.attemptSound_iff, recordAgrees, ha, Option.any_some,
    ← factsConflict_eq_false_iff hl]
  constructor
  · intro hs
    rcases hs a rfl with hno | hf
    · exact absurd hno ho
    · exact hf
  · rintro hg b hb
    cases hb
    exact .inr hg

/-- A class that does not begin in lower case is on record nowhere. -/
theorem recordAgrees_of_upper {i : FinalizationIdentity} {s : Option Nat}
    (h : ClosedRows db i) (hu : startsLower errorClass = false) :
    recordAgrees db i s errorClass = false := by
  obtain ⟨a, ha, _⟩ := h.rows.attempt
  obtain ⟨_, recorded, hc, hl⟩ := h.closed
  have hrec : a.errorClass = some recorded := (hc a ha).2.2
  have hne : recorded ≠ errorClass := by
    intro heq
    rw [heq, hu] at hl
    cases hl
  simp [recordAgrees, ha, hrec, hne]

theorem recordAgrees_of_closed {i : FinalizationIdentity} {s : Option Nat} (hrow : AttemptRows db i)
    (hl : AttemptClosed db i s (some errorClass)) : recordAgrees db i s errorClass = true:= by
  obtain ⟨a, ha, _⟩ := hrow.attempt
  obtain ⟨_, hs, hc⟩ := hl a ha
  cases s <;> simp_all [recordAgrees]

end Rows

namespace RetryLoop

variable {σ : Type} (loop : RetryLoop σ)

/-- What the terminal finalization of a run answers. -/
def finalizationAnswer (driver : StreamDriver) (downstream : Downstream) (now : String) :
    Progress → Option (Except FinalizationError FinalizationResult)
  | .done l (.ok execution) =>
    some ((loop.terminalCommand execution driver downstream now).finalizeDurable l.db).2
  | _ => none

/-- A retried attempt is closed with an evidence class. -/
def ClosesLower : Prop :=
  ∀ ctx submission effects data lastUpstream lastFailure,
    loop.attemptEnd ctx submission = .retry effects data lastUpstream lastFailure →
    ∃ errorClass, data.errorClass = some errorClass ∧ startsLower errorClass = true

/-- A retried attempt that left no answer to remember left its failure. -/
def RemembersFailure : Prop :=
  ∀ ctx submission effects data lastFailure,
    loop.attemptEnd ctx submission = .retry effects data none lastFailure →
    ∃ failure : LastFailure, lastFailure = some failure ∧ data.statusCode = failure.status ∧
      data.errorClass = some failure.effects.evidenceClass

/-- Between two rounds the last attempt is closed. -/
def LastClosed : Progress → Prop
  | .done _ _ => True
  | .running l => ∀ identity, l.lastIdentity = some identity → ClosedRows l.db identity

/-- Between two rounds, a loop that remembers no answer remembers the last failure. -/
def LastRemembered : Progress → Prop
  | .done _ _ => True
  | .running l => ∀ identity, l.lastIdentity = some identity → l.lastUpstream = none →
    ∃ failure, l.lastFailure = some failure ∧
      recordAgrees l.db identity failure.status failure.effects.evidenceClass = true

variable {loop}

theorem lastClosed_start (db : Db) : LastClosed (.running (Loop.start db)) :=
  fun _ h => nomatch h

theorem lastClosed_step (hl : loop.ClosesLower) (s : Progress) (round : Round σ)
    (h : LastClosed s) : LastClosed (loop.step s round) := by
  cases s with
  | done l res => exact trivial
  | running l =>
    have he := loop.step_effect l round
    generalize loop.step (.running l) round = next at he
    cases he with
    | skipped _ _ _ hk _ =>
      intro identity hid4
      rw [hk.lastIdentity] at hid4
      rw [hk.db]
      exact h identity hid4
    | retried _ _ hend hrow hd hid4 _ _ _ _ =>
      intro ide' hid4'
      rw [hid4, Option.some.injEq] at hid4'
      obtain ⟨errorClass, hc, hs⟩ := hl _ _ _ _ _ _ hend
      rw [hc] at hd
      rw [← hid4']
      exact ⟨hrow, _, _, hd, hs⟩
    | _ => exact trivial

theorem lastRemembered_step (hf : loop.RemembersFailure) (s : Progress) (round : Round σ)
    (h : LastRemembered s) : LastRemembered (loop.step s round) := by
  cases s with
  | done l res => exact trivial
  | running l =>
    have he := loop.step_effect l round
    generalize loop.step (.running l) round = next at he
    cases he with
    | skipped _ _ _ hk _ =>
      intro identity hid4 hu
      rw [hk.lastIdentity] at hid4
      rw [hk.lastUpstream] at hu
      rw [hk.db, hk.lastFailure]
      exact h identity hid4 hu
    | retried _ _ hend hrow hd hid4 _ hu hl _ =>
      intro ide' hid4' hn
      rw [hid4, Option.some.injEq] at hid4'
      rw [hu, Option.or_eq_none_iff] at hn
      rw [hn.1] at hend
      obtain ⟨failure, hfl, hs, hc⟩ := hf _ _ _ _ _ hend
      rw [hs, hc] at hd
      rw [← hid4', hl, hfl]
      exact ⟨failure, rfl, recordAgrees_of_closed hrow hd⟩
    | _ => exact trivial

end RetryLoop

/-! ## What a retried attempt leaves behind -/

namespace AttemptContext

variable {ctx : AttemptContext} {effects effects' : FailureEffects} {data : FinalizationData}
  {lastUpstream : Option LastUpstream} {lastFailure : Option LastFailure}

/-- The class of a failure the classifier decided. -/
def Decided (errorClass : Option String) : Prop :=
  ∃ text, errorClass = some text ∧ startsLower text = true

/-- A retry that the classifier decided, within the attempts of the policy. -/
def Retried (ctx : AttemptContext) (data : FinalizationData) : Prop :=
  Decided data.errorClass ∧ ctx.attemptNumber < ctx.retryPolicy.maxAttempts

theorem retryOr_eq_retry {s : Option Nat} {u : Option String}
    {em p : Int} {up : Option LastUpstream} {fa : Option LastFailure} {t : FinalizationData}
    (h : ctx.retryOr effects s u em p up fa t = .retry effects' data lastUpstream lastFailure) :
    data.statusCode = s ∧ data.errorClass = some effects.evidenceClass ∧
      lastUpstream = up ∧ lastFailure = fa ∧ shouldRetry effects = true := by
  unfold retryOr at h
  split at h
  · rename_i hr
    cases h
    exact ⟨rfl, rfl, rfl, rfl, hr⟩
  · cases h

theorem retried_retryOr {o : FailureObservation} {s : Option Nat} {u : Option String} {em p : Int}
    {up : Option LastUpstream} {fa : Option LastFailure} {t : FinalizationData}
    (h : ctx.retryOr (ctx.decide o) s u em p
      up fa t = .retry effects' data lastUpstream lastFailure)
    (hn : o.attemptNumber = ctx.attemptNumber) : ctx.Retried data := by
  obtain ⟨-, hc, -, -, hr⟩ := retryOr_eq_retry h
  refine ⟨⟨_, hc, evidence_startsLower⟩, ?_⟩
  rw [← hn]
  exact FailureObservation.attemptNumber_lt_of_retry (Bool.and_eq_true_iff.mp hr).1

variable {response : UpstreamResponse}

theorem retried_providerErrorEnd {er : ProviderErrorEvidence}
    (h : ctx.providerErrorEnd response er = .retry effects' data lastUpstream lastFailure) :
    ctx.Retried data ∧ lastUpstream ≠ none := by
  refine ⟨retried_retryOr h rfl, fun hn => ?_⟩
  rw [(retryOr_eq_retry h).2.2.1] at hn
  cases hn

variable {decoded : Decoded}

theorem retried_compactAnswered
    (h : ctx.compactAnswered response decoded = .retry effects data lastUpstream lastFailure) :
    ctx.Retried data := by
  cases decoded with
  | unadaptable tl =>
    exact retried_retryOr h rfl
  | providerError err =>
    exact (retried_providerErrorEnd h).1
  | success | malformed => cases h

theorem retried_embeddingAnswered
    (h : ctx.embeddingAnswered response decoded = .retry effects data lastUpstream lastFailure) :
    ctx.Retried data := by
  simp only [embeddingAnswered] at h
  split at h
  · exact retried_retryOr h rfl
  · split at h <;> simp only [reduceCtorEq] at h

theorem retried_generateAnswered
    (h : ctx.generateAnswered response decoded = .retry effects data lastUpstream lastFailure) :
    ctx.Retried data := by
  cases decoded with
  | providerError err =>
    exact (retried_providerErrorEnd h).1
  | unadaptable | success | malformed => cases h

theorem retried_finiteEnd {o : InferenceOperation} {s : FiniteSubmission}
    (h : ctx.finiteEnd o s = .retry effects data lastUpstream lastFailure) : ctx.Retried data:= by
  cases s with
  | admissionMismatch | preparationFailed => cases h
  | submitFailed | bodyReadFailed => exact retried_retryOr h rfl
  | answered response decoded =>
    cases o with
    | compact => exact retried_compactAnswered h
    | embedding => exact retried_embeddingAnswered h
    | generate => exact retried_generateAnswered h

/-- A retried streaming attempt leaves its answer or its failure to remember. -/
def Remembered (data : FinalizationData) (lastUpstream : Option LastUpstream)
    (lastFailure : Option LastFailure) : Prop :=
  Decided data.errorClass ∧ (lastUpstream = none → ∃ failure : LastFailure,
    lastFailure = some failure ∧ data.statusCode = failure.status ∧
      data.errorClass = some failure.effects.evidenceClass)

theorem remembered_preHandoff {s : FailureSource} {d : String}
    {t : FinalizationData → FinalizationData} (h : ctx.preHandoff s d t =
      .retry effects data lastUpstream lastFailure) :
    ctx.Retried data ∧ Remembered data lastUpstream lastFailure := by
  have hr := retried_retryOr h rfl
  obtain ⟨hs, hc, _, hf, _⟩ := retryOr_eq_retry h
  exact ⟨hr, hr.1, fun _ => ⟨_, hf, hs, hc⟩⟩

theorem remembered_streamErrorAnswered
    (h : ctx.streamErrorAnswered response decoded = .retry effects data lastUpstream lastFailure) :
    ctx.Retried data ∧ Remembered data lastUpstream lastFailure := by
  cases decoded with
  | providerError err =>
    obtain ⟨hr, hu⟩ := retried_providerErrorEnd h
    exact ⟨hr, hr.1, fun hn => absurd hn hu⟩
  | unadaptable | success | malformed => cases h

theorem remembered_streamEnd {s : StreamSubmission}
    (h : ctx.streamEnd s = .retry effects data lastUpstream lastFailure) :
    ctx.Retried data ∧ Remembered data lastUpstream lastFailure := by
  cases s with
  | preparationFailed err => cases h
  | errorAnswered response decoded =>
    exact remembered_streamErrorAnswered h
  | streamUnavailable | streaming => cases h
  | submitFailed | errorBodyReadFailed | prefetchFailed => exact remembered_preHandoff h
  | headerTimeout | firstByteTimeout =>
    rw [streamEnd, preHandoffTimeoutTerminal] at h
    exact remembered_preHandoff h

end AttemptContext

/-! ## The terminal finalization -/

/-- What a finalization does over a closed attempt, by what became of the response. A response
that was not delivered brings a class of the coordinator's own. -/
theorem converges_exhausted_iff {f : Finalization} {db : Db} {d : Downstream}
    {s : Option Nat} {errorClass : String} (h : ClosedRows db f.identity)
    (ht : f.terminalizeRequest = true)
    (hcu : d ≠ .delivered → ∃ text, f.data.errorClass = some text ∧
      startsLower text = false) (hf : d = .delivered → f.data.statusCode = s ∧
      f.data.errorClass = some errorClass) :
    Converges f db ↔ (d = .delivered && recordAgrees db f.identity s errorClass) = true := by
  by_cases hd : d = .delivered
  · obtain ⟨hs, hc⟩ := hf hd
    rw [converges_closed_iff h ht hc, hs]
    simp [hd]
  · obtain ⟨text, hc, hu⟩ := hcu hd
    rw [converges_closed_iff h ht hc, recordAgrees_of_upper h hu]
    simp [hd]

namespace RetryLoop

variable {σ : Type} (loop : RetryLoop σ)

/--
The facts of the last round suffice for its finalization. A run whose accounts ran
out needs its response delivered, and the answer it remembers has to be the one on
record; `unremembered` says how it fares without any.
-/
def factsSuffice (unremembered : Bool) (l : Loop) (round : Round σ) (downstream : Downstream) :
    Bool :=
  match selected l round with
  | .ok none => downstream = .delivered && l.lastIdentity.all fun identity =>
    match l.lastUpstream with
    | some last => recordAgrees l.db identity (some last.status) last.effects.evidenceClass
    | none => unremembered
  | _ => true

variable {loop} {l l' : Loop} {round : Round σ} {execution : Execution}

/-- A round that hands back an execution had an attempt open, or no account left. -/
theorem execution_cases (ht : loop.step (.running l) round = .done l' (.ok execution)) :
    (selected l round ≠ .ok none ∧ AttemptRows l'.db execution.identity ∧
      AttemptOpen l'.db execution.identity) ∨
    (selected l round = .ok none ∧ l' = l ∧ loop.exhausted l round.elapsedMs = .ok execution) := by
  have he := loop.step_effect l round
  rw [ht] at he
  generalize hr : (Except.ok execution : Except CoordinatorError Execution) = result at he
  generalize hn : Progress.done l' result = next at he
  cases he with
  | exhausted hs =>
    cases hn
    exact .inr ⟨hs, rfl, rfl⟩
  | ended hs _ hrow ho _ _ =>
    cases hn
    cases hr
    exact .inl ⟨by rw [hs]; simp, hrow, ho⟩
  | selectFailed | stopped | refused | interrupted => cases hn; cases hr
  | skipped | retried => cases hn

theorem factsSuffice_of_claim {u : Bool} {d : Downstream} (hs : selected l round ≠ .ok none) :
    factsSuffice u l round d = true := by
  unfold factsSuffice
  split
  · rename_i hn
    exact absurd hn hs
  · rfl

end RetryLoop

namespace CoordinatorConfig

open AttemptContext

variable (config : CoordinatorConfig)

variable {execution : Execution}

theorem finiteFinalData_cut {d : Downstream} (h : d ≠ .delivered) :
    ∃ text, (finiteFinalData execution d).errorClass = some text ∧ startsLower text = false:= by
  cases d with
  | delivered => exact absurd rfl h
  | writeFailed started =>
    refine ⟨_, rfl, ?_⟩
    cases started <;> decide
  | dropped started => exact ⟨_, rfl, by decide⟩

theorem streamFinalData_cut {d : StreamDriver} {dw : Downstream}
    (hl : execution.live = false) (h : dw ≠ .delivered) :
    ∃ text, (streamFinalData execution d dw).errorClass = some text ∧ startsLower text = false:= by
  simp only [streamFinalData, hl]
  cases dw with
  | delivered => exact absurd rfl h
  | writeFailed started | dropped started =>
    refine ⟨_, rfl, ?_⟩
    cases started <;> decide

theorem converges_finite_iff {i : FiniteInput} {l l' : Loop} {round : Round FiniteSubmission}
    (hc : RetryLoop.LastClosed (.running l))
    (ht : (config.finite i).step (.running l) round = .done l' (.ok execution))
    (d : StreamDriver) (dw : Downstream) (now : String) :
    Converges ((config.finite i).terminalCommand execution d dw now) l'.db ↔
      RetryLoop.factsSuffice false l round dw = true := by
  rcases execution_cases ht with ⟨hs, hrow, ho⟩ | ⟨hs, rfl, he⟩
  · exact iff_of_true ((converges_iff hrow rfl).mpr (hrow.attemptSound_of_open ho))
      (factsSuffice_of_claim hs)
  dsimp only [finite, finiteExhausted] at he
  simp only [factsSuffice, hs]
  cases hl : l'.lastIdentity with
  | none =>
    rw [hl] at he
    dsimp only at he
    split at he
    · cases he
    split at he <;> cases he
  | some identity =>
    rw [hl] at he
    have hrow : ClosedRows l'.db identity := hc identity hl
    cases hu : l'.lastUpstream with
    | some last =>
      rw [hu] at he
      cases he
      exact converges_exhausted_iff hrow rfl finiteFinalData_cut
        (fun hd => by rw [hd]; exact ⟨rfl, rfl⟩)
    | none =>
      rw [hu] at he
      cases he
      have hno : recordAgrees l'.db identity (some 503) "NoEligibleRoute" = false :=
        recordAgrees_of_upper hrow (by decide)
      rw [← hno]
      exact converges_exhausted_iff hrow rfl finiteFinalData_cut
        (fun hd => by rw [hd]; exact ⟨rfl, rfl⟩)

theorem converges_streaming_iff {i : StreamInput} {l l' : Loop}
    {round : Round StreamSubmission} (hc : RetryLoop.LastClosed (.running l))
    (hk : RetryLoop.LastRemembered (.running l))
    (ht : (config.streaming i).step (.running l) round = .done l' (.ok execution))
    (d : StreamDriver) (dw : Downstream) (now : String) :
    Converges ((config.streaming i).terminalCommand execution d dw now) l'.db ↔
      RetryLoop.factsSuffice true l round dw = true := by
  rcases execution_cases ht with ⟨hs, hrow, ho⟩ | ⟨hs, rfl, he⟩
  · exact iff_of_true ((converges_iff hrow rfl).mpr (hrow.attemptSound_of_open ho))
      (factsSuffice_of_claim hs)
  dsimp only [streaming, streamExhausted] at he
  simp only [factsSuffice, hs]
  cases hl : l'.lastIdentity with
  | none =>
    rw [hl] at he
    cases he
  | some identity =>
    rw [hl] at he
    have hrow : ClosedRows l'.db identity := hc identity hl
    cases hu : l'.lastUpstream with
    | some last =>
      rw [hu] at he
      cases he
      exact converges_exhausted_iff hrow rfl (streamFinalData_cut rfl)
        (fun hd => by rw [hd]; exact ⟨rfl, rfl⟩)
    | none =>
      obtain ⟨failure, hf, ha⟩ := hk identity hl hu
      rw [hu, hf] at he
      cases he
      rw [Option.all_some, show (dw = .delivered && true : Bool) =
        (dw = .delivered && recordAgrees l'.db identity failure.status
          failure.effects.evidenceClass : Bool) by rw [ha]]
      exact converges_exhausted_iff hrow rfl (streamFinalData_cut rfl)
        (fun hd => by rw [hd]; exact ⟨rfl, rfl⟩)

/-- **The terminal finalization a run of either coordinator hands back goes through exactly when
the facts of its last round suffice.** -/
theorem terminal_converges_iff :
    (∀ (input : FiniteInput) (db : Db) (rounds : List (Round FiniteSubmission))
        (round : Round FiniteSubmission) (l l' : Loop) (execution : Execution)
        (driver : StreamDriver) (downstream : Downstream) (now : String),
      run (config.finite input).step (config.finiteStart input db) rounds = .running l →
      (config.finite input).step (.running l) round = .done l' (.ok execution) →
      (Converges ((config.finite input).terminalCommand execution driver downstream now) l'.db ↔
        RetryLoop.factsSuffice false l round downstream = true)) ∧
    (∀ (input : StreamInput) (db : Db) (rounds : List (Round StreamSubmission))
        (round : Round StreamSubmission) (l l' : Loop) (execution : Execution)
        (driver : StreamDriver) (downstream : Downstream) (now : String),
      run (config.streaming input).step (.running (Loop.start db)) rounds = .running l →
      (config.streaming input).step (.running l) round = .done l' (.ok execution) →
      (Converges ((config.streaming input).terminalCommand execution driver downstream now)
          l'.db ↔ RetryLoop.factsSuffice true l round downstream = true)) := by
  constructor
  · intro input db rounds round l l' execution driver downstream now hrun hstep
    have hclosed : RetryLoop.LastClosed (.running l) := by
      rw [← hrun]
      exact run_invariant (lastClosed_step fun _ _ _ _ _ _ h => (retried_finiteEnd h).1)
        (config.finiteStart_of input (P := RetryLoop.LastClosed) (lastClosed_start db) fun _ => trivial)
        rounds
    exact config.converges_finite_iff hclosed hstep driver downstream now
  · intro input db rounds round l l' execution driver downstream now hrun hstep
    have hclosed : RetryLoop.LastClosed (.running l) := by
      rw [← hrun]
      exact run_invariant (lastClosed_step fun _ _ _ _ _ _ h => (remembered_streamEnd h).2.1)
        (lastClosed_start db) rounds
    have hknown : RetryLoop.LastRemembered (.running l) := by
      rw [← hrun]
      exact run_invariant (lastRemembered_step fun _ _ _ _ _ h => (remembered_streamEnd h).2.2 rfl)
        (by intro _ h; cases h) rounds
    exact config.converges_streaming_iff hclosed hknown hstep driver downstream now

/-! ### One account that fails -/

/-- Account 1 answers with an error that is worth a retry. -/
def overloaded : Round FiniteSubmission :=
  quietRound (some ⟨1, 1, "a", "p", "m", none, 10, 0⟩)
    (.answered ⟨503, none, none, 3, 4⟩ (.providerError ⟨none, none⟩))

/-- Account 1 does not send its headers in time. -/
def silent : Round StreamSubmission :=
  quietRound (some ⟨1, 1, "a", "p", "m", none, 10, 0⟩) .headerTimeout

/-- An answer that was remembered, or a failure before the handoff of a stream, is finalized
with the facts on record. -/
theorem terminal_converges_remembered : (∃ l l' execution,
      run (oneProvider.finite generateCall).step (oneProvider.finiteStart generateCall smallCap)
        [overloaded] = .running l ∧
      (oneProvider.finite generateCall).step (.running l) (nobody overloaded.submission) =
        .done l' (.ok execution) ∧
      Converges ((oneProvider.finite generateCall).terminalCommand execution ⟨none, none, 9⟩
        .delivered "2026-01-02 00:00:04") l'.db) ∧ (∃ l l' execution,
      run (oneProvider.streaming ⟨sharedKeyCall, "openai"⟩).step (.running (Loop.start smallCap))
        [silent] = .running l ∧ (oneProvider.streaming ⟨sharedKeyCall, "openai"⟩).step (.running l)
        (nobody silent.submission) = .done l' (.ok execution) ∧
      Converges ((oneProvider.streaming ⟨sharedKeyCall, "openai"⟩).terminalCommand execution
        ⟨none, none, 9⟩ .delivered "2026-01-02 00:00:04") l'.db) := by
  obtain ⟨hfinite, hstreaming⟩ := terminal_converges_iff oneProvider
  constructor
  · have hrun := Progress.eq_running (p := run (oneProvider.finite generateCall).step
      (oneProvider.finiteStart generateCall smallCap) [overloaded]) (by decide +kernel)
    obtain ⟨l', execution, hstep⟩ := Progress.exists_execution
      (p := (oneProvider.finite generateCall).step (.running (run
        (oneProvider.finite generateCall).step (oneProvider.finiteStart generateCall smallCap)
        [overloaded]).loop) (nobody overloaded.submission)) (by decide +kernel)
    exact ⟨_, l', execution, hrun, hstep,
      (hfinite _ _ _ _ _ _ _ _ _ _ hrun hstep).mpr (by decide +kernel)⟩
  · have hrun := Progress.eq_running (p := run
      (oneProvider.streaming ⟨sharedKeyCall, "openai"⟩).step (.running (Loop.start smallCap))
      [silent]) (by decide +kernel)
    obtain ⟨l', execution, hstep⟩ := Progress.exists_execution
      (p := (oneProvider.streaming ⟨sharedKeyCall, "openai"⟩).step (.running (run
        (oneProvider.streaming ⟨sharedKeyCall, "openai"⟩).step (.running (Loop.start smallCap))
        [silent]).loop) (nobody silent.submission)) (by decide +kernel)
    exact ⟨_, l', execution, hrun, hstep,
      (hstreaming _ _ _ _ _ _ _ _ _ _ hrun hstep).mpr (by decide +kernel)⟩

/-- The attempt failed in transport, nothing is remembered, and the response was delivered: the
finalization conflicts with what the failed attempt left on record. -/
theorem unreachable_finalization_conflicts :
    RetryLoop.finalizationAnswer (oneProvider.finite generateCall) ⟨none, none, 9⟩ .delivered
      "2026-01-02 00:00:04" (run (oneProvider.finite generateCall).step
        (oneProvider.finiteStart generateCall smallCap)
        [unreachable, nobody unreachable.submission]) =
      some (.error (.invariant "attempt" 1 "terminal facts conflict")) := by
  decide +kernel

end CoordinatorConfig

end EggPool.Coordinator
