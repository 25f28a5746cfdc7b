import EggPool.Coordinator.AttemptRows

/-!
# What one round can do

A round has many exits, but only eight things it can do to the loop. `Effect` says
them once, with the rows and the claim each leaves behind; `step_effect` is the
one place where the step function is taken apart. A retry always goes through:
the rows of the attempt it closes were written in the same round, so the cleanup
finds them as it left them.
-/

namespace EggPool.Coordinator

open EggPool.Lib EggPool.Budget EggPool.Routing EggPool.Store

namespace RetryLoop

variable {σ : Type} (loop : RetryLoop σ) (l : Loop) (round : Round σ)

/-- What the router answers in this round. -/
def selected : Except ClaimError (Option SelectionClaim) :=
  round.select l.excludedAccounts l.preferredAccount

/-- The wire the round would publish on. -/
def chosenWire (claim : SelectionClaim) (candidates : List WireSurface) : Option WireSurface :=
  (round.resolve candidates).find?
    (fun surface => !(l.attemptedWires claim.accountName).contains surface)

/-- The publication this round makes, if it gets that far. -/
def nextPublication? : Option Publication :=
  match selected l round with
  | .ok (some claim) =>
    match loop.candidates claim with
    | .surfaces tariff candidates => (chosenWire l round claim candidates).map fun surface =>
      loop.publication (l.attempted claim.accountName surface) claim tariff surface round
    | _ => none
  | _ => none

/-- The outcome of this round's publication. -/
def published? : Option (Db × Except PublicationError PublicationOutcome) :=
  (loop.nextPublication? l round).map fun p =>
    publishOwned round.serviceFails round.serializes round.answers p l.db

/-- The loop variables a round that published nothing leaves alone. -/
structure Kept (l l' : Loop) : Prop where
  db : l'.db = l.db
  lastIdentity : l'.lastIdentity = l.lastIdentity
  lastUpstream : l'.lastUpstream = l.lastUpstream
  lastFailure : l'.lastFailure = l.lastFailure
  durable : l'.durable = l.durable

/-- The configuration has no wire for the claimed account at all. -/
def unconfigured (claim : SelectionClaim) : Bool :=
  match loop.candidates claim with
  | .missingProvider | .missingWireProfile => true
  | _ => false

/-- An interrupted publication that the loop takes up again. -/
def resumes : Bool := loop.resumesPostCommit && converted round.answers.reconvert

/-- This round commits an attempt and goes on to submit it. -/
def Submits : Prop :=
  ∃ db' result, loop.published? l round = some (db', result) ∧
    EggPool.Coordinator.refused result = false ∧
    ∀ interruption, result = .error (.postCommit interruption) → loop.resumes round = true

/-- What a round that starts in `l` can make of the loop. -/
inductive Effect : Progress → Prop
  | selectFailed {e : ClaimError} :
      selected l round = .error e → Effect (.done l (.error (.claim e)))
  | exhausted :
      selected l round = .ok none → Effect (.done l (loop.exhausted l round.elapsedMs))
  /-- The claim was given back, and that failed or the provider is not configured. -/
  | stopped {claim : SelectionClaim} {l' : Loop} {e : CoordinatorError} :
      selected l round = .ok (some claim) → loop.nextPublication? l round = none →
      rolledBack round.answers.rollback = false ∨ loop.unconfigured claim = true →
      Kept l l' →
      l'.claims = l.claims ++ [(claim, .ofRollback round.answers.rollback)] →
      Effect (.done l' (.error e))
  /-- The claim was given back and its account excluded. -/
  | skipped {claim : SelectionClaim} {l' : Loop} :
      selected l round = .ok (some claim) → loop.nextPublication? l round = none →
      loop.unconfigured claim = false →
      Kept l l' →
      l'.claims = l.claims ++ [(claim, .ofRollback round.answers.rollback)] →
      Effect (.running l')
  | refused {claim : SelectionClaim} {l' : Loop} {e : CoordinatorError} {db' : Db}
      {result : Except PublicationError PublicationOutcome} :
      selected l round = .ok (some claim) →
      loop.published? l round = some (db', result) →
      EggPool.Coordinator.refused result = true →
      l'.durable = l.durable →
      l'.claims = l.claims ++ [(claim, .ofRollback round.answers.rollback)] →
      Effect (.done l' (.error e))
  /-- The attempt is durable, and its claim went down with the error. -/
  | interrupted {claim : SelectionClaim} {l' : Loop} {e : CoordinatorError} {db' : Db}
      {interruption : PostCommitInterruption} :
      selected l round = .ok (some claim) →
      loop.published? l round = some (db', .error (.postCommit interruption)) →
      loop.resumes round = false →
      l'.durable = some interruption.identity →
      l'.claims = l.claims ++ [(claim, .dropped)] →
      Effect (.done l' (.error e))
  /-- The attempt ended the run while its rows are open. -/
  | ended {claim : SelectionClaim} {identity : FinalizationIdentity} {data : FinalizationData}
      {live : Bool} {l' : Loop} :
      selected l round = .ok (some claim) → loop.Submits l round →
      AttemptRows l'.db identity → AttemptOpen l'.db identity →
      l'.durable = some identity →
      l'.claims = l.claims ++ [(claim, .execution)] →
      Effect (.done l' (.ok ⟨identity, some claim, data, live⟩))
  /-- The attempt was closed as failed, and what it met is remembered. -/
  | retried {claim : SelectionClaim} {identity : FinalizationIdentity} {effects : FailureEffects}
      {data : FinalizationData} {lastUpstream : Option LastUpstream}
      {lastFailure : Option LastFailure} {ctx : AttemptContext} {l' : Loop} :
      selected l round = .ok (some claim) → loop.Submits l round →
      loop.attemptEnd ctx round.submission = .retry effects data lastUpstream lastFailure →
      AttemptRows l'.db identity →
      AttemptClosed l'.db identity data.statusCode data.errorClass →
      l'.lastIdentity = some identity → l'.durable = some identity →
      l'.lastUpstream = lastUpstream.or l.lastUpstream →
      l'.lastFailure = lastFailure.or l.lastFailure →
      l'.claims = l.claims ++ [(claim, .finalizationCommand)] →
      Effect (.running l')

variable {loop l round} {claim : SelectionClaim}

section

variable (hs : selected l round = .ok (some claim))

include hs

/-- Giving a claim back and going on with the next account. -/
theorem giveBack_skips {l₀ : Loop}
    (hp : loop.nextPublication? l round = none) (hn : loop.unconfigured claim = false)
    (hk : Kept l l₀) (hc : l₀.claims = l.claims) : loop.Effect l round (giveBack l₀ claim round
      (fun l => .running (l.exclude claim.accountName))) := by
  have hc' : (l₀.record claim (.ofRollback round.answers.rollback)).claims =
      l.claims ++ [(claim, .ofRollback round.answers.rollback)] := by
    rw [Loop.record, hc]
  unfold giveBack
  split
  · rename_i he
    exact .stopped hs hp (.inl (by rw [he]; rfl))
      ⟨hk.db, hk.lastIdentity, hk.lastUpstream, hk.lastFailure, hk.durable⟩ hc'
  · exact .skipped hs hp hn
      ⟨hk.db, hk.lastIdentity, hk.lastUpstream, hk.lastFailure, hk.durable⟩ hc'

/-- Giving a claim back and ending with an error, for lack of configuration. -/
theorem giveBack_stops {e : CoordinatorError}
    (hp : loop.nextPublication? l round = none) (hc : loop.unconfigured claim = true) :
    loop.Effect l round (giveBack l claim round (fun l => .done l (.error e))) := by
  unfold giveBack
  split <;> exact .stopped hs hp (.inr hc) ⟨rfl, rfl, rfl, rfl, rfl⟩ rfl

/-- Every way an attempt can end, with its rows open. The cleanup of a retry goes through
because nothing touched the rows since the publication. -/
theorem submit_effect {i : FinalizationIdentity} {s : WireSurface} {a : Bool}
    {l₀ : Loop} (hsub : loop.Submits l round)
    (hrow : AttemptRows l₀.db i) (ho : AttemptOpen l₀.db i)
    (hd : l₀.durable = some i) (hu : l₀.lastUpstream = l.lastUpstream)
    (hf : l₀.lastFailure = l.lastFailure) (hc : l₀.claims = l.claims) :
    loop.Effect l round (loop.submit l₀ claim i s a round) := by
  have hc' : ∀ fate, l₀.claims ++ [(claim, fate)] = l.claims ++ [(claim, fate)] := by
    intro fate
    rw [hc]
  unfold submit
  generalize ht : AttemptContext.mk i s a l₀.attemptNumber
    loop.request.requestBytes round.elapsedMs loop.retryPolicy = ctx
  cases hend : loop.attemptEnd ctx round.submission with
  | terminal | stream => exact .ended hs hsub hrow ho hd (hc' _)
  | retry eff data lastUpstream lastFailure =>
    obtain ⟨hdb, res, hok⟩ := finalizeDurable_of_sound
      (f := loop.cleanup i data round) (AttemptRows.parentAccepts hrow)
      (AttemptRows.attemptSound_of_open hrow ho) (AttemptRows.reservationSound hrow)
    obtain ⟨hrow', hl⟩ := AttemptRows.finalized (f := loop.cleanup i data round) hrow ho rfl
    rw [← hdb] at hrow' hl
    have hrun : (loop.cleanup i data round).finalizeDurable l₀.db =
        (((loop.cleanup i data round).finalizeDurable l₀.db).1, .ok res) := by
      rw [← hok]
    simp [afterAttempt, Loop.record]
    rw [hrun]
    dsimp only [Loop.prepareNext]
    -- both kinds of retry touch only the accounts to select from
    split
    · exact .retried hs hsub hend hrow' hl rfl hd (by rw [hu]) (by rw [hf]) (hc' _)
    · exact .retried hs hsub hend hrow' hl rfl hd (by rw [← hu]; rfl) (by rw [← hf]; rfl) (hc' _)

/-- Every way a publication can come back. -/
theorem publishRound_effect {t : Option Int} {s : WireSurface} {a : Bool}
    (hpu : loop.nextPublication? l round = some (loop.publication (l.attempted claim.accountName s) claim t s round)) :
    loop.Effect l round (loop.publishRound (l.attempted claim.accountName s) claim t s a round):= by
  unfold publishRound
  rw [show (l.attempted claim.accountName s).db = l.db from rfl]
  generalize hp : loop.publication (l.attempted claim.accountName s) claim t s round = p at hpu ⊢
  have hl : p.claim = claim := by
    rw [← hp]
    rfl
  cases hrun : publishOwned round.serviceFails round.serializes round.answers p l.db with
  | mk db' res =>
    have hb : loop.published? l round = some (db', res) := by
      rw [published?, hpu, Option.map_some, hrun]
    have hc : EggPool.Coordinator.refused res = false → ∃ identity,
        Committed identity claim res ∧ AttemptRows db' identity ∧ AttemptOpen db' identity := by
      intro hno
      rcases publishOwned_cases hrun with hf | ⟨identity, hc, -, hrow⟩
      · rw [hno] at hf
        cases hf
      · exact ⟨identity, hl ▸ hc, hrow⟩
    split
    · rename_i heq
      cases heq
      obtain ⟨_, rfl, hrow, ho⟩ := hc rfl
      exact submit_effect hs ⟨_, _, hb, rfl, fun _ h => nomatch h⟩ hrow ho rfl rfl rfl
        rfl
    · rename_i heq
      cases heq
      exact .refused hs hb rfl rfl rfl
    · rename_i inte heq
      cases heq
      obtain ⟨identity, hi, hrow, ho⟩ := hc rfl
      have hid4 : inte.identity = identity := by
        rw [show inte = ⟨identity, claim⟩ from hi]
      split
      · rename_i hr
        rw [hid4]
        exact submit_effect hs ⟨_, _, hb, rfl, fun _ _ => hr⟩ hrow ho rfl rfl
          rfl rfl
      · rename_i hr
        exact .interrupted hs hb (Bool.not_eq_true _ ▸ hr) rfl rfl
    · rename_i hne heq
      cases heq
      exact .refused hs hb (refused_error fun i h => hne i h) rfl rfl

theorem wireRound_effect {t : Option Int} {c : List WireSurface}
    (hc : loop.candidates claim = .surfaces t c) :
    loop.Effect l round (loop.wireRound l claim t c round) := by
  have hn : loop.nextPublication? l round = (chosenWire l round claim c).map
      fun sur =>
        loop.publication (l.attempted claim.accountName sur) claim t sur round := by
    simp [nextPublication?, hs, hc]
  have hco : loop.unconfigured claim = false := by
    simp [unconfigured, hc]
  unfold wireRound
  dsimp only
  split
  · rename_i hno
    rw [show chosenWire l round claim c = none from hno] at hn
    exact giveBack_skips hs hn hco ⟨rfl, rfl, rfl, rfl, rfl⟩ rfl
  · rename_i sur hm
    rw [show chosenWire l round claim c = some sur from hm] at hn
    exact publishRound_effect hs hn

theorem claimRound_effect : loop.Effect l round (loop.claimRound l claim round) := by
  have hn : (∀ tariff candidates, loop.candidates claim ≠ .surfaces tariff candidates) →
      loop.nextPublication? l round = none := by
    intro hno
    simp [nextPublication?, hs]
  unfold claimRound
  cases hc : loop.candidates claim with
  | missingProvider | missingWireProfile =>
    exact giveBack_stops hs (hn (by simp [hc])) (by simp [unconfigured, hc])
  | compactMissed | embeddingMissed =>
    exact giveBack_skips hs (hn (by simp [hc])) (by simp [unconfigured, hc])
      ⟨rfl, rfl, rfl, rfl, rfl⟩ rfl
  | surfaces tariff candidates => exact wireRound_effect hs hc

end

variable (loop l round) in
/-- **One round, inverted.** -/
theorem step_effect : loop.Effect l round (loop.step (.running l) round) := by
  unfold step
  dsimp only
  split
  · rename_i hs
    exact .selectFailed hs
  · rename_i hs
    exact .exhausted hs
  · rename_i hs
    exact claimRound_effect hs

end RetryLoop

end EggPool.Coordinator
