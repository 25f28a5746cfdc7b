import EggPool.Coordinator.RetryLoop

/-!
# The rows of one attempt

Right after an attempt was published its request, attempt and reservation rows are
there, belong together and are open. Closing the attempt as failed keeps them
together and puts the failure's status and class on record. From then on the
recorded facts decide whether a request-terminal finalization of the same attempt
goes through: `converges_iff` is the statement both retry loops are measured
against.
-/

namespace EggPool.Coordinator

open EggPool.Lib EggPool.Budget EggPool.Routing EggPool.Store Publication Finalization

/-- The three rows of an attempt whose request is still pending. -/
structure AttemptRows (db : Db) (identity : FinalizationIdentity) : Prop where
  request : ∃ r, db.requests.get? identity.dbRequestId = some r ∧ r.status = "pending" ∧
    r.modelId = identity.modelId ∧ r.protocol = identity.clientProtocol ∧
    r.attribution = identity.attribution ∧ r.accountId = identity.accountId ∧
    r.providerId = identity.providerId
  attempt : ∃ a, db.attempts.get? identity.attemptId = some a ∧
    a.requestId = identity.dbRequestId ∧ a.accountId = identity.accountId ∧
    a.providerId = some identity.providerId ∧ a.modelId = some identity.modelId ∧
    a.protocol = some identity.upstreamProtocol
  reservation : ∃ r, db.reservations.get? identity.reservationId = some r ∧
    r.requestId = identity.dbRequestId ∧ r.accountId = identity.accountId ∧
    r.modelId = identity.modelId ∧ (r.status = "active" ∨ r.status = "released")

/-- The attempt was not closed yet. -/
def AttemptOpen (db : Db) (identity : FinalizationIdentity) : Prop :=
  ∀ a, db.attempts.get? identity.attemptId = some a → a.completedAt = none

/-- The attempt was closed with this status and this error class. -/
def AttemptClosed (db : Db) (identity : FinalizationIdentity) (statusCode : Option Nat)
    (errorClass : Option String) : Prop :=
  ∀ a, db.attempts.get? identity.attemptId = some a → a.completedAt.isSome = true ∧
    a.statusCode = statusCode.map Int.ofNat ∧ a.errorClass = errorClass

/-! ## After a publication -/

section Publication

variable {p : Publication} {db db' : Db}

/-- The rows `addAttempt` appends, next to a request row that is already there. -/
theorem attemptRows_addAttempt {ri : Int} {r : Request}
    (hget : db.requests.get? ri = some r) (hn : r.status = "pending")
    (hm : r.modelId = p.claim.canonicalModelId) (hr : r.protocol = p.input.clientProtocol)
    (ht : r.attribution = p.attribution) (hc : r.accountId = p.claim.accountId)
    (hv : r.providerId = p.claim.providerId) : AttemptRows (p.addAttempt db ri)
        (p.identity ri (db.attempts.seq + 1) (db.reservations.seq + 1)) ∧
      AttemptOpen (p.addAttempt db ri)
        (p.identity ri (db.attempts.seq + 1) (db.reservations.seq + 1)) := by
  have hp : (p.addAttempt db ri).attempts.get? (db.attempts.seq + 1) =
      some (p.newAttempt ri (db.attempts.seq + 1)) := by
    simp [addAttempt]
  have hs : (p.addAttempt db ri).reservations.get? (db.reservations.seq + 1) =
      some (p.newReservation ri (db.reservations.seq + 1)) := by
    simp [addAttempt]
  refine ⟨⟨?_, ?_, ?_⟩, ?_⟩
  · exact ⟨r, hget, hn, hm, hr, ht, hc, hv⟩
  · exact ⟨_, hp, rfl, rfl, rfl, rfl, rfl⟩
  · exact ⟨_, hs, rfl, rfl, rfl, .inl rfl⟩
  · intro a ha
    rw [show (p.identity ri (db.attempts.seq + 1) (db.reservations.seq + 1)).attemptId =
      db.attempts.seq + 1 from rfl, hp, Option.some.injEq] at ha
    rw [← ha]
    rfl

/-- **A publication that created an attempt left its rows open and together.** -/
theorem attemptRows_of_created {ri a re d : Int} (h : p.publishTransaction db =
      .ok (db', .created ri a re d)) : AttemptRows db' (p.identity ri a re) ∧
      AttemptOpen db' (p.identity ri a re) := by
  cases publishTransaction_effect h with
  | refused hno => cases hno
  | stranded _ _ _ _ hd =>
    have hno := isCreated_of_denied hd
    cases hno
  | @retried request hf hr _ _ =>
    simp only [retries, sameRequest, Bool.and_eq_true, decide_eq_true_eq] at hr
    obtain ⟨⟨⟨⟨⟨⟨hm, hpr⟩, _⟩, ha⟩, hp⟩, _⟩, _⟩ := hr
    have hmem : request ∈ db.requests.rows := List.mem_of_find?_eq_some hf
    refine attemptRows_addAttempt (r := { request with
      accountId := p.claim.accountId
      reservedMicrodollars := p.claim.projectedCostMicrodollars
      providerId := p.claim.providerId }) ?_ hp hm hpr ha rfl rfl
    have hget : db.requests.get? request.id = some request := Table.get?_self hmem
    simp [reassign, hget, hp]
  | first _ _ _ _ =>
    refine attemptRows_addAttempt (r := p.newRequest (db.requests.seq + 1))
      ?_ rfl rfl rfl rfl rfl rfl
    simp [addRequest]

variable {fails : ServiceStage → Bool} {serializes : Bool} {answers : ClaimAnswers}
  {result : Except PublicationError PublicationOutcome}

/-- Compensation never makes a post-commit interruption out of another error. -/
theorem rollbackAfterError_ne_postCommit {pr : PublicationError}
    (hp : ∀ i, pr ≠ .postCommit i) (i : PostCommitInterruption) :
    rollbackAfterError answers pr ≠ .postCommit i := by
  unfold rollbackAfterError
  split
  · intro h; cases h
  · exact hp i
  · exact hp i
  · intro h; cases h
  · intro h; cases h

theorem validate_ne_postCommit {e : PublicationError} (h : p.validate fails = .error e)
    (i : PostCommitInterruption) : e ≠ .postCommit i := by
  unfold validate at h
  split at h
  · cases h; intro h; cases h
  split at h
  · cases h; intro h; cases h
  split at h
  · cases h; intro h; cases h
  split at h
  · cases h; intro h; cases h
  split at h
  · cases h; intro h; cases h
  split at h
  · cases h; intro h; cases h
  · cases h

/-- The attempt is durable: published, or interrupted after its commit. -/
def Committed (identity : FinalizationIdentity) (claim : SelectionClaim) :
    Except PublicationError PublicationOutcome → Prop
  | .ok (.published identity') => identity' = identity
  | .error (.postCommit interruption) => interruption = ⟨identity, claim⟩
  | _ => False

/-- A publication was refused and left no attempt behind. -/
def refused : Except PublicationError PublicationOutcome → Bool
  | .ok (.published _) => false
  | .error (.postCommit _) => false
  | _ => true

theorem refused_error {e : PublicationError} (hne : ∀ i, e ≠ .postCommit i) :
    refused (.error e) = true := by
  unfold refused
  split
  · rename_i h; cases h
  · rename_i i h
    exact absurd (Except.error.inj h) (hne i)
  · rfl

theorem refused_rollbackAfterError {pr : PublicationError} (hp : ∀ i, pr ≠ .postCommit i) :
    refused (.error (rollbackAfterError answers pr)) = true :=
  refused_error (rollbackAfterError_ne_postCommit hp)

/-- **A publication either was refused, or committed an attempt whose rows are open and
together.** -/
theorem publishOwned_cases (h : publishOwned fails serializes answers p db = (db', result)) :
    refused result = true ∨
    ∃ identity, Committed identity p.claim result ∧ identity.accountName = p.claim.accountName ∧
      AttemptRows db' identity ∧ AttemptOpen db' identity := by
  unfold publishOwned at h
  split at h
  · rename_i hi
    cases h
    exact .inl (refused_rollbackAfterError (validate_ne_postCommit hi))
  split at h
  · cases h
    exact .inl (refused_rollbackAfterError (fun _ h => nomatch h))
  unfold Db.withTransaction at h
  cases hrun : p.publishTransaction db with
  | error e =>
    rw [hrun] at h
    cases h
    exact .inl (refused_rollbackAfterError (fun _ h => nomatch h))
  | ok out =>
    obtain ⟨db₁, outcome⟩ := out
    rw [hrun] at h
    cases h
    cases outcome with
    | created requestId ai ri di =>
      obtain ⟨hrow, ho⟩ := attemptRows_of_created hrun
      refine .inr ⟨_, ?_, rfl, hrow, ho⟩
      dsimp only [answerOutcome, convertAfterCommit]
      split <;> rfl
    | observed identity => exact .inl (by dsimp only [answerOutcome, observedOutcome]; split <;> rfl)
    | conflict | principalChanged | budgetExceeded | budgetNotEnforceable
    | priorAttemptNotFinalized => exact .inl (refused_rollbackAfterError (fun _ h => nomatch h))

end Publication

/-! ## Finalizing the rows -/

section Finalization

variable {f : Finalization} {db : Db} {identity : FinalizationIdentity}

section

variable (h : AttemptRows db f.identity)

include h

theorem AttemptRows.parentAccepts : f.parentAccepts db = true := by
  obtain ⟨r, hget, hp, hm, hr, ha, hc, hv⟩ := h.request
  have ho : isTerminalStatus "pending" = false := by decide
  simp [Finalization.parentAccepts, hget, Finalization.requestMatches, hp, hm, hr, ha, hc, hv, ho]

theorem AttemptRows.reservationSound : f.reservationSound db = true := by
  obtain ⟨r, hget, hr, ha, hm, hs⟩ := h.reservation
  rcases hs with hs | hs <;>
    simp [Finalization.reservationSound, hget, Finalization.reservationMatches, hr, ha, hm, hs]

/-- The attempt row is sound exactly when it is open or agrees with the command. -/
theorem AttemptRows.attemptSound_iff : f.attemptSound db = true ↔
      ∀ a, db.attempts.get? f.identity.attemptId = some a →
        a.completedAt = none ∨ f.factsConflict a = false := by
  obtain ⟨a, hget, hr, ha, hp, hm, hpr⟩ := h.attempt
  simp [attemptSound, hget, hr, ha, hp, hm, hpr]

theorem AttemptRows.attemptSound_of_open
    (ho : AttemptOpen db f.identity) : f.attemptSound db = true :=
  h.attemptSound_iff.mpr fun a ha => .inl (ho a ha)

end

/-- A finalization whose checks pass, as its caller sees it. -/
theorem finalizeDurable_of_sound (hp : f.parentAccepts db = true)
    (ha : f.attemptSound db = true) (hr : f.reservationSound db = true) :
    (f.finalizeDurable db).1 = (f.finalized db).1 ∧
      ∃ result, (f.finalizeDurable db).2 = .ok result := by
  have hrun := finalizeTransaction_of_sound hp ha hr
  unfold finalizeDurable Db.withTransaction
  rw [hrun]
  exact ⟨rfl, _, rfl⟩

/-- Closing an attempt as failed keeps its rows together and records the failure. -/
theorem AttemptRows.finalized (h : AttemptRows db f.identity) (ho : AttemptOpen db f.identity)
    (hk : f.terminalizeRequest = false) : AttemptRows (f.finalized db).1 f.identity ∧
      AttemptClosed (f.finalized db).1 f.identity f.data.statusCode f.data.errorClass := by
  obtain ⟨r, hr, hq⟩ := h.request
  obtain ⟨a, ha, hp⟩ := h.attempt
  obtain ⟨v, hv, hd, hc, hm, hs⟩ := h.reservation
  have hi : a.id = f.identity.attemptId := Table.key_of_get? ha
  have hid : v.id = f.identity.reservationId := Table.key_of_get? hv
  have hn := ho a ha
  have hr' : (f.finalized db).1.requests.get? f.identity.dbRequestId = some r := by
    rw [get?_finalized_requests, hr]
    simp [selectsRequest, hk]
  have ha' : (f.finalized db).1.attempts.get? f.identity.attemptId = some (f.closedAttempt a) := by
    rw [get?_finalized_attempts, ha]
    simp [selectsAttempt, hi, hn]
  refine ⟨⟨⟨r, hr', hq⟩, ⟨_, ha', hp⟩, ?_⟩, ?_⟩
  · rw [get?_finalized_reservations, hv]
    rcases hs with hs | hs <;>
      simp [selectsReservation, hid, hs, releasedReservation, hd, hc, hm]
  · intro a₁ ha₁
    rw [ha', Option.some.injEq] at ha₁
    rw [← ha₁]
    exact ⟨rfl, rfl, rfl⟩

/-- The request is terminal, and everything it held is closed with it. -/
structure Converges (f : Finalization) (db : Db) : Prop where
  succeeds : ∃ result, (f.finalizeDurable db).2 = .ok result
  request : ∃ r, (f.finalizeDurable db).1.requests.get? f.identity.dbRequestId = some r ∧
    isTerminalStatus r.status = true
  closed : Finalization.ClosedTogether f f.identity.dbRequestId db (f.finalizeDurable db).1

/-- **A request-terminal finalization of an attempt's rows converges exactly when the attempt
is open or was closed with facts the command agrees with.** -/
theorem converges_iff (h : AttemptRows db f.identity) (ht : f.terminalizeRequest = true) :
    Converges f db ↔ f.attemptSound db = true := by
  constructor
  · intro hc
    obtain ⟨result, hok⟩ := hc.succeeds
    exact (finalizeDurable_eq_finalized hok).1
  · intro hs
    obtain ⟨hdb, hok⟩ := finalizeDurable_of_sound h.parentAccepts hs h.reservationSound
    refine ⟨hok, ?_, ?_⟩
    · obtain ⟨r, hr, hp, _⟩ := h.request
      have hid : r.id = f.identity.dbRequestId := Table.key_of_get? hr
      have ho : isTerminalStatus "pending" = false := by decide
      rw [hdb, get?_finalized_requests, hr, Option.map_some]
      refine ⟨_, rfl, ?_⟩
      rw [if_pos (by simp [selectsRequest, ht, hid, hp, ho])]
      exact isTerminalStatus_targetStatus
    · rw [hdb]
      exact finalized_closes hs h.reservationSound ht

end Finalization

end EggPool.Coordinator
