import EggPool.Health.Hydration

/-!
# An authentication failure lasts

An account whose credentials were refused stays out of routing until an operator
enables it. The block is not a flag of its own: it is a disable with a reason and
without an end. Cooldowns may overwrite the health state beside it, and a look at the
account tidies up disables whose time is over, but neither of them touches the pair.
-/

namespace EggPool.Health

open EggPool.Lib AccountBackoffRecord

/-- The reasons are written as they are read back; none of them is empty. -/
theorem BackoffReason.asStr_ne_empty (r : BackoffReason) : r.asStr ≠ "" := by
  cases r <;> decide

namespace AccountHealth

/-- Disabled for a reason, without an end. -/
def Barred (a : AccountHealth) : Prop := a.disabledReason ≠ "" ∧ a.disabledUntil = none

variable {a : AccountHealth}

/-- A barred account is unhealthy at every time, whatever its other fields say. -/
theorem Barred.not_effectivelyHealthy (h : a.Barred) (now : Rat) :
    a.effectivelyHealthy now = false := by
  unfold effectivelyHealthy
  split
  · rfl
  · rw [if_pos ⟨h.1, .inr h.2⟩]

/-- Only a disable that has an end is tidied up. -/
theorem Barred.normalize (h : a.Barred) (now : Rat) : (a.normalize now).Barred := by
  have hk : ¬ (a.disabledUntil.any (fun dea => dea ≤ now) = true ∧
      a.healthState ≠ "authentication_failed") := by
    rw [h.2]
    nofun
  unfold AccountHealth.normalize
  rwa [if_neg hk]

/-- A success clears what has no reason, and this has one. -/
theorem Barred.recordSuccess (h : a.Barred) (mo : Option String) (now : Rat) :
    (a.recordSuccess mo now).Barred := by
  unfold AccountHealth.recordSuccess
  dsimp only
  rw [if_neg fun hc => h.1 hc.1]
  cases mo with
  | none | some => exact h

theorem Barred.recordFailure (h : a.Barred) (r : BackoffReason) (now : Rat) :
    (a.recordFailure r now).Barred := by
  unfold AccountHealth.recordFailure
  split
  · exact ⟨r.asStr_ne_empty, rfl⟩
  · exact h

/-- A disable with a reason and no duration bars the account, or bars it again. -/
theorem barred_of_disableAccount {r : String} (hr : r ≠ "") (now : Rat) :
    (a.disableAccount r none now).Barred :=
  ⟨hr, rfl⟩

/-- No restored row lifts the block. -/
theorem Barred.effect (h : a.Barred) (w now : Rat) (r : AccountBackoffRecord) :
    (r.effect w now a).Barred := by
  unfold AccountBackoffRecord.effect
  split
  · exact barred_of_disableAccount r.reason.asStr_ne_empty now
  split
  · exact h
  · cases r.modelId with
    | none | some => exact h

end AccountHealth

namespace HealthManager

variable {m : HealthManager} {name : String}

/-- The account is known and barred. -/
def Barred (m : HealthManager) (name : String) : Prop :=
  ∃ a, m.accounts.lookup name = some a ∧ a.Barred

section

variable (h : m.Barred name)

include h

/-- A barred account passes neither gate. -/
theorem Barred.refused (mo : String) (now : Rat) :
    m.isModelHealthy name mo now = false ∧ (m.tryAcquireRequest name mo now).1 = false := by
  obtain ⟨a, ha, hb⟩ := h
  have hh := hb.not_effectivelyHealthy now
  simp [isModelHealthy, tryAcquireRequest, ha, hh]

/-- **Frame rule.** A change to one account keeps another's block, and its own if it keeps it. -/
theorem Barred.modify {o : String} {f : AccountHealth → AccountHealth}
    (hf : o = name → ∀ a : AccountHealth, a.Barred → (f a).Barred) : (m.modify o f).Barred name:= by
  obtain ⟨a, ha, hb⟩ := h
  by_cases ho : o = name
  · exact ⟨f a, by simp [ho, ha], hf ho a hb⟩
  · exact ⟨a, by simp [ho, ha], hb⟩

theorem Barred.restore (n : OrdMap Int String) (w now : Rat)
    (r : AccountBackoffRecord) : (m.restore n w now r).Barred name := by
  unfold HealthManager.restore
  cases r.target n with
  | none => exact h
  | some other => exact h.modify fun _ a ha => ha.effect w now r

theorem Barred.run_restore (n : OrdMap Int String) (w now : Rat)
    (ro : List AccountBackoffRecord) : (run (HealthManager.restore n w now) m ro).Barred name :=
  run_invariant (I := fun m : HealthManager => m.Barred name) (fun _ r hm => hm.restore n w now r) h ro

theorem Barred.registerAccount (ai : Int) (o : String) (now : Rat) :
    (m.registerAccount ai o now).Barred name := by
  unfold HealthManager.registerAccount
  cases hk : m.accounts.lookup o with
  | some _ => exact h.modify fun _ _ ha => ha
  | none =>
    -- the new account is not the barred one, which is known
    have hs : (⟨m.accounts.set o (.fresh ai now)⟩ : HealthManager).Barred name := by
      obtain ⟨a, ha, hb⟩ := h
      have hne : o ≠ name := by
        rintro rfl
        rw [hk] at ha
        cases ha
      exact ⟨a, by simp [hne, ha], hb⟩
    exact hs.modify fun _ _ ha => ha

end

/-- The operations in question: until the account is enabled, it is disabled without a duration. -/
def Listed (name : String) : Operation → Prop
  | .enableAccount other => other ≠ name
  | .disableAccount other _ duration => other = name → duration = none
  | _ => True

/-- A disable of the account gives a reason. -/
def GivesReason (name : String) : Operation → Prop
  | .disableAccount other reason _ => other = name → reason ≠ ""
  | _ => True

/-- **Step lemma.** -/
theorem barred_step (m : HealthManager) (op : Operation × Rat) (h : m.Barred name)
    (hop : Listed name op.1 ∧ GivesReason name op.1) : (m.step op).Barred name := by
  obtain ⟨op, now⟩ := op
  obtain ⟨hl, hr⟩ := hop
  cases op with
  | registerAccount ai other => exact h.registerAccount ai other now
  | snapshot other => exact h.modify fun _ a ha => ha.normalize now
  | tryAcquireRequest other mod =>
    change (m.tryAcquireRequest other mod now).2.Barred name
    unfold tryAcquireRequest
    cases m.accounts.lookup other with
    | none => exact h
    | some a =>
      dsimp only
      split
      · exact h
      · exact h.modify fun _ _ ha => ha
  | releaseRequest other => exact h.modify fun _ _ ha => ha
  | recordSuccess other mod => exact h.modify fun _ a ha => ha.recordSuccess mod now
  | recordFailure other reason => exact h.modify fun _ a ha => ha.recordFailure reason now
  | recordModelFailure | recordCooldown => exact h.modify fun _ _ ha => ha
  | disableAccount other reason dur =>
    refine h.modify fun ho a _ => ?_
    obtain rfl : dur = none := hl ho
    exact AccountHealth.barred_of_disableAccount (hr ho) now
  | enableAccount other => exact h.modify fun ho => absurd ho hl
  | disableModel | enableModel | pruneDisabledModels => exact h.modify fun _ _ ha => ha
  | hydrateBackoffs records nam wn =>
    change (hydrateFrom nam wn now 0 0 m records).2.Barred name
    rw [(hydrated_hydrateFrom ..).run_eq]
    exact h.run_restore nam wn now _

/--
The operation records an authentication failure of a known account: a failure with
that reason, or a batch of rows in which hydration reaches a row with that reason.
-/
def RecordsAuthenticationFailure (m : HealthManager) (name : String) : Operation → Prop
  | .recordFailure other reason =>
    (m.accounts.lookup name).isSome ∧ other = name ∧ reason = .authenticationFailed
  | .hydrateBackoffs records names _ =>
    (m.accounts.lookup name).isSome ∧
      ∃ r ∈ records.takeWhile (fun r => !r.missing names),
        r.reason = .authenticationFailed ∧ r.target names = some name
  | _ => False

/-- No row makes an account unknown. -/
theorem known_restore (n : OrdMap Int String) (w now : Rat) (m : HealthManager)
    (r : AccountBackoffRecord) (h : (m.accounts.lookup name).isSome) :
    ((m.restore n w now r).accounts.lookup name).isSome := by
  unfold restore
  cases r.target n with
  | none => exact h
  | some other =>
    rw [lookup_modify]
    split
    · rwa [Option.isSome_map]
    · exact h

/-- A run of rows with an authentication failure of the account bars it. -/
theorem barred_of_row (n : OrdMap Int String) (w now : Rat)
    {ro : List AccountBackoffRecord} {r : AccountBackoffRecord} (hr : r ∈ ro)
    (ht : r.reason = .authenticationFailed) (hta : r.target n = some name)
    (h : (m.accounts.lookup name).isSome) : (run (restore n w now) m ro).Barred name := by
  obtain ⟨bef, after, rfl⟩ := List.append_of_mem hr
  rw [run_append]
  refine Barred.run_restore ?_ n w now after
  have hk := run_invariant
    (known_restore n w now) h bef
  obtain ⟨a, ha⟩ := Option.isSome_iff_exists.mp hk
  refine ⟨r.effect w now a, ?_, ?_⟩
  · simp [restore, hta, ha]
  · rw [AccountBackoffRecord.effect, if_pos ht]
    exact AccountHealth.barred_of_disableAccount r.reason.asStr_ne_empty now

theorem barred_of_records {op : Operation} (h : m.RecordsAuthenticationFailure name op)
    (now : Rat) : (m.step (op, now)).Barred name := by
  cases op with
  | recordFailure other reason =>
    obtain ⟨hk, rfl, rfl⟩ := h
    obtain ⟨a, ha⟩ := Option.isSome_iff_exists.mp hk
    exact ⟨a.recordFailure .authenticationFailed now, by simp [step, recordFailure, ha],
      BackoffReason.authenticationFailed.asStr_ne_empty, rfl⟩
  | hydrateBackoffs records nam wn =>
    obtain ⟨hk, r, hr, ht, hta⟩ := h
    change (hydrateFrom nam wn now 0 0 m records).2.Barred name
    rw [(hydrated_hydrateFrom ..).run_eq]
    exact barred_of_row nam wn now hr ht hta hk
  | _ => exact h.elim

/--
**An authentication failure lasts until the account is enabled.** From any state, once
the failure is recorded or hydrated, the account passes neither gate at any time, in
every run of operations that do not enable it and do not disable it for a while, if
every disable of the account gives a reason.
-/
theorem authentication_failure_lasts (m : HealthManager) (name : String)
    (failure : Operation) (failedAt : Rat)
    (hfailure : m.RecordsAuthenticationFailure name failure) (later : List (Operation × Rat))
    (hlisted : ∀ op ∈ later, Listed name op.1) (hreason : ∀ op ∈ later, GivesReason name op.1)
    (model : String) (now : Rat) :
    (run step (m.step (failure, failedAt)) later).isModelHealthy name model now = false ∧
      ((run step (m.step (failure, failedAt)) later).tryAcquireRequest name model now).1 =
        false := by
  refine Barred.refused ?_ model now
  refine run_invariant_along barred_step (barred_of_records hfailure failedAt) ?_
  exact along_of_forall (fun op hop => ⟨hlisted op hop, hreason op hop⟩) _

/-- An operator's disable, a cooldown and a success later the account is still refused. -/
theorem authentication_failure_lasts_cooldown :
    let m := empty.registerAccount 1 "a" 0
    let later : List (Operation × Rat) := [(.disableAccount "a" "operator" none, 2),
      (.recordCooldown "a" .rateLimited (some 60), 3), (.recordSuccess "a" none, 70)]
    (run step (m.step (.recordFailure "a" .authenticationFailed, 1)) later).isModelHealthy
        "a" "model" 100 = false ∧
      ((run step (m.step (.recordFailure "a" .authenticationFailed, 1)) later).tryAcquireRequest
        "a" "model" 100).1 = false := by
  intro m later
  refine authentication_failure_lasts m "a" (.recordFailure "a" .authenticationFailed) 1
    ⟨by decide, rfl, rfl⟩ later ?_ ?_ "model" 100
  · simp [later, Listed]
  · simp [later, GivesReason]

/--
A disable with an empty reason looks like no disable at all: the next success makes
the account healthy, though nobody enabled it.
-/
theorem empty_reason_readmits :
    let m := empty.registerAccount 1 "a" 0
    let later : List (Operation × Rat) :=
      [(.disableAccount "a" "" none, 2), (.recordSuccess "a" none, 3)]
    m.RecordsAuthenticationFailure "a" (.recordFailure "a" .authenticationFailed) ∧
      (∀ op ∈ later, Listed "a" op.1) ∧
      (run step (m.step (.recordFailure "a" .authenticationFailed, 1)) later).isModelHealthy
        "a" "model" 4 = true := by
  intro m later
  refine ⟨⟨by decide, rfl, rfl⟩, ?_, by decide +kernel⟩
  simp [later, Listed]

end HealthManager

end EggPool.Health
