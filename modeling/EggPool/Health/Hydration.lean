import EggPool.Health.HealthManager

/-!
# What a batch of backoff rows restores

A row acts on one account: it bars it, starts a cooldown or disables one model of it.
Written this way the loop of `hydrate_backoffs` is a run, up to the first row that
lacks the expiry it needs. Its counters do not influence the run.
-/

namespace EggPool.Health

open EggPool.Lib

namespace AccountBackoffRecord

/-- A model-scoped reason without a model: the row has no scope that could be restored. -/
def legacy (r : AccountBackoffRecord) : Bool := r.reason = .modelUnavailable ∧ r.modelId = none

/-- The account a row acts on. -/
def target (names : OrdMap Int String) (r : AccountBackoffRecord) : Option String :=
  if r.legacy then none else names.lookup r.accountId

/-- What is left of a row's deadline, capped. -/
def remaining (wallNow : Rat) (r : AccountBackoffRecord) : Rat :=
  match r.backoffUntilEpoch with
  | none => 0
  | some deadline => min (max (deadline - wallNow) 0) MAX_NONTERMINAL_BACKOFF_SECONDS

/-- Hydration fails on the row. -/
def missing (names : OrdMap Int String) (r : AccountBackoffRecord) : Bool :=
  (r.target names).isSome ∧ r.reason ≠ .authenticationFailed ∧ r.backoffUntilEpoch = none

/-- What a row does to its account. -/
def effect (wallNow now : Rat) (r : AccountBackoffRecord) (a : AccountHealth) : AccountHealth :=
  if r.reason = .authenticationFailed then a.disableAccount r.reason.asStr none now
  else if r.remaining wallNow = 0 then a
  else match r.modelId with
    | some model =>
      (a.disableModel model (some (some (r.remaining wallNow))) now).seedModelFailure model
        (max r.consecutiveFailures 1)
    | none => a.recordCooldown r.reason (some (r.remaining wallNow)) now

end AccountBackoffRecord

open AccountBackoffRecord

namespace HealthManager

variable {names : OrdMap Int String} {wallNow now : Rat}

/-- One row. -/
def restore (names : OrdMap Int String) (wallNow now : Rat) (m : HealthManager)
    (r : AccountBackoffRecord) : HealthManager :=
  match r.target names with
  | none => m
  | some name => m.modify name (r.effect wallNow now)

theorem capped_eq_zero (x : Rat) : min x MAX_NONTERMINAL_BACKOFF_SECONDS = 0 ↔ x = 0:= by
  have hp : (0 : Rat) < MAX_NONTERMINAL_BACKOFF_SECONDS := by decide
  constructor
  · intro h
    rcases min_choice x MAX_NONTERMINAL_BACKOFF_SECONDS with hm | hm
    · rw [← hm, h]
    · rw [hm] at h
      exact absurd h hp.ne'
  · intro h
    rw [h]
    exact min_eq_left hp.le

theorem target_of_not_legacy {r : AccountBackoffRecord}
    (h : ¬ (r.reason = .modelUnavailable ∧ r.modelId = none)) :
    r.target names = names.lookup r.accountId := by
  simp [target, legacy, h]

/-- **Hydration is a run over its rows**, as far as the first row without an expiry, and
succeeds exactly if there is none. -/
structure Hydrated (names : OrdMap Int String) (wallNow now : Rat) (m : HealthManager)
    (rs : List AccountBackoffRecord)
    (out : Except HealthManagerError (Nat × Nat) × HealthManager) : Prop where
  run_eq : out.2 = run (restore names wallNow now) m (rs.takeWhile fun r => !r.missing names)
  ok_iff : (∃ counts, out.1 = .ok counts) ↔ ∀ r ∈ rs, r.missing names = false

theorem Hydrated.cons {m m' : HealthManager} {r : AccountBackoffRecord}
    {rs : List AccountBackoffRecord} {out : Except HealthManagerError (Nat × Nat) × HealthManager}
    (h : Hydrated names wallNow now m' rs out) (hr : r.missing names = false)
    (hm : m' = m.restore names wallNow now r) : Hydrated names wallNow now m (r :: rs) out := by
  constructor
  · rw [h.run_eq, List.takeWhile_cons_of_pos (by simp [hr]), run_cons, hm]
  · rw [h.ok_iff]
    simp [hr]

theorem hydrated_hydrateFrom (names : OrdMap Int String) (wallNow now : Rat) (a s : Nat)
    (m : HealthManager) (rs : List AccountBackoffRecord) :
    Hydrated names wallNow now m rs (hydrateFrom names wallNow now a s m rs) := by
  fun_induction hydrateFrom names wallNow now a s m rs with
  | case1 => exact ⟨rfl, by simp⟩
  | case2 a s m r rs hl ih =>
    have ht : r.target names = none := by simp [target, legacy, hl]
    exact ih.cons (by simp [missing, ht]) (by rw [restore, ht])
  | case3 a s m r rs hl hn ih =>
    have ht : r.target names = none := by simp [target, hn]
    exact ih.cons (by simp [missing, ht]) (by rw [restore, ht])
  | case4 a s m r rs hl name hn ha ih =>
    refine ih.cons (by simp [missing, ha]) ?_
    rw [restore, target_of_not_legacy hl, hn]
    exact congrArg (m.modify name) (funext fun a => by rw [effect, if_pos ha])
  | case5 a s m r rs hl name hn ha hx =>
    have hm : r.missing names = true := by simp [missing, target_of_not_legacy hl, hn, ha, hx]
    exact ⟨by rw [List.takeWhile_cons_of_neg (by simp [hm])]; rfl, by simp [hm]⟩
  | case6 a s m r rs hl name hn ha dea hx _ ho ih =>
    refine ih.cons (by simp [missing, hx]) ?_
    have hv : r.remaining wallNow = 0 := by
      rw [remaining, hx]
      exact (capped_eq_zero _).mpr ho
    rw [restore, target_of_not_legacy hl, hn]
    exact (modify_of_id m name fun a => by rw [effect, if_neg ha, if_pos hv]).symm
  | case7 a s m r rs hl name hn ha dea hx _ ho rem m' ih =>
    refine ih.cons (by simp [missing, hx]) ?_
    have hr : r.remaining wallNow = rem := by rw [remaining, hx]
    have hv : ¬ rem = 0 := fun h => ho ((capped_eq_zero _).mp h)
    rw [restore, target_of_not_legacy hl, hn]
    cases hm : r.modelId with
    | none =>
      have he : r.effect wallNow now = (·.recordCooldown r.reason (some rem) now) :=
        funext fun a => by simp only [effect, if_neg ha, if_neg hv, hm, hr]
      simp only [m', hm, he, recordCooldown]
    | some model =>
      have he : r.effect wallNow now = fun a =>
          (a.disableModel model (some (some rem)) now).seedModelFailure model
            (max r.consecutiveFailures 1) :=
        funext fun a => by simp only [effect, if_neg ha, if_neg hv, hm, hr]
      simp only [m', hm, he, seedModelFailure, disableModel, modify_modify]

end HealthManager

end EggPool.Health
