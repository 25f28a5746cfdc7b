import EggPool.Health.Escalation

/-!
# The quarantine gate and the model's disable

Two places keep a model of an account out: the health manager has an entry for it, and the gate
asks the quarantine. A failure sets both to one delay. But the quarantine reads whole seconds, a
failure without a delay is a lasting disable and a passing observation, and a success removes
the disable and leaves the observation.
-/

namespace EggPool.Health

open EggPool.Lib RouterHealth
open EggPool.Routing (SelectionClaim)

/-- The model's own entry is in force. -/
def AccountHealth.modelDisabled (a : AccountHealth) (model : String) (now : Rat) : Bool :=
  match a.disabledModels.lookup model with
  | none => false
  | some none => true
  | some (some deadline) => now < deadline

/-- A disable of the account as a whole is the other thing the health gate asks for. -/
theorem AccountHealth.isModelDisabled_eq (a : AccountHealth) (m : String) (now : Rat) :
    a.isModelDisabled m now = (a.isDisabled now || a.modelDisabled m now) := by
  unfold isModelDisabled modelDisabled
  cases a.isDisabled now <;> rfl

def HealthManager.modelDisabled (m : HealthManager) (name model : String) (now : Rat) : Bool :=
  (m.accounts.lookup name).any (·.modelDisabled model now)

def HealthEvent.now : HealthEvent → Rat
  | .failure _ now _ | .success now _ => now

def HealthEvent.wall : HealthEvent → Rat
  | .failure _ _ wall | .success _ wall => wall

/-- A success, or a failure that quarantines the model. -/
def HealthEvent.concernsModel : HealthEvent → Bool
  | .failure e _ _ => e.quarantineModel
  | .success .. => true

namespace RouterHealth

def gateExcludes (s : RouterHealth) (claim : SelectionClaim) (wall : Rat) : Bool :=
  s.quarantine.isModelQuarantined (quarantineKey claim) (epochSeconds wall)

/-- At a time of the process clock, with the wall clock ahead by the offset. -/
def Agrees (s : RouterHealth) (claim : SelectionClaim) (offset now : Rat) : Prop :=
  s.gateExcludes claim (now + offset) =
    s.health.modelDisabled claim.accountName claim.canonicalModelId now

end RouterHealth

section Agreement

variable {claim : SelectionClaim} {s : RouterHealth} {c : Course} {a : AccountHealth}
  {events : List HealthEvent}

theorem gate_successes (h : ∀ x ∈ events, x.isSuccess = true) (c : Course) :
    (run (Course.step claim) c events).gate = c.gate := by
  induction events generalizing c with
  | nil => rfl
  | cons x events ih =>
    obtain ⟨hx, he⟩ := List.forall_mem_cons.mp h
    cases x with
    | failure e now wall => cases hx
    | success now wall => exact ih he _

/-- The first success enables the model. -/
theorem disabledModels_successes (h : ∀ x ∈ events, x.isSuccess = true)
    (ha : s.health.accounts.lookup claim.accountName = some a) :
    ∃ b, (run (RouterHealth.step claim) s events).health.accounts.lookup claim.accountName =
        some b ∧
      b.disabledModels.lookup claim.canonicalModelId =
        if events = [] then a.disabledModels.lookup claim.canonicalModelId else none := by
  induction events generalizing s a with
  | nil => exact ⟨a, ha, rfl⟩
  | cons x events ih =>
    obtain ⟨hx, he⟩ := List.forall_mem_cons.mp h
    cases x with
    | failure e now wall => cases hx
    | success now wall =>
      have hs : (s.recordSuccess claim now wall).health.accounts.lookup
          claim.accountName = some (a.recordSuccess (some claim.canonicalModelId) now) := by
        simp [recordSuccess, HealthManager.recordSuccess, ha]
      obtain ⟨b, hb, hm⟩ := ih he hs
      refine ⟨b, hb, ?_⟩
      have hn : (a.recordSuccess (some claim.canonicalModelId)
          now).disabledModels.lookup claim.canonicalModelId = none := by
        unfold AccountHealth.recordSuccess
        dsimp only
        split <;> simp
      rw [hm, hn, ite_self, if_neg (List.cons_ne_nil _ _)]

theorem Follows.agrees_iff (h : Follows claim s c)
    (ha : s.health.accounts.lookup claim.accountName = some a) (o now : Rat) :
    s.Agrees claim o now ↔ c.gate.any (epochSeconds (now + o) < ·.opens) =
        a.modelDisabled claim.canonicalModelId now := by
  rw [RouterHealth.Agrees, gateExcludes, h.gate.isModelQuarantined, HealthManager.modelDisabled, ha]
  rfl

/-- A delay counts from the observation, whatever came before. -/
theorem opens_observe (g : Option ModelQuarantine.Window) (now d : Rat) :
    (ModelQuarantine.Window.observe g now (some d)).opens = now + d := by
  unfold ModelQuarantine.Window.observe
  split <;> simp_all

end Agreement

/--
**At a time the gate and the health manager agree about the model** if nothing has failed yet.
Otherwise they agree at a time exactly
- with a success since the last failure: once the gate's window is over;
- without one, if the failure had a delay: unless the time lies between the end that counts from
  the whole second and the end that counts from the failure itself;
- without one, if it had none: as long as the gate's window lasts.
-/
theorem gate_agrees_iff (claim : SelectionClaim) (start offset now : Rat)
    (history : List HealthEvent) (hclocks : ∀ x ∈ history, x.wall = x.now + offset)
    (hmodel : ∀ x ∈ history, x.concernsModel = true) : ((∀ x ∈ history, x.isSuccess = true) →
      (RouterHealth.after claim start history).Agrees claim offset now) ∧
    ∀ before e failed wall later, history = before ++ .failure e failed wall :: later →
      (∀ x ∈ later, x.isSuccess = true) →
      ((RouterHealth.after claim start history).Agrees claim offset now ↔
        if later ≠ [] then
          ∀ w ∈ (Course.after claim history).gate, w.opens ≤ epochSeconds (now + offset)
        else match (Course.after claim before).ladder.delay e with
          | some d => epochSeconds (now + offset) < epochSeconds (failed + offset) + d ↔
              now < failed + d
          | none => ∃ w ∈ (Course.after claim history).gate, epochSeconds (now + offset) < w.opens) := by
  have hfollows := follows_after claim start history
  constructor
  · intro hsuccesses
    obtain ⟨a, ha, hdisabled⟩ := disabledModels_successes (s := .started claim start) hsuccesses
      (lookup_registered claim start)
    have hgate : (Course.after claim history).gate = none := gate_successes hsuccesses .start
    rw [hfollows.agrees_iff ha, hgate, AccountHealth.modelDisabled, hdisabled]
    simp [AccountHealth.fresh]
  · rintro before e failed wall later rfl hlater
    have hmem : HealthEvent.failure e failed wall ∈ before ++ .failure e failed wall :: later := by
      simp
    have hwall : wall = failed + offset := hclocks _ hmem
    have hquarantine : e.quarantineModel = true := hmodel _ hmem
    obtain ⟨a, ha, hladder⟩ := (follows_after claim start before).account
    obtain ⟨b, hb, -, hdisabled⟩ := account_applyFailureEffects e failed wall ha
    have hstate : after claim start (before ++ .failure e failed wall :: later) =
        run (step claim) ((after claim start before).applyFailureEffects
          claim e failed wall) later := by
      rw [after, run_append]
      rfl
    have hgate : (Course.after claim (before ++ .failure e failed wall :: later)).gate =
        some (.observe (Course.after claim before).gate (epochSeconds wall)
          ((Course.after claim before).ladder.delay e)) := by
      rw [Course.after, run_append, run_cons, gate_successes hlater, Course.step,
        if_pos hquarantine]
      rfl
    obtain ⟨d, hd, hentry⟩ := disabledModels_successes hlater hb
    rw [hfollows.agrees_iff (hstate ▸ hd), hgate, AccountHealth.modelDisabled, hentry,
      hdisabled hquarantine, hladder]
    by_cases hnone : later = []
    · rw [if_pos hnone, if_neg (not_not.mpr hnone)]
      cases hdelay : (Course.after claim before).ladder.delay e with
      | none => simp
      | some delay => simp [opens_observe, hwall]
    · simp [hnone]

/-- The model is absent for three hundred seconds, and works after ten. -/
def lifted : List HealthEvent := [.failure modelAbsent 10 1010, .success 20 1020]

theorem gate_agrees_iff_lifted :
    (∀ x ∈ lifted, x.wall = x.now + 1000) ∧ (∀ x ∈ lifted, x.concernsModel = true) ∧
    ((RouterHealth.after attempt 0 lifted).Agrees attempt 1000 30 ↔
      ∀ w ∈ (Course.after attempt lifted).gate, w.opens ≤ epochSeconds (30 + 1000)) := by
  refine ⟨by decide +kernel, by decide, ?_⟩
  have hlifted := (gate_agrees_iff attempt 0 1000 30 lifted (by decide +kernel) (by decide)).2
    [] modelAbsent 10 1010 [.success 20 1020] rfl (by decide)
  rwa [if_pos (List.cons_ne_nil _ _)] at hlifted

/-- The success has enabled the model, but the gate goes on excluding it. -/
theorem gate_outlasts_disable :
    (RouterHealth.after attempt 0 lifted).gateExcludes attempt (30 + 1000) = true ∧
    (RouterHealth.after attempt 0 lifted).health.modelDisabled attempt.accountName
      attempt.canonicalModelId 30 = false := by
  decide +kernel

end EggPool.Health
