import EggPool.Health.FailureEffects

/-!
# The course of a history

What the outcomes on one account and model amount to, without the maps and records that hold
it: the counters that decide the next delay, the window for which the gate is shut, and what is
on record under each reason. `follows_after` says that the router keeps to this course.
-/

namespace EggPool.Health

open EggPool.Lib AccountHealth
open EggPool.Routing (SelectionClaim)

/-- Failures in a row, of the model and of its account. -/
structure Ladder where
  (rung failures cooldowns : Nat)
  deriving DecidableEq

/-- The failure is the model's own. -/
def AppliedEffects.modelScoped (e : AppliedEffects) : Bool :=
  (getBackoffPolicy e.reason).any (·.accountModelScope) && e.quarantineModel

namespace Ladder

variable (l : Ladder) (e : AppliedEffects)

def struck : Nat := if e.modelScoped then saturatingAdd l.rung 1 else l.rung

def delay : Option Rat :=
  (getBackoffPolicy e.reason).bind fun policy =>
    (computeBackoffSeconds e.reason
      (if e.modelScoped then l.struck e else saturatingAdd (max l.failures l.cooldowns) 1)
      e.backoffUntil).map fun seconds => max (min seconds policy.cap) 0

def fail : Ladder where
  rung := l.struck e
  failures :=
    if e.applyAccountPenalty ∧ l.delay e = none ∧ e.circuitPenalty then saturatingAdd l.failures 1
    else l.failures
  cooldowns :=
    if e.applyAccountPenalty ∧ l.delay e ≠ none then saturatingAdd l.cooldowns 1 else l.cooldowns

variable {l e}

theorem delay_bounds {d : Rat} (h : l.delay e = some d) :
    0 ≤ d ∧ d ≤ MAX_NONTERMINAL_BACKOFF_SECONDS := by
  obtain ⟨policy, hp, hd⟩ := Option.bind_eq_some_iff.mp h
  obtain ⟨sec, -, rfl⟩ := Option.map_eq_some_iff.mp hd
  obtain ⟨hl, hh⟩ := cap_bounds hp
  exact ⟨le_max_right _ _, max_le ((min_le_right _ _).trans hh) (hl.trans hh)⟩

end Ladder

/-! ## The counters of the account -/

def AccountHealth.ladder (a : AccountHealth) (model : String) : Ladder :=
  ⟨(a.modelFailures.lookup model).getD 0, a.consecutiveFailures, a.consecutiveCooldowns⟩

theorem AccountHealth.ladder_normalize (a : AccountHealth) (model : String) (now : Rat) :
    (a.normalize now).ladder model = a.ladder model := by
  unfold normalize
  split <;> rfl

section Account

variable {m : HealthManager} {claim : SelectionClaim} {a : AccountHealth}

theorem policyBackoff_spec (h : m.accounts.lookup claim.accountName = some a)
    (e : AppliedEffects) (now : Rat) :
    let backoff := policyBackoff m claim e.reason e.backoffUntil e.quarantineModel now
    let ladder := a.ladder claim.canonicalModelId
    backoff.1.delay = ladder.delay e ∧
    (ladder.delay e ≠ none → backoff.1.modelRung = ladder.struck e) ∧
    ∃ a', backoff.2.accounts.lookup claim.accountName = some a' ∧
      a'.ladder claim.canonicalModelId = { ladder with rung := ladder.struck e } := by
  unfold policyBackoff
  cases hp : getBackoffPolicy e.reason with
  | none =>
    have hs : e.modelScoped = false := by simp [AppliedEffects.modelScoped, hp]
    have hd : (a.ladder claim.canonicalModelId).delay e = none := by
      simp [Ladder.delay, hp]
    refine ⟨hd.symm, fun hm => absurd hd hm, a, h, ?_⟩
    simp [Ladder.struck, hs]
  | some policy =>
    have hs : e.modelScoped = (policy.accountModelScope && e.quarantineModel) := by
      simp [AppliedEffects.modelScoped, hp]
    dsimp only
    rw [← hs]
    cases ho : e.modelScoped with
    | true =>
      simp only [if_true, HealthManager.recordModelFailure, HealthManager.snapshot,
    HealthManager.lookup_modify, h, recordModelFailure]
      refine ⟨?_, ?_, _, rfl, ?_⟩
      · simp [Ladder.delay, hp, ho, Ladder.struck, ladder]
      · simp [Ladder.struck, ho, ladder]
      · rw [ladder_normalize]
        simp [Ladder.struck, ho, ladder]
    | false =>
      simp only [Bool.false_eq_true, if_false, HealthManager.snapshot, HealthManager.lookup_modify,
    h]
      have hc := a.ladder_normalize claim.canonicalModelId now
      refine ⟨?_, ?_, _, rfl, ?_⟩
      · have hf := congrArg Ladder.failures hc
        have hco := congrArg Ladder.cooldowns hc
        simp only [ladder] at hf hco
        simp [Ladder.delay, hp, ho, ladder, hf, hco]
      · simp [Ladder.struck, ho, ladder, HealthManager.modelFailureCount, h]
      · rw [hc]
        simp [Ladder.struck, ho]

/-- No delay of a policy is cut short. -/
theorem disableEnd_delay (l : Ladder) (e : AppliedEffects) (now : Rat) :
    AccountHealth.disableEnd ((l.delay e).map some) now = (l.delay e).map (now + ·) := by
  cases hd : l.delay e with
  | none => rfl
  | some d =>
    obtain ⟨hl, hh⟩ := Ladder.delay_bounds hd
    simp [disableEnd, max_eq_left hl, min_eq_left hh]

variable {s : RouterHealth} (e : AppliedEffects) (policy : PolicyBackoff) (now wall : Rat)

theorem account_quarantineModel (h : s.health.accounts.lookup claim.accountName = some a) :
    ∃ b, (s.quarantineModel claim e policy now wall).health.accounts.lookup claim.accountName =
        some b ∧ b.ladder claim.canonicalModelId = a.ladder claim.canonicalModelId ∧
      (e.quarantineModel = true → b.disabledModels.lookup claim.canonicalModelId =
        some (AccountHealth.disableEnd (policy.delay.map some) now)) := by
  unfold RouterHealth.quarantineModel
  cases e.quarantineModel with
  | false => exact ⟨a, h, rfl, fun hno => absurd hno Bool.false_ne_true⟩
  | true =>
    refine ⟨a.disableModel claim.canonicalModelId (policy.delay.map some) now, ?_, rfl, ?_⟩
    · simp [RouterHealth.persistModelQuarantine, HealthManager.disableModel, h]
    · simp [disableModel]

theorem health_persistAccountBackoff (re : BackoffReason) (d : Option Rat) (ru : Nat) :
    (s.persistAccountBackoff claim re d ru wall).health = s.health := by
  unfold RouterHealth.persistAccountBackoff
  dsimp only
  split <;> rfl

/-- The counters of the account move; the model's entry does not. -/
theorem account_penalizeAccount (h : s.health.accounts.lookup claim.accountName = some a) :
    ∃ b, (s.penalizeAccount claim e policy now wall).health.accounts.lookup claim.accountName =
        some b ∧
      b.disabledModels = a.disabledModels ∧ ∀ mo, b.ladder mo = {
        rung := (a.ladder mo).rung
        failures :=
          if e.applyAccountPenalty ∧ policy.delay = none ∧ e.circuitPenalty then
            saturatingAdd (a.ladder mo).failures 1 else (a.ladder mo).failures
        cooldowns :=
          if e.applyAccountPenalty ∧ policy.delay ≠ none then
            saturatingAdd (a.ladder mo).cooldowns 1 else (a.ladder mo).cooldowns } := by
  unfold RouterHealth.penalizeAccount
  cases e.applyAccountPenalty with
  | false => exact ⟨a, h, rfl, fun mo => by simp⟩
  | true =>
    simp [health_persistAccountBackoff]
    cases policy.delay with
    | some delay =>
      refine ⟨a.recordCooldown e.reason (some delay) now, ?_, rfl, fun mo => ?_⟩
      · simp [HealthManager.recordCooldown, h]
      · simp [recordCooldown, ladder]
    | none =>
      cases e.circuitPenalty with
      | false => exact ⟨a, h, rfl, fun mo => by simp⟩
      | true =>
        refine ⟨a.recordFailure e.reason now, ?_, ?_⟩
        · simp [HealthManager.recordFailure, h]
        unfold recordFailure
        split <;> exact ⟨rfl, fun mo => by simp [ladder]⟩

/-- **What a failure does to the account.** -/
theorem account_applyFailureEffects (h : s.health.accounts.lookup claim.accountName = some a) :
    ∃ b, (s.applyFailureEffects claim e now wall).health.accounts.lookup claim.accountName =
        some b ∧ b.ladder claim.canonicalModelId = (a.ladder claim.canonicalModelId).fail e ∧
      (e.quarantineModel = true → b.disabledModels.lookup claim.canonicalModelId =
        some (((a.ladder claim.canonicalModelId).delay e).map (now + ·))) := by
  obtain ⟨hl, -, b, hb, hla⟩ := policyBackoff_spec h e now
  unfold RouterHealth.applyFailureEffects
  generalize policyBackoff s.health claim e.reason e.backoffUntil e.quarantineModel now = backoff
    at hl hb ⊢
  obtain ⟨c, hc, hs, hdi⟩ :=
    account_quarantineModel (s := { s with health := backoff.2 }) e backoff.1 now wall hb
  obtain ⟨d, hd, hm, hco⟩ := account_penalizeAccount e backoff.1 now wall hc
  refine ⟨d, hd, ?_, fun hq => ?_⟩
  · rw [hco, hs, hla, hl]
    rfl
  · rw [hm, hdi hq, hl, disableEnd_delay]

end Account

/-! ## The rows of the model -/

variable (claim : SelectionClaim)

/-- The row of the model, with the count it was written with. -/
def modelRow (reason : BackoffReason) (rung : Nat) (deadline : Rat) : AccountBackoffRecord :=
  ⟨claim.accountId, some claim.canonicalModelId, reason, max rung 1, some deadline⟩

/-- Under which a reason has its row of the model. -/
def modelKey (reason : BackoffReason) : Int ×ₗ WithBot String ×ₗ String :=
  (modelRow claim reason 0 0).key

/-- What is written as text is read back. -/
theorem resolve_asStr (reason : BackoffReason) : resolveBackoffReason (some reason.asStr) = reason := by
  cases reason <;> decide

theorem modelKey_inj {claim : SelectionClaim} {r r' : BackoffReason}
    (h : modelKey claim r = modelKey claim r') : r = r' := by
  have ht : r.asStr = r'.asStr := (Prod.mk.inj (Prod.mk.inj (toLex_inj.mp h)).2).2
  rw [← resolve_asStr r, ht, resolve_asStr]

/-- A row that a claim of this account and model may have left. -/
structure AccountBackoffRecord.Own (claim : SelectionClaim) (r : AccountBackoffRecord) : Prop where
  account : r.accountId = claim.accountId
  scope : r.modelId = none ∨ r.modelId = some claim.canonicalModelId ∧ r.reason ≠ .authenticationFailed
  expiry : r.backoffUntilEpoch = none → r.reason = .authenticationFailed

section Rows

variable {claim : SelectionClaim} {rows : BackoffRows} {r : AccountBackoffRecord} {wall : Rat}

theorem get?_upsert (rows : BackoffRows) (r : AccountBackoffRecord) (wall : Rat)
    (k : Int ×ₗ WithBot String ×ₗ String) : (upsert rows r wall).get? k =
      if validateBackoffRecord r = true ∧ r.key = k then
        some { r with backoffUntilEpoch := r.backoffUntilEpoch.map (storedDeadline r.reason wall) }
      else rows.get? k := by
  unfold upsert
  cases validateBackoffRecord r with
  | false => simp
  | true =>
    simp
    rfl

theorem own_upsert (h : ∀ x ∈ rows.rows, x.Own claim) (hr : r.Own claim) (wall : Rat) :
    ∀ x ∈ (upsert rows r wall).rows, x.Own claim := by
  unfold upsert
  split
  · intro x hx
    rcases Table.mem_place hx with rfl | hold
    · exact ⟨hr.account, hr.scope, fun hn => hr.expiry (Option.map_eq_none_iff.mp hn)⟩
    · exact h x hold
  · exact h

end Rows

/-! ## The course -/

/-- What a reason has on record: the model's count at the time, and the deadline. -/
structure Note where
  rung : Nat
  deadline : Rat
  deriving DecidableEq

structure Course where
  ladder : Ladder
  gate : Option ModelQuarantine.Window
  notes : BackoffReason → Option Note

namespace Course

def start : Course := ⟨⟨0, 0, 0⟩, none, fun _ => none⟩

/-- The records after a failure that quarantines the model. -/
def noted (c : Course) (e : AppliedEffects) (wall : Rat) : BackoffReason → Option Note :=
  match c.ladder.delay e with
  | none => c.notes
  | some d =>
    if validateBackoffRecord (modelRow claim e.reason (c.ladder.struck e) (epochSeconds wall + d)) then
      Function.update c.notes e.reason (some {
        rung := c.ladder.struck e
        deadline := storedDeadline e.reason wall (epochSeconds wall + d) })
    else c.notes

def step (c : Course) : HealthEvent → Course
  | .success .. => { c with ladder := ⟨0, 0, 0⟩ }
  | .failure e _ wall =>
    if e.quarantineModel then
      { ladder := c.ladder.fail e
        gate := some (.observe c.gate (epochSeconds wall) (c.ladder.delay e))
        notes := c.noted claim e wall }
    else { c with ladder := c.ladder.fail e }

def after (history : List HealthEvent) : Course :=
  run (step claim) start history

end Course

/-- **The router is where the course says.** -/
structure Follows (claim : SelectionClaim) (s : RouterHealth) (c : Course) : Prop where
  account : ∃ a, s.health.accounts.lookup claim.accountName = some a ∧
    a.ladder claim.canonicalModelId = c.ladder
  gate : ModelQuarantine.Gated (quarantineKey claim) s.quarantine c.gate
  notes : ∀ reason, s.backoffs.get? (modelKey claim reason) =
    (c.notes reason).map fun n => modelRow claim reason n.rung n.deadline
  own : ∀ r ∈ s.backoffs.rows, r.Own claim

section Simulation

variable {claim : SelectionClaim} {s : RouterHealth} {c : Course} {e : AppliedEffects}
  {policy : PolicyBackoff} {now wall : Rat}

theorem lookup_registered (claim : SelectionClaim) (st : Rat) :
    (HealthManager.registered [(claim.accountId, claim.accountName)] st).accounts.lookup
      claim.accountName = some (.fresh claim.accountId st) := by
  simp [HealthManager.registered, HealthManager.registerAccount, HealthManager.empty, fresh]

theorem follows_started (claim : SelectionClaim) (st : Rat) :
    Follows claim (.started claim st) .start where
  account := ⟨_, lookup_registered claim st, rfl⟩
  gate := ⟨rfl, fun r hr => absurd hr List.not_mem_nil, fun _ => rfl, fun w hw => by cases hw⟩
  notes _ := rfl
  own _ hr := absurd hr List.not_mem_nil

/-- A penalty of the account leaves the gate and the rows of the model alone. -/
theorem penalizeAccount_frame (ho : ∀ r ∈ s.backoffs.rows, r.Own claim) :
    (s.penalizeAccount claim e policy now wall).quarantine = s.quarantine ∧
    (∀ reason, (s.penalizeAccount claim e policy now wall).backoffs.get? (modelKey claim reason) =
      s.backoffs.get? (modelKey claim reason)) ∧
    ∀ r ∈ (s.penalizeAccount claim e policy now wall).backoffs.rows, r.Own claim := by
  unfold RouterHealth.penalizeAccount
  cases e.applyAccountPenalty with
  | false => exact ⟨rfl, fun _ => rfl, ho⟩
  | true =>
    simp only [Bool.not_true, Bool.false_eq_true, if_false, RouterHealth.persistAccountBackoff]
    split
    · exact ⟨rfl, fun _ => rfl, ho⟩
    rename_i dea hd
    refine ⟨rfl, fun reason => ?_, own_upsert ho ⟨rfl, .inl rfl, fun hn => ?_⟩ wall⟩
    · rw [get?_upsert, if_neg]
      rintro ⟨-, hkey⟩
      have hm := (Prod.mk.inj (Prod.mk.inj (toLex_inj.mp hkey)).2).1
      cases hm
    · obtain rfl : dea = none := Option.map_eq_none_iff.mp hn
      by_contra hr
      rw [if_neg hr] at hd
      obtain ⟨d, -, hs⟩ := Option.map_eq_some_iff.mp hd
      cases hs

/-- The observation and the row of a failure that quarantines the model. -/
theorem Follows.quarantineModel (h : Follows claim s c) (health : HealthManager) (now wall : Rat)
    (hl : policy.delay = c.ladder.delay e)
    (hrun : c.ladder.delay e ≠ none → policy.modelRung = c.ladder.struck e) :
    let t := { s with health := health }.quarantineModel claim e policy now wall
    let c' := c.step claim (.failure e now wall)
    ModelQuarantine.Gated (quarantineKey claim) t.quarantine c'.gate ∧
    (∀ reason, t.backoffs.get? (modelKey claim reason) =
      (c'.notes reason).map fun n => modelRow claim reason n.rung n.deadline) ∧
    ∀ r ∈ t.backoffs.rows, r.Own claim := by
  simp only [RouterHealth.quarantineModel, Course.step]
  cases e.quarantineModel with
  | false => exact ⟨h.gate, h.notes, h.own⟩
  | true =>
    simp only [if_true, RouterHealth.persistModelQuarantine, Course.noted, hl]
    refine ⟨h.gate.recordObservationUntil _ _ fun d => Ladder.delay_bounds, ?_⟩
    cases hd : c.ladder.delay e with
    | none => exact ⟨h.notes, h.own⟩
    | some d =>
      have ha : e.reason ≠ .authenticationFailed := by
        intro ha
        simp [Ladder.delay, ha, getBackoffPolicy, computeBackoffSeconds] at hd
      have hs := hrun (by simp [hd])
      dsimp only
      rw [hs]
      refine ⟨fun reason => ?_, own_upsert h.own ⟨rfl, .inr ⟨rfl, ha⟩, by simp⟩ wall⟩
      rw [get?_upsert]
      by_cases hv : validateBackoffRecord
          (modelRow claim e.reason (c.ladder.struck e) (epochSeconds wall + d)) = true
      · rw [if_pos hv]
        by_cases hr : reason = e.reason
        · subst hr
          rw [if_pos ⟨hv, rfl⟩, Function.update_self]
          rfl
        · rw [if_neg fun hkey => hr (modelKey_inj hkey.2).symm,
            Function.update_of_ne hr, h.notes]
      · rw [if_neg fun hkey => hv hkey.1, if_neg hv, h.notes]

/-- **Step lemma: a failure.** -/
theorem Follows.failure (h : Follows claim s c) (e : AppliedEffects) (now wall : Rat) :
    Follows claim (s.applyFailureEffects claim e now wall) (c.step claim (.failure e now wall)) := by
  obtain ⟨a, ha, hl⟩ := h.account
  obtain ⟨b, hb, hf, -⟩ := account_applyFailureEffects e now wall ha
  obtain ⟨hd, hrun, -⟩ := policyBackoff_spec ha e now
  rw [hl] at hf hd hrun
  obtain ⟨hg, hn, ho⟩ := h.quarantineModel _ now wall hd hrun
  obtain ⟨hq, hrow, ho'⟩ := penalizeAccount_frame ho
  refine ⟨⟨b, hb, hf.trans ?_⟩, ?_, ?_, ho'⟩
  · simp only [Course.step]
    split <;> rfl
  · exact hq ▸ hg
  · exact fun reason => (hrow reason).trans (hn reason)

/-- **Step lemma: a success.** It leaves the gate and the rows as they are. -/
theorem Follows.success (h : Follows claim s c) (now wall : Rat) :
    Follows claim (s.recordSuccess claim now wall) (c.step claim (.success now wall)) where
  account := by
    obtain ⟨a, ha, -⟩ := h.account
    refine ⟨a.recordSuccess (some claim.canonicalModelId) now, ?_, ?_⟩
    · simp [RouterHealth.recordSuccess, HealthManager.recordSuccess, ha]
    unfold recordSuccess
    dsimp only
    split <;> simp [ladder, Course.step]
  gate := by
    simp only [RouterHealth.recordSuccess, h.gate.clearAuthoritativeReappearanceFor]
    exact h.gate
  notes := h.notes
  own := h.own

/-- **Run lemma.** -/
theorem follows_after (claim : SelectionClaim) (st : Rat) (h : List HealthEvent) :
    Follows claim (.after claim st h) (.after claim h) := by
  induction h using List.reverseRecOn with
  | nil => exact follows_started claim st
  | append_singleton h x ih =>
    rw [RouterHealth.after, Course.after, run_append, run_append]
    cases x with
    | failure e now wall => exact ih.failure e now wall
    | success now wall => exact ih.success now wall

end Simulation

/-- An attempt on the one model of an account. -/
def attempt : SelectionClaim := ⟨1, 7, "account", "provider", "model", some "openai", 0, 0⟩

/-- The provider does not know the model. -/
def modelAbsent : AppliedEffects := ⟨false, true, some "model_unavailable", some 300, false⟩

end EggPool.Health
