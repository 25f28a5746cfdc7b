import EggPool.Health.Hydration

/-!
# Does the order of the rows matter?

Rows restore three kinds of effect. A cooldown takes the maximum with the one before
it and a block stays, so among these the order does not show. A model disable is
written over the one before it: of several rows of one model, with different reasons,
the last one decides. The answer of the gate after hydration is first described as it
is, with the last row of the model in it; from there it is seen exactly when the order
of the batch is free.
-/

namespace EggPool.Health

open EggPool.Lib AccountBackoffRecord List AccountHealth

namespace AccountBackoffRecord

/-- The row reports a refused credential. -/
def bars (r : AccountBackoffRecord) : Bool := r.reason = .authenticationFailed

/-- A live account-wide row: it restores a cooldown. -/
def cools (wallNow : Rat) (r : AccountBackoffRecord) : Bool :=
  r.bars = false ∧ r.remaining wallNow ≠ 0 ∧ r.modelId = none

/-- A live row of the model: it restores the model's disable. -/
def disables (wallNow : Rat) (model : String) (r : AccountBackoffRecord) : Bool :=
  r.bars = false ∧ r.remaining wallNow ≠ 0 ∧ r.modelId = some model

theorem remaining_nonneg (wallNow : Rat) (r : AccountBackoffRecord) : 0 ≤ r.remaining wallNow := by
  unfold remaining
  cases r.backoffUntilEpoch with
  | none => exact le_rfl
  | some dea => exact le_min (le_max_right _ _) (by decide)

theorem remaining_le (wallNow : Rat) (r : AccountBackoffRecord) :
    r.remaining wallNow ≤ MAX_NONTERMINAL_BACKOFF_SECONDS := by
  unfold remaining
  cases r.backoffUntilEpoch with
  | none => exact (by decide : (0 : Rat) ≤ MAX_NONTERMINAL_BACKOFF_SECONDS)
  | some dea => exact min_le_right _ _

/-! What a row does to the fields the gate reads. -/

/-- The fields after a row: only a refused credential gives the account a reason and makes it
unhealthy. -/
theorem effect_fields (wallNow now : Rat) (r : AccountBackoffRecord) (a : AccountHealth) :
    (r.effect wallNow now a).disabledUntil = (if r.bars then none else a.disabledUntil) ∧
      (r.effect wallNow now a).circuitBreaker = a.circuitBreaker ∧
      (r.effect wallNow now a).disabledReason =
        (if r.bars then BackoffReason.authenticationFailed.asStr else a.disabledReason) ∧
      (r.effect wallNow now a).isHealthy = (!r.bars && a.isHealthy) ∧
      (r.effect wallNow now a).cooldownUntil =
        (if r.cools wallNow then max a.cooldownUntil (now + r.remaining wallNow)
          else a.cooldownUntil) ∧
      (∀ model, (r.effect wallNow now a).disabledModels.lookup model =
        if r.disables wallNow model then some (some (now + r.remaining wallNow))
        else a.disabledModels.lookup model) ∧
      ∀ model, (r.effect wallNow now a).modelFailures.lookup model =
        if r.disables wallNow model then some (max r.consecutiveFailures 1)
        else a.modelFailures.lookup model := by
  unfold effect
  by_cases ha : r.reason = .authenticationFailed
  · have hb : r.bars = true := decide_eq_true ha
    have hc : r.cools wallNow = false := by simp [cools, hb]
    have hd : ∀ model, r.disables wallNow model = false := by simp [disables, hb]
    simp only [hc, hd, hb, ha]
    exact ⟨rfl, rfl, rfl, rfl, rfl, fun _ => rfl, fun _ => rfl⟩
  have hb : r.bars = false := decide_eq_false ha
  rw [if_neg ha]
  by_cases ho : r.remaining wallNow = 0
  · have hc : r.cools wallNow = false := by simp [cools, ho]
    have hd : ∀ model, r.disables wallNow model = false := by simp [disables, ho]
    simp [hc, hd, hb, ho]
  rw [if_neg ho]
  cases hm : r.modelId with
  | none =>
    have hc : r.cools wallNow = true := by simp [cools, hb, ho, hm]
    have hd : ∀ model, r.disables wallNow model = false := by simp [disables, hm]
    simp only [hc, hd, hb, if_true]
    refine ⟨rfl, rfl, rfl, rfl, ?_, fun _ => rfl, fun _ => rfl⟩
    simp [recordCooldown, cooldownDelay, r.remaining_nonneg wallNow, r.remaining_le wallNow]
  | some other =>
    have hc : r.cools wallNow = false := by simp [cools, hm]
    have hd : ∀ model, r.disables wallNow model = decide (other = model) := by
      simp [disables, hb, ho, hm]
    simp only [hc, hd, hb]
    refine ⟨rfl, rfl, rfl, rfl, rfl, fun model => ?_, fun model => ?_⟩ <;>
      simp [disableModel, seedModelFailure, disableEnd, r.remaining_nonneg wallNow,
        r.remaining_le wallNow]

end AccountBackoffRecord

namespace AccountHealth

variable {wallNow now : Rat} {rows : List AccountBackoffRecord} {a : AccountHealth}

/-- The account after its rows of a batch, as the gate sees it. -/
structure Restored (wallNow now : Rat) (rows : List AccountBackoffRecord) (a : AccountHealth) :
    Prop where
  noEnd : a.disabledUntil = none
  closed : a.circuitBreaker.state = .closed
  reason : a.disabledReason =
    if rows.any bars then BackoffReason.authenticationFailed.asStr else ""
  healthy : a.isHealthy = !rows.any bars
  /-- The cooldown ends with the last of the account-wide rows. -/
  cooldown : ∀ now', a.cooldownUntil ≤ now' ↔
    0 ≤ now' ∧ ∀ r ∈ rows, r.cools wallNow = true → now + r.remaining wallNow ≤ now'
  /-- The last row of a model decides. -/
  model : ∀ model, a.disabledModels.lookup model =
    (rows.filter (·.disables wallNow model)).getLast?.map fun r =>
      some (now + r.remaining wallNow)

theorem restored_fresh (ai : Int) (start : Rat) : Restored wallNow now [] (fresh ai start) where
  noEnd := rfl
  closed := rfl
  reason := rfl
  healthy := rfl
  cooldown := by simp [fresh]
  model := fun _ => rfl

theorem any_bars_append (rows : List AccountBackoffRecord) (r : AccountBackoffRecord) :
    (rows ++ [r]).any bars = (rows.any bars || r.bars) := by
  rw [any_append, any_cons, any_nil, Bool.or_false]

/-- **Step lemma.** -/
theorem Restored.append (h : Restored wallNow now rows a) (r : AccountBackoffRecord) :
    Restored wallNow now (rows ++ [r]) (r.effect wallNow now a) := by
  obtain ⟨hu, hb, hr, hh, hc, hm, -⟩ := effect_fields wallNow now r a
  refine ⟨by rw [hu, h.noEnd, ite_self], hb ▸ h.closed, ?_, ?_, fun now' => ?_, fun model => ?_⟩
  · rw [hr, h.reason, any_bars_append]
    cases r.bars <;> cases rows.any bars <;> rfl
  · rw [hh, h.healthy, any_bars_append]
    cases r.bars <;> cases rows.any bars <;> rfl
  · rw [hc, forall_mem_append, forall_mem_singleton]
    cases hc : r.cools wallNow with
    | true => simp only [if_true, max_le_iff, h.cooldown, and_assoc, forall_const]
    | false => simp [h.cooldown]
  · rw [hm, filter_append, filter_singleton, h.model]
    cases hd : r.disables wallNow model with
    | true | false => simp

/-- **Run lemma.** -/
theorem restored_run (ai : Int) (start wallNow now : Rat)
    (rows : List AccountBackoffRecord) : Restored wallNow now rows
      (run (fun a r => r.effect wallNow now a) (fresh ai start) rows) := by
  induction rows using reverseRecOn with
  | nil => exact restored_fresh ai start
  | append_singleton rows r ih =>
    rw [run_append]
    exact ih.append r

/-- The gate's answer after the rows. -/
theorem Restored.healthy_iff (h : Restored wallNow now rows a) (m : String) (now' : Rat) :
    (a.effectivelyHealthy now' && !a.isModelDisabled m now' &&
        breaker.canRequest a.circuitBreaker now') = true ↔
      (∀ r ∈ rows, r.bars = false) ∧ a.cooldownUntil ≤ now' ∧
        ∀ r ∈ (rows.filter (·.disables wallNow m)).getLast?, now + r.remaining wallNow ≤ now':= by
  have hca : breaker.canRequest a.circuitBreaker now' = true := by
    simp [CircuitBreaker.canRequest, h.closed]
  have hd : a.isDisabled now' = decide (now' < a.cooldownUntil) := by
    simp [isDisabled, h.noEnd]
  have hh : a.effectivelyHealthy now' = true ↔
      (∀ r ∈ rows, r.bars = false) ∧ a.cooldownUntil ≤ now' := by
    unfold effectivelyHealthy
    rw [h.noEnd, h.reason, h.healthy]
    cases hba : rows.any bars with
    | true =>
      have hs : ¬ ∀ r ∈ rows, r.bars = false := by
        obtain ⟨r, hr, hb⟩ := any_eq_true.mp hba
        intro hn
        rw [hn r hr] at hb
        cases hb
      simp [hs, BackoffReason.asStr]
    | false =>
      have hn : ∀ r ∈ rows, r.bars = false := by
        simpa using hba
      rw [and_iff_right hn]
      simp
  have hm : a.cooldownUntil ≤ now' → (a.isModelDisabled m now' = false ↔
      ∀ r ∈ (rows.filter (·.disables wallNow m)).getLast?,
        now + r.remaining wallNow ≤ now') := by
    intro hc
    unfold isModelDisabled
    rw [hd, decide_eq_false (not_lt.mpr hc), h.model m]
    cases (rows.filter (·.disables wallNow m)).getLast? with
    | none | some => simp
  rw [Bool.and_eq_true, Bool.and_eq_true, hca, Bool.not_eq_true', hh]
  constructor
  · rintro ⟨⟨⟨hn, hc⟩, hall⟩, _⟩
    exact ⟨hn, hc, (hm hc).mp hall⟩
  · rintro ⟨hn, hc, hl⟩
    exact ⟨⟨⟨hn, hc⟩, (hm hc).mpr hl⟩, rfl⟩

end AccountHealth

/-! ## The manager after a batch -/

namespace HealthManager

variable {names : OrdMap Int String} {wallNow now : Rat} {rows : List AccountBackoffRecord}

variable (accounts : List (Int × String))

/-- A new manager with its accounts registered. -/
def registered (start : Rat) : HealthManager :=
  run (fun m account => m.registerAccount account.1 account.2 start) empty accounts

/-- Registration only ever puts new accounts in. -/
theorem registered_fresh (start : Rat) :
    ∀ name a, (registered accounts start).accounts.lookup name = some a →
      ∃ ai, a = .fresh ai start := by
  refine run_invariant (I := fun m : HealthManager => ∀ name a,
    m.accounts.lookup name = some a → ∃ ai, a = .fresh ai start) ?_ ?_ accounts
  · intro m account hm name a ha
    obtain ⟨ai, other⟩ := account
    unfold registerAccount at ha
    cases hk : m.accounts.lookup other with
    | some b =>
      simp only [hk, lookup_modify] at ha
      split at ha
      · obtain ⟨c, hc, rfl⟩ := Option.map_eq_some_iff.mp ha
        obtain ⟨_, rfl⟩ := hm name c hc
        exact ⟨ai, rfl⟩
      · exact hm name a ha
    | none =>
      simp only [hk, lookup_modify, OrdMap.lookup_set] at ha
      split at ha
      · obtain ⟨c, hc, rfl⟩ := Option.map_eq_some_iff.mp ha
        cases hc
        exact ⟨ai, rfl⟩
      · exact hm name a ha
  · intro name a ha
    cases ha

/-- The rows that act on an account. -/
def rowsOf (names : OrdMap Int String) (name : String) (rows : List AccountBackoffRecord) :
    List AccountBackoffRecord :=
  rows.filter fun r => r.target names = some name

/-- The accounts do not see each other's rows. -/
theorem lookup_run_restore (m : HealthManager) (rows : List AccountBackoffRecord) (n : String) :
    (run (restore names wallNow now) m rows).accounts.lookup n = (m.accounts.lookup n).map fun a =>
        run (fun a r => r.effect wallNow now a) a (rowsOf names n rows) := by
  induction rows generalizing m with
  | nil => simp [rowsOf]
  | cons r rows ih =>
    rw [run_cons, ih]
    unfold restore rowsOf
    rw [filter_cons]
    cases ht : r.target names with
    | none => simp
    | some other =>
      by_cases ho : other = n
      · simp [ho, Function.comp_def]
      · simp [ho]

/-- The manager after a batch. -/
def hydrated (start : Rat) (names : OrdMap Int String)
    (wallNow now : Rat) (rows : List AccountBackoffRecord) : HealthManager :=
  ((registered accounts start).hydrateBackoffs rows names wallNow now).2

/-- Hydration of the batch succeeds. -/
def Succeeds (start : Rat) (names : OrdMap Int String)
    (wallNow now : Rat) (rows : List AccountBackoffRecord) : Prop :=
  ∃ counts, ((registered accounts start).hydrateBackoffs rows names wallNow now).1 = .ok counts

variable {accounts : List (Int × String)} {start : Rat}

theorem succeeds_iff : Succeeds accounts start names wallNow now rows ↔
    ∀ r ∈ rows, r.missing names = false :=
  (hydrated_hydrateFrom ..).ok_iff

variable {rows' : List AccountBackoffRecord}

theorem succeeds_perm (h : rows'.Perm rows) : Succeeds accounts start names wallNow now rows' ↔
      Succeeds accounts start names wallNow now rows := by
  rw [succeeds_iff, succeeds_iff]
  exact forall_congr' fun r => by rw [h.mem_iff]

/-- **The gate after a batch**, with the last row of the model in it. -/
theorem isModelHealthy_hydrated (hok : Succeeds accounts start names wallNow now rows)
    (n m : String) (now' : Rat) :
    (hydrated accounts start names wallNow now rows).isModelHealthy n m now' = true ↔
      ((registered accounts start).accounts.lookup n).isSome ∧
      (∀ r ∈ rowsOf names n rows, r.bars = false) ∧
      (0 ≤ now' ∧ ∀ r ∈ rowsOf names n rows, r.cools wallNow = true →
        now + r.remaining wallNow ≤ now') ∧
      ∀ r ∈ ((rowsOf names n rows).filter (·.disables wallNow m)).getLast?,
        now + r.remaining wallNow ≤ now' := by
  have hrun : hydrated accounts start names wallNow now rows =
      run (restore names wallNow now) (registered accounts start) rows := by
    unfold hydrated hydrateBackoffs
    rw [(hydrated_hydrateFrom ..).run_eq, takeWhile_eq_self_iff.mpr]
    intro r hr
    rw [succeeds_iff.mp hok r hr]
    rfl
  unfold isModelHealthy
  rw [hrun, lookup_run_restore]
  cases hk : (registered accounts start).accounts.lookup n with
  | none => simp
  | some a =>
    obtain ⟨ai, rfl⟩ := registered_fresh accounts start n a hk
    have hs := restored_run ai start wallNow now
      (rowsOf names n rows)
    rw [← hs.cooldown]
    simpa using hs.healthy_iff m now'

/-- A row that concerns the account as a whole, or the model. -/
def inScope (names : OrdMap Int String) (name model : String) (r : AccountBackoffRecord) : Bool :=
  r.target names = some name ∧ (r.modelId = none ∨ r.modelId = some model)

/--
The order of a batch is free: every order on which hydration succeeds gives the same
answers from then on, and the model is unhealthy until the last of the deadlines that
concern it, capped.
-/
def OrderFree (accounts : List (Int × String)) (start : Rat) (names : OrdMap Int String)
    (wallNow now : Rat) (rows : List AccountBackoffRecord) : Prop :=
  ∀ rows' : List AccountBackoffRecord, rows'.Perm rows →
    Succeeds accounts start names wallNow now rows' → ∀ name model,
      (∀ now', now ≤ now' →
        (hydrated accounts start names wallNow now rows').isModelHealthy name model now' =
          (hydrated accounts start names wallNow now rows).isModelHealthy name model now') ∧
      ∀ r ∈ rows', inScope names name model r = true → ∀ now', now ≤ now' →
        now' < now + r.remaining wallNow →
        (hydrated accounts start names wallNow now rows').isModelHealthy name model now' = false

/--
Of two live rows of one model of a registered account that no row bars, the longer one
is outlasted by an account-wide row, unless they end together. (A new account's
cooldown ends at zero, which a clock may not have reached.)
-/
def ModelRowsAgree (accounts : List (Int × String)) (start : Rat) (names : OrdMap Int String)
    (wallNow now : Rat) (rows : List AccountBackoffRecord) : Prop :=
  ∀ name, ((registered accounts start).accounts.lookup name).isSome →
    (∀ r ∈ rowsOf names name rows, r.bars = false) →
    ∀ model, ∀ r₁ ∈ rowsOf names name rows, r₁.disables wallNow model = true →
      ∀ r₂ ∈ rowsOf names name rows, r₂.disables wallNow model = true →
        r₁.remaining wallNow < r₂.remaining wallNow →
        now + r₂.remaining wallNow ≤ 0 ∨
          ∃ r ∈ rowsOf names name rows, r.cools wallNow = true ∧
            r₂.remaining wallNow ≤ r.remaining wallNow

/-- With agreeing rows the gate waits for every row in its scope, not only for the last. -/
theorem isModelHealthy_of_agree (hok : Succeeds accounts start names wallNow now rows)
    (ha : ModelRowsAgree accounts start names wallNow now rows) (n m : String) (now' : Rat) :
    (hydrated accounts start names wallNow now rows).isModelHealthy n m now' = true ↔
      ((registered accounts start).accounts.lookup n).isSome ∧
      (∀ r ∈ rowsOf names n rows, r.bars = false) ∧
      (0 ≤ now' ∧ ∀ r ∈ rowsOf names n rows, r.cools wallNow = true →
        now + r.remaining wallNow ≤ now') ∧ ∀ r ∈ rowsOf names n rows, r.disables wallNow m = true →
        now + r.remaining wallNow ≤ now' := by
  rw [isModelHealthy_hydrated hok]
  refine and_congr_right fun hk => and_congr_right fun hf => and_congr_right fun hcl => ?_
  constructor
  · intro hla r hr hs
    have hmem : r ∈ (rowsOf names n rows).filter (·.disables wallNow m) :=
      mem_filter.mpr ⟨hr, hs⟩
    obtain ⟨l, hl⟩ := Option.isSome_iff_exists.mp
      (getLast?_isSome.mpr (ne_nil_of_mem hmem))
    obtain ⟨hm, hd⟩ := mem_filter.mp (mem_of_getLast? hl)
    have hn : now + l.remaining wallNow ≤ now' := hla l hl
    rcases le_or_gt (r.remaining wallNow) (l.remaining wallNow) with hle | hlt
    · exact (add_le_add_right hle now).trans hn
    -- the row that was written over ends after the last one, but not after the cooldown
    rcases ha n hk hf m l hm hd r hr hs hlt with
      hz | ⟨c, hc, hco, hlo⟩
    · exact hz.trans hcl.1
    · exact (add_le_add_right hlo now).trans (hcl.2 c hc hco)
  · intro hall l hl
    obtain ⟨hm, hd⟩ := mem_filter.mp (mem_of_getLast? hl)
    exact hall l hm hd

/-- The rows of an account, in another order. -/
theorem rowsOf_perm (h : rows'.Perm rows) (n : String) :
    (rowsOf names n rows').Perm (rowsOf names n rows) :=
  h.filter _

theorem agree_perm (h : rows'.Perm rows)
    (ha : ModelRowsAgree accounts start names wallNow now rows) :
    ModelRowsAgree accounts start names wallNow now rows' := by
  unfold ModelRowsAgree at ha ⊢
  simp only [(rowsOf_perm h _).mem_iff]
  exact ha

theorem orderFree_of_agree (ha : Succeeds accounts start names wallNow now rows →
      ModelRowsAgree accounts start names wallNow now rows) :
    OrderFree accounts start names wallNow now rows := by
  intro rows' hp hok' name mod
  have hok : Succeeds accounts start names wallNow now rows := (succeeds_perm hp).mp hok'
  have ha' := agree_perm hp (ha hok)
  constructor
  · intro now' _
    rw [Bool.eq_iff_iff, isModelHealthy_of_agree hok' ha', isModelHealthy_of_agree hok (ha hok)]
    simp [(rowsOf_perm hp name).mem_iff]
  · intro r hr hs now' _ hb
    obtain ⟨ht, hm⟩ := of_decide_eq_true hs
    rw [← Bool.not_eq_true, isModelHealthy_of_agree hok' ha']
    rintro ⟨_, hf, ⟨_, hcl⟩, hd⟩
    have hrow : r ∈ rowsOf names name rows' :=
      mem_filter.mpr ⟨hr, decide_eq_true ht⟩
    have hba := hf r hrow
    by_cases ho : r.remaining wallNow = 0
    · rw [ho, add_zero] at hb
      exact absurd ‹now ≤ now'› (not_le.mpr hb)
    rcases hm with hm | hm
    · exact absurd (hcl r hrow (by simp [cools, hba, ho, hm])) (not_le.mpr hb)
    · exact absurd (hd r hrow (by simp [disables, hba, ho, hm]))
        (not_le.mpr hb)

/-- A time at which every row of a list that ends before `b` has ended. -/
theorem exists_between (rows : List AccountBackoffRecord) (f : AccountBackoffRecord → Rat)
    {x b : Rat} (hx : x < b) (h : ∀ r ∈ rows, f r < b) :
    ∃ t, x ≤ t ∧ t < b ∧ ∀ r ∈ rows, f r ≤ t := by
  induction rows with
  | nil => exact ⟨x, le_rfl, hx, by simp⟩
  | cons r rows ih =>
    obtain ⟨hr, hrow⟩ := forall_mem_cons.mp h
    obtain ⟨t, hxt, htb, hle⟩ := ih hrow
    refine ⟨max t (f r), hxt.trans (le_max_left _ _), max_lt htb hr, ?_⟩
    refine forall_mem_cons.mpr ⟨le_max_right _ _, ?_⟩
    intro r' hr'
    exact (hle r' hr').trans (le_max_left _ _)

theorem agree_of_orderFree (h : OrderFree accounts start names wallNow now rows)
    (hok : Succeeds accounts start names wallNow now rows) :
    ModelRowsAgree accounts start names wallNow now rows := by
  intro name hk hf mod r₁ hr₁ hd₁ r₂ hr₂ hd₂ hlt
  by_contra hn
  rw [not_or, not_le] at hn
  obtain ⟨hs, hno⟩ := hn
  obtain ⟨hmem₁, ht₁⟩ := mem_filter.mp hr₁
  obtain ⟨hmem₂, ht₂⟩ := mem_filter.mp hr₂
  -- with `r₁` last, the model is free again before `r₂` has ended
  have hp : (rows.erase r₁ ++ [r₁]).Perm rows :=
    (perm_append_singleton r₁ (rows.erase r₁)).trans (perm_cons_erase hmem₁).symm
  have hm : (rowsOf names name (rows.erase r₁ ++ [r₁])).Perm (rowsOf names name rows) :=
    rowsOf_perm hp name
  have hok' : Succeeds accounts start names wallNow now (rows.erase r₁ ++ [r₁]) :=
    (succeeds_perm hp).mpr hok
  have hl : ∀ r ∈ (rowsOf names name rows).filter (·.cools wallNow),
      now + r.remaining wallNow < now + r₂.remaining wallNow := by
    intro r hr
    obtain ⟨hr, hc⟩ := mem_filter.mp hr
    refine (add_lt_add_iff_left now).mpr (not_le.mp fun hle => ?_)
    exact hno ⟨r, hr, hc, hle⟩
  have hst : max 0 (now + r₁.remaining wallNow) < now + r₂.remaining wallNow :=
    max_lt hs ((add_lt_add_iff_left now).mpr hlt)
  obtain ⟨t, hxt, htb, hall⟩ := exists_between _ (fun r => now + r.remaining wallNow) hst hl
  have hw : now ≤ t :=
    (le_add_of_nonneg_right (r₁.remaining_nonneg wallNow)).trans ((le_max_right _ _).trans hxt)
  have hu := (h _ hp hok' name mod).2 r₂ (hp.mem_iff.mpr hmem₂)
    (decide_eq_true ⟨of_decide_eq_true ht₂, .inr (of_decide_eq_true hd₂).2.2⟩) t hw htb
  rw [← Bool.not_eq_true, isModelHealthy_hydrated hok'] at hu
  refine hu ⟨hk, ?_, ⟨(le_max_left _ _).trans hxt, ?_⟩, ?_⟩
  · intro r hr
    exact hf r (hm.mem_iff.mp hr)
  · intro r hr hc
    exact hall r (mem_filter.mpr ⟨hm.mem_iff.mp hr, hc⟩)
  · intro r hr
    simp [rowsOf, ht₁, hd₁] at hr
    subst hr
    exact (le_max_right _ _).trans hxt

/--
**When the order of backoff rows is free.** For every batch, in every order on which
hydration into a new manager succeeds the gate gives the same answers, and waits for
every capped deadline in its scope, exactly if the live rows of each model of an
account that no row bars end together, or the longer of them is outlasted by an
account-wide row.
-/
theorem hydration_order_free_iff (accounts : List (Int × String)) (start : Rat)
    (names : OrdMap Int String) (wallNow now : Rat) (rows : List AccountBackoffRecord) :
    OrderFree accounts start names wallNow now rows ↔
      (Succeeds accounts start names wallNow now rows →
        ModelRowsAgree accounts start names wallNow now rows) :=
  ⟨agree_of_orderFree, orderFree_of_agree⟩

/--
Two rows of one model, with 100 and 10 seconds left: with the shorter one last the
model is healthy after 50 seconds, with the longer one last it is not.
-/
theorem hydration_order_shows :
    let long : AccountBackoffRecord := ⟨1, some "model", .modelUnavailable, 1, some 100⟩
    let short : AccountBackoffRecord := ⟨1, some "model", .rateLimited, 1, some 10⟩
    let names : OrdMap Int String := .set .empty 1 "a"
    ([long, short].map fun r => (r.accountId, r.modelId, r.reason)).Nodup ∧
      ¬ OrderFree [(1, "a")] 0 names 0 0 [long, short] := by
  intro long short names
  refine ⟨by decide, fun h => ?_⟩
  have hok : Succeeds [(1, "a")] 0 names 0 0 [short, long] := ⟨(2, 0), by decide +kernel⟩
  have hsame := (h [short, long] (.swap long short []) hok "a" "model").1 50 (by decide)
  revert hsame
  decide +kernel

end HealthManager

end EggPool.Health
