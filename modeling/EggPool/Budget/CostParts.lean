import EggPool.Budget.Ledger
import EggPool.Coordinator.Finalization
import EggPool.Lib.Run

/-!
# Where a bucket's cost comes from

The cost of a usage bucket is kept as a total and in three parts: what providers reported,
what was estimated here, and what was charged from the hold because usage stayed unknown.
The total is what the settled requests were charged, each once and by its attempts. The
parts make up the total unless the first two exceed it: the fallback part only fills a
gap, and an attempt for which a provider's report and an estimate are both on record puts
both into the parts and one of them into the total.
-/

namespace EggPool.Budget

open EggPool.Lib BudgetScope List

/-! ## Recording and settling -/

structure BudgetAttemptSettlement where
  (requestId attemptId : Int)
  (attemptTransitioned terminalizeRequest : Bool)
  (inputTokens outputTokens costMicrodollars : Int)
  (providerReportedMicrodollars localEstimatedMicrodollars : Option Int)
  (tokensKnown costKnown : Bool)
deriving DecidableEq, Repr

/-- The row an attempt is recorded as. -/
def BudgetAttemptSettlement.usage (s : BudgetAttemptSettlement) : AttemptUsage :=
  let localCost := max ((s.localEstimatedMicrodollars.or
    (if s.providerReportedMicrodollars.isNone && 0 < s.costMicrodollars then
      some s.costMicrodollars else none)).getD 0) 0
  { attemptId := s.attemptId
    requestId := s.requestId
    inputTokens := max s.inputTokens 0
    outputTokens := max s.outputTokens 0
    costMicrodollars := max s.costMicrodollars 0
    providerReportedMicrodollars := max (s.providerReportedMicrodollars.getD 0) 0
    localEstimatedMicrodollars := localCost
    costSource :=
      if s.providerReportedMicrodollars.isSome then "provider_reported"
      else if 0 < localCost then "local_estimated" else "unknown"
    tokensKnown := s.tokensKnown
    costKnown := s.costKnown }

/-- The attempts on record once the call has recorded its own. -/
def BudgetAttemptSettlement.recorded (s : BudgetAttemptSettlement) (attempts : AttemptUsageTable) :
    AttemptUsageTable :=
  if s.attemptTransitioned then recordAttemptUsage attempts s.usage else attempts

def recordAttemptAndMaybeSettle {ω : Type} [DecidableEq ω] (scope : BudgetScope ω)
    (attempts : AttemptUsageTable) (s : BudgetAttemptSettlement) (now : String) :
    BudgetScope ω × AttemptUsageTable :=
  (scope.maybeSettle (s.recorded attempts) s.requestId s.terminalizeRequest now,
    s.recorded attempts)

/-- What a finalization hands over. -/
def settlementOf (f : Coordinator.Finalization) (attemptTransitioned : Bool) :
    BudgetAttemptSettlement where
  requestId := f.identity.dbRequestId
  attemptId := f.identity.attemptId
  attemptTransitioned := attemptTransitioned
  terminalizeRequest := f.terminalizeRequest
  inputTokens := f.data.inputTokens
  outputTokens := f.data.outputTokens
  costMicrodollars := f.data.costMicrodollars
  providerReportedMicrodollars := f.data.providerCostMicrodollars
  localEstimatedMicrodollars := f.data.localCostMicrodollars
  tokensKnown := f.tokensKnown
  costKnown := f.costKnown

/-- A finalization settles both scopes by this call. -/
theorem settle_eq (f : Coordinator.Finalization) (db : Store.Db) (t : Bool) :
    ((f.settle db t).userBudget, (f.settle db t).attemptUsage) =
      recordAttemptAndMaybeSettle db.userBudget db.attemptUsage (settlementOf f t) f.now ∧
    ((f.settle db t).instanceBudget, (f.settle db t).attemptUsage) =
      recordAttemptAndMaybeSettle db.instanceBudget db.attemptUsage (settlementOf f t) f.now :=
  ⟨rfl, rfl⟩

/-! ## Who was charged what -/

/-- A settled request: its hold, and the attempts that were on record for it. -/
structure ChargedRequest (ω : Type) where
  hold : HoldRow ω
  attempts : List AttemptUsage

namespace ChargedRequest

variable {ω : Type} (c : ChargedRequest ω)

/-- The costs of the attempts. -/
def attemptCost : Int := (c.attempts.map (·.costMicrodollars)).sum

/-- What providers reported and what was estimated for the attempts. -/
def attributedCost : Int :=
  (c.attempts.map fun u => u.providerReportedMicrodollars + u.localEstimatedMicrodollars).sum

def allKnown : Bool := c.attempts.all (·.costKnown)

/-- What the attempts are charged: their costs, and for unknown ones what is left of the hold. -/
def chargedCost : Int :=
  c.attemptCost + if c.allKnown then 0 else max (c.hold.heldMicrodollars - c.attemptCost) 0

def inBucket [DecidableEq ω] (key : UsageKey ω) (c : ChargedRequest ω) : Bool :=
  c.hold.owner = key.owner && c.hold.modelId = key.modelId &&
    c.hold.start key.window = key.windowStart

end ChargedRequest

/-! ## The sums of a settlement -/

/-- Summing over one request is summing over its attempts. -/
theorem sumBy_request (attempts : AttemptUsageTable) (requestId : Int) (f : AttemptUsage → Int) :
    attempts.sumBy (fun u => if u.requestId = requestId then f u else 0) =
      ((attempts.rows.filter (·.requestId = requestId)).map f).sum := by
  unfold Table.sumBy
  induction attempts.rows with
  | nil => rfl
  | cons u rows ih =>
    by_cases hu : u.requestId = requestId
    · simp [hu, ih]
    · simp [hu, ih]

/-- What is settled for a request: its hold and its attempts. -/
def chargedFor {ω : Type} (hold : HoldRow ω) (attempts : AttemptUsageTable) (requestId : Int) :
    ChargedRequest ω :=
  ⟨hold, attempts.rows.filter (·.requestId = requestId)⟩

section Sums

variable {ω : Type} (hold : HoldRow ω) (attempts : AttemptUsageTable) (requestId : Int)

theorem observe_cost : (observe attempts requestId).cost =
    (chargedFor hold attempts requestId).attemptCost :=
  sumBy_request attempts requestId _

theorem observe_attributed :
    (observe attempts requestId).providerCost + (observe attempts requestId).localCost =
      (chargedFor hold attempts requestId).attributedCost := by
  unfold observe ChargedRequest.attributedCost chargedFor
  dsimp only
  rw [sumBy_request, sumBy_request, ← sum_map_add]

theorem observe_unknown : 0 < (observe attempts requestId).costUnknown ↔
    (chargedFor hold attempts requestId).allKnown = false := by
  unfold observe ChargedRequest.allKnown chargedFor
  dsimp only
  rw [sumBy_request]
  induction attempts.rows.filter (·.requestId = requestId) with
  | nil => exact iff_of_false (lt_irrefl _) (by decide)
  | cons u rows ih =>
    have hn : 0 ≤ (rows.map fun u => if u.costKnown = true then (0 : Int) else 1).sum := by
      refine sum_nonneg fun x hx => ?_
      obtain ⟨u, -, rfl⟩ := mem_map.mp hx
      split <;> decide
    rw [map_cons, all_cons]
    cases u.costKnown with
    | true => simpa using ih
    | false => exact iff_of_true (by simpa using Int.add_pos_of_pos_of_nonneg one_pos hn) rfl

/-- **What a settlement charges.** -/
theorem charge_eq : charge (observe attempts requestId).costUnknown hold.heldMicrodollars
    (observe attempts requestId).cost = (chargedFor hold attempts requestId).chargedCost := by
  have hu := observe_unknown hold attempts requestId
  unfold charge ChargedRequest.chargedCost
  rw [observe_cost hold]
  cases hk : (chargedFor hold attempts requestId).allKnown with
  | true =>
    have hn : ¬ 0 < (observe attempts requestId).costUnknown := by
      rw [hu, hk]
      decide
    rw [if_neg hn, if_pos rfl, add_zero]
  | false =>
    rw [if_pos (hu.mpr hk)]
    show max hold.heldMicrodollars _ = _ + max (hold.heldMicrodollars - _) 0
    omega

/-- The total of a bucket is the sum of its parts. -/
def PartsAddUp (u : UsageCounts) : Prop :=
  u.costMicrodollars = u.providerReportedMicrodollars + u.localEstimatedMicrodollars +
    u.reservationFallbackMicrodollars

/-- What the parts have in excess of the total. -/
def excess (u : UsageCounts) : Int :=
  u.providerReportedMicrodollars + u.localEstimatedMicrodollars +
    u.reservationFallbackMicrodollars - u.costMicrodollars

theorem excess_add (u v : UsageCounts) : excess (u + v) = excess u + excess v := by
  show (u.providerReportedMicrodollars + v.providerReportedMicrodollars) +
    (u.localEstimatedMicrodollars + v.localEstimatedMicrodollars) +
    (u.reservationFallbackMicrodollars + v.reservationFallbackMicrodollars) -
    (u.costMicrodollars + v.costMicrodollars) = _
  unfold excess
  omega

/-- The attributed costs of the attempts stay within what the request is charged: within their
costs, or within the hold if some cost is unknown. -/
def ChargedRequest.Attributable (c : ChargedRequest ω) : Prop :=
  c.attributedCost ≤ c.attemptCost ∨
    c.allKnown = false ∧ c.attributedCost ≤ c.hold.heldMicrodollars

/-- **The fallback fills a gap and leaves an excess.** -/
theorem excess_settledCounts : excess (settledCounts hold (observe attempts requestId)) = 0 ↔
    (chargedFor hold attempts requestId).Attributable := by
  have hc := charge_eq hold attempts requestId
  have ha := observe_attributed hold attempts requestId
  unfold excess settledCounts ChargedRequest.Attributable
  rw [hc]
  unfold ChargedRequest.chargedCost at *
  cases (chargedFor hold attempts requestId).allKnown with
  | true | false => simp; omega

end Sums

/-! ## Runs -/

/-- A scope with the attempts on record, and the history of its settlements. -/
structure CostLedger (ω : Type) where
  scope : BudgetScope ω
  attempts : AttemptUsageTable
  charged : List (ChargedRequest ω)

inductive CostOp (ω : Type)
  | reserve (requestId : Int) (owner : ω) (modelId : String) (permit : BudgetPermit)
      (hold : BudgetHold) (expiresAt : String)
  | extend (requestId tokens microdollars : Int)
  | release (requestIds : List Int)
  | attempt (settlement : BudgetAttemptSettlement) (now : String)

namespace CostLedger

variable {ω : Type} [DecidableEq ω]

def init (rules : List (BudgetRule ω)) : CostLedger ω := ⟨⟨rules, .empty, .empty⟩, .empty, []⟩

/-- The request that a call settles. -/
def settledBy (l : CostLedger ω) (s : BudgetAttemptSettlement) : Option (ChargedRequest ω) :=
  if s.terminalizeRequest then
    (l.scope.activeHold? s.requestId).map fun hold =>
      ⟨hold, (s.recorded l.attempts).rows.filter (·.requestId = s.requestId)⟩
  else none

def step (l : CostLedger ω) : CostOp ω → CostLedger ω
  | .reserve requestId owner modelId permit hold expiresAt =>
    -- the request is the primary key
    if (l.scope.holds.get? requestId).isSome then l
    else { l with scope := l.scope.insertReservation requestId owner modelId permit hold expiresAt }
  | .extend requestId tokens microdollars =>
    { l with scope := l.scope.addToHold requestId tokens microdollars }
  | .release requestIds => { l with scope := l.scope.releaseHolds requestIds }
  | .attempt s now =>
    let (scope, attempts) := recordAttemptAndMaybeSettle l.scope l.attempts s now
    ⟨scope, attempts, l.charged ++ (l.settledBy s).toList⟩

/-- Every settled request was charged once, and the totals are what was charged. -/
structure Charged (l : CostLedger ω) : Prop where
  once : (l.charged.map (·.hold.requestId)).Nodup
  settled : ∀ requestId, (∃ c ∈ l.charged, c.hold.requestId = requestId) ↔
    ∃ h, l.scope.holds.get? requestId = some h ∧ h.status = .settled
  totals : ∀ key : UsageKey ω, l.scope.usage.total (· = key) (·.costMicrodollars) =
    (l.charged.map fun c => if c.inBucket key then c.chargedCost else 0).sum

/-- **Conservation of cost.** -/
structure Conserved (l : CostLedger ω) : Prop where
  parts : ∀ row ∈ l.scope.usage.entries, PartsAddUp row.2
  charged : l.Charged

/-! ## One call -/

variable {l : CostLedger ω}

/-- What a call does to a scope: nothing, or it settles one request. -/
theorem step_attempt (l : CostLedger ω) (s : BudgetAttemptSettlement) (now : String) :
    (l.settledBy s = none ∧
      l.step (.attempt s now) = ⟨l.scope, s.recorded l.attempts, l.charged⟩) ∨
    ∃ hold, l.scope.activeHold? s.requestId = some hold ∧
      l.settledBy s = some (chargedFor hold (s.recorded l.attempts) s.requestId) ∧
      l.step (.attempt s now) =
        ⟨l.scope.maybeSettle (s.recorded l.attempts) s.requestId true now, s.recorded l.attempts,
          l.charged ++ [chargedFor hold (s.recorded l.attempts) s.requestId]⟩ := by
  simp only [step, recordAttemptAndMaybeSettle, settledBy]
  cases s.terminalizeRequest with
  | false => exact .inl ⟨rfl, by simp [maybeSettle_eq_self (.inr rfl)]⟩
  | true =>
    cases hact : l.scope.activeHold? s.requestId with
    | none => exact .inl ⟨rfl, by simp [maybeSettle_eq_self (.inl hact)]⟩
    | some hold => exact .inr ⟨hold, rfl, rfl, rfl⟩

omit [DecidableEq ω] in
/-- An update that neither finds nor makes settled rows leaves the settled ones as they were. -/
theorem settled_update {ho : Table (HoldRow.requestId : HoldRow ω → Int)}
    {p : HoldRow ω → Bool} {g : HoldRow ω → HoldRow ω} (hg : ∀ r, (g r).requestId = r.requestId)
    (hb : ∀ r, p r = true → r.status ≠ .settled)
    (ha : ∀ r, p r = true → (g r).status ≠ .settled) (requestId : Int) :
    (∃ h, (ho.update p g hg).get? requestId = some h ∧ h.status = .settled) ↔
      ∃ h, ho.get? requestId = some h ∧ h.status = .settled := by
  rw [Table.get?_update]
  cases ho.get? requestId with
  | none => rfl
  | some h =>
    simp
    split
    · rename_i hp
      exact iff_of_false (ha h hp) (hb h hp)
    · rfl

omit [DecidableEq ω] in
theorem status_of_activeFor {requestId : Int} {r : HoldRow ω}
    (h : BudgetScope.activeFor requestId r = true) : r.status = .active := by
  simp only [activeFor, Bool.and_eq_true, decide_eq_true_eq] at h
  exact h.2

theorem Charged.extend (h : l.Charged) (requestId t m : Int) :
    (l.step (.extend requestId t m)).Charged where
  once := h.once
  totals := h.totals
  settled id := (h.settled id).trans (settled_update (requestId_extendedRow t m)
    (fun r hr => by rw [status_of_activeFor hr]; decide)
    (fun r hr => by
      show r.status ≠ .settled
      rw [status_of_activeFor hr]
      decide) id).symm

theorem Charged.release (h : l.Charged) (ri : List Int) : (l.step (.release ri)).Charged where
  once := h.once
  totals := h.totals
  settled id := (h.settled id).trans (settled_update requestId_releasedRow
    (fun r hr => by
      simp only [heldBy, Bool.and_eq_true, decide_eq_true_eq] at hr
      rw [hr.1]
      decide)
    (fun r _ => HoldStatus.noConfusion) id).symm

theorem Charged.reserve (h : l.Charged) (requestId : Int) (o : ω) (m : String)
    (p : BudgetPermit) (hold : BudgetHold) (ea : String) :
    (l.step (.reserve requestId o m p hold ea)).Charged := by
  unfold step
  dsimp only
  split
  · exact h
  rename_i hf
  refine ⟨h.once, fun id => (h.settled id).trans ?_, h.totals⟩
  unfold insertReservation
  rw [Table.get?_insert]
  split
  · rename_i hid
    have hn : l.scope.holds.get? id = none := by
      rw [← hid]
      exact Option.not_isSome_iff_eq_none.mp hf
    refine iff_of_false ?_ ?_
    · rintro ⟨row, hrow, -⟩
      rw [hn] at hrow
      cases hrow
    · rintro ⟨row, hrow, hs⟩
      cases hrow
      cases hs
  · rfl

/-- The two buckets of a settlement are the ones that its request counts in. -/
theorem sum_buckets (hold : HoldRow ω) (c : ChargedRequest ω) (hc : c.hold = hold) (key : UsageKey ω)
    (x : Int) :
    (if decide ((⟨hold.owner, hold.modelId, .day, hold.dayStart⟩ : UsageKey ω) = key) = true
      then x else 0) +
    (if decide ((⟨hold.owner, hold.modelId, .month, hold.monthStart⟩ : UsageKey ω) = key) = true
      then x else 0) = if c.inBucket key then x else 0 := by
  subst hc
  obtain ⟨owner, modelId, win, ws⟩ := key
  unfold ChargedRequest.inBucket HoldRow.start
  cases win with
  | day | month => simp [and_assoc]

/-- **A settlement charges a request that was not charged before.** -/
theorem Charged.attempt (h : l.Charged) (s : BudgetAttemptSettlement) (now : String) :
    (l.step (.attempt s now)).Charged := by
  rcases l.step_attempt s now with ⟨-, heq⟩ | ⟨hold, hact, -, heq⟩
  · rw [heq]
    exact ⟨h.once, h.settled, h.totals⟩
  rw [heq, maybeSettle_of_active hact]
  obtain ⟨hget, hst⟩ := activeHold?_eq_some.mp hact
  have hid : hold.requestId = s.requestId := Table.key_of_get? hget
  have hf : ¬ ∃ c ∈ l.charged, c.hold.requestId = s.requestId := by
    rw [h.settled]
    rintro ⟨row, hrow, ht⟩
    rw [hget, Option.some.injEq] at hrow
    rw [← hrow, hst] at ht
    cases ht
  refine ⟨?_, fun id => ?_, fun key => ?_⟩
  · rw [map_append]
    refine h.once.append (nodup_singleton _) (disjoint_singleton.mpr fun hin => hf ?_)
    obtain ⟨c, hc, heq⟩ := mem_map.mp hin
    exact ⟨c, hc, heq.trans hid⟩
  · by_cases hs : id = s.requestId
    · subst hs
      rw [Table.get?_update, hget, Option.map_some, if_pos (activeFor_of_activeHold? hact)]
      exact iff_of_true ⟨_, mem_append_right _ (mem_singleton_self _), hid⟩ ⟨_, rfl, rfl⟩
    · rw [get?_update_activeFor hs, ← h.settled id]
      simp only [mem_append, mem_singleton]
      constructor
      · rintro ⟨c, hc | rfl, hd⟩
        · exact ⟨c, hc, hd⟩
        · exact absurd (hd.symm.trans hid) hs
      · rintro ⟨c, hc, hd⟩
        exact ⟨c, .inl hc, hd⟩
  · rw [Buckets.total_bump (fun _ _ => rfl), Buckets.total_bump (fun _ _ => rfl), h.totals key,
      map_append, sum_append, add_assoc]
    rw [map_singleton, sum_singleton,
      ← sum_buckets hold (chargedFor hold (s.recorded l.attempts) s.requestId) rfl, ← charge_eq]
    rfl

theorem Charged.step (h : l.Charged) (op : CostOp ω) : (l.step op).Charged := by
  cases op with
  | reserve requestId own mi per hold ea =>
    exact h.reserve requestId own mi per hold ea
  | extend requestId tok mic => exact h.extend requestId tok mic
  | release ri => exact h.release ri
  | attempt s now => exact h.attempt s now

/-! ## Parts and totals -/

theorem partsAddUp_all_iff {s : BudgetScope ω} : (∀ row ∈ s.usage.entries, PartsAddUp row.2) ↔
      ∀ key, s.usage.total (· = key) excess = 0 := by
  rw [Buckets.forall_total_eq_zero_iff]
  exact forall₂_congr fun row _ => by unfold PartsAddUp excess; omega

/-- The parts a settlement adds up exactly if the attributed costs are within the charge. -/
def Fits (l : CostLedger ω) : CostOp ω → Prop
  | .attempt s _ => ∀ c, l.settledBy s = some c → c.Attributable
  | _ => True

/-- **One step.** -/
theorem step_conserved_iff (h : l.Conserved) (op : CostOp ω) :
    (l.step op).Conserved ↔ l.Fits op := by
  have hh := h.charged.step op
  have hp := partsAddUp_all_iff.mp h.parts
  suffices hs : (∀ row ∈ (l.step op).scope.usage.entries, PartsAddUp row.2) ↔ l.Fits op from
    ⟨fun h => hs.mp h.parts, fun hfit => ⟨hs.mpr hfit, hh⟩⟩
  cases op with
  | reserve requestId own mi per hold ea =>
    refine iff_of_true ?_ trivial
    unfold step
    dsimp only
    split <;> exact h.parts
  | extend | release => exact iff_of_true h.parts trivial
  | attempt s now =>
    show _ ↔ ∀ c, l.settledBy s = some c → c.Attributable
    rcases l.step_attempt s now with ⟨hn, heq⟩ | ⟨hold, hact, hm, heq⟩
    · rw [heq, hn]
      exact iff_of_true h.parts fun c hc => by cases hc
    rw [heq, maybeSettle_of_active hact, hm, partsAddUp_all_iff]
    simp only [Option.some.injEq, forall_eq']
    rw [← excess_settledCounts]
    have ht : ∀ key, ((l.scope.usage.bump ⟨hold.owner, hold.modelId, .day, hold.dayStart⟩
        (settledCounts hold (observe (s.recorded l.attempts) s.requestId))).bump
        ⟨hold.owner, hold.modelId, .month, hold.monthStart⟩
        (settledCounts hold (observe (s.recorded l.attempts) s.requestId))).total (· = key) excess =
        if (chargedFor hold (s.recorded l.attempts) s.requestId).inBucket key then
          excess (settledCounts hold (observe (s.recorded l.attempts) s.requestId)) else 0 := by
      intro key
      rw [Buckets.total_bump excess_add, Buckets.total_bump excess_add, hp key, zero_add,
        sum_buckets hold (chargedFor hold (s.recorded l.attempts) s.requestId) rfl]
    constructor
    · intro hall
      have hd := hall ⟨hold.owner, hold.modelId, .day, hold.dayStart⟩
      rwa [ht, if_pos (by simp [ChargedRequest.inBucket, chargedFor, HoldRow.start])] at hd
    · intro hz key
      rw [ht, hz, ite_self]

theorem conserved_init (r : List (BudgetRule ω)) : (init r).Conserved where
  parts row hrow := absurd hrow not_mem_nil
  charged := {
    once := .nil
    settled := fun id => iff_of_false (by rintro ⟨c, hc, -⟩; cases hc)
      (by rintro ⟨row, hrow, -⟩; cases hrow)
    totals := fun key => rfl }

/-- **Cost is conserved along a run exactly if no settlement attributes more than it charges.** -/
theorem cost_conserved_iff (rules : List (BudgetRule ω)) (ops : List (CostOp ω)) :
    (∀ first, first <+: ops → (run step (init rules) first).Conserved) ↔
      Along step Fits (init rules) ops :=
  forall_prefix_iff_along (conserved_init rules) fun _ op _ h => step_conserved_iff h op

/-- A provider's report of 25 and an estimate of 20 for one attempt that costs 25. -/
theorem both_sources_exceed_total : ((run step (init ([] : List (BudgetRule String))) [
        .reserve 1 "alice" "m" ⟨1, "2026-01-01", "2026-01-01"⟩ ⟨100, 30, .estimated, 0, 0, none⟩ "later",
        .attempt ⟨1, 1, true, true, 10, 5, 25, some 25, some 20, true, true⟩ "now"]).scope.usage.entries.map
      fun row => (row.2.costMicrodollars, row.2.providerReportedMicrodollars,
        row.2.localEstimatedMicrodollars, row.2.reservationFallbackMicrodollars)) =
      [(25, 25, 20, 0), (25, 25, 20, 0)] := by
  decide +kernel

end CostLedger

end EggPool.Budget
