import EggPool.Coordinator.HardLimits

/-!
# Usage a provider did not report

A provider may report only a part of an attempt's token counts. Settlement has a
fallback for usage it does not know: it charges the request's hold. Whether usage is
known is one flag per attempt, and one reported counter sets it, so a counter that is
missing beside a reported one is charged as zero.

Which counters were reported is not a column of the usage table. The run carries the
report of each attempt beside the database, as it carries the budget proofs, and
`settled_covers_iff` compares what a settlement puts into the buckets with what the
recorded attempts could have consumed.
-/

namespace EggPool.Coordinator

open EggPool.Lib EggPool.Budget EggPool.Store Finalization Table

/-! ## Reports -/

/-- The token counts reported for one attempt. -/
structure TokenReport where
  (input output total : Option Int)
deriving DecidableEq, Repr

/-- A counter that was reported, or that came with a positive count. -/
def reportedCount (reported : Option Int) (count : Int) : Option Int :=
  if reported.isSome || 0 < count then some (max count 0) else none

def FinalizationData.tokenReport (data : FinalizationData) : TokenReport where
  input := reportedCount data.inputTokensReported data.inputTokens
  output := reportedCount data.outputTokensReported data.outputTokens
  total := data.totalTokensReported

/-- The worst case of an attempt's input. -/
def worstInput (proof : Option BudgetProof) : Int :=
  max ((proof.map (·.inputWorstCaseTokens)).getD 0) 0

/-- The worst case of an attempt's output. -/
def worstOutput (proof : Option BudgetProof) : Int :=
  max ((proof.bind (·.requestedOutputTokens)).getD 0) 0

namespace TokenReport

variable (r : TokenReport)

/-- The tokens the report counts. -/
def counted : Int := r.input.getD 0 + r.output.getD 0

/-- Something was reported. -/
def isKnown : Bool := r.input.isSome || r.output.isSome || r.total.isSome

/--
What the attempt could have consumed beyond the counted tokens. A total says it
exactly; without one each missing component may have been as large as its worst case.
-/
def missing (proof : Option BudgetProof) : Int :=
  match r.input, r.output, r.total with
  | some _, some _, _ => 0
  | _, _, some total => max (total - r.counted) 0
  | none, some _, none => worstInput proof
  | some _, none, none => worstOutput proof
  | none, none, none => worstInput proof + worstOutput proof

/-- What the attempt could have consumed, given the report. -/
def consumable (proof : Option BudgetProof) : Int := r.counted + r.missing proof

theorem missing_nonneg (proof : Option BudgetProof) : 0 ≤ r.missing proof := by
  have hin : 0 ≤ worstInput proof := le_max_right _ _
  have hout : 0 ≤ worstOutput proof := le_max_right _ _
  unfold missing
  split
  · exact le_refl 0
  · exact le_max_right _ _
  · exact hin
  · exact hout
  · exact Int.add_nonneg hin hout

end TokenReport

theorem getD_reportedCount (r : Option Int) (c : Int) : (reportedCount r c).getD 0 = max c 0 := by
  unfold reportedCount
  split
  · rfl
  rename_i h
  simp only [Bool.or_eq_true, decide_eq_true_eq, not_or, Int.not_lt] at h
  exact (max_eq_right h.2).symm

theorem isSome_reportedCount (r : Option Int) (c : Int) :
    (reportedCount r c).isSome = (r.isSome || decide (0 < c)) := by
  unfold reportedCount
  split <;> simp_all

/-- The usage row of an attempt counts what was reported … -/
theorem counted_attemptUsage (f : Finalization) :
    f.attemptUsage.inputTokens + f.attemptUsage.outputTokens = f.data.tokenReport.counted := by
  simp only [TokenReport.counted, FinalizationData.tokenReport, getD_reportedCount]
  rfl

/-- … and calls it known as soon as anything was. -/
theorem known_attemptUsage (f : Finalization) :
    f.attemptUsage.tokensKnown = f.data.tokenReport.isKnown := by
  simp only [TokenReport.isKnown, FinalizationData.tokenReport, isSome_reportedCount]
  show f.tokensKnown = _
  unfold tokensKnown
  grind

/-! ## Runs with their reports -/

/-- A run's state, and the report each attempt was recorded with. -/
structure Billed where
  recorded : Recorded
  reports : Int → TokenReport

namespace Billed

def start (directory : Directory) (userRules : List (BudgetRule String))
    (instanceRules : List (BudgetRule Unit)) : Billed :=
  ⟨Recorded.start directory userRules instanceRules, fun _ => ⟨none, none, none⟩⟩

/-- The first facts of an attempt are the ones that count. -/
def noteReport (s : Billed) : Step → Int → TokenReport
  | .finalize f =>
    if (s.recorded.db.attemptUsage.get? f.identity.attemptId).isNone then
      Function.update s.reports f.identity.attemptId f.data.tokenReport
    else s.reports
  | _ => s.reports

def step (s : Billed) (a : Step) : Billed := ⟨s.recorded.step a, s.noteReport a⟩

/-- The database of a run does not depend on the reports kept beside it. -/
theorem recorded_run (s : Billed) (steps : List Step) :
    (run step s steps).recorded = run Recorded.step s.recorded steps := by
  induction steps generalizing s with
  | nil => rfl
  | cons a steps ih => exact ih (s.step a)

/-- Every usage row says what its attempt's report says, and its attempt is closed. -/
structure Matched (s : Billed) : Prop where
  counted : ∀ u ∈ s.recorded.db.attemptUsage.rows,
    u.inputTokens + u.outputTokens = (s.reports u.attemptId).counted
  known : ∀ u ∈ s.recorded.db.attemptUsage.rows,
    u.tokensKnown = (s.reports u.attemptId).isKnown
  closed : ∀ u ∈ s.recorded.db.attemptUsage.rows,
    ∃ a, s.recorded.db.attempts.get? u.attemptId = some a ∧ a.completedAt.isSome = true

/-- A publication records no usage and leaves the attempts there are. -/
theorem publish_keeps (p : Publication) (db : Db) :
    (db.withTransaction p.publishTransaction).1.attemptUsage = db.attemptUsage ∧
    ∀ id a, db.attempts.get? id = some a →
      (db.withTransaction p.publishTransaction).1.attempts.get? id = some a := by
  -- a new attempt has a number of its own
  have ha : ∀ requestId id a, db.attempts.get? id = some a →
      (db.attempts.append (p.newAttempt requestId) (p.id_newAttempt requestId)).get? id =
        some a := by
    intro requestId id a hget
    have hb := db.attempts.bound a (mem_of_get? hget)
    have hid : a.id = id := key_of_get? hget
    rwa [AutoTable.get?_append, if_neg (by omega)]
  unfold Db.withTransaction
  cases hrun : p.publishTransaction db with
  | error e => exact ⟨rfl, fun _ _ h => h⟩
  | ok out =>
    obtain ⟨db', outcome⟩ := out
    cases Publication.publishTransaction_effect hrun with
    | refused | stranded => exact ⟨rfl, fun _ _ h => h⟩
    | retried | first => exact ⟨rfl, ha _⟩

/-- A rewrite of attempts that reopens none. -/
theorem closed_update {att : Attempts} {p : Attempt → Bool} {g : Attempt → Attempt}
    {hg : ∀ a, (g a).id = a.id} (hc : ∀ a, (g a).completedAt.isSome = true) {id : Int}
    (h : ∃ a, att.get? id = some a ∧ a.completedAt.isSome = true) :
    ∃ a, (att.update p g hg).get? id = some a ∧ a.completedAt.isSome = true := by
  obtain ⟨a, hget, hd⟩ := h
  rw [AutoTable.toTable_update, get?_update, hget]
  refine ⟨_, rfl, ?_⟩
  dsimp only
  split
  · exact hc a
  · exact hd

variable {s : Billed} {f : Finalization}

/-- An open attempt has no usage row. -/
theorem Matched.get?_of_transitions (h : s.Matched)
    (ho : f.attemptTransitions s.recorded.db = true) :
    s.recorded.db.attemptUsage.get? f.identity.attemptId = none := by
  rw [get?_eq_none]
  intro u hu heq
  obtain ⟨a, hget, hd⟩ := h.closed u hu
  rw [heq] at hget
  rw [attemptTransitions, hget, Option.any_some, selectsAttempt, Bool.and_eq_true] at ho
  rw [Option.isNone_iff_eq_none.mp ho.2] at hd
  cases hd

/-- The row of a closed attempt, after a finalization noted its report. -/
theorem noteReport_of_mem {u : AttemptUsage} (hu : u ∈ s.recorded.db.attemptUsage.rows) :
    s.noteReport (.finalize f) u.attemptId = s.reports u.attemptId := by
  unfold noteReport
  dsimp only
  split
  · rename_i hn
    rw [Option.isNone_iff_eq_none, get?_eq_none] at hn
    exact Function.update_of_ne (hn u hu) _ _
  · rfl

section

variable (h : s.Matched)

include h

/-- A step that records no usage, reopens no attempt and leaves the reports there are. -/
theorem Matched.unrecorded {r : Recorded} {reports : Int → TokenReport}
    (hs : r.db.attemptUsage = s.recorded.db.attemptUsage)
    (hr : ∀ u ∈ s.recorded.db.attemptUsage.rows, reports u.attemptId = s.reports u.attemptId)
    (hc : ∀ id, (∃ a, s.recorded.db.attempts.get? id = some a ∧ a.completedAt.isSome = true) →
      ∃ a, r.db.attempts.get? id = some a ∧ a.completedAt.isSome = true) :
    Matched ⟨r, reports⟩ := by
  refine ⟨?_, ?_, ?_⟩ <;> dsimp only <;> rw [hs] <;> intro u hu
  · rw [hr u hu]
    exact h.counted u hu
  · rw [hr u hu]
    exact h.known u hu
  · exact hc u.attemptId (h.closed u hu)

/-- What is recorded when an open attempt is closed. -/
theorem usage_recorded (ho : f.attemptTransitions s.recorded.db = true) :
    (f.finalized s.recorded.db).1.attemptUsage =
      s.recorded.db.attemptUsage.insert f.attemptUsage := by
  show (if f.attemptTransitions s.recorded.db then
    recordAttemptUsage s.recorded.db.attemptUsage f.attemptUsage else _) = _
  rw [if_pos ho, recordAttemptUsage, if_neg]
  rw [show f.attemptUsage.attemptId = f.identity.attemptId from rfl, h.get?_of_transitions ho]
  exact Bool.false_ne_true

/-- A finalization that closes an open attempt and records its usage. -/
theorem Matched.recorded (ho : f.attemptTransitions s.recorded.db = true) :
    Matched ⟨⟨(f.finalized s.recorded.db).1, s.recorded.proofs⟩, s.noteReport (.finalize f)⟩ := by
  have hno := h.get?_of_transitions ho
  have hn : s.noteReport (.finalize f) f.identity.attemptId = f.data.tokenReport := by
    unfold noteReport
    dsimp only
    rw [if_pos (by rw [hno]; rfl), Function.update_self]
  refine ⟨?_, ?_, ?_⟩ <;> dsimp only <;> rw [usage_recorded h ho] <;> intro u hu <;>
    rcases mem_place hu with rfl | hu
  · rw [counted_attemptUsage]
    exact congrArg TokenReport.counted hn.symm
  · rw [noteReport_of_mem hu]
    exact h.counted u hu
  · rw [known_attemptUsage]
    exact congrArg TokenReport.isKnown hn.symm
  · rw [noteReport_of_mem hu]
    exact h.known u hu
  · obtain ⟨a, hget, hs⟩ := (Option.any_eq_true _ _).mp ho
    refine ⟨f.closedAttempt a, ?_, rfl⟩
    show (f.finalized s.recorded.db).1.attempts.get? f.identity.attemptId = _
    rw [get?_finalized_attempts, hget, Option.map_some, if_pos hs]
  · exact closed_update (fun _ => rfl) (h.closed u hu)

/-- **A finalization keeps rows and reports together.** -/
theorem Matched.finalize (f : Finalization) : (s.step (.finalize f)).Matched := by
  have hk : ∀ id, (∃ a, s.recorded.db.attempts.get? id = some a ∧
      a.completedAt.isSome = true) → ∃ a, (f.closeAttempt s.recorded.db).attempts.get? id = some a ∧
        a.completedAt.isSome = true :=
    fun id => closed_update (fun _ => rfl)
  rw [step, Recorded.step]
  rcases f.finalizeDurable_cases s.recorded.db with ⟨-, heq | heq | heq⟩ | ⟨-, heq⟩ <;> rw [heq]
  · exact h.unrecorded rfl (fun _ => noteReport_of_mem) fun _ hc => hc
  · exact h.unrecorded rfl (fun _ => noteReport_of_mem) fun _ hc => hc
  · exact h.unrecorded rfl (fun _ => noteReport_of_mem) hk
  · cases ho : f.attemptTransitions s.recorded.db with
    | true => exact h.recorded ho
    | false =>
      refine h.unrecorded ?_ (fun _ => noteReport_of_mem) hk
      show (if f.attemptTransitions s.recorded.db then _ else _) = _
      rw [ho]
      rfl

theorem Matched.step (a : Step) : (s.step a).Matched := by
  cases a with
  | publish p =>
    obtain ⟨hs, ha⟩ := publish_keeps p s.recorded.db
    rw [← Recorded.db_step_publish] at hs ha
    refine h.unrecorded hs (fun _ _ => rfl) ?_
    rintro id ⟨a, hget, hd⟩
    exact ⟨a, ha _ a hget, hd⟩
  | finalize f => exact h.finalize f
  | recover bat now =>
    exact h.unrecorded rfl (fun _ _ => rfl) fun _ => closed_update fun _ => rfl
  | administer dir => exact h.unrecorded rfl (fun _ _ => rfl) fun _ hc => hc

end

/-! ## What a settlement accounts for -/

/--
A figure added up over the attempts a finalization settles: those of its request that
were recorded before, and its own if it is still open.
-/
def accounted (s : Billed) (f : Finalization) (g : TokenReport → Option BudgetProof → Int) : Int :=
  s.recorded.db.attemptUsage.sumBy (fun u => if u.requestId = f.identity.dbRequestId then
      g (s.reports u.attemptId) (s.recorded.proofs u.attemptId) else 0) +
    if f.attemptTransitions s.recorded.db then
      g f.data.tokenReport (s.recorded.proofs f.identity.attemptId) else 0

/-- What those attempts could have consumed. -/
def consumable (s : Billed) (f : Finalization) : Int := s.accounted f TokenReport.consumable

/-- The part of it that no report counts. -/
def missing (s : Billed) (f : Finalization) : Int := s.accounted f TokenReport.missing

/-- How many of them reported nothing at all. -/
def silent (s : Billed) (f : Finalization) : Int :=
  s.accounted f fun r _ => if r.isKnown then 0 else 1

theorem consumable_eq (s : Billed) (f : Finalization) :
    s.consumable f = s.accounted f (fun r _ => r.counted) + s.missing f := by
  unfold consumable missing accounted
  simp only [TokenReport.consumable, ite_add_zero, sumBy, List.sum_map_add]
  ring

theorem missing_nonneg (s : Billed) (f : Finalization) : 0 ≤ s.missing f := by
  refine Int.add_nonneg (sumBy_nonneg fun u _ => ?_) ?_ <;> split
  · exact TokenReport.missing_nonneg _ _
  · exact le_refl 0
  · exact TokenReport.missing_nonneg _ _
  · exact le_refl 0

/-- What settlement reads is the accounted figure. -/
theorem sumBy_settled (h : s.Matched) (f : Finalization) {F : AttemptUsage → Int}
    {g : TokenReport → Option BudgetProof → Int} (hrow : ∀ u ∈ s.recorded.db.attemptUsage.rows,
      F u = g (s.reports u.attemptId) (s.recorded.proofs u.attemptId))
    (hw : F f.attemptUsage = g f.data.tokenReport (s.recorded.proofs f.identity.attemptId)) :
    (f.finalized s.recorded.db).1.attemptUsage.sumBy
      (fun u => if u.requestId = f.identity.dbRequestId then F u else 0) = s.accounted f g := by
  have hold : s.recorded.db.attemptUsage.sumBy
      (fun u => if u.requestId = f.identity.dbRequestId then F u else 0) =
      s.recorded.db.attemptUsage.sumBy (fun u => if u.requestId = f.identity.dbRequestId then
        g (s.reports u.attemptId) (s.recorded.proofs u.attemptId) else 0) :=
    sumBy_congr fun u hu => by rw [hrow u hu]
  unfold accounted
  cases ho : f.attemptTransitions s.recorded.db with
  | false =>
    have hs : (f.finalized s.recorded.db).1.attemptUsage = s.recorded.db.attemptUsage := by
      show (if f.attemptTransitions s.recorded.db then _ else _) = _
      rw [ho]
      rfl
    rw [hs, hold]
    simp
  | true =>
    have hm : f.attemptUsage.requestId = f.identity.dbRequestId := rfl
    rw [usage_recorded h ho, sumBy_insert (h.get?_of_transitions ho), hold, if_pos hm, hw, add_comm]
    rfl

/-! ## What a settlement charges -/

section Settled

variable {ω : Type} [DecidableEq ω]

/-- The tokens that went into the bucket of a hold and a window between two states. -/
def settledTokens (before after : BudgetScope ω) (h : HoldRow ω) (w : BudgetWindow) : Int :=
  after.usage.total (fun k => k = ⟨h.owner, h.modelId, w, h.start w⟩) UsageCounts.tokenCount -
    before.usage.total (fun k => k = ⟨h.owner, h.modelId, w, h.start w⟩) UsageCounts.tokenCount

/-- Both windows are charged the same. -/
theorem settledTokens_maybeSettle {sc : BudgetScope ω} {r : Int} {h : HoldRow ω}
    (hact : sc.activeHold? r = some h) (att : AttemptUsageTable) (now : String)
    (w : BudgetWindow) : settledTokens sc (sc.maybeSettle att r true now) h w =
      charge (observe att r).tokenUnknown h.heldTokens (observe att r).tokens := by
  have ha : ∀ x y : UsageCounts, (x + y).tokenCount = x.tokenCount + y.tokenCount :=
    fun _ _ => rfl
  rw [settledTokens, BudgetScope.maybeSettle_of_active hact, Buckets.total_bump ha,
    Buckets.total_bump ha]
  cases w <;> simp [HoldRow.start, settledCounts]

/-- **Settling one scope covers what the attempts could have consumed exactly when nothing is
missing, or the hold is charged and is large enough.** -/
theorem settled_covers {s : Billed} (hs : s.Matched) {sc : BudgetScope ω}
    {h : HoldRow ω} (hact : sc.activeHold? f.identity.dbRequestId = some h) (w : BudgetWindow) :
    s.consumable f ≤ settledTokens sc (sc.maybeSettle
        (f.finalized s.recorded.db).1.attemptUsage f.identity.dbRequestId true f.now) h w ↔
      s.missing f = 0 ∨ 0 < s.silent f ∧ s.consumable f ≤ h.heldTokens := by
  have ht : (observe (f.finalized s.recorded.db).1.attemptUsage
      f.identity.dbRequestId).tokens = s.accounted f (fun r _ => r.counted) :=
    sumBy_settled hs f hs.counted (counted_attemptUsage f)
  have hn : (observe (f.finalized s.recorded.db).1.attemptUsage
      f.identity.dbRequestId).tokenUnknown = s.silent f :=
    sumBy_settled hs f (fun u hu => by rw [hs.known u hu]) (by rw [known_attemptUsage])
  have hm := s.missing_nonneg f
  rw [settledTokens_maybeSettle hact, ht, charge, consumable_eq]
  split <;> omega

end Settled

/-- **A usage row says what was first reported**, and its attempt is closed, after any run. -/
theorem usage_rows_match (d : Directory) (u : List (BudgetRule String))
    (i : List (BudgetRule Unit)) (st : List Step) : (run step (start d u i) st).Matched :=
  run_invariant (fun _ a h => h.step a) (by constructor <;> intro u hu <;> cases hu) st

/--
**Tokens settled and tokens the recorded attempts could have consumed.** After any run, a
finalization that closes its request charges, in both scopes and both windows, at least what
the request's recorded attempts could have consumed given their reports, exactly when no
worst case is missing from the reports, or some attempt reported nothing at all and the
hold, which is charged then, is large enough.
-/
theorem settled_covers_iff (directory : Directory) (userRules : List (BudgetRule String))
    (instanceRules : List (BudgetRule Unit)) (steps : List Step) (f : Finalization)
    {r : FinalizationResult} {s : Billed}
    (hs : s = run step (start directory userRules instanceRules) steps)
    (hok : (f.finalizeDurable s.recorded.db).2 = .ok r) (hterm : f.terminalizeRequest = true) :
    (∀ h, s.recorded.db.userBudget.activeHold? f.identity.dbRequestId = some h → ∀ w,
      (s.consumable f ≤ settledTokens s.recorded.db.userBudget
          (s.step (.finalize f)).recorded.db.userBudget h w ↔
        s.missing f = 0 ∨ 0 < s.silent f ∧ s.consumable f ≤ h.heldTokens)) ∧
    (∀ h, s.recorded.db.instanceBudget.activeHold? f.identity.dbRequestId = some h → ∀ w,
      (s.consumable f ≤ settledTokens s.recorded.db.instanceBudget
          (s.step (.finalize f)).recorded.db.instanceBudget h w ↔
        s.missing f = 0 ∨ 0 < s.silent f ∧ s.consumable f ≤ h.heldTokens)) := by
  have hmatched : s.Matched := hs ▸ run_invariant (fun _ a h => h.step a)
    (by refine ⟨?_, ?_, ?_⟩ <;> intro u hu <;> cases hu) steps
  have hdb : (f.finalizeDurable s.recorded.db).1 = (f.finalized s.recorded.db).1 :=
    (finalizeDurable_eq_finalized hok).2
  have hstep : (s.step (.finalize f)).recorded.db = (f.finalized s.recorded.db).1 := hdb
  rw [hstep]
  constructor
  · intro h hact w
    have hiff := settled_covers hmatched hact w
    rwa [← hterm] at hiff
  · intro h hact w
    have hiff := settled_covers hmatched hact w
    rwa [← hterm] at hiff

/-- The proven attempt ends with a report of its input only. -/
def inputOnly : Finalization :=
  { Finalization.afterLastAccount with
    data := { outcome := .completed, inputTokens := 15, inputTokensReported := some 15 } }

/-- The same attempt with both counters reported. -/
def bothCounters : Finalization :=
  { Finalization.afterLastAccount with
    data := { outcome := .completed, inputTokens := 15, inputTokensReported := some 15,
              outputTokens := 7, outputTokensReported := some 7 } }

/-- One hard cap in each scope, and the first attempt published. -/
def oneAttempt : Billed :=
  run step (start Publication.drainedInstance.directory [Recorded.hardCap "user"]
    [Recorded.hardCap ()]) [.publish Recorded.provenAttempt]

/-- With both counters reported the settlement covers the 22 tokens consumed. -/
theorem settled_covers_both_counters :
    ∃ h, oneAttempt.recorded.db.userBudget.activeHold? 1 = some h ∧
      oneAttempt.consumable bothCounters = 22 ∧
      oneAttempt.consumable bothCounters ≤ settledTokens oneAttempt.recorded.db.userBudget
        (oneAttempt.step (.finalize bothCounters)).recorded.db.userBudget h .day := by
  obtain ⟨h, hact⟩ : ∃ h, oneAttempt.recorded.db.userBudget.activeHold? 1 = some h :=
    Option.isSome_iff_exists.mp (by decide +kernel)
  refine ⟨h, hact, by decide +kernel, ?_⟩
  exact ((settled_covers_iff Publication.drainedInstance.directory [Recorded.hardCap "user"]
    [Recorded.hardCap ()] [.publish Recorded.provenAttempt] bothCounters
    (r := ⟨true, true, true, true⟩) rfl (by decide +kernel) rfl).1 h hact .day).mpr
      (.inl (by decide +kernel))

/-- **Under a hard cap, 15 reported input tokens and an unreported output of at most 10 are
settled as 15.** -/
theorem missing_output_settled_as_zero :
    ((inputOnly.finalizeDurable oneAttempt.recorded.db).2 = .ok ⟨true, true, true, true⟩) ∧
    (oneAttempt.recorded.db.userBudget.activeHold? 1).map HoldRow.enforcement = some .hard ∧
    oneAttempt.consumable inputOnly = 25 ∧
    ((oneAttempt.recorded.db.userBudget.activeHold? 1).map fun h =>
      settledTokens oneAttempt.recorded.db.userBudget
        (oneAttempt.step (.finalize inputOnly)).recorded.db.userBudget h .day) = some 15 := by
  refine ⟨?_, ?_, ?_, ?_⟩ <;> decide +kernel

end Billed

end EggPool.Coordinator
