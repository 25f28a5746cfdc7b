import EggPool.Lib.Batch
import EggPool.Store.Db

/-!
# Crash reconciliation

At startup the process repeats one bounded pass until a pass finds nothing to
do. A pass closes the first pending requests, active reservations and open
attempts, and releases the holds of the first interrupted requests, each up to
the batch limit and in id order.

The first three selections shrink as rows are fixed. The last one does not:
interrupted requests stay interrupted, so every pass looks at the same first
batch of them. `reconcile_clears_iff` is what follows.
-/

namespace EggPool.Coordinator

open EggPool.Lib EggPool.Budget EggPool.Store AutoTable

/-- Rows fixed by one pass. -/
structure Fixed where
  (requests reservations attempts userHolds instanceHolds : Nat)
deriving DecidableEq, Repr

def Fixed.truncated (fixed : Fixed) (batch : Nat) : Bool :=
  batch ≤ fixed.requests || batch ≤ fixed.reservations || batch ≤ fixed.attempts ||
    batch ≤ fixed.userHolds || batch ≤ fixed.instanceHolds

def Fixed.converged (fixed : Fixed) : Bool :=
  fixed.requests = 0 && fixed.reservations = 0 && fixed.attempts = 0 && fixed.userHolds = 0 &&
    fixed.instanceHolds = 0

section Statements

variable (now : String)

def pending (r : Request) : Bool := r.status = "pending"

def interrupted (r : Request) : Bool := r.status = "interrupted"

def interrupt (r : Request) : Request :=
  { r with status := "interrupted", completedAt := some now }

def crashRelease (r : Reservation) : Reservation :=
  { r with
    status := "released"
    releasedAt := some now
    releaseReason := some "crash_recovery" }

def interruptAttempt (a : Attempt) : Attempt :=
  { a with completedAt := some now, errorClass := some "process_interrupted" }

end Statements

/-- One pass. -/
def fixBounded (batch : Nat) (now : String) (db : Db) : Db × Fixed :=
  let requests := db.requests.mark pending (interrupt now) (fun _ => rfl) batch
  let dead := requests.firstKeys interrupted batch
  ({ db with
      requests := requests
      reservations := db.reservations.mark (·.status = "active") (crashRelease now)
        (fun _ => rfl) batch
      attempts := db.attempts.mark (·.completedAt.isNone) (interruptAttempt now)
        (fun _ => rfl) batch
      userBudget := db.userBudget.releaseHolds dead
      instanceBudget := db.instanceBudget.releaseHolds dead },
    { requests := (db.requests.firstKeys pending batch).length
      reservations := (db.reservations.firstKeys (·.status = "active") batch).length
      attempts := (db.attempts.firstKeys (·.completedAt.isNone) batch).length
      userHolds := db.userBudget.countHolds dead
      instanceHolds := db.instanceBudget.countHolds dead })

structure StartupRecoveryReport where
  (passes requestsInterrupted reservationsReleased attemptsTerminalized : Nat := 0)
  (userBudgetHoldsReleased instanceBudgetHoldsReleased : Nat := 0)
  converged : Bool := false
deriving DecidableEq, Repr

def StartupRecoveryReport.add (report : StartupRecoveryReport) (fixed : Fixed) :
    StartupRecoveryReport :=
  { report with
    passes := report.passes + 1
    requestsInterrupted := report.requestsInterrupted + fixed.requests
    reservationsReleased := report.reservationsReleased + fixed.reservations
    attemptsTerminalized := report.attemptsTerminalized + fixed.attempts
    userBudgetHoldsReleased := report.userBudgetHoldsReleased + fixed.userHolds
    instanceBudgetHoldsReleased := report.instanceBudgetHoldsReleased + fixed.instanceHolds }

inductive StartupRecoveryError
  | passLimit
deriving DecidableEq, Repr

def MAX_STARTUP_RECONCILIATION_PASSES : Nat := 1024

def DEFAULT_RECONCILIATION_BATCH_LIMIT : Nat := 500

/-- Repeat the pass, at most `passes` times, until one finds nothing to do. -/
def reconcileWith (batch : Nat) (clock : Nat → String) :
    Nat → Db → StartupRecoveryReport → Except StartupRecoveryError (Db × StartupRecoveryReport)
  | 0, _, _ => .error .passLimit
  | passes + 1, db, aggregate =>
    let (db', fixed) := fixBounded batch (clock passes) db
    if !fixed.truncated batch && fixed.converged then
      .ok (db', { aggregate.add fixed with converged := true })
    else reconcileWith batch clock passes db' (aggregate.add fixed)

def reconcile (clock : Nat → String) (db : Db) :
    Except StartupRecoveryError (Db × StartupRecoveryReport) :=
  reconcileWith DEFAULT_RECONCILIATION_BATCH_LIMIT clock MAX_STARTUP_RECONCILIATION_PASSES db {}

/-! ## What a pass keeps -/

/-- A request crash recovery has or will have interrupted. -/
def owed (r : Request) : Bool := pending r || interrupted r

variable {batch : Nat} {now : String} {db db' : Db}

theorem interrupted_interrupt (now : String) (r : Request) (_ : pending r = true) :
    interrupted (interrupt now r) = true := rfl

theorem keysWhere_owed_fixBounded (batch : Nat) (now : String) (db : Db) :
    (fixBounded batch now db).1.requests.keysWhere owed = db.requests.keysWhere owed := by
  exact keysWhere_mark_owed _ (interrupted_interrupt now)

/-- Every pass selects the same requests for the release of their holds. -/
theorem dead_fixBounded (batch : Nat) (now : String) (db : Db) :
    (fixBounded batch now db).1.requests.firstKeys interrupted batch =
      db.requests.firstKeys owed batch := by
  exact firstKeys_mark _ (interrupted_interrupt now)

theorem isHeld_fixBounded (batch : Nat) (now : String) (db : Db) (id : Int) :
    (fixBounded batch now db).1.userBudget.isHeld id =
        (db.userBudget.isHeld id && !(db.requests.firstKeys owed batch).contains id) ∧
      (fixBounded batch now db).1.instanceBudget.isHeld id =
        (db.instanceBudget.isHeld id && !(db.requests.firstKeys owed batch).contains id) := by
  rw [← dead_fixBounded batch now db]
  exact ⟨BudgetScope.isHeld_releaseHolds, BudgetScope.isHeld_releaseHolds⟩

/-- Nothing of the three shrinking kinds is left. -/
structure Idle (db : Db) : Prop where
  requests : ∀ r ∈ db.requests.rows, r.status ≠ "pending"
  reservations : ∀ r ∈ db.reservations.rows, r.status ≠ "active"
  attempts : ∀ a ∈ db.attempts.rows, a.completedAt ≠ none

theorem idle_of_converged (ht : (fixBounded batch now db).2.truncated batch = false)
    (hc : (fixBounded batch now db).2.converged = true) :
    Idle (fixBounded batch now db).1 := by
  simp only [fixBounded, Fixed.converged, Bool.and_eq_true, decide_eq_true_eq,
    List.length_eq_zero_iff] at hc
  have hn : 0 < batch := by
    by_contra h
    simp [Fixed.truncated, show batch = 0 by omega] at ht
  refine ⟨?_, ?_, ?_⟩
  · intro r hr
    simpa [pending] using not_todo_of_mark hn hc.1.1.1.1 hr
  · intro r hr
    simpa using not_todo_of_mark hn hc.1.1.1.2 hr
  · intro a ha
    have := not_todo_of_mark hn hc.1.1.2 ha
    simpa [Option.isSome_iff_ne_none] using this

/-- **What the loop has done when it stops**, by induction on the passes left. -/
theorem reconcileWith_ok {c : Nat → String} {p : Nat} {a r : StartupRecoveryReport}
    (h : reconcileWith batch c p db a = .ok (db', r)) :
    Idle db' ∧ db'.requests.keysWhere owed = db.requests.keysWhere owed ∧
    ∀ id, db'.userBudget.isHeld id =
        (db.userBudget.isHeld id && !(db.requests.firstKeys owed batch).contains id) ∧
      db'.instanceBudget.isHeld id =
        (db.instanceBudget.isHeld id && !(db.requests.firstKeys owed batch).contains id) := by
  induction p generalizing db a with
  | zero => cases h
  | succ p ih =>
    simp only [reconcileWith] at h
    split at h
    · rename_i hs
      cases h
      rw [Bool.and_eq_true, Bool.not_eq_true'] at hs
      exact ⟨idle_of_converged hs.1 hs.2, keysWhere_owed_fixBounded _ _ _,
        isHeld_fixBounded _ _ _⟩
    · obtain ⟨hi, hk, hh⟩ := ih h
      -- the selection of the remaining passes is the selection of this one
      have hm : (fixBounded batch (c p) db).1.requests.firstKeys owed batch =
          db.requests.firstKeys owed batch := by
        rw [firstKeys, keysWhere_owed_fixBounded, firstKeys]
      refine ⟨hi, hk.trans (keysWhere_owed_fixBounded _ _ _), fun id => ?_⟩
      obtain ⟨hu, hn⟩ := isHeld_fixBounded batch (c p) db id
      simpa only [hu, hn, hm, Bool.and_assoc, Bool.and_self] using hh id

/-! ## What convergence means -/

/-- Nothing is left that a crashed process owned. -/
structure Recovered (db : Db) : Prop extends Idle db where
  userHolds : ∀ h ∈ db.userBudget.holds.rows, h.status = .active →
    ∀ r ∈ db.requests.rows, r.id = h.requestId → r.status ≠ "interrupted"
  instanceHolds : ∀ h ∈ db.instanceBudget.holds.rows, h.status = .active →
    ∀ r ∈ db.requests.rows, r.id = h.requestId → r.status ≠ "interrupted"

/-- Every request with an active hold is among the first `batch` pending or interrupted ones,
unless it is neither. -/
def backlogFits (batch : Nat) (db : Db) : Bool :=
  (db.requests.keysWhere owed).all fun id =>
    !(db.userBudget.isHeld id || db.instanceBudget.isHeld id) ||
      (db.requests.firstKeys owed batch).contains id

/-- Once nothing is pending, the interrupted requests are the owed ones. -/
theorem interrupted_iff_owed (hi : Idle db) {r : Request} (hr : r ∈ db.requests.rows) :
    r.status = "interrupted" ↔ r.id ∈ db.requests.keysWhere owed := by
  rw [mem_keysWhere hr]
  have := hi.requests r hr
  simp [owed, pending, interrupted, this]

/-- A scope is clear of interrupted requests when no owed request is held in it. -/
theorem holds_clear_iff {ω : Type} {s : BudgetScope ω} (hd : Idle db) :
    (∀ h ∈ s.holds.rows, h.status = .active →
      ∀ r ∈ db.requests.rows, r.id = h.requestId → r.status ≠ "interrupted") ↔
    ∀ id ∈ db.requests.keysWhere owed, s.isHeld id = false := by
  constructor
  · intro hc id hid
    obtain ⟨r, hr, rfl⟩ := List.mem_map.mp hid
    have hmem := List.mem_of_mem_filter hr
    rw [← Bool.not_eq_true, BudgetScope.isHeld_iff]
    rintro ⟨h, hh, hkey, hst⟩
    exact hc h hh hst r hmem hkey.symm ((interrupted_iff_owed hd hmem).mpr hid)
  · intro hn h hh hst r hr hkey hi
    have hid := (interrupted_iff_owed hd hr).mp hi
    have := hn _ hid
    rw [← Bool.not_eq_true, BudgetScope.isHeld_iff] at this
    exact this ⟨h, hh, hkey.symm, hst⟩

/--
**When the loop reports convergence, everything is recovered exactly if the holds
fit the first batch.** The requests, reservations and attempts are always
clean; a hold beyond the first batch of interrupted requests is never reached.
-/
theorem reconcile_clears_iff {batch passes : Nat} {clock : Nat → String} {db db' : Db}
    {report : StartupRecoveryReport}
    (h : reconcileWith batch clock passes db {} = .ok (db', report)) :
    Recovered db' ↔ backlogFits batch db = true := by
  obtain ⟨hidle, hkeys, hheld⟩ := reconcileWith_ok h
  have hrec : Recovered db' ↔
      (∀ id ∈ db'.requests.keysWhere owed, db'.userBudget.isHeld id = false) ∧
      (∀ id ∈ db'.requests.keysWhere owed, db'.instanceBudget.isHeld id = false) := by
    rw [← holds_clear_iff hidle, ← holds_clear_iff hidle]
    exact ⟨fun hr => ⟨hr.userHolds, hr.instanceHolds⟩, fun hr => ⟨hidle, hr.1, hr.2⟩⟩
  rw [hrec, hkeys, ← forall₂_and, backlogFits, List.all_eq_true]
  refine forall₂_congr fun id _ => ?_
  rw [(hheld id).1, (hheld id).2]
  cases db.userBudget.isHeld id <;> cases db.instanceBudget.isHeld id <;> simp

/-- An unattributed request in some state. -/
def bareRequest (status : String) (id : Int) : Request :=
  ⟨id, 1, "m", "p", "openai", 0, status, 0, none, none, none,
    ⟨none, none, none, .legacySharedKey, .logical, none⟩, {}⟩

/-- The active instance hold of a request. -/
def bareHold (requestId : Int) : HoldRow Unit :=
  ⟨requestId, (), "m", 1, "2026-01-02", "2026-01-01", 20, 0, 0, 0, false, false, .estimated, 0, 0,
    none, .active, "2026-01-02 00:10:00", none⟩

/-- A request interrupted long ago, then one that was pending when the process died. -/
def historyThenCrash : Db :=
  { Db.unused ⟨fun _ => none, fun _ => none, fun _ => none, fun _ => none, fun _ => false, none⟩
      [] [] with
    requests := (AutoTable.empty.append (bareRequest "interrupted") (fun _ => rfl)).append
      (bareRequest "pending") (fun _ => rfl)
    instanceBudget := ⟨[], Table.empty.insert (bareHold 2), Buckets.empty⟩ }

/-- With room for both requests in one batch the same database is recovered. -/
theorem reconcile_clears_history :
    ∃ db' report, reconcileWith 2 (fun _ => "2026-01-03 00:00:00")
        MAX_STARTUP_RECONCILIATION_PASSES historyThenCrash {} = .ok (db', report) ∧
      Recovered db' := by
  obtain ⟨⟨db', report⟩, h⟩ : ∃ out, reconcileWith 2 (fun _ => "2026-01-03 00:00:00")
      MAX_STARTUP_RECONCILIATION_PASSES historyThenCrash {} = .ok out := ⟨_, rfl⟩
  exact ⟨db', report, h, (reconcile_clears_iff h).mpr (by decide +kernel)⟩

/-- With a batch of one the loop converges and the hold stays. -/
theorem hold_behind_history_survives :
    ∃ db' report, reconcileWith 1 (fun _ => "2026-01-03 00:00:00")
        MAX_STARTUP_RECONCILIATION_PASSES historyThenCrash {} = .ok (db', report) ∧
      report.converged = true ∧ ¬ Recovered db' := by
  refine ⟨_, _, rfl, by decide +kernel, fun h => ?_⟩
  have := h.instanceHolds
  revert this
  decide +kernel

end EggPool.Coordinator
