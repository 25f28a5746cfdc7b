import EggPool.Lib.I64
import EggPool.Lib.OrdMap
import EggPool.Lib.Run

/-!
# Buffered usage metrics

`MetricsWriteCoalescer` folds usage events into one aggregate a rollup key and moves the aggregates
into `usage_rollups`, one transaction a flush. A flush takes the whole buffer before it waits for
its transaction and puts the rows back if the transaction fails. A caller that drops the flush at
that await drops the rows with it.

The events are counted where the code counts them, in `request_count`. How the start of an event's
bucket is normalised only picks the key and is a parameter, `align`.
-/

namespace EggPool.Operations

open EggPool.Lib

/-- The counters of an aggregate besides the number of events. -/
inductive Counter
  | errorCount | retryCount | inputTokens | outputTokens | cacheReadTokens | cacheWriteTokens
  | reasoningTokens | thinkingCharacters | costMicrodollars | bytesReceived | bytesEmitted
  | latencyMsSum | firstByteMsSum | firstByteMsCount
deriving DecidableEq

abbrev MetricKey := String ×ₗ Int ×ₗ String ×ₗ String ×ₗ Int ×ₗ String ×ₗ Bool ×ₗ String

structure UsageMetricEvent where
  bucketStart : String
  bucketSizeS : Int
  (providerId modelId : String)
  accountId : Int
  protocol : String
  streamed : Bool
  status : String
  (inputTokens outputTokens cacheReadTokens cacheWriteTokens reasoningTokens : Int := 0)
  (thinkingCharacters costMicrodollars bytesReceived bytesEmitted latencyMs retryCount : Int := 0)
  firstByteMs : Option Int := none

namespace UsageMetricEvent

variable (e : UsageMetricEvent)

def key : MetricKey :=
  toLex (e.bucketStart, toLex (e.bucketSizeS, toLex (e.providerId, toLex (e.modelId,
    toLex (e.accountId, toLex (e.protocol, toLex (e.streamed, e.status)))))))

/-- What an event adds to a counter. -/
def amount : Counter → Int
  | .errorCount => if e.status = "error" then 1 else 0
  | .retryCount => max e.retryCount 0
  | .inputTokens => max e.inputTokens 0
  | .outputTokens => max e.outputTokens 0
  | .cacheReadTokens => max e.cacheReadTokens 0
  | .cacheWriteTokens => max e.cacheWriteTokens 0
  | .reasoningTokens => max e.reasoningTokens 0
  | .thinkingCharacters => max e.thinkingCharacters 0
  | .costMicrodollars => max e.costMicrodollars 0
  | .bytesReceived => max e.bytesReceived 0
  | .bytesEmitted => max e.bytesEmitted 0
  | .latencyMsSum => max e.latencyMs 0
  | .firstByteMsSum => max (e.firstByteMs.getD 0) 0
  | .firstByteMsCount => if e.firstByteMs.isSome then 1 else 0

end UsageMetricEvent

structure Aggregate where
  requestCount : Nat := 0
  sums : Counter → Int := fun _ => 0
  (latencyMsMin latencyMsMax : Option Int := none)

namespace Aggregate

def add (a : Aggregate) (e : UsageMetricEvent) : Aggregate where
  requestCount := min (a.requestCount + 1) I64.MAX.toNat
  sums c := I64.saturatingAdd (a.sums c) (e.amount c)
  latencyMsMin := some (a.latencyMsMin.elim (max e.latencyMs 0) (min · (max e.latencyMs 0)))
  latencyMsMax := some (a.latencyMsMax.elim (max e.latencyMs 0) (max · (max e.latencyMs 0)))

def merge (a b : Aggregate) : Aggregate where
  requestCount := min (a.requestCount + b.requestCount) I64.MAX.toNat
  sums c := I64.saturatingAdd (a.sums c) (b.sums c)
  latencyMsMin := a.latencyMsMin.merge min b.latencyMsMin
  latencyMsMax := a.latencyMsMax.merge max b.latencyMsMax

/-- `METRICS_UPSERT_SQL` on a row that is there. -/
def update (a b : Aggregate) : Aggregate where
  requestCount := a.requestCount + b.requestCount
  sums c := if c = .costMicrodollars then min I64.MAX (a.sums c + b.sums c) else a.sums c + b.sums c
  latencyMsMin := a.latencyMsMin.merge min b.latencyMsMin
  latencyMsMax := a.latencyMsMax.merge max b.latencyMsMax

end Aggregate

abbrev Rows := OrdMap MetricKey Aggregate

/-- The events counted in rows. -/
def counted (rows : Rows) : Nat := rows.sumBy fun row => row.2.requestCount

/-- The count of one row. -/
def countAt (rows : Rows) (k : MetricKey) : Nat := (rows.lookup k).elim 0 (·.requestCount)

/-- `entry(key).or_default().merge(aggregate)`. -/
def mergeAt (rows : Rows) (k : MetricKey) (a : Aggregate) : Rows :=
  rows.entry k (Aggregate.merge {} a) (·.merge a)

/-- `METRICS_UPSERT_SQL` for one row. -/
def upsert (rows : Rows) (row : MetricKey × Aggregate) : Rows :=
  rows.entry row.1 row.2 (·.update row.2)

/-- `saturating_add` on `usize` and `u64`. -/
def saturatingAdd (a b : Nat) : Nat := min (a + b) (2 ^ 64 - 1)

structure State where
  buffer : Rows := .empty
  (pendingEvents totalReceived totalFlushed totalDropped flushFailures lastFlushRows : Nat := 0)

/-- The coalescer, the table it writes, and two counts kept for the proof only. -/
structure World where
  state : State
  /-- The rows of the flush that waits for its transaction. -/
  held : Option (List (MetricKey × Aggregate))
  db : Rows
  /-- The events that were accepted so far. -/
  accepted : Nat
  /-- The accepted events among those `total_dropped` counts. -/
  shed : Nat

/-- The events of rows on their way. -/
def inRows (rows : List (MetricKey × Aggregate)) : Nat :=
  (rows.map fun row => row.2.requestCount).sum

/-- Every accepted event is in the table, pending, held by the flush, or counted as dropped. -/
def World.Conserved (w : World) : Prop :=
  w.accepted = counted w.db + counted w.state.buffer + w.held.elim 0 inRows + w.shed

/-- A process that starts on a table. -/
def World.start (db : Rows) : World := ⟨{}, none, db, counted db, 0⟩

structure MetricsWriteCoalescer where
  (maxRows maxPendingEvents : Nat)
  align : UsageMetricEvent → UsageMetricEvent

inductive Step
  | record (event : UsageMetricEvent)
  /-- `flush` gets the flush lock and takes the buffer. -/
  | take
  /-- The transaction of the flush commits or fails. -/
  | commit | fail
  /-- The caller drops the flush at its await. -/
  | cancel (committed : Bool)

namespace MetricsWriteCoalescer

variable (c : MetricsWriteCoalescer)

def full (s : State) (k : MetricKey) : Bool :=
  c.maxRows ≤ s.buffer.size && (s.buffer.lookup k).isNone

/-- `record_buffered` turns the event away. -/
def refuses (s : State) (k : MetricKey) : Bool := c.maxPendingEvents ≤ s.pendingEvents || c.full s k

def recordBuffered (w : World) (event : UsageMetricEvent) : World :=
  let event := c.align event
  if c.refuses w.state event.key then
    { w with state.totalDropped := saturatingAdd w.state.totalDropped 1 }
  else
    { w with
      state.buffer := mergeAt w.state.buffer event.key (Aggregate.add {} event)
      state.pendingEvents := saturatingAdd w.state.pendingEvents 1
      state.totalReceived := saturatingAdd w.state.totalReceived 1
      accepted := w.accepted + 1 }

/-- A failed flush has no place for a row. -/
def sheds (s : State) (row : MetricKey × Aggregate) : Bool :=
  c.maxPendingEvents < saturatingAdd s.pendingEvents row.2.requestCount || c.full s row.1

/-- One turn of the loop that puts the rows back. -/
def putBack (w : World) (row : MetricKey × Aggregate) : World :=
  if c.sheds w.state row then
    { w with
      state.totalDropped := saturatingAdd w.state.totalDropped row.2.requestCount
      shed := w.shed + row.2.requestCount }
  else
    { w with
      state.buffer := mergeAt w.state.buffer row.1 row.2
      state.pendingEvents := saturatingAdd w.state.pendingEvents row.2.requestCount }

def step (w : World) : Step → World
  | .record event => c.recordBuffered w event
  | .take =>
    match w.held with
    | some _ => w
    | none =>
      { w with
        state := { w.state with buffer := .empty, pendingEvents := 0 }
        held := if w.state.buffer.rows.isEmpty then none else some w.state.buffer.rows }
  | .commit =>
    match w.held with
    | none => w
    | some rows =>
      { w with
        held := none
        db := rows.foldl upsert w.db
        state.totalFlushed := saturatingAdd w.state.totalFlushed (inRows rows)
        state.lastFlushRows := rows.length }
  | .fail =>
    match w.held with
    | none => w
    | some rows =>
      run c.putBack { w with
        held := none, state.flushFailures := saturatingAdd w.state.flushFailures 1 } rows
  | .cancel committed =>
    match w.held with
    | none => w
    | some rows =>
      { w with held := none, db := if committed then rows.foldl upsert w.db else w.db }

/-- A count fits its `i64` counter. -/
def Fits (w : World) (row : MetricKey × Aggregate) : Prop :=
  c.sheds w.state row = true ∨ countAt w.state.buffer row.1 + row.2.requestCount ≤ I64.MAX.toNat

/-- A step loses no event. -/
def Keeps (w : World) : Step → Prop
  | .record event => c.refuses w.state (c.align event).key = true ∨
      countAt w.state.buffer (c.align event).key < I64.MAX.toNat
  | .fail => ∀ rows, w.held = some rows → Along c.putBack c.Fits { w with
      held := none, state.flushFailures := saturatingAdd w.state.flushFailures 1 } rows
  | .cancel committed => committed = true ∨ w.held.elim 0 inRows = 0
  | _ => True

end MetricsWriteCoalescer

/-! ## What the rows count -/

theorem counted_mergeAt (rows : Rows) (k : MetricKey) (a : Aggregate) :
    counted (mergeAt rows k a) + countAt rows k =
      counted rows + min (countAt rows k + a.requestCount) I64.MAX.toNat := by
  have hs := OrdMap.sumBy_entry rows k (Aggregate.merge {} a) (·.merge a) Aggregate.requestCount
  unfold counted mergeAt countAt
  rw [hs]
  cases rows.lookup k with
  | none | some => rfl

theorem counted_upsert (rows : Rows) (row : MetricKey × Aggregate) :
    counted (upsert rows row) = counted rows + row.2.requestCount := by
  have hs := OrdMap.sumBy_entry rows row.1 row.2 (·.update row.2) Aggregate.requestCount
  unfold counted upsert
  cases h : rows.lookup row.1 with
  | none => rwa [h] at hs
  | some a =>
    rw [h] at hs
    exact Nat.add_right_cancel (hs.trans (by simp only [Option.elim, Aggregate.update]; omega))

theorem inRows_cons (row : MetricKey × Aggregate) (rows : List (MetricKey × Aggregate)) :
    inRows (row :: rows) = row.2.requestCount + inRows rows := List.sum_cons

theorem counted_foldl_upsert (rows : List (MetricKey × Aggregate)) (db : Rows) :
    counted (rows.foldl upsert db) = counted db + inRows rows := by
  induction rows generalizing db with
  | nil => rfl
  | cons row rows ih =>
    rw [List.foldl_cons, ih, counted_upsert, inRows_cons]
    omega

/-! ## Steps and runs -/

namespace MetricsWriteCoalescer

variable {c : MetricsWriteCoalescer}

/-- One row put back: its events stay counted exactly if they fit. -/
theorem putBack_eq (w : World) (row : MetricKey × Aggregate) :
    ∃ s n, c.putBack w row = { w with state := s, shed := n } ∧
      counted s.buffer + n ≤ counted w.state.buffer + w.shed + row.2.requestCount ∧
      (counted s.buffer + n = counted w.state.buffer + w.shed + row.2.requestCount ↔
        c.Fits w row) := by
  have hm := counted_mergeAt w.state.buffer row.1 row.2
  unfold putBack Fits
  cases c.sheds w.state row with
  | true => exact ⟨_, _, rfl, (Nat.add_assoc ..).ge, iff_of_true (Nat.add_assoc ..).symm (.inl rfl)⟩
  | false =>
    refine ⟨_, _, rfl, ?_, ?_⟩
    · dsimp only
      omega
    · simp only [Bool.false_eq_true, false_or]
      omega

/-- **A failed flush keeps its events counted exactly if the rows it puts back fit.** -/
theorem run_putBack_eq (rows : List (MetricKey × Aggregate)) (w : World) :
    ∃ s n, run c.putBack w rows = { w with state := s, shed := n } ∧
      counted s.buffer + n ≤ counted w.state.buffer + w.shed + inRows rows ∧
      (counted s.buffer + n = counted w.state.buffer + w.shed + inRows rows ↔
        Along c.putBack c.Fits w rows) := by
  induction rows generalizing w with
  | nil => exact ⟨_, _, rfl, le_rfl, iff_of_true rfl trivial⟩
  | cons row rows ih =>
    obtain ⟨s, n, hs, hle, hf⟩ := putBack_eq (c := c) w row
    obtain ⟨s', n', hr, hle', hf'⟩ := ih (c.putBack w row)
    rw [run_cons, inRows_cons, Along, ← hf, ← hf', hr, hs]
    rw [hs] at hle'
    refine ⟨s', n', rfl, ?_, ?_⟩
    · dsimp only at hle'
      omega
    · dsimp only at hle' ⊢
      omega

/-- **A step keeps the events conserved exactly if it loses none.** -/
theorem step_conserved_iff (w : World) (a : Step) (h : w.Conserved) :
    (c.step w a).Conserved ↔ c.Keeps w a := by
  unfold World.Conserved at h ⊢
  cases a with
  | record event =>
    have hm := counted_mergeAt w.state.buffer (c.align event).key (Aggregate.add {} (c.align event))
    have hc : (Aggregate.add {} (c.align event)).requestCount = 1 := rfl
    simp only [step, recordBuffered, Keeps]
    cases c.refuses w.state (c.align event).key with
    | true => exact iff_of_true h (.inl rfl)
    | false =>
      simp only [Bool.false_eq_true, if_false, false_or]
      omega
  | take =>
    refine iff_of_true ?_ trivial
    cases hn : w.held with
    | some rows => simpa only [step, hn] using h
    | none =>
      have hb : (if w.state.buffer.rows.isEmpty then none else some w.state.buffer.rows).elim 0
          inRows = counted w.state.buffer := by
        split
        · rename_i he
          rw [counted, Table.sumBy, List.isEmpty_iff.mp he]
          rfl
        · rfl
      rw [hn] at h
      simp only [step, hn, hb]
      exact h
  | commit =>
    refine iff_of_true ?_ trivial
    cases hn : w.held with
    | none => simpa only [step, hn] using h
    | some rows =>
      rw [hn] at h
      simp only [step, hn, counted_foldl_upsert, Option.elim] at h ⊢
      omega
  | fail =>
    cases hn : w.held with
    | none =>
      exact iff_of_true (by simpa only [step, hn] using h) fun rows hs => by cases hn.symm.trans hs
    | some rows =>
      obtain ⟨s, n, hr, -, hf⟩ := run_putBack_eq (c := c) rows { w with
        held := none, state.flushFailures := saturatingAdd w.state.flushFailures 1 }
      rw [hn] at h
      simp only [step, Keeps, hn, hr, Option.some.injEq, forall_eq', ← hf, Option.elim] at h ⊢
      omega
  | cancel committed =>
    cases hn : w.held with
    | none => exact iff_of_true (by simpa only [step, hn] using h) (.inr (by rw [hn]; rfl))
    | some rows =>
      rw [hn] at h
      have hu := counted_foldl_upsert rows w.db
      cases committed with
      | true | false =>
        simp only [step, Keeps, hn, Option.elim, if_true, if_false, Bool.false_eq_true, true_or,
          iff_true, false_or] at h ⊢
        omega

/-- **Every accepted event stays counted along a run exactly if no step loses one.** -/
theorem events_conserved_iff (c : MetricsWriteCoalescer) (db : Rows) (steps : List Step) :
    (∀ first, first <+: steps → (run c.step (.start db) first).Conserved) ↔
      Along c.step c.Keeps (.start db) steps :=
  forall_prefix_iff_along (by simp [World.Conserved, World.start, counted]) fun w a _ h =>
    step_conserved_iff w a h

/-- A flush that is dropped before its transaction commits takes its event with it. -/
theorem cancelled_flush_loses_event :
    ¬ (run (MetricsWriteCoalescer.step ⟨1, 64, id⟩) (.start .empty)
      [.record ⟨"0", 300, "p", "m", 1, "openai", false, "success", 0, 0, 0, 0, 0, 0, 0, 0, 0, 0, 0,
        none⟩, .take, .cancel false]).Conserved := by
  unfold World.Conserved
  decide

end MetricsWriteCoalescer

end EggPool.Operations
