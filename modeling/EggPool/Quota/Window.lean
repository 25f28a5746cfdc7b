import EggPool.Lib.Run
import EggPool.Lib.SaturatedQueue

/-!
# The rolling quota window

Observations enter a window with their time and leave it when they are older than its span or
too many. Their tokens and costs are kept as running totals. The observations are always in
order and never too many. The totals are those of the observations as long as they fit: what
saturation cuts off a total is not there any more when an observation is taken off it, and
only an observation that comes late has the totals added up afresh.

Timestamps are exact. The cutoff of a window is a difference of machine numbers, so it stays
whatever function of the time it is.
-/

namespace EggPool.Quota

open EggPool.Lib List

/-- A time as a caller may give it. -/
inductive Instant
  | finite (time : Rat)
  | posInfinity | negInfinity | nan
deriving DecidableEq, Repr

/-- `time < instant`. -/
def Instant.isAfter (instant : Instant) (time : Rat) : Bool :=
  match instant with
  | .finite other => time < other
  | .posInfinity => true
  | .negInfinity | .nan => false

structure Observation where
  timestamp : Rat
  (tokens cost : Int)
deriving DecidableEq, Repr

structure QuotaWindow where
  windowSeconds : Nat
  (usedTokens usedCostMicrodollars : Int)
  observations : List Observation
  lastObservationTimestamp : Option Rat
deriving DecidableEq, Repr

namespace QuotaWindow

def MAX_OBSERVATIONS : Nat := 8192

def new (windowSeconds : Nat) : QuotaWindow := ⟨windowSeconds, 0, 0, [], none⟩

section Operations

-- `current_time - window_seconds` for a finite time, with its rounding
variable (sub : Rat → Nat → Rat) (w : QuotaWindow)

def cutoff : Instant → Instant
  | .finite time => .finite (sub time w.windowSeconds)
  | other => other

/-- Pop the front while the queue meets a condition. -/
def popLoop (more : List Observation → Bool) :
    List Observation → Int → Int → List Observation × Int × Int
  | [], tokens, cost => ([], tokens, cost)
  | o :: rest, tokens, cost =>
    if more (o :: rest) then
      popLoop more rest (max (tokens - o.tokens) 0) (max (cost - o.cost) 0)
    else (o :: rest, tokens, cost)

def popFront (more : List Observation → Bool) : QuotaWindow :=
  let (observations, tokens, cost) :=
    popLoop more w.observations w.usedTokens w.usedCostMicrodollars
  { w with observations := observations, usedTokens := tokens, usedCostMicrodollars := cost }

/-- The oldest observation is before the cutoff. -/
def staleFront (now : Instant) (l : List Observation) : Bool :=
  l.head?.any fun o => (w.cutoff sub now).isAfter o.timestamp

def overCap (l : List Observation) : Bool := MAX_OBSERVATIONS < l.length

def prune (now : Instant) : QuotaWindow := w.popFront (w.staleFront sub now)

def enforceCap : QuotaWindow := w.popFront overCap

/-- The source adds what is not negative. -/
def saturatingAdd (left right : Int) : Int := I64.saturatingAdd (max left 0) (max right 0)

def rebuild (time : Rat) : QuotaWindow :=
  let observations := w.observations.filter fun o => sub time w.windowSeconds ≤ o.timestamp
  { w with
    observations := observations
    usedTokens := (observations.map (·.tokens)).foldl saturatingAdd 0
    usedCostMicrodollars := (observations.map (·.cost)).foldl saturatingAdd 0 }

def sortByTime (l : List Observation) : List Observation :=
  l.insertionSort fun left right => left.timestamp ≤ right.timestamp

def addObservation (timestamp : Instant) (tokens cost : Int) : QuotaWindow :=
  match timestamp with
  | .finite time =>
    let observation : Observation := ⟨time, max tokens 0, max cost 0⟩
    if w.lastObservationTimestamp.all (· ≤ time) then
      let w := { w with
        observations := w.observations ++ [observation]
        usedTokens := saturatingAdd w.usedTokens observation.tokens
        usedCostMicrodollars := saturatingAdd w.usedCostMicrodollars observation.cost
        lastObservationTimestamp := some time }
      (w.prune sub timestamp).enforceCap
    else
      let last := w.lastObservationTimestamp.elim time (max · time)
      let w := { w with
        observations := sortByTime (w.observations ++ [observation])
        lastObservationTimestamp := some last }
      (w.rebuild sub last).enforceCap
  -- cannot be put in order and would never expire
  | _ => w

/-- What a read leaves behind; its answer is the two totals. -/
def usage (now : Instant) : QuotaWindow := w.prune sub now

end Operations

inductive Op
  | add (timestamp : Instant) (tokens cost : Int)
  | read (now : Instant)
deriving DecidableEq, Repr

variable (sub : Rat → Nat → Rat)

def step (w : QuotaWindow) : Op → QuotaWindow
  | .add timestamp tokens cost => w.addObservation sub timestamp tokens cost
  | .read now => w.usage sub now

/-- The totals are those of the observations, which are in order and not too many. -/
structure Accurate (w : QuotaWindow) : Prop where
  tokens : w.usedTokens = saturatingSum (·.tokens) w.observations
  cost : w.usedCostMicrodollars = saturatingSum (·.cost) w.observations
  ordered : w.observations.Pairwise fun left right => left.timestamp ≤ right.timestamp
  bounded : w.observations.length ≤ MAX_OBSERVATIONS

/-! ## What leaves and what stays -/

/-- The observations an operation takes out of the window and the ones it keeps. -/
def split (w : QuotaWindow) : Op → List Observation × List Observation
  | .add (.finite time) tokens cost =>
    let l := w.observations ++ [⟨time, max tokens 0, max cost 0⟩]
    if w.lastObservationTimestamp.all (· ≤ time) then
      let fresh := kept (w.staleFront sub (.finite time)) l
      (dropped (w.staleFront sub (.finite time)) l ++ dropped overCap fresh, kept overCap fresh)
    else
      let last := w.lastObservationTimestamp.elim time (max · time)
      let fresh := (sortByTime l).filter fun o => sub last w.windowSeconds ≤ o.timestamp
      (dropped overCap fresh, kept overCap fresh)
  | .add _ _ _ => ([], w.observations)
  | .read now =>
    (dropped (w.staleFront sub now) w.observations, kept (w.staleFront sub now) w.observations)

theorem popLoop_eq (m : List Observation → Bool) : ∀ (l : List Observation) (t cost : Int),
    popLoop m l t cost = (kept m l, takeOff (·.tokens) t (dropped m l),
      takeOff (·.cost) cost (dropped m l)) := by
  intro l
  induction l with
  | nil => exact fun _ _ => rfl
  | cons o rest ih =>
    intro t cost
    unfold popLoop kept dropped
    split
    · exact ih _ _
    · rfl

theorem popFront_eq (w : QuotaWindow) (m : List Observation → Bool) : w.popFront m = { w with
      observations := kept m w.observations
      usedTokens := takeOff (·.tokens) w.usedTokens (dropped m w.observations)
      usedCostMicrodollars :=
        takeOff (·.cost) w.usedCostMicrodollars (dropped m w.observations) } := by
  unfold popFront
  rw [popLoop_eq]

theorem foldl_saturatingAdd (we : Observation → Int) (l : List Observation) :
    (l.map we).foldl saturatingAdd 0 = saturatingSum we l :=
  foldl_map ..

variable {w : QuotaWindow}

/-! ## What always holds -/

/-- What a list of observations has in a window whose latest timestamp is `last`. -/
structure Sound (last : Option Rat) (l : List Observation) : Prop where
  nonneg : ∀ o ∈ l, 0 ≤ o.tokens ∧ 0 ≤ o.cost
  ordered : l.Pairwise fun left right => left.timestamp ≤ right.timestamp
  latest : ∀ o ∈ l, ∃ time ∈ last, o.timestamp ≤ time

variable {last : Option Rat}

theorem Sound.sublist {l l' : List Observation} (h : Sound last l)
    (hsub : l'.Sublist l) : Sound last l' :=
  ⟨fun o ho => h.nonneg o (hsub.subset ho), h.ordered.sublist hsub,
    fun o ho => h.latest o (hsub.subset ho)⟩

/-- An observation that is not earlier than the latest one goes to the end. -/
theorem Sound.push {l : List Observation} (h : Sound last l) {time : Rat}
    (hm : last.all (· ≤ time)) (tk c : Int) :
    Sound (some time) (l ++ [⟨time, max tk 0, max c 0⟩]) := by
  have hle : ∀ o ∈ l, o.timestamp ≤ time := by
    intro o ho
    obtain ⟨t, ht, hot⟩ := h.latest o ho
    rw [Option.mem_def.mp ht, Option.all_some, decide_eq_true_eq] at hm
    exact hot.trans hm
  refine ⟨?_, ?_, ?_⟩
  · exact forall_mem_append.mpr
      ⟨h.nonneg, forall_mem_singleton.mpr ⟨le_max_right _ _, le_max_right _ _⟩⟩
  · exact pairwise_append.mpr ⟨h.ordered, pairwise_singleton _ _,
      fun a ha => forall_mem_singleton.mpr (hle a ha)⟩
  · exact fun o ho => ⟨time, rfl,
      forall_mem_append.mpr ⟨hle, forall_mem_singleton.mpr le_rfl⟩ o ho⟩

/-- A late observation is sorted in. -/
theorem Sound.insert {l : List Observation} (h : Sound last l) (ti : Rat) (tk c : Int) :
    Sound (some (last.elim ti (max · ti))) (sortByTime (l ++ [⟨ti, max tk 0, max c 0⟩])) := by
  have hmem : ∀ o, o ∈ sortByTime (l ++ [⟨ti, max tk 0, max c 0⟩]) ↔
      o ∈ l ∨ o = ⟨ti, max tk 0, max c 0⟩ := by
    intro o
    rw [sortByTime, mem_insertionSort, mem_append, mem_singleton]
  refine ⟨?_, ?_, ?_⟩
  · intro o ho
    rcases (hmem o).mp ho with ho | rfl
    · exact h.nonneg o ho
    · exact ⟨le_max_right _ _, le_max_right _ _⟩
  · exact pairwise_insertionSort _ _
  · intro o ho
    refine ⟨_, rfl, ?_⟩
    rcases (hmem o).mp ho with ho | rfl
    · obtain ⟨t, ht, hot⟩ := h.latest o ho
      rw [Option.mem_def.mp ht]
      exact hot.trans (le_max_left _ _)
    · cases last with
      | none => exact le_rfl
      | some t => exact le_max_right _ _

/-- The observations are sound and within the cap, whatever the totals are. -/
structure Tracked (w : QuotaWindow) : Prop where
  sound : Sound w.lastObservationTimestamp w.observations
  bounded : w.observations.length ≤ MAX_OBSERVATIONS

theorem length_kept_overCap (l : List Observation) : (kept overCap l).length ≤ MAX_OBSERVATIONS := by
  rcases kept_nil_or overCap l with hnil | ho
  · rw [hnil]
    exact Nat.zero_le _
  · exact Nat.le_of_not_lt (of_decide_eq_false ho)

theorem tracked_new (ws : Nat) : (new ws).Tracked :=
  ⟨⟨fun _ h => absurd h not_mem_nil, .nil, fun _ h => absurd h not_mem_nil⟩, Nat.zero_le _⟩

/-- What an operation does: some observations leave, some stay. The totals are brought up to date
with both, and what leaves is taken off them. -/
structure Splits (w w' : QuotaWindow) (left stay : List Observation) : Prop where
  observations : w'.observations = stay
  sound : Sound w'.lastObservationTimestamp (left ++ stay)
  bounded : stay.length ≤ MAX_OBSERVATIONS
  tokens : w.Accurate →
    w'.usedTokens = takeOff (·.tokens) (saturatingSum (·.tokens) (left ++ stay)) left
  cost : w.Accurate →
    w'.usedCostMicrodollars = takeOff (·.cost) (saturatingSum (·.cost) (left ++ stay)) left

theorem Tracked.splits (h : w.Tracked) (op : Op) :
    Splits w (w.step sub op) (w.split sub op).1 (w.split sub op).2 := by
  cases op with
  | read now =>
    unfold QuotaWindow.step usage prune split
    dsimp only
    rw [popFront_eq]
    refine ⟨rfl, ?_, (kept_suffix _ _).length_le.trans h.bounded, fun ha => ?_, fun ha => ?_⟩
    all_goals rw [dropped_append_kept]
    · exact h.sound
    · rw [← ha.tokens]
    · rw [← ha.cost]
  | add tim tok cost =>
    unfold QuotaWindow.step addObservation split
    cases tim with
    | finite time =>
      dsimp only
      split
      · rename_i ht
        rw [prune, enforceCap, popFront_eq, popFront_eq]
        refine ⟨rfl, ?_, length_kept_overCap _, fun ha => ?_, fun ha => ?_⟩
        all_goals rw [append_assoc, dropped_append_kept, dropped_append_kept]
        · exact h.sound.push ht tok cost
        · rw [saturatingSum_append_singleton, ← ha.tokens, takeOff_append]
          rfl
        · rw [saturatingSum_append_singleton, ← ha.cost, takeOff_append]
          rfl
      · rw [enforceCap, popFront_eq]
        unfold rebuild
        dsimp only
        rw [foldl_saturatingAdd, foldl_saturatingAdd]
        refine ⟨rfl, ?_, length_kept_overCap _, fun _ => ?_, fun _ => ?_⟩
        all_goals rw [dropped_append_kept]
        exact (h.sound.insert time tok cost).sublist filter_sublist
    | posInfinity | negInfinity | nan =>
      exact ⟨rfl, h.sound, h.bounded, fun ha => ha.tokens, fun ha => ha.cost⟩

/-- **Order and size are kept by every operation.** -/
theorem Tracked.step (h : w.Tracked) (op : Op) : (w.step sub op).Tracked := by
  obtain ⟨ho, hs, hb, -, -⟩ := h.splits sub op
  constructor <;> rw [ho]
  exacts [hs.sublist (sublist_append_right _ _), hb]

/-! ## When the totals are right -/

/-- A total is not cut off, or nothing leaves it, or nothing stays in it. -/
def Survives (weight : Observation → Int) (left stay : List Observation) : Prop :=
  ((left ++ stay).map weight).sum ≤ I64.MAX ∨ (left.map weight).sum = 0 ∨ (stay.map weight).sum = 0

/-- **When an operation keeps the totals right**: those of the observations it finds fit, or
only ones without weight leave, or only ones without weight stay. -/
def Fits (w : QuotaWindow) (op : Op) : Prop :=
  Survives (·.tokens) (w.split sub op).1 (w.split sub op).2 ∧
    Survives (·.cost) (w.split sub op).1 (w.split sub op).2

/-- **One operation.** -/
theorem step_accurate_iff (hr : w.Tracked) (h : w.Accurate) (op : Op) :
    (w.step sub op).Accurate ↔ w.Fits sub op := by
  have hn := hr.step sub op
  obtain ⟨hb, hs, -, hk, hc⟩ := hr.splits sub op
  have hl : ∀ o ∈ (w.split sub op).1, 0 ≤ o.tokens ∧ 0 ≤ o.cost :=
    fun o ho => hs.nonneg o (mem_append_left _ ho)
  have ht : ∀ o ∈ (w.split sub op).2, 0 ≤ o.tokens ∧ 0 ≤ o.cost :=
    fun o ho => hs.nonneg o (mem_append_right _ ho)
  unfold Fits Survives
  rw [← takeOff_eq_saturatingSum_iff (fun o ho => (hl o ho).1) (fun o ho => (ht o ho).1),
    ← takeOff_eq_saturatingSum_iff (fun o ho => (hl o ho).2) (fun o ho => (ht o ho).2),
    ← hk h, ← hc h, ← hb]
  exact ⟨fun h => ⟨h.tokens, h.cost⟩, fun h => ⟨h.1, h.2, hn.sound.ordered, hn.bounded⟩⟩

/-- **The totals are right all along exactly if every operation fits.** -/
theorem window_accurate_iff (windowSeconds : Nat) (ops : List Op) :
    (∀ first, first <+: ops → (run (step sub) (new windowSeconds) first).Accurate) ↔
      Along (step sub) (Fits sub) (new windowSeconds) ops := by
  have htracked : ∀ first, (run (step sub) (new windowSeconds) first).Tracked :=
    run_invariant (fun _ op h => h.step sub op) (tracked_new windowSeconds)
  rw [← forall_prefix_iff_along (I := fun w => w.Tracked ∧ w.Accurate)
    ⟨tracked_new windowSeconds, rfl, rfl, .nil, Nat.zero_le _⟩ fun w op _ h => ?_]
  · exact forall₂_congr fun first _ => (and_iff_right (htracked first)).symm
  · rw [and_iff_right (h.1.step sub op), step_accurate_iff sub h.1 h.2]

/-- The exact difference. -/
def exactSub (time : Rat) (seconds : Nat) : Rat := time - seconds

/-- A full total forgets five tokens when the observation that filled it expires. -/
theorem expired_total_forgets :
    ((run (step exactSub) (new 10) [.add (.finite 0) I64.MAX 0, .add (.finite 5) 5 0,
      .read (.finite 11)]).observations, (run (step exactSub) (new 10) [.add (.finite 0) I64.MAX 0,
      .add (.finite 5) 5 0, .read (.finite 11)]).usedTokens) = ([⟨5, 5, 0⟩], 0) := by
  decide +kernel

end QuotaWindow

end EggPool.Quota
