import Mathlib

/-!
# Streams of numbered frames in which items open and close

A stream starts, opens and closes items, and ends. `Step` is the machine that reads such a
stream frame by frame: frames are numbered without a gap, an item that opens takes the next
index, an item that closes has to be open, and a stream ends when nothing is open. What a
whole stream looks like is then a matter of induction over the frames the machine has read
(`WellFormed.of_steps`).

A frame may come without its number, and an item without its name or index. The machine
does not read those.
-/

namespace EggPool.Lib.ItemStream

open List

/-- What a frame is about. -/
inductive Kind (ι : Type) where
  | start
  | opens (id : Option ι) (index : Option ℕ)
  | closes (id : Option ι) (index : Option ℕ)
  | note | ends
  deriving DecidableEq

structure Frame (ι : Type) where
  number : Option ℕ
  kind : Kind ι
  deriving DecidableEq

/-- What a reader knows: the number and the index that come next, and the items open. -/
structure State (ι : Type) where
  number : ℕ
  started : Bool
  next : ℕ
  opened : Multiset (ι × ℕ)
  ended : Bool

variable {ι : Type}

/-- Before the first frame. -/
def State.initial : State ι := ⟨0, false, 0, 0, false⟩

/-- Between the start and the end. -/
structure State.Live (s : State ι) : Prop where
  started : s.started = true
  ended : s.ended = false

/-- **One frame.** -/
inductive Step (s : State ι) : Frame ι → State ι → Prop where
  | start (hstarted : s.started = false) (hended : s.ended = false) :
      Step s ⟨some s.number, .start⟩ { s with number := s.number + 1, started := true }
  | opens (hlive : s.Live) (id : ι) :
      Step s ⟨some s.number, .opens (some id) (some s.next)⟩
        { s with number := s.number + 1, next := s.next + 1, opened := (id, s.next) ::ₘ s.opened }
  | closes (hlive : s.Live) {id : ι} {index : ℕ} {rest : Multiset (ι × ℕ)}
      (hopened : s.opened = (id, index) ::ₘ rest) :
      Step s ⟨some s.number, .closes (some id) (some index)⟩
        { s with number := s.number + 1, opened := rest }
  | note (hlive : s.Live) : Step s ⟨some s.number, .note⟩ { s with number := s.number + 1 }
  | ends (hlive : s.Live) (hopened : s.opened = 0) :
      Step s ⟨some s.number, .ends⟩ { s with number := s.number + 1, ended := true }

/-- A stretch of a stream. -/
inductive Steps : State ι → List (Frame ι) → State ι → Prop where
  | nil (s : State ι) : Steps s [] s
  | cons {s m t : State ι} {frame : Frame ι} {frames : List (Frame ι)} :
      Step s frame m → Steps m frames t → Steps s (frame :: frames) t

namespace Steps

variable {s m t : State ι} {frame : Frame ι} {frames more : List (Frame ι)}

theorem single (h : Step s frame t) : Steps s [frame] t :=
  .cons h (.nil t)

theorem append (h : Steps s frames m) (hm : Steps m more t) : Steps s (frames ++ more) t := by
  induction h with
  | nil s => exact hm
  | cons hs _ ih => exact .cons hs (ih hm)

theorem of_append : ∀ {frames : List (Frame ι)} {s : State ι}, Steps s (frames ++ more) t →
    ∃ m, Steps s frames m ∧ Steps m more t := by
  intro frames
  induction frames with
  | nil => intro s h; exact ⟨s, .nil s, h⟩
  | cons frame frames ih =>
    intro s h
    cases h with
    | cons hs hr =>
      obtain ⟨m, hf, hn⟩ := ih hr
      exact ⟨m, .cons hs hf, hn⟩

/-! ## What a reader has seen -/

theorem numbers (h : Steps s frames t) :
    frames.map (·.number) = (List.range' s.number frames.length).map some := by
  induction h with
  | nil s => rfl
  | cons hs hr ih =>
    rw [length_cons, range'_succ, map_cons, ih]
    cases hs <;> rfl

theorem eq_nil_of_ended (h : Steps s frames t) (he : s.ended = true) : frames = [] := by
  cases h with
  | nil => rfl
  | cons hs _ =>
    exfalso
    cases hs with
    | start _ ho => rw [ho] at he; cases he
    | opens hl | closes hl | note hl | ends hl =>
      rw [hl.ended] at he; cases he

/-- Once started, a stream does not start again. -/
theorem not_start (h : Steps s frames t) (ht : s.started = true) :
    ∀ frame ∈ frames, frame.kind ≠ .start := by
  induction h with
  | nil s => intro frame hf; cases hf
  | cons hs hre ih =>
    intro frame hf
    cases hs with
    | start hr => rw [hr] at ht; cases ht
    | opens | closes | note | ends =>
      rcases mem_cons.mp hf with rfl | hmem
      · exact nofun
      · exact ih ht frame hmem

/-- The end is the last frame, and it leaves nothing open. -/
theorem of_ends (h : Steps s (frame :: frames) t) (hend : frame.kind = .ends) :
    frames = [] ∧ t.opened = 0 := by
  cases h with
  | cons hs hr =>
    cases hs with
    | ends hl ho =>
      have hnil := eq_nil_of_ended hr rfl
      subst hnil
      cases hr
      exact ⟨rfl, ho⟩
    | start | opens | closes | note => cases hend

theorem opened_eq_zero (h : Steps s frames t) (hend : ∃ frame ∈ frames, frame.kind = .ends) :
    t.opened = 0 := by
  obtain ⟨frame, hmem, hk⟩ := hend
  obtain ⟨bef, after, rfl⟩ := append_of_mem hmem
  obtain ⟨m, _, hr⟩ := of_append h
  exact (of_ends hr hk).2

/-- Items are opened under the next index, so the open ones have smaller indices. -/
def Fresh (s : State ι) : Prop := ∀ item ∈ s.opened, item.2 < s.next

theorem fresh_of_step (hf : Fresh s) (h : Step s frame t) : Fresh t := by
  cases h with
  | opens hl id =>
    intro item hi
    rcases Multiset.mem_cons.mp hi with rfl | hmem
    · exact Nat.lt_succ_self _
    · exact Nat.lt_succ_of_lt (hf item hmem)
  | closes hl ho =>
    intro item hi
    exact hf item (ho ▸ Multiset.mem_cons_of_mem hi)
  | start | note | ends => exact hf

theorem fresh (h : Steps s frames t) (hf : Fresh s) : Fresh t := by
  induction h with
  | nil s => exact hf
  | cons hs _ ih => exact ih (fresh_of_step hf hs)

/-- The index of a frame that opens an item. -/
def openIndex (frame : Frame ι) : Option ℕ :=
  match frame.kind with
  | .opens _ index => index
  | _ => none

/-- Indices are given out in order. -/
theorem openIndices (h : Steps s frames t) :
    ∃ n, frames.filterMap openIndex = List.range' s.next n := by
  induction h with
  | nil s => exact ⟨0, rfl⟩
  | @cons s m t frame frames hs _ ih =>
    obtain ⟨n, ih⟩ := ih
    cases hs with
    | opens hl id =>
      have hc : filterMap openIndex
          (⟨some s.number, .opens (some id) (some s.next)⟩ :: frames) =
            s.next :: frames.filterMap openIndex := filterMap_cons_some rfl
      exact ⟨n + 1, by rw [hc, range'_succ, ih]⟩
    | start | closes | note | ends => exact ⟨n, (filterMap_cons_none rfl).trans ih⟩

variable [DecidableEq ι]

/-- How often an item that has been opened is closed: as often as it stops being open. -/
theorem countP_closes (id : ι) {i : ℕ} (h : Steps s frames t) (hi : i < s.next) :
    frames.countP (fun frame => frame.kind = .closes (some id) (some i)) +
      t.opened.count (id, i) = s.opened.count (id, i) := by
  induction h with
  | nil s => simp
  | @cons s m t frame frames hs _ ih =>
    cases hs with
    | start | note | ends => rw [countP_cons_of_neg (by simp)]; exact ih hi
    | opens hl other =>
      -- another item: its index is new
      have hne : (id, i) ≠ (other, s.next) := by
        intro heq
        cases heq
        exact lt_irrefl _ hi
      rw [countP_cons_of_neg (by simp), ih (Nat.lt_succ_of_lt hi), Multiset.count_cons_of_ne hne]
    | @closes _ other k rest ho =>
      have ih := ih hi
      rw [ho]
      by_cases heq : (id, i) = (other, k)
      · cases heq
        rw [countP_cons_of_pos (by simp), Multiset.count_cons_self, ← ih]
        omega
      · rw [countP_cons_of_neg, Multiset.count_cons_of_ne heq]
        · exact ih
        intro hk
        simp only [decide_eq_true_eq, Kind.closes.injEq, Option.some.injEq] at hk
        exact heq (Prod.ext hk.1.symm hk.2.symm)

end Steps

variable [DecidableEq ι]

/-- **A well-formed stream.** -/
structure WellFormed (frames : List (Frame ι)) : Prop where
  /-- It starts with its first frame, and only there. -/
  starts : ∀ frame rest, frames = frame :: rest →
    frame.kind = .start ∧ ∀ other ∈ rest, other.kind ≠ .start
  /-- Its frames are numbered from zero without a gap. -/
  numbered : frames.map (·.number) = (List.range frames.length).map some
  /-- The items have names and strictly increasing indices, in the order they open in. -/
  increasing : (∀ frame ∈ frames, ∀ id index, frame.kind = .opens id index →
      id.isSome ∧ index.isSome) ∧
    (frames.filterMap Steps.openIndex).Pairwise (· < ·)
  /-- An item that opens is closed at most once after that, and once before the end. -/
  closed : ∀ before frame after id index, frames = before ++ frame :: after →
    frame.kind = .opens id index →
    after.countP (fun other => other.kind = .closes id index) ≤ 1 ∧
      ((∃ last ∈ after, last.kind = .ends) →
        after.countP (fun other => other.kind = .closes id index) = 1)
  /-- Nothing comes after the end. -/
  ended : ∀ before frame after, frames = before ++ frame :: after → frame.kind = .ends → after = []

/-- **What the machine reads from its initial state is well-formed.** -/
theorem WellFormed.of_steps {frames : List (Frame ι)} {t : State ι}
    (h : Steps .initial frames t) : WellFormed frames where
  starts := by
    rintro frame rest rfl
    cases h with
    | cons hs hr =>
      cases hs with
      | start => exact ⟨rfl, hr.not_start rfl⟩
      | opens hl | closes hl | note hl | ends hl => cases hl.started
  numbered := by
    rw [h.numbers, range_eq_range']
    rfl
  increasing := by
    refine ⟨?_, ?_⟩
    · intro frame hf id index hk
      obtain ⟨bef, after, rfl⟩ := append_of_mem hf
      obtain ⟨m, _, hr⟩ := Steps.of_append h
      cases hr with
      | cons hs _ =>
        cases hs with
        | opens hl name => cases hk; exact ⟨rfl, rfl⟩
        | start | closes | note | ends => cases hk
    · obtain ⟨n, hi⟩ := h.openIndices
      rw [hi]
      exact pairwise_lt_range'
  closed := by
    rintro bef frame after id index rfl hk
    obtain ⟨m, hb, hr⟩ := Steps.of_append h
    have hfr : Steps.Fresh m := hb.fresh (fun item ht => absurd ht (Multiset.notMem_zero _))
    cases hr with
    | cons hs ha =>
      cases hs with
      | opens hl name =>
        cases hk
        -- the new item is open once: no open item has its index
        have hnew : (name, m.next) ∉ m.opened := fun hmem => lt_irrefl _ (hfr _ hmem)
        have hc := ha.countP_closes name (Nat.lt_succ_self m.next)
        rw [Multiset.count_cons_self, Multiset.count_eq_zero_of_notMem hnew] at hc
        refine ⟨by omega, fun hend => ?_⟩
        rw [ha.opened_eq_zero hend, Multiset.count_zero] at hc
        omega
      | start | closes | note | ends => cases hk
  ended := by
    rintro bef frame after rfl hk
    obtain ⟨m, _, hr⟩ := Steps.of_append h
    exact (Steps.of_ends hr hk).1

end EggPool.Lib.ItemStream
