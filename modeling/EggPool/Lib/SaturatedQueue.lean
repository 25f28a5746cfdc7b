import EggPool.Lib.I64

/-!
# A queue with a saturating total

Items with a weight that is not negative leave a queue at the front, and their weights are
kept as a running total: added with saturation at `i64::MAX`, taken off exactly with a floor
at zero. What saturation has lost is not given back, so after a saturated total an item's
departure takes too much off. `takeOff_eq_saturatingSum_iff` says exactly when the total is
still the saturated sum of what stays.
-/

namespace EggPool.Lib

open List

variable {α : Type}

/-! ## Leaving at the front -/

/-- What leaves while the queue meets a condition. -/
def dropped (more : List α → Bool) : List α → List α
  | [] => []
  | a :: l => if more (a :: l) then a :: dropped more l else []

/-- What stays. -/
def kept (more : List α → Bool) : List α → List α
  | [] => []
  | a :: l => if more (a :: l) then kept more l else a :: l

variable (more : List α → Bool)

theorem dropped_append_kept (l : List α) : dropped more l ++ kept more l = l := by
  induction l with
  | nil => rfl
  | cons a l ih =>
    unfold dropped kept
    split
    · rw [cons_append, ih]
    · rfl

theorem kept_suffix (l : List α) : kept more l <:+ l :=
  ⟨dropped more l, dropped_append_kept more l⟩

theorem kept_nil_or (l : List α) : kept more l = [] ∨ more (kept more l) = false := by
  induction l with
  | nil => exact .inl rfl
  | cons a l ih =>
    unfold kept
    split
    · exact ih
    · rename_i hm
      exact .inr (Bool.eq_false_of_not_eq_true hm)

/-! ## Totals -/

variable (weight : α → Int)

/-- Weights added up with saturation; a negative operand counts as zero. -/
def saturatingSum (l : List α) : Int :=
  l.foldl (fun total a => I64.saturatingAdd (max total 0) (max (weight a) 0)) 0

/-- A total after some items left. -/
def takeOff (total : Int) (left : List α) : Int :=
  left.foldl (fun total a => max (total - weight a) 0) total

variable {weight} {l : List α}

theorem sum_weight_nonneg (h : ∀ a ∈ l, 0 ≤ weight a) : 0 ≤ (l.map weight).sum := by
  refine sum_nonneg fun x hx => ?_
  obtain ⟨a, ha, rfl⟩ := mem_map.mp hx
  exact h a ha

theorem saturatingSum_append_singleton (l : List α) (a : α) : saturatingSum weight (l ++ [a]) =
      I64.saturatingAdd (max (saturatingSum weight l) 0) (max (weight a) 0) := by
  simp [saturatingSum]

theorem takeOff_append (t : Int) (f second : List α) :
    takeOff weight t (f ++ second) = takeOff weight (takeOff weight t f) second :=
  foldl_append

/-- **A saturating sum is the sum, cut off.** -/
theorem saturatingSum_eq (h : ∀ a ∈ l, 0 ≤ weight a) :
    saturatingSum weight l = min I64.MAX (l.map weight).sum := by
  induction l using reverseRecOn with
  | nil => rfl
  | append_singleton l a ih =>
    have hl : ∀ b ∈ l, 0 ≤ weight b := fun b hb => h b (mem_append_left _ hb)
    have ha : 0 ≤ weight a := h a (by simp)
    have hs := sum_weight_nonneg hl
    rw [saturatingSum_append_singleton, ih hl, map_append, sum_append]
    simp
    unfold I64.saturatingAdd I64.MAX I64.MIN
    omega

theorem takeOff_eq {t : Int} (ht : 0 ≤ t) (h : ∀ a ∈ l, 0 ≤ weight a) :
    takeOff weight t l = max (t - (l.map weight).sum) 0 := by
  induction l generalizing t with
  | nil =>
    unfold takeOff
    simp [ht]
  | cons a l ih =>
    obtain ⟨ha, hl⟩ := forall_mem_cons.mp h
    have hm := sum_weight_nonneg hl
    have hs : takeOff weight t (a :: l) = takeOff weight (max (t - weight a) 0) l := rfl
    rw [hs, ih (le_max_right _ _) hl, map_cons, sum_cons]
    omega

/-- **When a total survives departures**: it was not cut off, or nothing of weight left, or
nothing of weight stayed. -/
theorem takeOff_eq_saturatingSum_iff {le s : List α} (hl : ∀ a ∈ le, 0 ≤ weight a)
    (hs : ∀ a ∈ s, 0 ≤ weight a) :
    takeOff weight (saturatingSum weight (le ++ s)) le = saturatingSum weight s ↔
      ((le ++ s).map weight).sum ≤ I64.MAX ∨ (le.map weight).sum = 0 ∨ (s.map weight).sum = 0:= by
  have hall : ∀ a ∈ le ++ s, 0 ≤ weight a := forall_mem_append.mpr ⟨hl, hs⟩
  have hL := sum_weight_nonneg hl
  have hS := sum_weight_nonneg hs
  have hm : (0 : Int) < I64.MAX := by decide
  rw [saturatingSum_eq hall, saturatingSum_eq hs, takeOff_eq _ hl, map_append, sum_append]
  · constructor
    · omega
    · rintro (h | h | h) <;> omega
  · rw [map_append, sum_append]
    omega

end EggPool.Lib
