import Mathlib

/-!
# Lists cut at separators

A list cut at every element that satisfies `p`, such as a text at its line ends or lines
at the blank ones. A piece knows whether a separator ended it; what follows the last
separator is a piece only if it is not empty.
-/

namespace EggPool.Lib

open List

variable {α : Type*} {p : α → Bool}

/-- The pieces of a list in order, each with whether a separator ended it. -/
def pieces (p : α → Bool) : List α → List (List α × Bool)
  | [] => []
  | x :: xs =>
    if p x then ([], true) :: pieces p xs
    else
      match pieces p xs with
      | [] => [([x], false)]
      | (piece, ended) :: rest => (x :: piece, ended) :: rest

/-- A piece up to its separator, and then what follows. -/
theorem pieces_ended {xs : List α} (hxs : ∀ x ∈ xs, p x = false) {x : α} (hx : p x = true)
    (ys : List α) : pieces p (xs ++ x :: ys) = (xs, true) :: pieces p ys := by
  induction xs with
  | nil => simp only [nil_append, pieces, hx, if_true]
  | cons z xs ih =>
    have hz : p z = false := hxs z mem_cons_self
    have hr := ih fun x hmem => hxs x (mem_cons_of_mem z hmem)
    simp [pieces, hz, hr]

/-- A piece that nothing ends. -/
theorem pieces_open {xs : List α} (hxs : ∀ x ∈ xs, p x = false) (hne : xs ≠ []) :
    pieces p xs = [(xs, false)] := by
  induction xs with
  | nil => exact absurd rfl hne
  | cons z xs ih =>
    have hz : p z = false := hxs z mem_cons_self
    have hr := ih fun x hmem => hxs x (mem_cons_of_mem z hmem)
    cases xs with
    | nil => simp [pieces, hz]
    | cons y xs =>
      rw [pieces, if_neg (by rw [hz]; exact Bool.false_ne_true), hr (cons_ne_nil y xs)]

/-- Induction piece by piece: the last one may be open, every other one is ended. -/
theorem pieces_induction {motive : List α → Prop} (nil : motive [])
    (opened : ∀ xs, (∀ x ∈ xs, p x = false) → xs ≠ [] → motive xs)
    (ended : ∀ xs x ys, (∀ x ∈ xs, p x = false) → p x = true → motive ys → motive (xs ++ x :: ys))
    (xs : List α) : motive xs := by
  -- the text before the next separator is what the recursion has passed so far
  have key : ∀ (ys bef : List α), (∀ x ∈ bef, p x = false) → motive (bef ++ ys) := by
    intro ys
    induction ys with
    | nil =>
      intro bef hb
      rw [append_nil]
      by_cases hne : bef = []
      · rwa [hne]
      · exact opened bef hb hne
    | cons y ys ih =>
      intro bef hb
      cases hy : p y with
      | true => exact ended bef y ys hb hy (ih [] (forall_mem_nil _))
      | false =>
        rw [← singleton_append, ← append_assoc]
        exact ih (bef ++ [y]) (forall_mem_append.2 ⟨hb, forall_mem_singleton.2 hy⟩)
  exact key xs [] (forall_mem_nil _)

/-- What does not separate is in a piece. -/
theorem exists_mem_pieces {x : α} (hx : p x = false) {xs : List α} (hmem : x ∈ xs) :
    ∃ pi ∈ pieces p xs, x ∈ pi.1 := by
  induction xs using pieces_induction with
  | nil => nomatch hmem
  | opened xs hxs hne =>
    rw [pieces_open hxs hne]
    exact ⟨(xs, false), mem_cons_self, hmem⟩
  | ended xs y ys hxs hy ih =>
    rw [pieces_ended hxs hy]
    rcases mem_append.1 hmem with hmem | hmem
    · exact ⟨(xs, true), mem_cons_self, hmem⟩
    rcases mem_cons.1 hmem with rfl | hmem
    · rw [hx] at hy
      nomatch hy
    · obtain ⟨pi, hp, hin⟩ := ih hmem
      exact ⟨pi, mem_cons_of_mem _ hp, hin⟩

/-- Leaving out elements that do not separate leaves them out of the pieces. -/
theorem exists_of_mem_pieces_filter {q : α → Bool} (hq : ∀ x, p x = true → q x = true)
    (xs : List α) : ∀ pi ∈ pieces p (xs.filter q),
      ∃ whole ∈ pieces p xs, pi = (whole.1.filter q, whole.2) := by
  induction xs using pieces_induction with
  | nil => exact forall_mem_nil _
  | opened xs hxs hne =>
    intro pi hp
    have hk : ∀ x ∈ xs.filter q, p x = false := fun x hx => hxs x (mem_of_mem_filter hx)
    by_cases hn : xs.filter q = []
    · rw [hn] at hp
      nomatch hp
    rw [pieces_open hk hn] at hp
    rw [pieces_open hxs hne]
    exact ⟨(xs, false), mem_cons_self, mem_singleton.1 hp⟩
  | ended xs x ys hxs hx ih =>
    intro pi hp
    have hk : ∀ x ∈ xs.filter q, p x = false := fun x hx => hxs x (mem_of_mem_filter hx)
    rw [filter_append, filter_cons_of_pos (hq x hx), pieces_ended hk hx] at hp
    rw [pieces_ended hxs hx]
    rcases mem_cons.1 hp with rfl | hp
    · exact ⟨(xs, true), mem_cons_self, rfl⟩
    · obtain ⟨whole, hw, heq⟩ := ih pi hp
      exact ⟨whole, mem_cons_of_mem _ hw, heq⟩

end EggPool.Lib
