import Mathlib

/-!
# Additive buckets

A table of running totals: one entry per key, and the only write is "add to the
entry, or create it". A reader sums one column over the keys it selects. The one
rule that matters is `total_bump`: a write moves a reader's sum by what it adds,
if the reader selects the key, and not at all otherwise.
-/

namespace EggPool.Lib

open List

variable {κ V : Type} [DecidableEq κ]

/-- One running total per key. -/
@[ext]
structure Buckets (κ V : Type) where
  entries : List (κ × V)
  nodup : (entries.map Prod.fst).Nodup

namespace Buckets

/-- No totals yet. -/
def empty : Buckets κ V := ⟨[], List.nodup_nil⟩

variable [Add V]

/-- Add to the first entry of a key, or append a new one. -/
def addTo (k : κ) (v : V) : List (κ × V) → List (κ × V)
  | [] => [(k, v)]
  | e :: es => if e.1 = k then (e.1, e.2 + v) :: es else e :: addTo k v es

theorem keys_addTo (k : κ) (v : V) : ∀ (l : List (κ × V)), (addTo k v l).map Prod.fst =
      if k ∈ l.map Prod.fst then l.map Prod.fst else l.map Prod.fst ++ [k]
  | [] => by simp [addTo]
  | e :: es => by
      rw [addTo]
      by_cases he : e.1 = k
      · simp [he]
      rw [if_neg he, map_cons, keys_addTo k v es]
      by_cases hk : k ∈ es.map Prod.fst
      · simp [hk]
      · have : ¬ k = e.1 := fun h => he h.symm
        simp [hk, this]

/-- Add an amount to the total of a key. -/
def bump (b : Buckets κ V) (k : κ) (v : V) : Buckets κ V where
  entries := addTo k v b.entries
  nodup := by
    rw [keys_addTo]
    split
    · exact b.nodup
    rename_i hk
    rw [← List.concat_eq_append]
    exact b.nodup.concat hk

/-- A column summed over the selected keys. -/
def total (b : Buckets κ V) (p : κ → Bool) (f : V → ℤ) : ℤ :=
  (b.entries.map (fun e => if p e.1 then f e.2 else 0)).sum

omit [DecidableEq κ] [Add V] in
@[simp]
theorem total_empty (p : κ → Bool) (f : V → ℤ) : (empty : Buckets κ V).total p f = 0 := rfl

theorem sum_addTo {f : V → ℤ} (hf : ∀ x y, f (x + y) = f x + f y) (k : κ) (v : V) (p : κ → Bool) :
    ∀ (l : List (κ × V)), ((addTo k v l).map (fun e => if p e.1 then f e.2 else 0)).sum =
      (l.map (fun e => if p e.1 then f e.2 else 0)).sum + if p k then f v else 0
  | [] => by simp [addTo]
  | e :: es => by
      rw [addTo]
      by_cases he : e.1 = k
      · subst he
        rw [if_pos rfl]
        simp only [map_cons, sum_cons]
        split
        · rw [hf]; ring
        · ring
      · rw [if_neg he]
        simp only [map_cons, sum_cons, sum_addTo hf k v p es]
        ring

/-- **How a write moves a reader's sum.** -/
theorem total_bump {f : V → ℤ} (hf : ∀ x y, f (x + y) = f x + f y) (b : Buckets κ V) (k : κ)
    (v : V) (p : κ → Bool) : (b.bump k v).total p f = b.total p f + if p k then f v else 0 :=
  sum_addTo hf k v p b.entries

omit [Add V] in
/-- A reader of one key sees that key's total. -/
theorem total_of_mem {b : Buckets κ V} {e : κ × V} (he : e ∈ b.entries) (f : V → ℤ) :
    b.total (· = e.1) f = f e.2 := by
  obtain ⟨entries, hn⟩ := b
  unfold total
  induction entries with
  | nil => cases he
  | cons first rest ih =>
    obtain ⟨hf, hr⟩ := nodup_cons.mp hn
    rw [map_cons, sum_cons]
    rcases mem_cons.mp he with rfl | he
    · have hz : (rest.map fun e' => if decide (e'.1 = e.1) = true then f e'.2 else 0).sum = 0 := by
        refine sum_eq_zero fun x hx => ?_
        obtain ⟨e', he', rfl⟩ := mem_map.mp hx
        refine if_neg fun heq => hf ?_
        rw [← of_decide_eq_true heq]
        exact mem_map_of_mem he'
      rw [hz, if_pos (decide_eq_true rfl), add_zero]
    · have hne : ¬ first.1 = e.1 := fun heq => hf (heq ▸ mem_map_of_mem he)
      rw [if_neg (by simpa using hne), zero_add]
      exact ih hr he

omit [Add V] in
/-- A column is zero in every bucket exactly if every single reader sees zero. -/
theorem forall_total_eq_zero_iff {b : Buckets κ V} {f : V → ℤ} :
    (∀ k, b.total (· = k) f = 0) ↔ ∀ e ∈ b.entries, f e.2 = 0 := by
  constructor
  · intro h e he
    rw [← total_of_mem he f]
    exact h e.1
  · intro h k
    refine sum_eq_zero fun x hx => ?_
    obtain ⟨e, he, rfl⟩ := mem_map.mp hx
    rw [h e he, ite_self]

end Buckets

end EggPool.Lib
