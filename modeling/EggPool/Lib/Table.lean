import Mathlib

/-!
# Keyed tables

An ordered map and a rowid table are the same thing to a reader: a finite set of
rows, at most one for each key, visited in key order. `Table key` is that set.
The order invariant is a field, so a table with two rows for one key cannot be
built, and every lookup below is a lookup of *the* row.

Sums over a table are what ledger invariants are made of. The rules here say how
each operation moves a sum, so that no proof about a ledger opens the list.
-/

namespace EggPool.Lib

open List

variable {ι ρ : Type} [LinearOrder ι]

/-- Rows in strictly increasing key order. -/
@[ext]
structure Table (key : ρ → ι) where
  rows : List ρ
  sorted : rows.Pairwise (fun a b => key a < key b)

namespace Table

variable {key : ρ → ι}

/-- No rows. -/
def empty : Table key := ⟨[], List.Pairwise.nil⟩

variable (t : Table key)

/-- The row stored at a key. -/
def get? (k : ι) : Option ρ := t.rows.find? (fun r => key r = k)

/-- How many rows there are. -/
def size : Nat := t.rows.length

/-- Put `r` at its place in a sorted list, replacing the row of the same key. -/
def place (key : ρ → ι) (r : ρ) : List ρ → List ρ
  | [] => [r]
  | x :: xs =>
    if key r < key x then r :: x :: xs
    else if key x = key r then r :: xs
    else x :: place key r xs

/-- Rewrite every row that `p` selects; `g` keeps keys. -/
def update (p : ρ → Bool) (g : ρ → ρ) (hg : ∀ r, key (g r) = key r) : Table key where
  rows := t.rows.map (fun r => if p r then g r else r)
  sorted := by
    refine List.pairwise_map.mpr (t.sorted.imp ?_)
    intro a b h
    split <;> split <;> simpa [hg] using h

/-- Drop the row of a key. -/
def erase (k : ι) : Table key where
  rows := t.rows.filter (fun r => key r ≠ k)
  sorted := t.sorted.filter _

variable {r : ρ}

theorem mem_place {x : ρ} {l : List ρ} (h : x ∈ place key r l) : x = r ∨ x ∈ l := by
  fun_induction place key r l with
  | case1 | case2 => simpa using h
  | case3 y ys _ heq =>
    rcases mem_cons.mp h with h | h
    · exact Or.inl h
    · exact Or.inr (mem_cons_of_mem _ h)
  | case4 y ys _ _ ih =>
    rcases mem_cons.mp h with h | h
    · exact Or.inr (h ▸ mem_cons_self)
    · exact (ih h).imp_right (mem_cons_of_mem _)

theorem place_sorted {l : List ρ} (h : l.Pairwise (fun a b => key a < key b)) :
    (place key r l).Pairwise (fun a b => key a < key b) := by
  fun_induction place key r l with
  | case1 => simp
  | case2 x xs hlt =>
    exact pairwise_cons.mpr ⟨forall_mem_cons.mpr ⟨hlt,
      fun a ha => lt_trans hlt (rel_of_pairwise_cons h ha)⟩, h⟩
  | case3 x xs _ heq =>
    obtain ⟨hx, hxs⟩ := pairwise_cons.mp h
    exact pairwise_cons.mpr ⟨fun a ha => heq ▸ hx a ha, hxs⟩
  | case4 x xs hge hne ih =>
    obtain ⟨hx, hxs⟩ := pairwise_cons.mp h
    refine pairwise_cons.mpr ⟨fun a ha => ?_, ih hxs⟩
    rcases mem_place ha with rfl | ha
    · exact lt_of_le_of_ne (not_lt.mp hge) hne
    · exact hx a ha

/-- Store a row, replacing the one of the same key if there is one. -/
def insert (r : ρ) : Table key := ⟨place key r t.rows, place_sorted t.sorted⟩

/-! ## Lookup -/

theorem keys_nodup : (t.rows.map key).Nodup :=
  pairwise_map.mpr (t.sorted.imp ne_of_lt)

variable {t : Table key} {k : ι}

theorem eq_of_key_eq {a b : ρ} (ha : a ∈ t.rows) (hb : b ∈ t.rows) (h : key a = key b) : a = b :=
  inj_on_of_nodup_map t.keys_nodup ha hb h

theorem get?_eq_some : t.get? k = some r ↔ r ∈ t.rows ∧ key r = k := by
  constructor
  · intro h
    exact ⟨mem_of_find?_eq_some h, by simpa using find?_some h⟩
  rintro ⟨hr, hk⟩
  obtain ⟨x, hx⟩ : ∃ x, t.get? k = some x := by
    refine Option.isSome_iff_exists.mp ?_
    exact find?_isSome.mpr ⟨r, hr, by simpa using hk⟩
  have hxk : key x = k := by simpa using find?_some hx
  rw [hx, eq_of_key_eq (mem_of_find?_eq_some hx) hr (hxk.trans hk.symm)]

theorem get?_eq_none : t.get? k = none ↔ ∀ r ∈ t.rows, key r ≠ k := by
  simp [get?]

theorem get?_self (h : r ∈ t.rows) : t.get? (key r) = some r :=
  get?_eq_some.mpr ⟨h, rfl⟩

theorem mem_of_get? (h : t.get? k = some r) : r ∈ t.rows :=
  (get?_eq_some.mp h).1

theorem key_of_get? (h : t.get? k = some r) : key r = k :=
  (get?_eq_some.mp h).2

@[simp]
theorem get?_empty (k : ι) : (empty : Table key).get? k = none := rfl

@[simp]
theorem get?_update (t : Table key) (p : ρ → Bool) (g : ρ → ρ) (hg : ∀ r, key (g r) = key r)
    (k : ι) : (t.update p g hg).get? k = (t.get? k).map (fun r => if p r then g r else r) := by
  have hkey : ∀ r, key (if p r then g r else r) = key r := by
    intro r; split <;> simp [hg]
  simp only [get?, update, find?_map]
  congr 2
  funext r
  simp [hkey]

/-- A rewrite shows in no column that it keeps. -/
theorem map_rows_update {γ : Type} {f : ρ → γ} {p : ρ → Bool} {g : ρ → ρ}
    {hg : ∀ r, key (g r) = key r} (hf : ∀ r, f (g r) = f r) :
    (t.update p g hg).rows.map f = t.rows.map f := by
  show (t.rows.map fun r => if p r then g r else r).map f = _
  rw [map_map]
  refine map_congr_left fun r _ => ?_
  rw [Function.comp_apply]
  split
  · exact hf r
  · rfl

/-- An update shows, unless every row it selects is already as it would be. -/
theorem update_eq_self_iff {p : ρ → Bool} {g : ρ → ρ} {hg : ∀ r, key (g r) = key r} :
    t.update p g hg = t ↔ ∀ r ∈ t.rows, p r = true → g r = r := by
  have hm : (t.update p g hg).rows = t.rows ↔
      ∀ r ∈ t.rows, (if p r then g r else r) = id r := by
    conv_lhs => rhs; rw [← map_id t.rows]
    exact map_inj_left
  rw [Table.ext_iff, hm]
  refine forall₂_congr fun r _ => ?_
  split <;> simp_all

theorem find?_place (l : List ρ) : (place key r l).find? (fun x => key x = k) =
      if key r = k then some r else l.find? (fun x => key x = k) := by
  fun_induction place key r l with
  | case1 | case2 => by_cases hk : key r = k <;> simp [find?_cons, hk]
  | case3 x xs _ heq => by_cases hk : key r = k <;> simp [hk, heq]
  | case4 x xs _ hne ih =>
    rw [find?_cons, find?_cons, ih]
    by_cases hk : key r = k
    · have : key x ≠ k := fun h => hne (h.trans hk.symm)
      simp [hk, this]
    · simp [hk]

@[simp]
theorem get?_insert (t : Table key) (r : ρ) (k : ι) :
    (t.insert r).get? k = if key r = k then some r else t.get? k :=
  find?_place t.rows

theorem get?_insert_self (t : Table key) (r : ρ) : (t.insert r).get? (key r) = some r := by
  rw [get?_insert, if_pos rfl]

@[simp]
theorem get?_erase (t : Table key) (k j : ι) :
    (t.erase k).get? j = if j = k then none else t.get? j := by
  unfold get? erase
  rw [find?_filter]
  split
  · rename_i h
    rw [find?_eq_none]
    intro r _
    simp [h]
  · rename_i h
    congr 1
    funext r
    by_cases hr : key r = j <;> simp [hr, h]

/-! ## Size -/

@[simp]
theorem size_update (t : Table key) (p : ρ → Bool) (g : ρ → ρ) (hg : ∀ r, key (g r) = key r) :
    (t.update p g hg).size = t.size := by
  simp [size, update]

/-- Nothing is dropped where nothing is stored. -/
theorem erase_eq_self (h : t.get? k = none) : t.erase k = t := by
  rw [get?_eq_none] at h
  refine Table.ext ?_
  change t.rows.filter _ = t.rows
  rw [filter_eq_self]
  intro r hr
  simpa using h r hr

/-- Dropping the first row leaves the others. -/
theorem rows_erase_head {rows : List ρ} (h : t.rows = r :: rows) :
    (t.erase (key r)).rows = rows := by
  have hs := t.sorted
  rw [h, pairwise_cons] at hs
  change t.rows.filter _ = rows
  rw [h, filter_cons_of_neg (by simp), filter_eq_self]
  intro x hx
  simpa using (hs.1 x hx).ne'

/-- A table is a row and the rest of it. -/
theorem perm_erase (h : t.get? k = some r) : t.rows.Perm (r :: (t.erase k).rows) := by
  obtain ⟨hm, hk⟩ := get?_eq_some.mp h
  have hn : t.rows.Nodup := t.keys_nodup.of_map
  refine (perm_ext_iff_of_nodup hn (nodup_cons.mpr ⟨?_, hn.filter _⟩)).mpr fun x => ?_
  · simp [hk]
  rw [mem_cons, mem_filter]
  constructor
  · intro hx
    by_cases hxk : key x = k
    · exact .inl (eq_of_key_eq hx hm (hxk.trans hk.symm))
    · exact .inr ⟨hx, by simpa using hxk⟩
  · rintro (rfl | ⟨hx, -⟩)
    · exact hm
    · exact hx

theorem erase_insert (t : Table key) (r : ρ) : (t.insert r).erase (key r) = t.erase (key r) := by
  refine Table.ext ?_
  show (place key r t.rows).filter _ = t.rows.filter _
  generalize t.rows = l
  fun_induction place key r l with
  | case1 | case2 => simp
  | case3 x xs _ heq => simp [heq]
  | case4 x xs _ _ ih => rw [filter_cons, filter_cons, ih]

/-- A stored row stands in the place of the one that was there. -/
theorem perm_insert_erase (t : Table key) (r : ρ) :
    (t.insert r).rows.Perm (r :: (t.erase (key r)).rows) := by
  rw [← erase_insert]
  exact perm_erase (get?_insert_self t r)

theorem perm_insert (h : t.get? (key r) = none) : (t.insert r).rows.Perm (r :: t.rows) := by
  have hp := perm_insert_erase t r
  rwa [erase_eq_self h] at hp

theorem size_insert (h : t.get? (key r) = none) : (t.insert r).size = t.size + 1 := by
  simpa [size] using (perm_insert h).length_eq

theorem size_erase (h : t.get? k = some r) : (t.erase k).size + 1 = t.size := by
  simpa [size] using (perm_erase h).length_eq.symm

/-! ## Sums -/

section Sum

variable {M : Type} [AddCommMonoid M]

/-- The total of `f` over all rows. -/
def sumBy (t : Table key) (f : ρ → M) : M := (t.rows.map f).sum

@[simp]
theorem sumBy_empty (f : ρ → M) : (empty : Table key).sumBy f = 0 := rfl

variable {t : Table key}

theorem sumBy_congr {f g : ρ → M} (h : ∀ r ∈ t.rows, f r = g r) : t.sumBy f = t.sumBy g := by
  unfold sumBy
  rw [map_congr_left h]

theorem sumBy_insert {r : ρ} (h : t.get? (key r) = none) (f : ρ → M) :
    (t.insert r).sumBy f = f r + t.sumBy f := by
  unfold sumBy
  rw [((perm_insert h).map f).sum_eq]
  simp

theorem sumBy_update (t : Table key) (p : ρ → Bool) (g : ρ → ρ) (hg : ∀ r, key (g r) = key r)
    (f : ρ → M) : (t.update p g hg).sumBy f = t.sumBy (fun r => f (if p r then g r else r)) := by
  simp [sumBy, update, Function.comp_def]

/--
Two summands that differ at one row only. Everything a single-row operation does
to a total comes from here.
-/
theorem sumBy_congr_except {k : ι} {r : ρ} {f g : ρ → M}
    (hr : t.get? k = some r) (h : ∀ x ∈ t.rows, key x ≠ k → f x = g x) :
    t.sumBy f + g r = t.sumBy g + f r := by
  have hs : ∀ f : ρ → M, t.sumBy f = f r + (t.erase k).sumBy f := by
    intro f
    unfold sumBy
    rw [((perm_erase hr).map f).sum_eq, map_cons, sum_cons]
  have he : (t.erase k).sumBy f = (t.erase k).sumBy g := by
    refine sumBy_congr fun x hx => ?_
    obtain ⟨hm, hk⟩ := mem_filter.mp hx
    exact h x hm (by simpa using hk)
  rw [hs f, hs g, he]
  abel

/-- How rewriting one row moves a total. -/
theorem sumBy_update_one {p : ρ → Bool} {g : ρ → ρ} {k : ι} {r : ρ}
    (hg : ∀ r, key (g r) = key r) (hr : t.get? k = some r) (hp : p r = true)
    (hkey : ∀ x, p x = true → key x = k) (f : ρ → M) : (t.update p g hg).sumBy f + f r = t.sumBy f + f (g r) := by
  rw [sumBy_update]
  have hm := sumBy_congr_except (f := fun x => f (if p x then g x else x)) hr
    (fun x _ hx => by rw [if_neg (fun h => hx (hkey x h))])
  rwa [if_pos hp] at hm

/-- A total of pairs is a pair of totals. -/
theorem sumBy_prod {N : Type} [AddCommMonoid N] (t : Table key) (f : ρ → M × N) :
    t.sumBy f = (t.sumBy fun r => (f r).1, t.sumBy fun r => (f r).2) := by
  unfold sumBy
  induction t.rows with
  | nil => rfl
  | cons r rows ih =>
    rw [map_cons, sum_cons, ih]
    rfl

section Order

variable [PartialOrder M] [IsOrderedAddMonoid M] {t : Table key} {f : ρ → M}

theorem sumBy_nonneg (h : ∀ r ∈ t.rows, 0 ≤ f r) : 0 ≤ t.sumBy f := by
  refine sum_nonneg ?_
  intro x hx
  obtain ⟨r, hr, rfl⟩ := mem_map.mp hx
  exact h r hr

theorem sumBy_le_sumBy {g : ρ → M} (h : ∀ r ∈ t.rows, f r ≤ g r) : t.sumBy f ≤ t.sumBy g :=
  sum_le_sum h

/-- One row's share is within a total of non-negative shares. -/
theorem le_sumBy (h : ∀ r ∈ t.rows, 0 ≤ f r) {k : ι} {r : ρ} (hr : t.get? k = some r) :
    f r ≤ t.sumBy f := by
  refine single_le_sum ?_ _ (mem_map_of_mem (mem_of_get? hr))
  intro x hx
  obtain ⟨y, hy, rfl⟩ := mem_map.mp hx
  exact h y hy

/--
Two tables under the same keys: if each row of one finds a row of the other that
outweighs it, so does the total.
-/
theorem sumBy_le_of_matched {σ : Type} {key' : σ → ι} {t' : Table key'} {g : σ → M}
    (hg : ∀ y ∈ t'.rows, 0 ≤ g y) (h : ∀ x ∈ t.rows, ∃ y, t'.get? (key x) = some y ∧ f x ≤ g y) :
    t.sumBy f ≤ t'.sumBy g := by
  -- both totals are read off the keys, and one key list is contained in the other
  let G : ι → M := fun k => ((t'.get? k).map g).getD 0
  have hrow : ∀ y ∈ t'.rows, G (key' y) = g y := by
    intro y hy
    simp [G, get?_self hy]
  have hle : t.sumBy f ≤ ((t.rows.map key).map G).sum := by
    rw [map_map]
    refine sum_le_sum fun x hx => ?_
    obtain ⟨y, hy, hxy⟩ := h x hx
    simpa [G, hy] using hxy
  have heq : t'.sumBy g = ((t'.rows.map key').map G).sum := by
    rw [map_map]
    exact sumBy_congr fun y hy => (hrow y hy).symm
  have hsub : (t.rows.map key).Subperm (t'.rows.map key') := by
    refine subperm_of_subset t.keys_nodup fun k hk => ?_
    obtain ⟨x, hx, rfl⟩ := mem_map.mp hk
    obtain ⟨y, hy, _⟩ := h x hx
    exact mem_map.mpr ⟨y, mem_of_get? hy, key_of_get? hy⟩
  obtain ⟨l, hp, hl⟩ := hsub
  rw [heq]
  refine le_trans hle ?_
  rw [← (hp.map G).sum_eq]
  refine (hl.map G).sum_le_sum fun m hm => ?_
  obtain ⟨k, hk, rfl⟩ := mem_map.mp hm
  obtain ⟨y, hy, rfl⟩ := mem_map.mp hk
  rw [hrow y hy]
  exact hg y hy

end Order

end Sum

end Table

end EggPool.Lib
