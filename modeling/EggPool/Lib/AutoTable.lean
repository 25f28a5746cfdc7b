import EggPool.Lib.Table

/-!
# Tables that number their own rows

An autoincrement table remembers the largest number it ever gave out, and a new
row gets the next one. The memory is a field with its bound, so a fresh number
is never in use and a new row always goes to the end.
-/

namespace EggPool.Lib

variable {ρ : Type}

/-- A table with its sequence: no row's number exceeds it. -/
@[ext]
structure AutoTable (key : ρ → ℤ) extends Table key where
  seq : ℤ
  bound : ∀ r ∈ rows, key r ≤ seq

namespace AutoTable

variable {key : ρ → ℤ}

def empty : AutoTable key := { Table.empty with seq := 0, bound := by simp [Table.empty] }

/-- Append a row under the next number. -/
def append (t : AutoTable key) (mk : ℤ → ρ) (hmk : ∀ k, key (mk k) = k) : AutoTable key where
  rows := t.rows ++ [mk (t.seq + 1)]
  sorted := by
    refine List.pairwise_append.mpr ⟨t.sorted, List.pairwise_singleton _ _, ?_⟩
    intro a ha b hb
    rw [List.mem_singleton] at hb
    rw [hb, hmk]
    have := t.bound a ha
    omega
  seq := t.seq + 1
  bound := by
    intro r hr
    rcases List.mem_append.mp hr with hr | hr
    · have := t.bound r hr; omega
    · rw [List.mem_singleton] at hr
      rw [hr, hmk]

/-- Rewrite every row that `p` selects; `g` keeps numbers. -/
def update (t : AutoTable key) (p : ρ → Bool) (g : ρ → ρ) (hg : ∀ r, key (g r) = key r) :
    AutoTable key where
  toTable := t.toTable.update p g hg
  seq := t.seq
  bound := by
    intro r hr
    obtain ⟨x, hx, rfl⟩ := List.mem_map.mp hr
    have := t.bound x hx
    split
    · rw [hg]; exact this
    · exact this

variable (t : AutoTable key)

@[simp]
theorem toTable_update (p : ρ → Bool) (g : ρ → ρ)
    (hg : ∀ r, key (g r) = key r) : (t.update p g hg).toTable = t.toTable.update p g hg := rfl

variable {t : AutoTable key}

theorem map_rows_update {γ : Type} {f : ρ → γ} {p : ρ → Bool} {g : ρ → ρ}
    {hg : ∀ r, key (g r) = key r} (hf : ∀ r, f (g r) = f r) :
    (t.update p g hg).rows.map f = t.rows.map f := by
  rw [toTable_update, Table.map_rows_update hf]

/-- The next number is free. -/
theorem get?_of_seq_lt {k : ℤ} (h : t.seq < k) : t.get? k = none := by
  refine Table.get?_eq_none.mpr ?_
  intro r hr heq
  have := t.bound r hr
  omega

@[simp]
theorem get?_append (mk : ℤ → ρ) (hmk : ∀ k, key (mk k) = k) (k : ℤ) :
    (t.append mk hmk).get? k = if k = t.seq + 1 then some (mk (t.seq + 1)) else t.get? k := by
  have hf : (t.append mk hmk).get? k =
      (t.get? k).or (if t.seq + 1 = k then some (mk (t.seq + 1)) else none) := by
    simp only [Table.get?, append]
    simp [hmk]
  rw [hf]
  split
  · rename_i hk
    subst hk
    rw [get?_of_seq_lt (by omega), if_pos rfl]
    rfl
  · rename_i hk
    rw [if_neg (Ne.symm hk)]
    cases t.get? k <;> rfl

theorem mem_append {mk : ℤ → ρ} (hmk : ∀ k, key (mk k) = k) {r : ρ} :
    r ∈ (t.append mk hmk).rows ↔ r ∈ t.rows ∨ r = mk (t.seq + 1) := by
  simp [append]

theorem sumBy_append {M : Type} [AddCommMonoid M] (t : AutoTable key) (mk : ℤ → ρ)
    (hmk : ∀ k, key (mk k) = k) (f : ρ → M) :
    (t.append mk hmk).sumBy f = t.sumBy f + f (mk (t.seq + 1)) := by
  simp [Table.sumBy, append]

/-- An update of one key that changes what it selects shows if and only if it selects that row. -/
theorem update_eq_self_iff {p : ρ → Bool} {g : ρ → ρ}
    {hg : ∀ r, key (g r) = key r} {k : ℤ} (hkey : ∀ r, p r = true → key r = k)
    (hne : ∀ r, p r = true → g r ≠ r) : t.update p g hg = t ↔ (t.get? k).any p = false := by
  have ht : t.update p g hg = t ↔ t.toTable.update p g hg = t.toTable := by
    rw [AutoTable.ext_iff, Table.ext_iff]
    exact and_iff_left rfl
  rw [ht, Table.update_eq_self_iff]
  constructor
  · intro hall
    cases hget : t.get? k with
    | none => rfl
    | some r =>
      by_contra hp
      have hp : p r = true := by simpa using hp
      exact hne r hp (hall r (Table.mem_of_get? hget) hp)
  · intro hn r hr hp
    have hget : t.get? k = some r := by rw [← hkey r hp]; exact Table.get?_self hr
    rw [hget, Option.any_some, hp] at hn
    cases hn

end AutoTable

end EggPool.Lib
