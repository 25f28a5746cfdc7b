import EggPool.Lib.AutoTable

/-!
# Bounded batches in key order

`SELECT … ORDER BY id LIMIT n`, and updates of the rows it returns. Marking the
first `n` rows to do turns them into rows done. A later selection of the first
`n` rows done then gives the first `n` of all rows that are to do or done: the
rows marked in one batch are never pushed out by those marked later.
-/

namespace EggPool.Lib

open List

section Lists

variable {α : Type}

/-- A filter that keeps the first `n` elements does not show in them. -/
theorem take_filter_eq_take {p : α → Bool} {l : List α} {n : Nat}
    (h : ∀ x ∈ l.take n, p x = true) : (l.filter p).take n = l.take n := by
  have hs : l.filter p = l.take n ++ (l.drop n).filter p := by
    conv_lhs => rw [← take_append_drop n l, filter_append, filter_eq_self.mpr h]
  rw [hs]
  rcases le_or_gt n l.length with hn | hn
  · exact take_left' (length_take_of_le hn)
  · rw [drop_eq_nil_of_le hn.le, filter_nil, append_nil, take_take, min_self]

/-- What a filter keeps of the first `n` elements is among the first `n` it keeps. -/
theorem mem_take_filter {q : α → Bool} {l : List α} {n : Nat} {x : α} (hx : x ∈ l.take n)
    (hq : q x = true) : x ∈ (l.filter q).take n := by
  have hpre : (l.take n).filter q <+: (l.filter q).take n := by
    rw [prefix_take_iff]
    refine ⟨(List.take_prefix n l).filter q, ?_⟩
    exact le_trans (length_filter_le q _) (by simp)
  exact hpre.subset (mem_filter.mpr ⟨hx, hq⟩)

end Lists

namespace AutoTable

variable {ρ : Type} {key : ρ → ℤ}

/-- The keys of the rows `p` selects, in key order. -/
def keysWhere (t : AutoTable key) (p : ρ → Bool) : List ℤ := (t.rows.filter p).map key

/-- `SELECT id … WHERE p ORDER BY id LIMIT n` -/
def firstKeys (t : AutoTable key) (p : ρ → Bool) (n : Nat) : List ℤ := (t.keysWhere p).take n

/-- What becomes of a row when the first `n` rows to do are rewritten. -/
def markRow (t : AutoTable key) (todo : ρ → Bool) (g : ρ → ρ) (n : Nat) (r : ρ) : ρ :=
  if (t.firstKeys todo n).contains (key r) then g r else r

/-- `UPDATE … WHERE id IN (SELECT id … WHERE todo ORDER BY id LIMIT n)` -/
def mark (t : AutoTable key) (todo : ρ → Bool) (g : ρ → ρ) (hg : ∀ r, key (g r) = key r)
    (n : Nat) : AutoTable key :=
  t.update (fun r => (t.firstKeys todo n).contains (key r)) g hg

variable {t : AutoTable key}

theorem mem_keysWhere {p : ρ → Bool} {r : ρ} (hr : r ∈ t.rows) :
    key r ∈ t.keysWhere p ↔ p r = true := by
  rw [keysWhere, mem_map]
  constructor
  · rintro ⟨x, hx, hkey⟩
    rw [mem_filter] at hx
    rw [← Table.eq_of_key_eq hx.1 hr hkey]
    exact hx.2
  · intro hp
    exact ⟨r, mem_filter.mpr ⟨hr, hp⟩, rfl⟩

theorem mem_firstKeys {p : ρ → Bool} {n : Nat} {r : ρ} (hr : r ∈ t.rows)
    (h : key r ∈ t.firstKeys p n) : p r = true :=
  (mem_keysWhere hr).mp (mem_of_mem_take h)

/-- A positive limit that selects nothing leaves nothing selected. -/
theorem not_of_firstKeys_eq_nil {p : ρ → Bool} {n : Nat} (hn : 0 < n)
    (h : t.firstKeys p n = []) {r : ρ} (hr : r ∈ t.rows) : p r = false := by
  rw [firstKeys, take_eq_nil_iff] at h
  rcases h with h | h
  · omega
  · rw [← Bool.not_eq_true, ← mem_keysWhere hr, h]
    simp

section Marking

variable {t : AutoTable key} {todo done : ρ → Bool} {g : ρ → ρ} {hg : ∀ r, key (g r) = key r}
  {n : Nat}

theorem markRow_of_mem {r : ρ} (h : key r ∈ t.firstKeys todo n) : t.markRow todo g n r = g r :=
  if_pos (by simpa using h)

theorem markRow_of_not_mem {r : ρ} (h : key r ∉ t.firstKeys todo n) : t.markRow todo g n r = r :=
  if_neg (by simpa using h)

theorem rows_mark : (t.mark todo g hg n).rows = t.rows.map (t.markRow todo g n) := rfl

/-- A batch that marked no row found none, and leaves none. -/
theorem not_todo_of_mark (hn : 0 < n) (h : t.firstKeys todo n = []) {r : ρ}
    (hr : r ∈ (t.mark todo g hg n).rows) : todo r = false := by
  rw [rows_mark, mem_map] at hr
  obtain ⟨x, hx, rfl⟩ := hr
  rw [markRow_of_not_mem (by rw [h]; simp)]
  exact not_of_firstKeys_eq_nil hn h hx

variable (hg : ∀ r, key (g r) = key r)

/-- The keys a predicate selects after a batch was marked. -/
theorem keysWhere_mark (p : ρ → Bool) :
    (t.mark todo g hg n).keysWhere p = t.keysWhere (fun r => p (t.markRow todo g n r)) := by
  rw [keysWhere, rows_mark, filter_map, map_map]
  refine map_congr_left fun r _ => ?_
  rw [Function.comp_apply, markRow]
  split
  · exact hg r
  · rfl

/-- Marking moves rows from to do to done, so it keeps those that are one of the two. -/
theorem keysWhere_mark_owed (hd : ∀ r, todo r = true → done (g r) = true) :
    (t.mark todo g hg n).keysWhere (fun r => todo r || done r) =
      t.keysWhere (fun r => todo r || done r) := by
  rw [keysWhere_mark]
  refine congrArg (List.map key) (filter_congr fun r hr => ?_)
  by_cases hin : key r ∈ t.firstKeys todo n
  · have ht := mem_firstKeys hr hin
    rw [markRow_of_mem hin, hd r ht, ht, Bool.or_true, Bool.true_or]
  · rw [markRow_of_not_mem hin]

/-- **The first `n` rows done after a batch are the first `n` that were to do or done before it.** -/
theorem firstKeys_mark (hd : ∀ r, todo r = true → done (g r) = true) :
    (t.mark todo g hg n).firstKeys done n = t.firstKeys (fun r => todo r || done r) n := by
  -- both selections run through the rows that are to do or done
  have ho : t.rows.filter (fun r => done (t.markRow todo g n r)) =
      (t.rows.filter (fun r => todo r || done r)).filter
        (fun r => done (t.markRow todo g n r)) := by
    rw [filter_filter]
    refine filter_congr fun r hr => ?_
    by_cases hin : key r ∈ t.firstKeys todo n
    · rw [mem_firstKeys hr hin, Bool.true_or, Bool.and_true]
    · rw [markRow_of_not_mem hin]
      cases done r <;> simp
  have hf : ∀ r ∈ (t.rows.filter (fun r => todo r || done r)).take n,
      done (t.markRow todo g n r) = true := by
    intro r hr
    obtain ⟨hmem, hor⟩ := mem_filter.mp (mem_of_mem_take hr)
    by_cases hin : key r ∈ t.firstKeys todo n
    · rw [markRow_of_mem hin]
      exact hd r (mem_firstKeys hmem hin)
    -- a row to do among the first n would be in the batch
    rw [markRow_of_not_mem hin]
    cases ht : todo r with
    | false => simpa [ht] using hor
    | true =>
      have hb := mem_take_filter hr ht
      rw [filter_filter, show (fun x => todo x && (todo x || done x)) = todo from
        funext fun x => by cases todo x <;> rfl] at hb
      refine absurd ?_ hin
      rw [firstKeys, keysWhere, ← map_take]
      exact mem_map_of_mem hb
  rw [firstKeys, keysWhere_mark, keysWhere, ho, ← map_take, take_filter_eq_take hf,
    map_take, firstKeys, keysWhere]

end Marking

end AutoTable

end EggPool.Lib
