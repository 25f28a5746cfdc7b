import EggPool.Lib.Table

/-!
# Ordered maps

A table of pairs, read as a finite map from the first component to the second: a
`BTreeMap`. The lookup of each operation's result is a simp lemma.
-/

namespace EggPool.Lib

variable {ι α : Type} [LinearOrder ι]

abbrev OrdMap (ι α : Type) [LinearOrder ι] := Table (Prod.fst : ι × α → ι)

namespace OrdMap

/-- The value stored at a key. -/
def lookup (m : OrdMap ι α) (k : ι) : Option α := (m.get? k).map Prod.snd

/-- Store a value at a key, in place of the one that may be there. -/
def set (m : OrdMap ι α) (k : ι) (v : α) : OrdMap ι α := m.insert (k, v)

/-- Change the value at a key, if there is one. -/
def adjust (m : OrdMap ι α) (k : ι) (f : α → α) : OrdMap ι α :=
  m.update (fun r => r.1 = k) (fun r => (r.1, f r.2)) fun _ => rfl

/-- Change the value at a key, or store a first one. -/
def entry (m : OrdMap ι α) (k : ι) (first : α) (f : α → α) : OrdMap ι α :=
  if (m.lookup k).isSome then m.adjust k f else m.set k first

@[simp]
theorem lookup_empty (k : ι) : lookup (.empty : OrdMap ι α) k = none := rfl

theorem lookup_eq_some {m : OrdMap ι α} {k : ι} {v : α} : m.lookup k = some v ↔ (k, v) ∈ m.rows := by
  unfold lookup
  constructor
  · intro h
    obtain ⟨⟨j, w⟩, hrow, rfl⟩ := Option.map_eq_some_iff.mp h
    obtain rfl : j = k := Table.key_of_get? hrow
    exact Table.mem_of_get? hrow
  · intro h
    rw [Table.get?_self h]
    rfl

variable (m : OrdMap ι α)

@[simp]
theorem lookup_set (k j : ι) (v : α) :
    (m.set k v).lookup j = if k = j then some v else m.lookup j := by
  unfold lookup set
  rw [Table.get?_insert]
  split <;> rfl

theorem size_set (k : ι) (v : α) :
    (m.set k v).size = if (m.lookup k).isSome then m.size else m.size + 1 := by
  unfold lookup set
  cases h : m.get? k with
  | none => exact Table.size_insert h
  | some r => exact (m.perm_insert_erase (k, v)).length_eq.trans (Table.perm_erase h).length_eq.symm

@[simp]
theorem lookup_erase (k j : ι) : lookup (m.erase k) j = if j = k then none else m.lookup j := by
  unfold lookup
  rw [Table.get?_erase]
  split <;> rfl

@[simp]
theorem lookup_adjust (k j : ι) (f : α → α) :
    (m.adjust k f).lookup j = if k = j then (m.lookup j).map f else m.lookup j := by
  unfold lookup adjust
  rw [Table.get?_update]
  cases hj : m.get? j with
  | none => simp
  | some r =>
    have hkey : r.1 = j := Table.key_of_get? hj
    by_cases hk : k = j
    · simp [hk, hkey]
    · simp [hk, hkey, Ne.symm hk]

/-- How an entry moves a total. -/
theorem sumBy_entry {M : Type} [AddCommMonoid M] (k : ι) (first : α) (f : α → α) (g : α → M) :
    (m.entry k first f).sumBy (fun r => g r.2) + (m.lookup k).elim 0 g =
      m.sumBy (fun r => g r.2) + (m.lookup k).elim (g first) (fun v => g (f v)) := by
  unfold entry lookup
  cases h : m.get? k with
  | none =>
    have hs := Table.sumBy_insert (r := (k, first)) h (fun r => g r.2)
    simpa [set, add_comm] using hs
  | some r =>
    have hs := Table.sumBy_update_one (p := fun r => r.1 = k) (g := fun r => (r.1, f r.2))
      (fun _ => rfl) h (by simp [Table.key_of_get? h]) (by simp) (fun r => g r.2)
    simpa [adjust] using hs

end OrdMap

end EggPool.Lib
