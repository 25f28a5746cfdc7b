import Mathlib

/-!
# Queues that forget the oldest

A bounded table keeps its keys in a queue and drops the first one when it needs room. A key is
dropped only when as many different keys came behind it as the queue has places: what stands
behind the key says which they are.
-/

namespace EggPool.Lib

open List

variable {α : Type} [DecidableEq α] {key k : α} {others : Finset α} {l : List α}

/-- The key is in the queue, and whatever stands behind it is among `others`. -/
def Behind (key : α) (others : Finset α) (l : List α) : Prop :=
  ∃ older newer, l = older ++ key :: newer ∧ ∀ k ∈ newer, k ∈ others

theorem behind_push (l : List α) : Behind key ∅ (l ++ [key]) :=
  ⟨l, [], rfl, by simp⟩

theorem Behind.mem (h : Behind key others l) : key ∈ l := by
  obtain ⟨older, newer, rfl, _⟩ := h
  simp

theorem Behind.mono {more : Finset α} (h : Behind key others l) (hs : others ⊆ more) :
    Behind key more l := by
  obtain ⟨older, newer, hl, hn⟩ := h
  exact ⟨older, newer, hl, fun k hk => hs (hn k hk)⟩

theorem Behind.push (h : Behind key others l) (k : α) :
    Behind key (insert k others) (l ++ [k]) := by
  obtain ⟨older, newer, rfl, hn⟩ := h
  refine ⟨older, newer ++ [k], by simp, forall_mem_append.mpr ⟨fun k' hk => ?_, by simp⟩⟩
  exact Finset.mem_insert_of_mem (hn k' hk)

/-- Taking another key out. -/
theorem Behind.filter (h : Behind key others l) (hne : k ≠ key) :
    Behind key others (l.filter (· ≠ k)) := by
  obtain ⟨older, newer, rfl, hn⟩ := h
  refine ⟨older.filter (· ≠ k), newer.filter (· ≠ k), ?_, fun k' hk => hn k' (mem_filter.mp hk).1⟩
  simp [Ne.symm hne]

/-- **Dropping the oldest to make room for a new key** spares a key with few others behind it. -/
theorem Behind.tail (h : Behind key others l) (hd : l.Nodup) (hk : k ∉ l)
    (hf : (insert k others).card < l.length) : Behind key others l.tail := by
  obtain ⟨older, newer, rfl, hn⟩ := h
  cases older with
  | cons first older => exact ⟨older, newer, rfl, hn⟩
  | nil =>
    -- the key itself is the oldest: then the whole queue came after it
    have hs : (k :: newer).toFinset ⊆ insert k others := by
      rw [toFinset_cons]
      exact Finset.insert_subset_insert k fun k' hk => hn k' (mem_toFinset.mp hk)
    have hc := Finset.card_le_card hs
    rw [toFinset_card_of_nodup (nodup_cons.mpr
      ⟨fun hm => hk (mem_cons_of_mem key hm), hd.of_cons⟩)] at hc
    simp only [nil_append, length_cons] at hf hc
    omega

end EggPool.Lib
