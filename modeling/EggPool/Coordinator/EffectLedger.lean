import EggPool.Lib.Recency
import EggPool.Lib.Run

/-!
# Applying the effects of an attempt once

One ledger is shared by every request of a generation. It answers whether an attempt is seen
for the first time, and remembers a bounded number of attempts: when it is full it forgets the
oldest. So an attempt can be taken for a new one again, but only after it was retired or after
as many other attempts as the ledger holds.
-/

namespace EggPool.Coordinator

open EggPool.Lib List

structure EffectLedger where
  applied : Finset ℤ
  order : List ℤ
  capacity : Nat

inductive LedgerCall
  | applyOnce (attemptId : ℤ)
  | retire (attemptId : ℤ)
deriving DecidableEq, Repr

namespace EffectLedger

def withCapacity (capacity : Nat) : EffectLedger := ⟨∅, [], max capacity 1⟩

/-- The loop that makes room; when the queue is empty it clears the set and ends. -/
def evict (capacity : Nat) (applied : Finset ℤ) : List ℤ → Finset ℤ × List ℤ
  | [] => (if capacity ≤ applied.card then ∅ else applied, [])
  | oldest :: order =>
    if capacity ≤ applied.card then evict capacity (applied.erase oldest) order
    else (applied, oldest :: order)

variable (l : EffectLedger) (attemptId : ℤ)

/-- `apply_once`; `try_apply_once` has no way to its error. -/
def applyOnce : EffectLedger × Bool :=
  if attemptId ∈ l.applied then (l, false)
  else
    let (applied, order) := evict l.capacity l.applied l.order
    (⟨insert attemptId applied, order ++ [attemptId], l.capacity⟩, true)

def retire : EffectLedger × Bool :=
  if attemptId ∈ l.applied then
    (⟨l.applied.erase attemptId, l.order.filter (· ≠ attemptId), l.capacity⟩, true)
  else (l, false)

def step : LedgerCall → EffectLedger
  | .applyOnce attemptId => (l.applyOnce attemptId).1
  | .retire attemptId => (l.retire attemptId).1

/-- A call, with the attempts that were applied so far. -/
def logged (s : EffectLedger × Finset ℤ) (call : LedgerCall) : EffectLedger × Finset ℤ :=
  (s.1.step call, s.2 ∪
    match call with
    | .applyOnce attemptId => if (s.1.applyOnce attemptId).2 then {attemptId} else ∅
    | .retire _ => ∅)

/-- The queue and the set hold the same attempts, and no more than there is room for. -/
structure WellFormed (capacity : Nat) (l : EffectLedger) : Prop where
  nodup : l.order.Nodup
  keys : l.order.toFinset = l.applied
  bounded : l.order.length ≤ max capacity 1
  capacity : l.capacity = max capacity 1

/-- What is left of the queue when there is room for one more. -/
def remembered : List ℤ := if l.order.length < l.capacity then l.order else l.order.tail

theorem evict_of_room {capacity : Nat} {applied : Finset ℤ} (h : applied.card < capacity)
    (order : List ℤ) : evict capacity applied order = (applied, order) := by
  cases order <;> simp [evict, Nat.not_le.mpr h]

variable {l} {capacity : Nat}

/-- At most one attempt is forgotten at a time. -/
theorem WellFormed.evict_eq (h : l.WellFormed capacity) :
    evict l.capacity l.applied l.order = (l.remembered.toFinset, l.remembered) := by
  obtain ⟨hd, hk, hb, hr⟩ := h
  have hc : l.applied.card = l.order.length := by
    rw [← hk, toFinset_card_of_nodup hd]
  unfold remembered
  split
  · rw [evict_of_room (by omega), hk]
  rename_i hfull
  cases ho : l.order with
  | nil =>
    rw [ho, length_nil] at hfull
    omega
  | cons oldest order =>
    rw [ho] at hd hk hb hc hfull
    have he : l.applied.erase oldest = order.toFinset := by
      rw [← hk, toFinset_cons, Finset.erase_insert (by simpa using (nodup_cons.mp hd).1)]
    rw [evict, if_pos (by omega), he, evict_of_room]
    · rfl
    · rw [toFinset_card_of_nodup hd.of_cons]
      rw [length_cons] at hb
      omega

theorem WellFormed.applyOnce_eq (h : l.WellFormed capacity) (attemptId : ℤ) :
    l.applyOnce attemptId = if attemptId ∈ l.order then (l, false)
      else (⟨(l.remembered ++ [attemptId]).toFinset, l.remembered ++ [attemptId], l.capacity⟩,
        true) := by
  have hi : insert attemptId l.remembered.toFinset = (l.remembered ++ [attemptId]).toFinset := by
    ext
    simp
  rw [applyOnce, h.evict_eq]
  simp only [← h.keys, mem_toFinset, hi]

theorem wellFormed_withCapacity : (withCapacity capacity).WellFormed capacity :=
  ⟨.nil, rfl, Nat.zero_le _, rfl⟩

theorem WellFormed.step (h : l.WellFormed capacity) (call : LedgerCall) :
    (l.step call).WellFormed capacity := by
  have hb := h.bounded
  have hr := h.capacity
  cases call with
  | applyOnce attemptId =>
    rw [EffectLedger.step, h.applyOnce_eq]
    split
    · exact h
    rename_i hn
    have hs : l.remembered.Sublist l.order := by
      unfold remembered
      split
      · exact .refl _
      · exact tail_sublist _
    refine ⟨(h.nodup.sublist hs).append (nodup_singleton _) ?_, rfl, ?_, hr⟩
    · exact disjoint_singleton.mpr fun hm => hn (hs.subset hm)
    · rw [length_append, length_singleton, remembered]
      split
      · omega
      · rw [length_tail]
        omega
  | retire attemptId =>
    rw [EffectLedger.step, EffectLedger.retire]
    split
    · refine ⟨h.nodup.filter _, ?_, (length_filter_le _ _).trans hb, hr⟩
      ext
      simp [← h.keys, and_comm]
    · exact h

/-- Well formed, and `key` is still in the queue or a full set of others was applied. -/
def Remembers (capacity : Nat) (key : ℤ) (s : EffectLedger × Finset ℤ) : Prop :=
  s.1.WellFormed capacity ∧
    (Behind key (s.2.erase key) s.1.order ∨ max capacity 1 ≤ (s.2.erase key).card)

theorem Remembers.logged {key : ℤ} {s : EffectLedger × Finset ℤ} {call : LedgerCall}
    (h : Remembers capacity key s) (hr : call ≠ .retire key) :
    Remembers capacity key (logged s call) := by
  obtain ⟨l, others⟩ := s
  obtain ⟨hw, hb | hfull⟩ := h <;> refine ⟨hw.step call, ?_⟩
  · cases call with
    | applyOnce k =>
      simp only [EffectLedger.logged, EffectLedger.step, hw.applyOnce_eq]
      split
      · rw [if_neg Bool.false_ne_true, Finset.union_empty]
        exact .inl hb
      rename_i hk
      have hne : k ≠ key := by
        rintro rfl
        exact hk hb.mem
      rw [if_pos rfl, Finset.union_singleton, Finset.erase_insert_of_ne hne]
      refine (Nat.lt_or_ge _ _).imp_left fun hf => Behind.push ?_ k
      unfold remembered
      split
      · exact hb
      · rename_i hl
        exact hb.tail hw.nodup hk (hf.trans_le (hw.capacity ▸ Nat.not_lt.mp hl))
    | retire k =>
      simp only [EffectLedger.logged, EffectLedger.step, EffectLedger.retire, Finset.union_empty]
      split
      · exact .inl (hb.filter fun he => hr (congrArg _ he))
      · exact .inl hb
  · exact .inr (hfull.trans (Finset.card_le_card
      (Finset.erase_subset_erase _ Finset.subset_union_left)))

/--
**The ledger over a whole run.** Queue and set hold the same attempts, none twice and no more than
the capacity, and an attempt is taken for a new one a second time only if it was retired or a full
set of others was applied since.
-/
theorem applied_again (capacity : Nat) (history : List LedgerCall) :
    let l := run step (withCapacity capacity) history
    (l.order.Nodup ∧ l.order.toFinset = l.applied ∧ l.order.length ≤ max capacity 1) ∧
      ∀ (key : ℤ) (since : List LedgerCall),
        let after := run logged ((l.applyOnce key).1, ∅) since
        (l.applyOnce key).2 = true → (after.1.applyOnce key).2 = true →
          .retire key ∈ since ∨ max capacity 1 ≤ (after.2.erase key).card := by
  intro l
  have hw : l.WellFormed capacity :=
    run_invariant (fun _ c h => h.step c) wellFormed_withCapacity history
  refine ⟨⟨hw.nodup, hw.keys, hw.bounded⟩, ?_⟩
  intro key since after hfirst hagain
  refine or_iff_not_imp_left.mpr fun hr => ?_
  have hb : Remembers capacity key ((l.applyOnce key).1, ∅) := by
    refine ⟨hw.step (.applyOnce key), .inl ?_⟩
    rw [hw.applyOnce_eq] at hfirst ⊢
    split at hfirst
    · cases hfirst
    rename_i hn
    rw [if_neg hn]
    exact behind_push _
  obtain ⟨hs, hk | hk⟩ : Remembers capacity key after :=
    run_invariant_along (fun _ _ h hc => h.logged hc) hb
      (along_of_forall (P := (· ≠ LedgerCall.retire key)) (fun c hc he => hr (he ▸ hc)) _)
  · rw [hs.applyOnce_eq, if_pos hk.mem] at hagain
    cases hagain
  · exact hk

theorem applied_again_after_two :
    let after := run logged (((withCapacity 2).applyOnce 1).1, ∅) [.applyOnce 2, .applyOnce 3]
    (after.1.applyOnce 1).2 = true ∧ 2 ≤ (after.2.erase 1).card := by
  refine ⟨by decide, ?_⟩
  exact ((applied_again 2 []).2 1 [.applyOnce 2, .applyOnce 3] (by decide) (by decide)).resolve_left
    (by decide)

end EffectLedger

end EggPool.Coordinator
