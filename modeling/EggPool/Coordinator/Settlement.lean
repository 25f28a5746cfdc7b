import EggPool.Budget.Ledger
import EggPool.Coordinator.Finalization
import EggPool.Lib.Run

/-!
# A request is charged once

Finalization commands arrive in any order and more than once: a failed attempt is
finalized, the request is finalized after it, either is sent again. What keeps the
books straight is that every write is conditional. A hold is settled only while it
is active, and the usage of an attempt is entered only if the attempt has no entry.

The proof keeps the list of requests folded so far beside the scope. `SettledOnce`
says that the scope is where it started, plus exactly these folds; a settlement can
only add a request whose hold is still the one it started with.
-/

namespace EggPool.Budget

open List EggPool.Lib BudgetScope

/-- One request as it is folded into the usage of a scope. -/
structure Fold (ω : Type) where
  hold : HoldRow ω
  counts : UsageCounts
  /-- A request counts once. -/
  requestCount_eq : counts.requestCount = 1

namespace Fold

variable {ω : Type} [DecidableEq ω]

def requestId (fold : Fold ω) : Int := fold.hold.requestId

/-- The day bucket of the request. -/
def dayKey (fold : Fold ω) : UsageKey ω :=
  ⟨fold.hold.owner, fold.hold.modelId, .day, fold.hold.dayStart⟩

/-- The month bucket of the request. -/
def monthKey (fold : Fold ω) : UsageKey ω :=
  ⟨fold.hold.owner, fold.hold.modelId, .month, fold.hold.monthStart⟩

/-- Both buckets take the same counts. -/
def into (usage : Buckets (UsageKey ω) UsageCounts) (fold : Fold ω) :
    Buckets (UsageKey ω) UsageCounts :=
  (usage.bump fold.dayKey fold.counts).bump fold.monthKey fold.counts

/-- The requests a bucket has counted. -/
def requestCount (usage : Buckets (UsageKey ω) UsageCounts) (key : UsageKey ω) : Int :=
  usage.total (fun k => k = key) UsageCounts.requestCount

end Fold

/-- A scope is where it started, plus one settlement for each of the folds. -/
structure SettledOnce {ω : Type} [DecidableEq ω] (s₀ s : BudgetScope ω) (folds : List (Fold ω)) :
    Prop where
  /-- No request is folded twice. -/
  once : (folds.map Fold.requestId).Nodup
  /-- A folded request had an active hold and has a settled one. -/
  folded : ∀ fold ∈ folds, s₀.activeHold? fold.requestId = some fold.hold ∧
    ∃ h, s.holds.get? fold.requestId = some h ∧ h.status = .settled
  /-- The hold of any other request is as it was. -/
  untouched : ∀ requestId, requestId ∉ folds.map Fold.requestId →
    s.holds.get? requestId = s₀.holds.get? requestId
  usage : s.usage = run Fold.into s₀.usage folds

namespace SettledOnce

variable {ω : Type} [DecidableEq ω] {s₀ s : BudgetScope ω} {folds : List (Fold ω)}

theorem refl (s : BudgetScope ω) : SettledOnce s s [] where
  once := nodup_nil
  folded := by intro fold h; cases h
  untouched := fun _ _ => rfl
  usage := rfl

/-- A hold that is still active is the one the scope started with. -/
theorem active_untouched (h : SettledOnce s₀ s folds) {r : Int} {row : HoldRow ω}
    (hact : s.activeHold? r = some row) :
    r ∉ folds.map Fold.requestId ∧ s₀.activeHold? r = some row := by
  obtain ⟨hget, hst⟩ := activeHold?_eq_some.mp hact
  have hn : r ∉ folds.map Fold.requestId := by
    intro hmem
    obtain ⟨fold, hf, rfl⟩ := mem_map.mp hmem
    obtain ⟨_, row', hget', hst'⟩ := h.folded fold hf
    rw [hget, Option.some.injEq] at hget'
    rw [← hget', hst] at hst'
    cases hst'
  refine ⟨hn, activeHold?_eq_some.mpr ⟨?_, hst⟩⟩
  rw [← h.untouched r hn, hget]

/-- Settling a request leaves the holds of the others alone. -/
theorem get?_maybeSettle_of_ne {r other : Int} {row : HoldRow ω}
    {a : AttemptUsageTable} {now : String} (hact : s.activeHold? r = some row) (hne : other ≠ r) :
    (s.maybeSettle a r true now).holds.get? other = s.holds.get? other := by
  rw [maybeSettle_of_active hact, get?_update_activeFor hne]

/-- **Step lemma.** A settlement folds one more request, or nothing. -/
theorem maybeSettle (h : SettledOnce s₀ s folds) (att : AttemptUsageTable) (requestId : Int)
    (tr : Bool) (now : String) :
    ∃ more, SettledOnce s₀ (s.maybeSettle att requestId tr now) (folds ++ more) := by
  cases hact : s.activeHold? requestId with
  | none =>
    rw [maybeSettle_eq_self (.inl hact)]
    exact ⟨[], by rwa [List.append_nil]⟩
  | some row =>
    cases tr with
    | false =>
      rw [maybeSettle_eq_self (.inr rfl)]
      exact ⟨[], by rwa [List.append_nil]⟩
    | true =>
      obtain ⟨hnew, hact₀⟩ := h.active_untouched hact
      have hkey : row.requestId = requestId :=
        Table.key_of_get? (activeHold?_eq_some.mp hact).1
      let fold : Fold ω := ⟨row, settledCounts row (observe att requestId), rfl⟩
      have hf : fold.requestId = requestId := hkey
      have hs := settled_maybeSettle hact att now
      refine ⟨[fold], ?_, ?_, ?_, ?_⟩
      · rw [map_append, map_singleton, hf, ← concat_eq_append]
        exact h.once.concat hnew
      · intro fold' hmem
        rcases mem_append.mp hmem with hold | hl
        · obtain ⟨hbe, row', hget', hst'⟩ := h.folded fold' hold
          have hne : fold'.requestId ≠ requestId := by
            intro heq
            exact hnew (heq ▸ mem_map_of_mem hold)
          exact ⟨hbe, row', by rw [get?_maybeSettle_of_ne hact hne, hget'], hst'⟩
        · rw [mem_singleton.mp hl, hf]
          exact ⟨hact₀, hs⟩
      · intro other hmem
        rw [map_append, mem_append, not_or, map_singleton,
          mem_singleton, hf] at hmem
        rw [get?_maybeSettle_of_ne hact hmem.2, h.untouched other hmem.1]
      · rw [maybeSettle_of_active hact, run_append, run_cons, ← h.usage]
        rfl

end SettledOnce

/-- A usage table is where it started, plus one entry for each of the facts. -/
structure RecordedOnce (t₀ t : AttemptUsageTable) (facts : List AttemptUsage) : Prop where
  /-- No attempt is recorded twice. -/
  once : (facts.map AttemptUsage.attemptId).Nodup
  /-- A recorded attempt had no entry, and has the one recorded for it. -/
  recorded : ∀ u ∈ facts, t₀.get? u.attemptId = none ∧ t.get? u.attemptId = some u
  /-- Any other entry is as it was. -/
  untouched : ∀ attemptId, attemptId ∉ facts.map AttemptUsage.attemptId →
    t.get? attemptId = t₀.get? attemptId

namespace RecordedOnce

variable {t₀ t : AttemptUsageTable} {facts : List AttemptUsage}

theorem refl (t : AttemptUsageTable) : RecordedOnce t t [] where
  once := nodup_nil
  recorded := by intro u h; cases h
  untouched := fun _ _ => rfl

/-- **Step lemma.** The first facts of an attempt are entered, later ones are not. -/
theorem recordAttemptUsage (h : RecordedOnce t₀ t facts) (us : AttemptUsage) :
    ∃ more, more.Sublist [us] ∧ RecordedOnce t₀ (recordAttemptUsage t us) (facts ++ more):= by
  unfold Budget.recordAttemptUsage
  cases hget : t.get? us.attemptId with
  | some u => exact ⟨[], List.nil_sublist _, by simpa using h⟩
  | none =>
    have hnew : us.attemptId ∉ facts.map AttemptUsage.attemptId := by
      intro hmem
      obtain ⟨u, hu, hkey⟩ := mem_map.mp hmem
      rw [← hkey, (h.recorded u hu).2] at hget
      cases hget
    have hi : ∀ attemptId, (t.insert us).get? attemptId =
        if us.attemptId = attemptId then some us else t.get? attemptId :=
      fun attemptId => Table.get?_insert t us attemptId
    refine ⟨[us], List.Sublist.refl _, ?_, ?_, ?_⟩
    · rw [map_append, map_singleton, ← concat_eq_append]
      exact h.once.concat hnew
    · intro u hmem
      simp only [Option.isSome_none, Bool.false_eq_true, if_false]
      rcases mem_append.mp hmem with hold | hl
      · have hne : us.attemptId ≠ u.attemptId := by
          intro heq
          exact hnew (heq ▸ mem_map_of_mem hold)
        rw [hi, if_neg hne]
        exact h.recorded u hold
      · rw [mem_singleton.mp hl, hi, if_pos rfl, ← h.untouched _ hnew]
        exact ⟨hget, rfl⟩
    · intro attemptId hmem
      rw [map_append, mem_append, not_or, map_singleton, mem_singleton] at hmem
      simp only [Option.isSome_none, Bool.false_eq_true, if_false]
      rw [hi, if_neg (Ne.symm hmem.2)]
      exact h.untouched attemptId hmem.1

end RecordedOnce

end EggPool.Budget

namespace EggPool.Coordinator

open EggPool.Lib EggPool.Budget EggPool.Store

namespace Finalization

end Finalization

end EggPool.Coordinator
