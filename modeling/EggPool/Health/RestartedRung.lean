import EggPool.Health.Escalation

/-!
# The model's count across a restart

A restarted process takes the count of the last live row of the model, in the order in which the
rows are read: by the name of their reason. The row carries the count of the time when it was
written, or one if there was none. So a restart restores the model's own count exactly if that
reason wrote its row at the count the model still has.
-/

namespace EggPool.Health

open EggPool.Lib AccountBackoffRecord List HealthManager
open EggPool.Routing (SelectionClaim)

/-! ## What hydration makes of the rows -/

section Hydration

variable {wallNow now : Rat} {model : String}

/-- The last live row of the model decides. -/
theorem modelFailures_run (ro : List AccountBackoffRecord) (a : AccountHealth) :
    (run (fun a r => r.effect wallNow now a) a ro).modelFailures.lookup model =
      ((ro.filter (·.disables wallNow model)).getLast?.map
        (max ·.consecutiveFailures 1)).or (a.modelFailures.lookup model) := by
  induction ro using reverseRecOn with
  | nil => rfl
  | append_singleton ro r ih =>
    rw [run_append, run_cons, run_nil, (effect_fields ..).2.2.2.2.2.2, ih, filter_append,
      filter_singleton]
    cases r.disables wallNow model with
    | true | false => simp

variable {claim : SelectionClaim}

/-- No row of the claim's account is missing its expiry or belongs to another account. -/
theorem rowsOf_own {ro : List AccountBackoffRecord} (h : ∀ r ∈ ro, r.Own claim) :
    ((HealthManager.rowsOf (OrdMap.set .empty claim.accountId claim.accountName)
      claim.accountName ro).filter (·.disables wallNow claim.canonicalModelId)) =
      ro.filter (·.disables wallNow claim.canonicalModelId) := by
  unfold rowsOf
  rw [filter_filter]
  refine filter_congr fun r hr => ?_
  cases hd : r.disables wallNow claim.canonicalModelId with
  | false => simp
  | true =>
    obtain ⟨-, -, hm⟩ := of_decide_eq_true hd
    simp [target, legacy, hm, (h r hr).account]

/-- The account has at most two rows for each reason, so that no row is cut off. -/
theorem length_rows_le {ro : BackoffRows} (h : ∀ r ∈ ro.rows, r.Own claim) :
    ro.rows.length ≤ 20 := by
  have hkey : ro.rows.map key ⊆ BackoffReason.all.flatMap fun reason =>
      [key ⟨claim.accountId, none, reason, 0, none⟩, modelKey claim reason] := by
    intro k hk
    obtain ⟨r, hr, rfl⟩ := mem_map.mp hk
    obtain ⟨ha, hs, -⟩ := h r hr
    rw [mem_flatMap]
    refine ⟨r.reason, by cases r.reason <;> decide, ?_⟩
    rcases hs with hn | ⟨hm, -⟩
    · exact mem_cons.mpr (.inl (by simp [key, ha, hn]))
    · exact mem_cons.mpr (.inr (mem_singleton.mpr
        (by simp [key, modelKey, modelRow, ha, hm])))
  have hlen := (subperm_of_subset ro.keys_nodup hkey).length_le
  rwa [length_map] at hlen

/-- **What a restart restores.** -/
theorem restarted_modelFailureCount {s : RouterHealth} (h : ∀ r ∈ s.backoffs.rows, r.Own claim)
    (st : Rat) : (s.restarted claim st wallNow now).modelFailureCount claim.accountName
      claim.canonicalModelId =
    ((s.backoffs.rows.filter (·.disables wallNow claim.canonicalModelId)).getLast?.map
      (max ·.consecutiveFailures 1)).getD 0 := by
  have hm : ∀ r ∈ s.backoffs.rows, (!r.missing
      (OrdMap.set .empty claim.accountId claim.accountName)) = true := by
    intro r hr
    have he := (h r hr).expiry
    simp only [missing, Bool.not_eq_true', decide_eq_false_iff_not, not_and]
    exact fun _ hs hn => hs (he hn)
  unfold RouterHealth.restarted hydrated hydrateBackoffs
  rw [take_of_length_le ((length_rows_le h).trans (by decide)), (hydrated_hydrateFrom ..).run_eq,
    takeWhile_eq_self_iff.mpr hm, modelFailureCount, lookup_run_restore, lookup_registered,
    Option.map_some, Option.bind_some, modelFailures_run, rowsOf_own h]
  simp [AccountHealth.fresh]

end Hydration

/-! ## Which row that is -/

/-- The reason has a live row, and no live row is read after it. -/
structure Course.Decides (c : Course) (wallNow : Rat) (reason : BackoffReason) (n : Note) :
    Prop where
  noted : c.notes reason = some n
  live : wallNow < n.deadline
  last : ∀ other m, c.notes other = some m → wallNow < m.deadline → other.asStr ≤ reason.asStr

section Deciding

variable {claim : SelectionClaim} {s : RouterHealth} {c : Course} {wallNow : Rat}

theorem disables_iff (r : AccountBackoffRecord) (model : String) :
    r.disables wallNow model = true ↔ r.reason ≠ .authenticationFailed ∧
      r.backoffUntilEpoch.any (wallNow < ·) = true ∧ r.modelId = some model := by
  have hl : r.remaining wallNow ≠ 0 ↔ r.backoffUntilEpoch.any (wallNow < ·) = true := by
    unfold remaining
    cases r.backoffUntilEpoch with
    | none => simp
    | some dea =>
      rw [ne_eq, capped_eq_zero, max_eq_right_iff, not_le]
      simp
  rw [disables, decide_eq_true_iff, hl, bars, decide_eq_false_iff_not]

theorem lt_of_modelKey_lt {r r' : BackoffReason} (h : modelKey claim r < modelKey claim r') :
    r.asStr < r'.asStr := by
  rcases Prod.Lex.toLex_lt_toLex.mp h with hlt | ⟨-, hr⟩
  · exact absurd hlt (lt_irrefl _)
  rcases Prod.Lex.toLex_lt_toLex.mp hr with hlt | ⟨-, ht⟩
  · exact absurd hlt (lt_irrefl _)
  · exact ht

theorem Follows.decides (h : Follows claim s c) {r : AccountBackoffRecord}
    (hla : (s.backoffs.rows.filter (·.disables wallNow claim.canonicalModelId)).getLast? = some r) :
    ∃ n, c.Decides wallNow r.reason n ∧ r.consecutiveFailures = max n.rung 1 := by
  obtain ⟨ear, hw⟩ := getLast?_eq_some_iff.mp hla
  have hr : r ∈ s.backoffs.rows.filter (·.disables wallNow claim.canonicalModelId) := by
    rw [hw]
    exact mem_append_right _ (mem_singleton_self r)
  obtain ⟨hmem, hd⟩ := mem_filter.mp hr
  obtain ⟨-, hv, hmo⟩ := (disables_iff r _).mp hd
  have hkey : r.key = modelKey claim r.reason := by
    simp [key, modelKey, modelRow, (h.own r hmem).account, hmo]
  have hrow := h.notes r.reason
  rw [← hkey, Table.get?_self hmem] at hrow
  obtain ⟨n, ht, hn⟩ := Option.map_eq_some_iff.mp hrow.symm
  refine ⟨n, ⟨ht, ?_, ?_⟩, by rw [← hn]; rfl⟩
  · rw [← hn] at hv
    simpa [modelRow] using hv
  -- a live row of another reason stands before this one
  intro other m ho hv
  have hget := h.notes other
  rw [ho] at hget
  have hm := Table.mem_of_get? hget
  have hre : other ≠ .authenticationFailed := by
    rcases (h.own _ hm).scope with hno | hc
    · cases hno
    · exact hc.2
  have hf : _ ∈ s.backoffs.rows.filter (·.disables wallNow claim.canonicalModelId) :=
    mem_filter.mpr ⟨hm, (disables_iff _ _).mpr ⟨hre, decide_eq_true hv, rfl⟩⟩
  have hs := s.backoffs.sorted.filter (·.disables wallNow claim.canonicalModelId)
  rw [hw] at hf hs
  rcases mem_append.mp hf with hb | hl
  · have hlt := (pairwise_append.mp hs).2.2 _ hb r (mem_singleton_self r)
    rw [hkey] at hlt
    exact (lt_of_modelKey_lt hlt).le
  · rw [← mem_singleton.mp hl]
    exact le_rfl

/-- No two reasons have the same name. -/
theorem Course.Decides.unique {r r' : BackoffReason} {n n' : Note} (h : c.Decides wallNow r n)
    (h' : c.Decides wallNow r' n') : n = n' := by
  have ht := le_antisymm (h'.last r n h.noted h.live) (h.last r' n' h'.noted h'.live)
  obtain rfl : r = r' := by rw [← resolve_asStr r, ht, resolve_asStr]
  exact Option.some.inj (h.noted.symm.trans h'.noted)

end Deciding

/--
**A restart while a row of the model is live keeps the model's count** exactly if the deciding
reason wrote its row, with a count of one at least, at the count the model still has.
-/
theorem restart_keeps_rung_iff (claim : SelectionClaim) (start restart wallNow now : Rat)
    (history : List HealthEvent)
    (hfuture : ∃ r ∈ (RouterHealth.after claim start history).backoffs.rows,
      r.modelId = some claim.canonicalModelId ∧ r.backoffUntilEpoch.any (wallNow < ·) = true) :
    ((RouterHealth.after claim start history).restarted claim restart wallNow now).modelFailureCount
        claim.accountName claim.canonicalModelId =
      (RouterHealth.after claim start history).health.modelFailureCount claim.accountName
        claim.canonicalModelId ↔
    ∃ reason n, (Course.after claim history).Decides wallNow reason n ∧
      max n.rung 1 = (Course.after claim history).ladder.rung := by
  have hfollows := follows_after claim start history
  generalize RouterHealth.after claim start history = s at hfuture hfollows ⊢
  generalize Course.after claim history = c at hfollows ⊢
  obtain ⟨a, ha, hladder⟩ := hfollows.account
  have hcount : s.health.modelFailureCount claim.accountName claim.canonicalModelId =
      c.ladder.rung := by
    rw [← hladder, modelFailureCount, ha]
    rfl
  rw [hcount, restarted_modelFailureCount hfollows.own]
  cases hlast : (s.backoffs.rows.filter (·.disables wallNow claim.canonicalModelId)).getLast? with
  | none =>
    obtain ⟨r, hr, hmodel, hlive⟩ := hfuture
    have hreason : r.reason ≠ .authenticationFailed := by
      rcases (hfollows.own r hr).scope with hnone | hscope
      · cases hnone.symm.trans hmodel
      · exact hscope.2
    have hfiltered : r ∈ s.backoffs.rows.filter (·.disables wallNow claim.canonicalModelId) :=
      mem_filter.mpr ⟨hr, (disables_iff r _).mpr ⟨hreason, hlive, hmodel⟩⟩
    rw [getLast?_eq_none_iff.mp hlast] at hfiltered
    cases hfiltered
  | some r =>
    obtain ⟨n, hdecides, hrow⟩ := hfollows.decides hlast
    rw [Option.map_some, hrow, max_eq_left (le_max_right n.rung 1)]
    constructor
    · exact fun hkept => ⟨r.reason, n, hdecides, hkept⟩
    rintro ⟨reason, n', hdecides', hkept⟩
    obtain rfl := hdecides.unique hdecides'
    exact hkept

/-- The provider answers with a server error. -/
def serverError : AppliedEffects := ⟨true, true, some "upstream_server_error", some 20, true⟩

theorem restart_keeps_rung_absent :
    (∃ r ∈ (RouterHealth.after attempt 0 [.failure modelAbsent 10 1010]).backoffs.rows,
      r.modelId = some attempt.canonicalModelId ∧ r.backoffUntilEpoch.any (1011 < ·) = true) ∧
    (((RouterHealth.after attempt 0 [.failure modelAbsent 10 1010]).restarted attempt 0 1011
        0).modelFailureCount attempt.accountName attempt.canonicalModelId =
      (RouterHealth.after attempt 0 [.failure modelAbsent 10 1010]).health.modelFailureCount
        attempt.accountName attempt.canonicalModelId ↔
    ∃ reason n, (Course.after attempt [.failure modelAbsent 10 1010]).Decides 1011 reason n ∧
      max n.rung 1 = (Course.after attempt [.failure modelAbsent 10 1010]).ladder.rung) :=
  ⟨by decide +kernel, restart_keeps_rung_iff attempt 0 0 1011 0 _ (by decide +kernel)⟩

/-- A server error does not count against the model, but after a restart it does. -/
theorem restart_raises_rung :
    (∃ r ∈ (RouterHealth.after attempt 0 [.failure serverError 10 1010]).backoffs.rows,
      r.modelId = some attempt.canonicalModelId ∧ r.backoffUntilEpoch.any (1011 < ·) = true) ∧
    (RouterHealth.after attempt 0 [.failure serverError 10 1010]).health.modelFailureCount
      attempt.accountName attempt.canonicalModelId = 0 ∧
    ((RouterHealth.after attempt 0 [.failure serverError 10 1010]).restarted attempt 0 1011
      0).modelFailureCount attempt.accountName attempt.canonicalModelId = 1 := by
  decide +kernel

end EggPool.Health
