import EggPool.Budget.Ledger

/-!
# Holds that cover their request

A settlement replaces a hold by what was observed, so the hard limits survive it
only if the hold was large enough. `Covered` says that it was: every active hold
meets a need, in each dimension some hard rule limits for its request. What the
need is stays open here; the coordinator takes it to be the worst case of all
attempts published for the request.

An admission covers one attempt, a retry one more, and a settlement or a release
only takes holds away.
-/

namespace EggPool.Budget

open EggPool.Lib

/-- The worst case of one attempt. Requests are counted, not held by worst case. -/
def worst (d : Dimension) (proof : Option BudgetProof) : Option Int :=
  match d with
  | .requests => none
  | .tokens => worstTokens proof
  | .cost => worstCost proof

def AttemptUsage.amount (u : AttemptUsage) : Dimension → Int
  | .requests => 0
  | .tokens => u.inputTokens + u.outputTokens
  | .cost => u.costMicrodollars

def Observed.amount (o : Observed) : Dimension → Int
  | .requests => 0
  | .tokens => o.tokens
  | .cost => o.cost

theorem worst_nonneg {d : Dimension} {proof : Option BudgetProof} {t : Int}
    (h : worst d proof = some t) : 0 ≤ t := by
  cases d with
  | requests => cases h
  | tokens => exact le_of_lt (worstTokens_pos h)
  | cost =>
    obtain ⟨single, hs, hp⟩ := Option.bind_eq_some_iff.mp h
    have hpo := worstTokens_pos hs
    obtain ⟨c, hc, hc0, _⟩ := tariffCost_mono (le_of_lt hpo) (le_refl _) hp
    omega

/-- The sums of a settlement, by dimension. -/
theorem observe_amount (a : AttemptUsageTable) (r : Int) (d : Dimension) : (observe a r).amount d =
      a.sumBy (fun u => if u.requestId = r then u.amount d else 0) := by
  cases d with
  | requests =>
    simp [Observed.amount, AttemptUsage.amount, Table.sumBy]
  | tokens | cost => rfl

/-- Within the hold, the charge is within the hold too, known or not. -/
theorem settledCounts_amount_le {ω : Type} {h : HoldRow ω} {o : Observed} {d : Dimension}
    (hle : o.amount d ≤ h.amount d) : (settledCounts h o).amount d ≤ h.amount d := by
  cases d <;>
    simp only [settledCounts, UsageCounts.amount, HoldRow.amount, Observed.amount, charge] at hle ⊢
  · exact le_refl 1
  · split <;> omega
  · split <;> omega

namespace BudgetScope

variable {ω : Type} [DecidableEq ω] {s s' : BudgetScope ω}
  {need need' : Dimension → Int → Int → Prop}

/-! ## What an allowed check promises -/

/-- A hold that was computed for `rules` is non-negative and covers one attempt. -/
def Promises (rules : List (BudgetRule ω)) (proof : Option BudgetProof) (hold : BudgetHold) : Prop:=
  ∀ d, 0 ≤ hold.amount false d ∧
    (demanded rules d = true → ∃ t, worst d proof = some t ∧ t ≤ hold.amount false d)

variable {proof : Option BudgetProof} {hold : BudgetHold} {tokens microdollars : Int}

omit [DecidableEq ω] in
theorem promises_of_holdFor {r : List (BudgetRule ω)} {k : Int} (hk : 1 ≤ k)
    (h : holdFor k tokens microdollars proof (hardToken r) (hardCost r) = some hold) :
    Promises r proof hold := by
  obtain ⟨ht0, hm0, ht, hm⟩ := holdFor_covers hk h
  intro d
  cases d with
  | requests => exact ⟨le_refl 0, fun hd => by cases hd⟩
  | tokens => exact ⟨ht0, ht⟩
  | cost => exact ⟨hm0, hm⟩

theorem evaluateRetry_allowed {row : HoldRow ω}
    (h : s.evaluateRetry row tokens microdollars proof = (.allowed, hold)) :
    s.rulesExceeded ⟨row.policyVersion, row.dayStart, row.monthStart⟩
      (s.loadMatchingRules row.owner row.modelId) hold tokens microdollars false = false ∧
    Promises (s.loadMatchingRules row.owner row.modelId) proof hold := by
  obtain ⟨hh, hno⟩ := evaluate_allowed h
  exact ⟨hno, promises_of_holdFor (by decide) hh⟩

/-! ## Coverage -/

/-- Every active hold is non-negative and meets the need of its request where it must. -/
def Covered (s : BudgetScope ω) (need : Dimension → Int → Int → Prop) : Prop :=
  ∀ h ∈ s.holds.rows, h.status = .active →
    (∀ d, 0 ≤ h.amount d) ∧ ∀ d, s.demands h d = true → need d h.requestId (h.amount d)

theorem Covered.insertReservation {r : Int} {o : ω} {m ea : String}
    {p : BudgetPermit} (hc : s.Covered need) (hp : Promises (s.loadMatchingRules o m) proof hold)
    (ho : ∀ h ∈ s.holds.rows, ∀ d n, need d h.requestId n → need' d h.requestId n)
    (hnew : ∀ d t n, worst d proof = some t → t ≤ n → need' d r n) :
    (s.insertReservation r o m p hold ea).Covered need' := by
  intro h hh hst
  rcases Table.mem_place hh with rfl | hh
  · have hle : ∀ d, hold.amount false d ≤ (heldRow r o m p hold ea).amount d := by
      intro d
      cases d
      · exact Int.zero_le_ofNat 1
      · exact le_refl _
      · exact le_refl _
    refine ⟨fun d => le_trans (hp d).1 (hle d), fun d hd => ?_⟩
    obtain ⟨t, ht, hl⟩ := (hp d).2 hd
    exact hnew d t _ ht (le_trans hl (hle d))
  · obtain ⟨hnn, hn⟩ := hc h hh hst
    exact ⟨hnn, fun d hd => ho h hh d _ (hn d hd)⟩

omit [DecidableEq ω] in
/-- Extending a hold adds no row. -/
theorem mem_addToHold {r : Int} {h : HoldRow ω}
    (hh : h ∈ (s.addToHold r tokens microdollars).holds.rows) :
    ∃ x ∈ s.holds.rows, x.requestId = h.requestId := by
  obtain ⟨x, hx, rfl⟩ := List.mem_map.mp hh
  refine ⟨x, hx, ?_⟩
  split <;> rfl

theorem Covered.addToHold {requestId : Int} {row : HoldRow ω} (hc : s.Covered need)
    (hact : s.activeHold? requestId = some row)
    (hp : Promises (s.loadMatchingRules row.owner row.modelId) proof hold)
    (ho : ∀ d r n, r ≠ requestId → need d r n → need' d r n)
    (hm : ∀ d t n m, worst d proof = some t → t ≤ m → need d requestId n → need' d requestId (n + m)) :
    (s.addToHold requestId hold.tokens hold.microdollars).Covered need' := by
  intro h hh hst
  obtain ⟨x, hx, rfl⟩ := List.mem_map.mp hh
  by_cases hs : activeFor requestId x = true
  · -- the one extended row is the one the check was made for
    have hkey := activeFor_key x hs
    have hrow : x = row := by
      have hget := (activeHold?_eq_some.mp hact).1
      rwa [← hkey, Table.get?_self hx, Option.some.injEq] at hget
    subst hrow
    rw [if_pos hs] at hst ⊢
    obtain ⟨hnn, hn⟩ := hc x hx hst
    have ha : ∀ d, (extendedRow hold.tokens hold.microdollars x).amount d =
        x.amount d + hold.amount false d := by
      intro d
      cases d
      · exact (add_zero 1).symm
      · rfl
      · rfl
    refine ⟨fun d => ?_, fun d hd => ?_⟩
    · have := hnn d
      have := (hp d).1
      rw [ha]
      omega
    · obtain ⟨t, ht, hl⟩ := (hp d).2 hd
      have hme : need d requestId (x.amount d) := by
        rw [← hkey]
        exact hn d hd
      rw [ha]
      show need' d x.requestId _
      rw [hkey]
      exact hm d t _ _ ht hl hme
  · rw [if_neg hs] at hst ⊢
    obtain ⟨hnn, hn⟩ := hc x hx hst
    have hne : x.requestId ≠ requestId := by
      intro heq
      exact hs (by simp [activeFor, heq, hst])
    exact ⟨hnn, fun d hd => ho d _ _ hne (hn d hd)⟩

/-! ## Operations that only take holds away -/

/-- Under the same rules, the holds of `s'` are holds of `s`, the active ones unchanged. -/
structure Shrinks (s s' : BudgetScope ω) : Prop where
  rules : s'.rules = s.rules
  holds : ∀ h' ∈ s'.holds.rows, ∃ h ∈ s.holds.rows, h.requestId = h'.requestId ∧
    h.owner = h'.owner ∧ (h'.status = .active → h = h')

omit [DecidableEq ω] in
theorem Shrinks.refl (s : BudgetScope ω) : s.Shrinks s :=
  ⟨rfl, fun h hh => ⟨h, hh, rfl, rfl, fun _ => rfl⟩⟩

theorem Covered.shrink (hc : s.Covered need) (hs : s.Shrinks s')
    (hn : ∀ d r n, need d r n → need' d r n) : s'.Covered need' := by
  intro h' hh' hst
  obtain ⟨h, hh, _, _, heq⟩ := hs.holds h' hh'
  obtain rfl := heq hst
  obtain ⟨hnn, hm⟩ := hc h hh hst
  refine ⟨hnn, fun d hd => hn d _ _ (hm d ?_)⟩
  rwa [demands, loadMatchingRules, hs.rules] at hd

omit [DecidableEq ω] in
/-- A rewrite that ends the holds it selects. -/
theorem shrinks_update {p : HoldRow ω → Bool} {g : HoldRow ω → HoldRow ω}
    (hg : ∀ h, (g h).requestId = h.requestId) (hr : s'.rules = s.rules)
    (hl : s'.holds = s.holds.update p g hg) (ho : ∀ h, (g h).owner = h.owner)
    (hend : ∀ h, (g h).status ≠ .active) : s.Shrinks s' := by
  refine ⟨hr, fun h' hh' => ?_⟩
  rw [hl] at hh'
  obtain ⟨h, hh, rfl⟩ := List.mem_map.mp hh'
  refine ⟨h, hh, ?_⟩
  by_cases hp : p h = true
  · rw [if_pos hp]
    exact ⟨(hg h).symm, (ho h).symm, fun hst => absurd hst (hend h)⟩
  · rw [if_neg hp]
    exact ⟨rfl, rfl, fun _ => rfl⟩

theorem maybeSettle_shrinks (a : AttemptUsageTable) (r : Int) (t : Bool) (now : String) :
    s.Shrinks (s.maybeSettle a r t now) := by
  cases hact : s.activeHold? r with
  | none => rw [maybeSettle_eq_self (.inl hact)]; exact .refl s
  | some h =>
    cases t with
    | false => rw [maybeSettle_eq_self (.inr rfl)]; exact .refl s
    | true =>
      rw [maybeSettle_of_active hact]
      exact shrinks_update (requestId_settledRow _ now) rfl rfl (fun _ => rfl)
        (status_settledRow _ now)

omit [DecidableEq ω] in
theorem releaseHolds_shrinks (r : List Int) : s.Shrinks (s.releaseHolds r) :=
  shrinks_update requestId_releasedRow rfl rfl (fun _ => rfl) status_releasedRow

end BudgetScope

end EggPool.Budget
