import EggPool.Budget.Scope

/-!
# Hard limits as a ledger invariant

What a rule counts in a window is its load: settled usage plus active holds. An
admission adds to the hold side after checking the sum, a settlement moves a hold
to the usage side, a release drops it. So the limit survives every operation, as
long as a settlement never charges more than was held.

The three dimensions (requests, tokens, cost) move alike, so the lemmas are
stated once, for a dimension. Concurrency counts holds only and across windows;
it is the second half of `Keeps`.
-/

namespace EggPool.Budget

open EggPool.Lib Table

inductive Dimension
  | requests | tokens | cost
deriving DecidableEq, Repr

def UsageCounts.amount (u : UsageCounts) : Dimension → Int
  | .requests => u.requestCount
  | .tokens => u.tokenCount
  | .cost => u.costMicrodollars

def HoldRow.amount {ω : Type} (h : HoldRow ω) : Dimension → Int
  | .requests => 1
  | .tokens => h.heldTokens
  | .cost => h.heldMicrodollars

def BudgetRule.limit {ω : Type} (rule : BudgetRule ω) : Dimension → Option Int
  | .requests => rule.maxRequests
  | .tokens => rule.maxTokens
  | .cost => rule.maxMicrodollars

/-- What a hold adds: a retry takes no further request. -/
def BudgetHold.amount (hold : BudgetHold) (newRequest : Bool) : Dimension → Int
  | .requests => if newRequest then 1 else 0
  | .tokens => hold.tokens
  | .cost => hold.microdollars

theorem UsageCounts.amount_add (x y : UsageCounts) (d : Dimension) :
    (x + y).amount d = x.amount d + y.amount d := by
  cases d <;> rfl

namespace BudgetScope

variable {ω : Type} [DecidableEq ω]

/-- Settled usage plus active holds of a rule's window. -/
def load (s : BudgetScope ω) (rule : BudgetRule ω) (start : String) (d : Dimension) : Int :=
  s.used rule start (·.amount d) + s.held rule start (·.amount d)

/-- The rule's limits hold, in every window. -/
structure Keeps (s : BudgetScope ω) (rule : BudgetRule ω) : Prop where
  load_le : ∀ d limit, rule.limit d = some limit → ∀ start, s.load rule start d ≤ limit
  active_le : ∀ limit, rule.maxConcurrent = some limit → s.activeCount rule ≤ limit

variable {s : BudgetScope ω} {rule : BudgetRule ω} {start : String} {d : Dimension} {h : HoldRow ω}

theorem occupies_iff : occupies rule h = true ↔
    h.status = .active ∧ h.owner = rule.owner ∧ modelMatches rule.scopeModel h.modelId = true := by
  simp [occupies, and_assoc]

theorem counted_iff :
    counted rule start h = true ↔ occupies rule h = true ∧ h.start rule.window = start := by
  simp [counted]

/-- A hold that is no longer active counts for no rule. -/
theorem occupies_of_not_active (hst : h.status ≠ .active) : occupies rule h = false := by
  rw [← Bool.not_eq_true, occupies_iff]
  exact fun hc => hst hc.1

theorem counted_of_not_active (hst : h.status ≠ .active) : counted rule start h = false := by
  rw [counted, occupies_of_not_active hst, Bool.false_and]

omit [DecidableEq ω] in
theorem status_settledRow (o : Observed) (now : String) (h : HoldRow ω) :
    (settledRow o now h).status ≠ .active := HoldStatus.noConfusion

omit [DecidableEq ω] in
theorem status_releasedRow (h : HoldRow ω) : (releasedRow h).status ≠ .active :=
  HoldStatus.noConfusion

/-- An empty ledger keeps every rule. -/
theorem keeps_empty (r : List (BudgetRule ω)) (rule : BudgetRule ω) :
    Keeps ⟨r, Table.empty, Buckets.empty⟩ rule where
  load_le := by
    intro d limit hl start
    have := rule.positive limit (List.reduceOption_mem_iff.mpr (by
      cases d <;> rw [BudgetRule.limit] at hl <;> simp [← hl]))
    simp only [load, used, held, Buckets.total_empty, sumBy_empty]
    omega
  active_le := by
    intro limit hl
    have := rule.positive limit (List.reduceOption_mem_iff.mpr (by simp [← hl]))
    simp [activeCount]
    omega

/-! ## Admission -/

variable {permit : BudgetPermit} {hold : BudgetHold}

/-- A rule that did not refuse has room for the hold. -/
theorem room_of_not_exceeded {et em : Int} {n : Bool}
    (h : s.ruleExceeded permit hold et em n rule = false)
    (hh : rule.enforcement = .hard) : (∀ limit, rule.limit d = some limit →
      s.load rule (permit.start rule.window) d + hold.amount n d ≤ limit) ∧
    (∀ limit, rule.maxConcurrent = some limit →
      s.activeCount rule + (if n then 1 else 0) ≤ limit) := by
  simp only [ruleExceeded, Bool.or_eq_false_iff] at h
  obtain ⟨⟨⟨hr, ht⟩, hc⟩, hn⟩ := h
  constructor
  · intro limit hl
    cases d with
    | requests =>
      simp only [BudgetRule.limit] at hl
      simp only [hl, Option.any_some, exceeds, decide_eq_false_iff_not] at hr
      exact not_lt.mp hr
    | tokens =>
      simp only [BudgetRule.limit] at hl
      simp only [hl, hh, Option.any_some, exceeds, decide_eq_false_iff_not] at ht
      exact not_lt.mp ht
    | cost =>
      simp only [BudgetRule.limit] at hl
      simp only [hl, hh, Option.any_some, exceeds, decide_eq_false_iff_not] at hc
      exact not_lt.mp hc
  · intro limit hl
    simp only [hl, Option.any_some, exceeds, decide_eq_false_iff_not, add_zero] at hn
    exact not_lt.mp hn

variable {tokens microdollars : Int}

theorem evaluate_allowed {r : List (BudgetRule ω)} {hold? : Option BudgetHold} {n : Bool}
    (h : s.evaluate permit r hold? tokens microdollars n = (.allowed, hold)) : hold? = some hold ∧
    s.rulesExceeded permit r hold tokens microdollars n = false := by
  unfold evaluate at h
  split at h
  · cases h
  rw [Prod.mk.injEq] at h
  obtain ⟨hc, rfl⟩ := h
  split at hc
  · cases hc
  · rename_i hno
    exact ⟨rfl, by simpa using hno⟩

variable {owner : ω} {modelId : String}

/-! ## How the operations move a load -/

variable {requestId : Int} {expiresAt : String}

theorem load_insertReservation (hf : s.holds.get? requestId = none) :
    (s.insertReservation requestId owner modelId permit hold expiresAt).load rule start d =
      s.load rule start d +
        if counted rule start (heldRow requestId owner modelId permit hold expiresAt) then
          hold.amount true d else 0 := by
  have ha : (heldRow requestId owner modelId permit hold expiresAt).amount d =
      hold.amount true d := by cases d <;> rfl
  simp only [load, held, insertReservation]
  rw [sumBy_insert hf, ha]
  simp only [used]
  ring

theorem activeCount_insertReservation (hf : s.holds.get? requestId = none) :
    (s.insertReservation requestId owner modelId permit hold expiresAt).activeCount rule =
      s.activeCount rule +
        if occupies rule (heldRow requestId owner modelId permit hold expiresAt) then 1 else 0 := by
  simp only [activeCount, insertReservation]
  rw [sumBy_insert hf, add_comm]

theorem load_addToHold (hact : s.activeHold? requestId = some h) :
    (s.addToHold requestId hold.tokens hold.microdollars).load rule start d =
      s.load rule start d + if counted rule start h then hold.amount false d else 0 := by
  have hm : (s.addToHold requestId hold.tokens hold.microdollars).held rule start (·.amount d) +
        (if counted rule start h then h.amount d else 0) =
      s.held rule start (·.amount d) + (if counted rule start h then
        (extendedRow hold.tokens hold.microdollars h).amount d else 0) :=
    sumBy_update_one (requestId_extendedRow _ _) (activeHold?_eq_some.mp hact).1
      (activeFor_of_activeHold? hact) activeFor_key _
  have ha : (extendedRow hold.tokens hold.microdollars h).amount d =
      h.amount d + hold.amount false d := by
    cases d
    · exact (add_zero 1).symm
    · rfl
    · rfl
  have hu : (s.addToHold requestId hold.tokens hold.microdollars).used rule start (·.amount d) =
      s.used rule start (·.amount d) := rfl
  rw [load, load]
  split at hm
  · rw [if_pos (by assumption)]
    omega
  · rw [if_neg (by assumption)]
    omega

theorem activeCount_addToHold :
    (s.addToHold requestId tokens microdollars).activeCount rule = s.activeCount rule := by
  simp only [activeCount, addToHold, sumBy_update]
  refine sumBy_congr fun h _ => ?_
  split <;> rfl

/-- Holds that cease to be active leave the count. -/
theorem activeCount_update_le {p : HoldRow ω → Bool} {g : HoldRow ω → HoldRow ω}
    {hg : ∀ h, (g h).requestId = h.requestId} (hst : ∀ h, (g h).status ≠ .active) {u : _} :
    activeCount ⟨s.rules, s.holds.update p g hg, u⟩ rule ≤ s.activeCount rule := by
  simp only [activeCount, sumBy_update]
  refine sumBy_le_sumBy fun h _ => ?_
  split
  · rw [occupies_of_not_active (hst h), if_neg Bool.false_ne_true]
    split <;> omega
  · exact le_refl _

/-- A rule reads a request's usage and its hold in the same window. -/
def concerns (rule : BudgetRule ω) (start : String) (h : HoldRow ω) : Bool :=
  h.owner = rule.owner && modelMatches rule.scopeModel h.modelId && h.start rule.window = start

theorem counted_of_active (hst : h.status = .active) :
    counted rule start h = concerns rule start h := by
  simp [counted, occupies, concerns, hst]

section

variable (hact : s.activeHold? requestId = some h)

include hact

/-- What settling an active hold leaves. -/
theorem maybeSettle_of_active
    (a : AttemptUsageTable) (now : String) : s.maybeSettle a requestId true now = { s with
        usage := (s.usage.bump ⟨h.owner, h.modelId, .day, h.dayStart⟩
            (settledCounts h (observe a requestId))).bump
          ⟨h.owner, h.modelId, .month, h.monthStart⟩ (settledCounts h (observe a requestId))
        holds := s.holds.update (activeFor requestId)
          (settledRow (observe a requestId) now) (requestId_settledRow _ now) } := by
  obtain ⟨hget, hst⟩ := activeHold?_eq_some.mp hact
  simp [maybeSettle, hget, hst]

theorem used_maybeSettle (att : AttemptUsageTable) (now : String) :
    (s.maybeSettle att requestId true now).used rule start (·.amount d) =
      s.used rule start (·.amount d) + if concerns rule start h then
        (settledCounts h (observe att requestId)).amount d else 0 := by
  rw [maybeSettle_of_active hact, used, used, Buckets.total_bump (fun x y => x.amount_add y d),
    Buckets.total_bump (fun x y => x.amount_add y d)]
  -- of the two buckets written, a rule reads the one of its own window
  cases hw : rule.window <;> simp [concerns, HoldRow.start, hw]

theorem held_maybeSettle (a : AttemptUsageTable) (now : String) (f : HoldRow ω → Int) :
    (s.maybeSettle a requestId true now).held rule start f +
        (if concerns rule start h then f h else 0) = s.held rule start f := by
  obtain ⟨hget, hst⟩ := activeHold?_eq_some.mp hact
  have hm := sumBy_update_one (requestId_settledRow (observe a requestId) now) hget
    (activeFor_of_activeHold? hact) activeFor_key
    (fun h => if counted rule start h then f h else 0)
  have hg : counted rule start (settledRow (observe a requestId) now h) = false :=
    counted_of_not_active (status_settledRow _ _ h)
  rw [hg, if_neg Bool.false_ne_true, add_zero, counted_of_active hst] at hm
  rwa [maybeSettle_of_active hact]

end

/-- Without an active hold, or before the request is terminal, nothing settles. -/
theorem maybeSettle_eq_self {t : Bool} (h : s.activeHold? requestId = none ∨ t = false)
    (a : AttemptUsageTable) (now : String) : s.maybeSettle a requestId t now = s:= by
  unfold maybeSettle
  cases hget : s.holds.get? requestId with
  | none => rfl
  | some row =>
    rcases h with h | h
    · have hst : row.status ≠ .active := by
        intro hst
        rw [activeHold?_eq_some.mpr ⟨hget, hst⟩] at h
        cases h
      cases hrow : row.status with
      | active => exact absurd hrow hst
      | settled | released => simp [hrow]
    · simp [h]

/-! ## Every operation keeps the hard rules -/

/-- Every hard rule of the scope is within its limits. -/
def KeepsHard (s : BudgetScope ω) : Prop :=
  ∀ rule ∈ s.rules, rule.enforcement = .hard → s.Keeps rule

/-- Some hard rule among these limits a dimension that is held by worst case. -/
def demanded (rules : List (BudgetRule ω)) : Dimension → Bool
  | .requests => false
  | .tokens => hardToken rules
  | .cost => hardCost rules

def demands (s : BudgetScope ω) (h : HoldRow ω) : Dimension → Bool :=
  demanded (s.loadMatchingRules h.owner h.modelId)

theorem demands_of_limit (hrl : rule ∈ s.rules) (hh : rule.enforcement = .hard)
    (ho : h.owner = rule.owner) (hm : modelMatches rule.scopeModel h.modelId = true)
    (hd : d ≠ .requests) {l : Int} (hl : rule.limit d = some l) : s.demands h d = true:= by
  have hmem : rule ∈ s.loadMatchingRules h.owner h.modelId := by
    simp [loadMatchingRules, hrl, ho, hm]
  cases d with
  | requests => exact absurd rfl hd
  | tokens | cost =>
    exact List.any_eq_true.mpr ⟨rule, hmem, by simp_all [BudgetRule.limit]⟩

/-- What an allowed check adds, to the loads and the counts of the rules that match a hold, keeps
the hard rules. -/
theorem KeepsHard.of_allowed {s' : BudgetScope ω} {n : Bool} (hk : s.KeepsHard)
    (hr : s'.rules = s.rules) (hp : ∀ w, h.start w = permit.start w)
    (hl : ∀ rule start d, s'.load rule start d = s.load rule start d +
      if counted rule start h then hold.amount n d else 0)
    (ha : ∀ rule, s'.activeCount rule = s.activeCount rule +
      if occupies rule h then (if n then 1 else 0) else 0)
    (hno : s.rulesExceeded permit (s.loadMatchingRules h.owner h.modelId) hold tokens
      microdollars n = false) : s'.KeepsHard := by
  intro rule hrl hh
  rw [hr] at hrl
  have hke := hk rule hrl hh
  have hm : occupies rule h = true →
      s.ruleExceeded permit hold tokens microdollars n rule = false := by
    intro hoc
    obtain ⟨-, ho, hs⟩ := occupies_iff.mp hoc
    have hmem : rule ∈ s.loadMatchingRules h.owner h.modelId := by
      simp [loadMatchingRules, hrl, ho, hs]
    simpa using List.any_eq_false.mp hno rule hmem
  constructor
  · intro d limit hlim start
    rw [hl]
    split
    · rename_i hc
      obtain ⟨hoc, hs⟩ := counted_iff.mp hc
      have hroom := (room_of_not_exceeded (hm hoc) hh).1 limit hlim
      rwa [← hp, hs] at hroom
    · have := hke.load_le d limit hlim start
      omega
  · intro limit hlim
    rw [ha]
    split
    · rename_i hoc
      exact (room_of_not_exceeded (d := .requests) (hm hoc) hh).2 limit hlim
    · have := hke.active_le limit hlim
      omega

/-- **An admitted request keeps the hard rules.** -/
theorem KeepsHard.insertReservation (hk : s.KeepsHard) (hf : s.holds.get? requestId = none)
    (hno : s.rulesExceeded permit (s.loadMatchingRules owner modelId) hold tokens microdollars
      true = false) :
    (s.insertReservation requestId owner modelId permit hold expiresAt).KeepsHard :=
  hk.of_allowed (h := heldRow requestId owner modelId permit hold expiresAt) rfl
    (fun w => by cases w <;> rfl) (fun _ _ _ => load_insertReservation hf)
    (fun _ => activeCount_insertReservation hf) hno

/-- **An admitted retry keeps the hard rules.** -/
theorem KeepsHard.addToHold (hk : s.KeepsHard) (hact : s.activeHold? requestId = some h)
    (hno : s.rulesExceeded ⟨h.policyVersion, h.dayStart, h.monthStart⟩
      (s.loadMatchingRules h.owner h.modelId) hold tokens microdollars false = false) :
    (s.addToHold requestId hold.tokens hold.microdollars).KeepsHard :=
  hk.of_allowed rfl (fun w => by cases w <;> rfl) (fun _ _ _ => load_addToHold hact)
    (fun _ => by rw [activeCount_addToHold]; simp) hno

/-- **A settlement that charges no more than was held keeps the hard rules.** -/
theorem KeepsHard.maybeSettle {t : Bool} {a : AttemptUsageTable} {now : String} (hk : s.KeepsHard)
    (hch : ∀ h, s.activeHold? requestId = some h → ∀ d, s.demands h d = true → (settledCounts h (observe a requestId)).amount d ≤ h.amount d) :
    (s.maybeSettle a requestId t now).KeepsHard := by
  cases hact : s.activeHold? requestId with
  | none => rwa [maybeSettle_eq_self (.inl hact)]
  | some h =>
    cases t with
    | false => rwa [maybeSettle_eq_self (.inr rfl)]
    | true =>
      have hr : (s.maybeSettle a requestId true now).rules = s.rules := by
        rw [maybeSettle_of_active hact]
      intro rule hrl hh
      rw [hr] at hrl
      have hke := hk rule hrl hh
      constructor
      · intro d limit hl start
        have hlo := hke.load_le d limit hl start
        have hhe : (s.maybeSettle a requestId true now).held rule start (·.amount d) +
            (if concerns rule start h then h.amount d else 0) =
              s.held rule start (·.amount d) := held_maybeSettle hact a now _
        rw [load] at hlo
        rw [load, used_maybeSettle hact]
        split at hhe
        · rename_i hc
          rw [if_pos hc]
          -- what leaves the hold side is at least what enters the usage side
          have hle : (settledCounts h (observe a requestId)).amount d ≤ h.amount d := by
            by_cases hd : d = .requests
            · subst hd
              exact le_refl 1
            · simp only [concerns, Bool.and_eq_true, decide_eq_true_eq] at hc
              exact hch h hact d (demands_of_limit hrl hh hc.1.1 hc.1.2 hd hl)
          omega
        · rename_i hc
          rw [if_neg hc]
          omega
      · intro limit hl
        rw [maybeSettle_of_active hact]
        exact (activeCount_update_le (status_settledRow _ now)).trans (hke.active_le limit hl)

/-- **Releasing holds keeps the hard rules.** -/
theorem KeepsHard.releaseHolds {r : List Int} (hk : s.KeepsHard)
    (hnn : ∀ h ∈ s.holds.rows, h.status = .active → ∀ d, 0 ≤ h.amount d) :
    (s.releaseHolds r).KeepsHard := by
  intro rule hrl hr
  have hke := hk rule hrl hr
  constructor
  · intro d limit hl start
    refine le_trans ?_ (hke.load_le d limit hl start)
    refine add_le_add (le_refl _) ?_
    simp only [held, BudgetScope.releaseHolds, sumBy_update]
    refine sumBy_le_sumBy fun h hh => ?_
    split
    · rw [counted_of_not_active (status_releasedRow h), if_neg Bool.false_ne_true]
      split
      · rename_i hc
        exact hnn h hh (occupies_iff.mp (counted_iff.mp hc).1).1 d
      · exact le_refl _
    · exact le_refl _
  · intro limit hl
    exact (activeCount_update_le status_releasedRow).trans (hke.active_le limit hl)

end BudgetScope

end EggPool.Budget
