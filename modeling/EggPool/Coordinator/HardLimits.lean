import EggPool.Budget.Coverage
import EggPool.Coordinator.Finalization
import EggPool.Coordinator.Reconciliation
import EggPool.Lib.Run

/-!
# Hard limits over whole runs

Publications, finalizations and recovery passes run one after another on one
database. If no attempt is billed above its worst case, no hard limit of either
scope is ever passed.

The argument is a ledger: `Covers` says that a hold is at least the worst case of
every attempt published for its request. `Backed` bundles it, for one scope, with
the limits themselves, and has one lemma for each thing a transaction can do to a
scope. The budget proof of an attempt is not a column of any table, so the state
carries it beside the database.
-/

namespace EggPool.Coordinator

open EggPool.Lib EggPool.Budget EggPool.Store Publication BudgetScope Table AutoTable Function

abbrev Attempts := AutoTable Attempt.id

/-- The proof each attempt was published under. -/
abbrev Proofs := Int → Option BudgetProof

section Covers

variable {attempts : Attempts} {proofs : Proofs} {d : Dimension} {r n : Int}

/-- The worst cases of a request's attempts, added up. -/
def worstOf (attempts : Attempts) (proofs : Proofs) (d : Dimension) (requestId : Int) : Int :=
  attempts.sumBy (fun a => if a.requestId = requestId then (worst d (proofs a.id)).getD 0 else 0)

/-- Every attempt of the request has a worst case, and `n` covers them all. -/
def Covers (attempts : Attempts) (proofs : Proofs) (d : Dimension) (requestId n : Int) : Prop :=
  (∀ a ∈ attempts.rows, a.requestId = requestId → (worst d (proofs a.id)).isSome = true) ∧
    worstOf attempts proofs d requestId ≤ n

theorem covers_of_no_attempt (h : ∀ a ∈ attempts.rows, a.requestId ≠ r) :
    Covers attempts proofs d r 0 := by
  refine ⟨fun a ha heq => absurd heq (h a ha), ?_⟩
  have hz : worstOf attempts proofs d r = attempts.sumBy (fun _ => (0 : Int)) :=
    sumBy_congr fun a ha => if_neg (h a ha)
  rw [hz]
  simp [sumBy]

/-- A rewrite of attempt rows that keeps their request changes no need. -/
theorem covers_update {p : Attempt → Bool} {g : Attempt → Attempt}
    {hg : ∀ a, (g a).id = a.id} (hr : ∀ a, (g a).requestId = a.requestId)
    (h : Covers attempts proofs d r n) : Covers (attempts.update p g hg) proofs d r n := by
  have hrow : ∀ a, (if p a then g a else a).id = a.id ∧
      (if p a then g a else a).requestId = a.requestId := by
    intro a
    split
    · exact ⟨hg a, hr a⟩
    · exact ⟨rfl, rfl⟩
  constructor
  · intro a ha heq
    obtain ⟨x, hx, rfl⟩ := List.mem_map.mp ha
    rw [(hrow x).2] at heq
    rw [(hrow x).1]
    exact h.1 x hx heq
  · have hs : worstOf (attempts.update p g hg) proofs d r = worstOf attempts proofs d r := by
      simp only [worstOf, toTable_update, sumBy_update]
      refine sumBy_congr fun a _ => ?_
      rw [(hrow a).1, (hrow a).2]
    rw [hs]
    exact h.2

section Append

variable {mk : Int → Attempt} {hmk : ∀ k, (mk k).id = k} {proof : Option BudgetProof}

/-- Recording the proof of a new attempt leaves those of the others. -/
theorem update_proofs_of_mem {a : Attempt} (ha : a ∈ attempts.rows) :
    Function.update proofs (attempts.seq + 1) proof a.id = proofs a.id := by
  have := attempts.bound a ha
  exact update_of_ne (by omega) _ _

theorem worstOf_append : worstOf (attempts.append mk hmk)
      (Function.update proofs (attempts.seq + 1) proof) d r = worstOf attempts proofs d r +
      if (mk (attempts.seq + 1)).requestId = r then (worst d proof).getD 0 else 0 := by
  rw [worstOf, sumBy_append, hmk, update_self]
  congr 1
  refine sumBy_congr fun a ha => ?_
  rw [update_proofs_of_mem ha]

theorem Covers.append_other (h : Covers attempts proofs d r n)
    (hne : (mk (attempts.seq + 1)).requestId ≠ r) :
    Covers (attempts.append mk hmk) (Function.update proofs (attempts.seq + 1) proof) d r n := by
  refine ⟨fun a ha heq => ?_, ?_⟩
  · rcases (mem_append hmk).mp ha with ha | rfl
    · rw [update_proofs_of_mem ha]
      exact h.1 a ha heq
    · exact absurd heq hne
  · rw [worstOf_append, if_neg hne, add_zero]
    exact h.2

theorem Covers.append_same {t m : Int} (h : Covers attempts proofs d r n)
    (heq : (mk (attempts.seq + 1)).requestId = r) (hw : worst d proof = some t) (hle : t ≤ m) :
    Covers (attempts.append mk hmk) (Function.update proofs (attempts.seq + 1) proof) d r
      (n + m) := by
  refine ⟨fun a ha heq => ?_, ?_⟩
  · rcases (mem_append hmk).mp ha with ha | rfl
    · rw [update_proofs_of_mem ha]
      exact h.1 a ha heq
    · rw [hmk, update_self, hw]
      rfl
  · rw [worstOf_append, if_pos heq, hw]
    exact add_le_add h.2 hle

end Append

/-! ## What was observed is covered -/

/-- Every usage row is of an attempt, for its request, and within the attempt's worst case. -/
def UsageBounded (usage : AttemptUsageTable) (attempts : Attempts) (proofs : Proofs) : Prop :=
  ∀ u ∈ usage.rows, ∃ a, attempts.get? u.attemptId = some a ∧ a.requestId = u.requestId ∧
    ∀ d t, worst d (proofs u.attemptId) = some t → u.amount d ≤ t

variable {usage : AttemptUsageTable}

theorem UsageBounded.append {mk : Int → Attempt} (hmk : ∀ k, (mk k).id = k)
    {proof : Option BudgetProof} (hu : UsageBounded usage attempts proofs) :
    UsageBounded usage (attempts.append mk hmk)
      (Function.update proofs (attempts.seq + 1) proof) := by
  intro u hmem
  obtain ⟨a, hget, hr, hle⟩ := hu u hmem
  have hid : a.id = u.attemptId := key_of_get? hget
  have hb := attempts.bound a (mem_of_get? hget)
  refine ⟨a, ?_, hr, ?_⟩
  · rwa [get?_append, if_neg (by omega)]
  · rwa [← hid, update_proofs_of_mem (mem_of_get? hget), hid]

theorem UsageBounded.rewrite {p : Attempt → Bool} {g : Attempt → Attempt}
    {hg : ∀ a, (g a).id = a.id} (hr : ∀ a, (g a).requestId = a.requestId)
    (hu : UsageBounded usage attempts proofs) :
    UsageBounded usage (attempts.update p g hg) proofs := by
  intro u hmem
  obtain ⟨a, hget, hr', hle⟩ := hu u hmem
  refine ⟨if p a then g a else a, ?_, ?_, hle⟩
  · rw [toTable_update, get?_update, hget]
    rfl
  split
  · rw [hr, hr']
  · exact hr'

theorem UsageBounded.record {u : AttemptUsage} {a : Attempt}
    (hu : UsageBounded usage attempts proofs) (hget : attempts.get? u.attemptId = some a)
    (hr : a.requestId = u.requestId)
    (hle : ∀ d t, worst d (proofs u.attemptId) = some t → u.amount d ≤ t) :
    UsageBounded (recordAttemptUsage usage u) attempts proofs := by
  unfold recordAttemptUsage
  split
  · exact hu
  intro x hx
  rcases mem_place hx with rfl | hx
  · exact ⟨a, hget, hr, hle⟩
  · exact hu x hx

theorem observed_le (hu : UsageBounded usage attempts proofs) (h : Covers attempts proofs d r n) :
    (observe usage r).amount d ≤ n := by
  refine le_trans ?_ h.2
  rw [observe_amount]
  refine sumBy_le_of_matched (fun a _ => ?_) (fun u hmem => ?_)
  · split
    · cases hw : worst d (proofs a.id) with
      | none => exact le_refl 0
      | some t => exact worst_nonneg hw
    · exact le_refl 0
  · obtain ⟨a, hget, hr, hle⟩ := hu u hmem
    refine ⟨a, hget, ?_⟩
    rw [hr]
    split
    · rename_i heq
      have hid : a.id = u.attemptId := key_of_get? hget
      obtain ⟨t, ht⟩ := Option.isSome_iff_exists.mp (h.1 a (mem_of_get? hget) (hr.trans heq))
      rw [ht]
      exact hle d t (hid ▸ ht)
    · exact le_refl 0

end Covers

/-! ## One scope -/

section Admitted

variable {ω : Type} [DecidableEq ω] (p : Publication) (requestId : Int)

/-- A new request holds nothing in a scope, or what the rules of the scope allow. -/
def Enters (owned : Prop) (s t : BudgetScope ω) : Prop :=
  t = s ∨ owned ∧ ∃ permit owner hold expiresAt,
    t = s.insertReservation requestId owner p.claim.canonicalModelId permit hold expiresAt ∧
    s.evaluateInitial permit owner p.claim.canonicalModelId p.claim.projectedTokens
      p.claim.projectedCostMicrodollars p.input.budgetProof = (.allowed, hold)

/-- A retry leaves a scope as it is, or extends the hold in it as the rules allow. -/
def Extends (free : Prop) (s t : BudgetScope ω) : Prop :=
  (free ∧ t = s) ∨ ∃ row hold, s.activeHold? requestId = some row ∧
    t = s.addToHold requestId hold.tokens hold.microdollars ∧
    s.evaluateRetry row p.claim.projectedTokens p.claim.projectedCostMicrodollars
      p.input.budgetProof = (.allowed, hold)

variable {p requestId} {owned free : Prop} {s t : BudgetScope ω} {x : HoldRow ω}

theorem Enters.rules (h : Enters p requestId owned s t) : t.rules = s.rules := by
  rcases h with rfl | ⟨-, _, _, _, _, rfl, -⟩ <;> rfl

theorem Enters.mem_holds (h : Enters p requestId owned s t) (hx : x ∈ t.holds.rows) :
    x ∈ s.holds.rows ∨ owned ∧ x.requestId = requestId := by
  rcases h with rfl | ⟨ho, _, _, _, _, rfl, -⟩
  · exact .inl hx
  rcases mem_place hx with rfl | hx
  · exact .inr ⟨ho, rfl⟩
  · exact .inl hx

theorem Extends.rules (h : Extends p requestId free s t) : t.rules = s.rules := by
  rcases h with ⟨-, rfl⟩ | ⟨_, _, -, rfl, -⟩ <;> rfl

theorem Extends.mem_holds (h : Extends p requestId free s t) (hx : x ∈ t.holds.rows) :
    ∃ y ∈ s.holds.rows, y.requestId = x.requestId := by
  rcases h with ⟨-, rfl⟩ | ⟨_, _, -, rfl, -⟩
  · exact ⟨x, hx, rfl⟩
  · exact mem_addToHold hx

end Admitted

/-- The limits of a scope hold, its holds cover their requests, and no hold is of a request to come. -/
structure Backed {ω : Type} [DecidableEq ω] (s : BudgetScope ω) (attempts : Attempts)
    (proofs : Proofs) (lastRequest : Int) : Prop where
  keeps : s.KeepsHard
  covered : s.Covered (Covers attempts proofs)
  known : ∀ h ∈ s.holds.rows, h.requestId ≤ lastRequest

namespace Backed

variable {ω : Type} [DecidableEq ω] {s t : BudgetScope ω} {attempts : Attempts} {proofs : Proofs}
  {last : Int} {mk : Int → Attempt} (hmk : ∀ k, (mk k).id = k) {p : Publication}
  (hb : Backed s attempts proofs last)

include hb

theorem get?_next : s.holds.get? (last + 1) = none := by
  rw [get?_eq_none]
  intro h hh heq
  have := hb.known h hh
  omega

/-- An attempt of a request that holds nothing in this scope. -/
theorem pass {last' : Int} (hle : last ≤ last')
    (hf : s.activeHold? (mk (attempts.seq + 1)).requestId = none) :
    Backed s (attempts.append mk hmk)
      (Function.update proofs (attempts.seq + 1) p.input.budgetProof) last' := by
  refine ⟨hb.keeps, ?_, fun h hh => le_trans (hb.known h hh) hle⟩
  intro h hh hst
  obtain ⟨hnn, hm⟩ := hb.covered h hh hst
  refine ⟨hnn, fun d hd => (hm d hd).append_other ?_⟩
  intro heq
  rw [heq, activeHold?_eq_some.mpr ⟨get?_self hh, hst⟩] at hf
  cases hf

/-- A new request takes its hold along with its first attempt. -/
theorem enter {owned : Prop} (he : Enters p (last + 1) owned s t)
    (ht : ∀ a ∈ attempts.rows, a.requestId ≤ last)
    (hm : (mk (attempts.seq + 1)).requestId = last + 1) : Backed t (attempts.append mk hmk)
      (Function.update proofs (attempts.seq + 1) p.input.budgetProof) (last + 1) := by
  rcases he with rfl | ⟨-, permit, o, hl, ea, rfl, h⟩
  · refine hb.pass hmk (by omega) ?_
    rw [activeHold?, hm, hb.get?_next]
    rfl
  obtain ⟨hh, hno⟩ := evaluate_allowed h
  have hp := promises_of_holdFor (by decide) hh
  refine ⟨hb.keeps.insertReservation hb.get?_next hno, hb.covered.insertReservation hp ?_ ?_, ?_⟩
  · intro h hh d n hc
    refine hc.append_other ?_
    have := hb.known h hh
    omega
  · intro d t n hw hle
    have hn : Covers attempts proofs d (last + 1) 0 :=
      covers_of_no_attempt fun a ha => by have := ht a ha; omega
    have ho : Covers (attempts.append mk hmk)
        (update proofs (attempts.seq + 1) p.input.budgetProof) d (last + 1) (0 + n) :=
      hn.append_same hm hw hle
    rwa [zero_add] at ho
  · intro h hh
    rcases mem_place hh with rfl | hh
    · exact le_refl _
    · have := hb.known h hh
      omega

variable {requestId : Int} {free : Prop}

theorem known_extends (he : Extends p requestId free s t) :
    ∀ h ∈ t.holds.rows, h.requestId ≤ last := by
  intro h hh
  obtain ⟨x, hx, hid⟩ := he.mem_holds hh
  rw [← hid]
  exact hb.known x hx

/-- A retry extends the hold along with its attempt. -/
theorem extend (he : Extends p requestId free s t)
    (hf : free → s.activeHold? requestId = none)
    (hm : (mk (attempts.seq + 1)).requestId = requestId) : Backed t (attempts.append mk hmk)
      (Function.update proofs (attempts.seq + 1) p.input.budgetProof) last := by
  have hk := hb.known_extends he
  rcases he with ⟨hfr, rfl⟩ | ⟨row, hl, hact, rfl, h⟩
  · exact hb.pass hmk (le_refl _) (hm ▸ hf hfr)
  obtain ⟨hno, hp⟩ := evaluateRetry_allowed h
  refine ⟨hb.keeps.addToHold hact hno, hb.covered.addToHold hact hp ?_ ?_, hk⟩
  · intro d r n hne hc
    exact hc.append_other (by rw [hm]; exact Ne.symm hne)
  · intro d t n m hw hle hc
    exact hc.append_same hm hw hle

/-- A retry that extends the hold and then gets no attempt. -/
theorem strand (he : Extends p requestId free s t) : Backed t attempts proofs last := by
  have hk := hb.known_extends he
  rcases he with ⟨-, rfl⟩ | ⟨row, hl, hact, rfl, h⟩
  · exact hb
  obtain ⟨hno, hp⟩ := evaluateRetry_allowed h
  refine ⟨hb.keeps.addToHold hact hno, hb.covered.addToHold hact hp ?_ ?_, hk⟩
  · exact fun d r n _ hc => hc
  intro d t n m hw hle hc
  have := worst_nonneg hw
  exact ⟨hc.1, le_trans hc.2 (by omega)⟩

theorem shrink (hs : s.Shrinks t) (hk : t.KeepsHard) : Backed t attempts proofs last := by
  refine ⟨hk, hb.covered.shrink hs (fun _ _ _ h => h), fun h' hh' => ?_⟩
  obtain ⟨h, hh, hid, _⟩ := hs.holds h' hh'
  rw [← hid]
  exact hb.known h hh

/-- A settlement, after attempt rows were rewritten under their requests. -/
theorem settle {t : Bool} {now : String} {usage : AttemptUsageTable}
    (hu : UsageBounded usage attempts proofs) :
    Backed (s.maybeSettle usage requestId t now) attempts proofs last := by
  refine hb.shrink (maybeSettle_shrinks usage requestId t now) (hb.keeps.maybeSettle ?_)
  intro h hact d hd
  obtain ⟨hget, hst⟩ := activeHold?_eq_some.mp hact
  have hm := (hb.covered h (mem_of_get? hget) hst).2 d hd
  rw [show h.requestId = requestId from key_of_get? hget] at hm
  exact settledCounts_amount_le (observed_le hu hm)

theorem release {ri : List Int} : Backed (s.releaseHolds ri) attempts proofs last :=
  hb.shrink (releaseHolds_shrinks ri)
    (hb.keeps.releaseHolds fun h hh hst => (hb.covered h hh hst).1)

theorem rewrite {p : Attempt → Bool} {g : Attempt → Attempt} {hg : ∀ a, (g a).id = a.id}
    (hr : ∀ a, (g a).requestId = a.requestId) : Backed s (attempts.update p g hg) proofs last:= by
  refine ⟨hb.keeps, fun h hh hst => ?_, hb.known⟩
  obtain ⟨hnn, hm⟩ := hb.covered h hh hst
  exact ⟨hnn, fun d hd => covers_update hr (hm d hd)⟩

end Backed

/-! ## The checks of a publication, per scope -/

namespace Publication

variable {p : Publication} {db : Db} {permit : BudgetPermit} {requestId : Int}

theorem userInitial_enters (h : (p.userInitial db permit).1 = .allowed) :
    Enters p (db.requests.seq + 1) (p.attribution.userId.isSome = true) db.userBudget
      (p.addRequest db (p.userInitial db permit).2 none).userBudget := by
  unfold userInitial at h ⊢
  cases hu : p.attribution.userId with
  | none => exact .inl rfl
  | some u =>
    rw [hu] at h
    exact .inr ⟨rfl, permit, u, _, _, rfl, Prod.ext h rfl⟩

theorem instanceInitial_enters (h : (p.instanceInitial db permit).1 = .allowed) :
    Enters p (db.requests.seq + 1) True db.instanceBudget
      (p.addRequest db none (p.instanceInitial db permit).2).instanceBudget := by
  by_cases he : (db.instanceBudget.loadMatchingRules () p.claim.canonicalModelId).isEmpty = true
  · exact .inl (by simp [addRequest, instanceInitial, InstanceBudget.checkInitial, he])
  cases hv : db.instanceBudget.evaluateInitial permit () p.claim.canonicalModelId
      p.claim.projectedTokens p.claim.projectedCostMicrodollars p.input.budgetProof with
  | mk che hold =>
    simp only [addRequest, instanceInitial, InstanceBudget.checkInitial, he, hv] at h ⊢
    cases che with
    | allowed => exact .inr ⟨trivial, permit, (), hold, _, rfl, hv⟩
    | exceeded | notEnforceable => cases h

/-- What a retry that the user's rules admit does to the user's scope. -/
theorem userExtended_extends (ha : p.userAdmits db requestId = true) :
    Extends p requestId (p.attribution.userId = none) db.userBudget
      (p.userExtended db requestId) := by
  unfold userAdmits userRetry UserBudget.checkRetry at ha
  unfold userExtended userRetry UserBudget.checkRetry
  cases hu : p.attribution.userId with
  | none => exact .inl ⟨rfl, rfl⟩
  | some userId =>
    rw [hu] at ha
    cases hact : db.userBudget.activeHold? requestId with
    | none => rw [hact] at ha; cases ha
    | some row =>
      rw [hact] at ha
      exact .inr ⟨row, _, hact, rfl, Prod.ext (of_decide_eq_true ha) rfl⟩

theorem instanceExtended_extends (h : (p.instanceRetry db requestId).1 = .allowed) :
    Extends p requestId (db.instanceBudget.activeHold? requestId = none) db.instanceBudget
      (p.instanceExtended db requestId) := by
  unfold instanceExtended
  unfold instanceRetry InstanceBudget.checkRetry at h ⊢
  cases hact : db.instanceBudget.activeHold? requestId with
  | none => exact .inl ⟨rfl, rfl⟩
  | some row =>
    rw [hact] at h
    cases he : db.instanceBudget.evaluateRetry row p.claim.projectedTokens
        p.claim.projectedCostMicrodollars p.input.budgetProof with
    | mk che hold =>
      simp only [he] at h ⊢
      cases che with
      | allowed => exact .inr ⟨row, hold, hact, rfl, he⟩
      | exceeded | notEnforceable => cases h

end Publication

/-! ## Runs -/

/-- The database, and the proof each attempt was published under. -/
structure Recorded where
  db : Db
  proofs : Proofs

/-- Transactions on the database, one after another. -/
inductive Step
  | publish (p : Publication)
  | finalize (f : Finalization)
  | recover (batch : Nat) (now : String)
  /-- Users, credentials, accounts and the policy revision change; the rules do not. -/
  | administer (directory : Directory)

namespace Recorded

def start (directory : Directory) (userRules : List (BudgetRule String))
    (instanceRules : List (BudgetRule Unit)) : Recorded :=
  ⟨Db.unused directory userRules instanceRules, fun _ => none⟩

def step (s : Recorded) : Step → Recorded
  | .publish p =>
    match s.db.withTransaction p.publishTransaction with
    | (db, .ok (.created _ attemptId _ _)) =>
      ⟨db, Function.update s.proofs attemptId p.input.budgetProof⟩
    | (db, _) => ⟨db, s.proofs⟩
  | .finalize f => ⟨(f.finalizeDurable s.db).1, s.proofs⟩
  | .recover batch now => ⟨(fixBounded batch now s.db).1, s.proofs⟩
  | .administer directory => ⟨{ s.db with directory := directory }, s.proofs⟩

/-- Only the record of proofs depends on the outcome. -/
theorem db_step_publish (s : Recorded) (p : Publication) :
    (s.step (.publish p)).db = (s.db.withTransaction p.publishTransaction).1 := by
  rcases hout : s.db.withTransaction p.publishTransaction with ⟨db, e | outcome⟩
  · simp [step, hout]
  · cases outcome <;> simp [step, hout]

/-- A finalization bills an attempt no more tokens and no more cost than its worst case. -/
def BilledWithin (s : Recorded) : Step → Prop
  | .finalize f =>
    (∀ t, worstTokens (s.proofs f.identity.attemptId) = some t →
      max f.data.inputTokens 0 + max f.data.outputTokens 0 ≤ t) ∧
    (∀ c, worstCost (s.proofs f.identity.attemptId) = some c → max f.data.costMicrodollars 0 ≤ c)
  | _ => True

/-- The ledger invariant. -/
structure Sound (userRules : List (BudgetRule String)) (instanceRules : List (BudgetRule Unit))
    (s : Recorded) : Prop where
  userRules : s.db.userBudget.rules = userRules
  instanceRules : s.db.instanceBudget.rules = instanceRules
  attempts : ∀ a ∈ s.db.attempts.rows, a.requestId ≤ s.db.requests.seq
  /-- A user hold is of a request attributed to a user. -/
  owners : ∀ h ∈ s.db.userBudget.holds.rows, ∃ r, s.db.requests.get? h.requestId = some r ∧
    r.attribution.userId.isSome = true
  usage : UsageBounded s.db.attemptUsage s.db.attempts s.proofs
  userScope : Backed s.db.userBudget s.db.attempts s.proofs s.db.requests.seq
  instanceScope : Backed s.db.instanceBudget s.db.attempts s.proofs s.db.requests.seq

variable {userRules : List (BudgetRule String)} {instanceRules : List (BudgetRule Unit)}
  {s : Recorded}

theorem backed_empty {ω : Type} [DecidableEq ω] (ru : List (BudgetRule ω)) (attempts : Attempts)
    (proofs : Proofs) (last : Int) :
    Backed ⟨ru, Table.empty, Buckets.empty⟩ attempts proofs last := by
  refine ⟨fun rule _ _ => keeps_empty ru rule, ?_, ?_⟩
  · intro h hh
    cases hh
  · intro h hh
    cases hh

theorem sound_start (di : Directory) :
    (start di userRules instanceRules).Sound userRules instanceRules where
  userRules := rfl
  instanceRules := rfl
  attempts := by intro a ha; cases ha
  owners := by intro h hh; cases hh
  usage := by intro u hu; cases hu
  userScope := backed_empty _ _ _ _
  instanceScope := backed_empty _ _ _ _

/-! ### Publication -/

section Publish

variable {p : Publication}

/-- An attributed retry finds the user's hold; an unattributed request has none. -/
theorem Sound.activeHold?_of_no_user (hs : s.Sound userRules instanceRules) {request : Request}
    (hf : s.db.requestByProxyId? p.input.proxyRequestId = some request)
    (hr : p.retries s.db request = true) (hno : p.attribution.userId = none) :
    s.db.userBudget.activeHold? request.id = none := by
  cases hact : s.db.userBudget.activeHold? request.id with
  | none => rfl
  | some h =>
    obtain ⟨hget, _⟩ := activeHold?_eq_some.mp hact
    obtain ⟨r, hg, hu⟩ := hs.owners h (mem_of_get? hget)
    have hl : s.db.requests.get? request.id = some request :=
      get?_self (List.mem_of_find?_eq_some hf)
    rw [show h.requestId = request.id from key_of_get? hget, hl, Option.some.injEq] at hg
    subst hg
    simp only [retries, sameRequest, Bool.and_eq_true, decide_eq_true_eq] at hr
    rw [hr.1.1.1.2, hno] at hu
    cases hu

variable {requestId : Int}

section

variable (hs : s.Sound userRules instanceRules)

include hs

theorem Sound.stranded (ha : p.userAdmits s.db requestId = true) : Sound userRules instanceRules
      ⟨{ s.db with userBudget := p.userExtended s.db requestId }, s.proofs⟩ :=
  { hs with
    userRules := (userExtended_extends ha).rules.trans hs.userRules
    owners := by
      intro h hh
      obtain ⟨x, hx, hid⟩ := (userExtended_extends ha).mem_holds hh
      rw [← hid]
      exact hs.owners x hx
    userScope := hs.userScope.strand (userExtended_extends ha) }

theorem Sound.retried {re : Request} (hf : s.db.requestByProxyId? p.input.proxyRequestId = some re)
    (hr : p.retries s.db re = true) (hd : p.userAdmits s.db re.id = true)
    (hall : (p.instanceRetry s.db re.id).1 = .allowed) :
    Sound userRules instanceRules ⟨p.addAttempt (p.reassign { s.db with
          userBudget := p.userExtended s.db re.id
          instanceBudget := p.instanceExtended s.db re.id } re.id) re.id,
        Function.update s.proofs (s.db.attempts.seq + 1) p.input.budgetProof⟩ where
  userRules := (userExtended_extends hd).rules.trans hs.userRules
  instanceRules := (instanceExtended_extends hall).rules.trans hs.instanceRules
  attempts := by
    intro a ha
    rcases (mem_append (p.id_newAttempt re.id)).mp ha with ha | rfl
    · exact hs.attempts a ha
    · exact s.db.requests.bound re (List.mem_of_find?_eq_some hf)
  owners := by
    intro h hh
    obtain ⟨x, hx, hid⟩ := (userExtended_extends hd).mem_holds hh
    obtain ⟨r, hget, hu⟩ := hs.owners x hx
    rw [← hid]
    -- a reassigned request keeps its attribution
    simp only [addAttempt, reassign, toTable_update, get?_update, hget, Option.map_some]
    refine ⟨_, rfl, ?_⟩
    split <;> exact hu
  usage := hs.usage.append (p.id_newAttempt re.id)
  userScope := hs.userScope.extend (p.id_newAttempt _) (userExtended_extends hd)
    (hs.activeHold?_of_no_user hf hr) rfl
  instanceScope := hs.instanceScope.extend (p.id_newAttempt _)
    (instanceExtended_extends hall) id rfl

theorem Sound.first {permit : BudgetPermit} (hus : (p.userInitial s.db permit).1 = .allowed)
    (hi : (p.instanceInitial s.db permit).1 = .allowed) :
    Sound userRules instanceRules ⟨p.addAttempt (p.addRequest s.db (p.userInitial s.db permit).2
          (p.instanceInitial s.db permit).2) (s.db.requests.seq + 1),
        Function.update s.proofs (s.db.attempts.seq + 1) p.input.budgetProof⟩ where
  userRules := (userInitial_enters hus).rules.trans hs.userRules
  instanceRules := (instanceInitial_enters hi).rules.trans hs.instanceRules
  attempts := by
    intro a ha
    show a.requestId ≤ s.db.requests.seq + 1
    rcases (mem_append (p.id_newAttempt (s.db.requests.seq + 1))).mp ha with ha | rfl
    · have := hs.attempts a ha
      omega
    · exact le_refl _
  owners := by
    intro h hh
    show ∃ r, (s.db.requests.append p.newRequest p.id_newRequest).get? h.requestId = some r ∧ _
    rw [get?_append]
    rcases (userInitial_enters hus).mem_holds hh with hh | ⟨hu, hid⟩
    · -- an earlier hold is of an earlier request
      rw [if_neg (by have := hs.userScope.known h hh; omega)]
      exact hs.owners h hh
    · exact ⟨_, if_pos hid, hu⟩
  usage := hs.usage.append (p.id_newAttempt (s.db.requests.seq + 1))
  userScope := hs.userScope.enter (p.id_newAttempt _) (userInitial_enters hus) hs.attempts rfl
  instanceScope := hs.instanceScope.enter (p.id_newAttempt _) (instanceInitial_enters hi)
    hs.attempts rfl

/-- **A publication keeps the ledger, whatever its outcome.** -/
theorem Sound.publish : (s.step (.publish p)).Sound userRules instanceRules := by
  cases hrun : p.publishTransaction s.db with
  | error e =>
    simp only [step, Db.withTransaction, hrun]
    exact hs
  | ok out =>
    obtain ⟨db', outcome⟩ := out
    simp [step, Db.withTransaction, hrun]
    cases publishTransaction_effect hrun with
    | refused hno =>
      cases outcome with
      | created => cases hno
      | _ => exact hs
    | stranded _ _ _ ha hd =>
      have hno := isCreated_of_denied hd
      cases outcome with
      | created => cases hno
      | _ => exact hs.stranded ha
    | retried hf hr ha hall => exact hs.retried hf hr ha hall
    | first _ hu hi _ => exact hs.first hu hi

end

end Publish

/-! ### Finalization and recovery -/

section Finalize

variable {f : Finalization}

/-- Request rows rewritten without touching who they are attributed to. -/
theorem owners_update {db : Db} {p : Request → Bool} {g : Request → Request}
    {hg : ∀ r, (g r).id = r.id} (ha : ∀ r, (g r).attribution = r.attribution) {id : Int}
    (h : ∃ r, db.requests.get? id = some r ∧ r.attribution.userId.isSome = true) :
    ∃ r, (db.requests.update p g hg).get? id = some r ∧ r.attribution.userId.isSome = true := by
  obtain ⟨r, hget, hu⟩ := h
  rw [toTable_update, get?_update, hget]
  refine ⟨_, rfl, ?_⟩
  dsimp only
  split
  · rwa [ha]
  · exact hu

theorem attempts_update {db : Db} {p : Attempt → Bool} {g : Attempt → Attempt}
    {hg : ∀ a, (g a).id = a.id} (hr : ∀ a, (g a).requestId = a.requestId) {last : Int}
    (h : ∀ a ∈ db.attempts.rows, a.requestId ≤ last) :
    ∀ a ∈ (db.attempts.update p g hg).rows, a.requestId ≤ last := by
  intro a ha
  obtain ⟨x, hx, rfl⟩ := List.mem_map.mp ha
  split
  · rw [hr]
    exact h x hx
  · exact h x hx

theorem Sound.closeRequest (hs : s.Sound userRules instanceRules) :
    Sound userRules instanceRules ⟨f.closeRequest s.db, s.proofs⟩ :=
  { hs with
    owners := fun h hh => owners_update (g := f.closedRequest) (fun _ => rfl) (hs.owners h hh) }

theorem Sound.closeAttempt (hs : s.Sound userRules instanceRules) :
    Sound userRules instanceRules ⟨f.closeAttempt s.db, s.proofs⟩ :=
  { hs with
    attempts := attempts_update (g := f.closedAttempt) (fun _ => rfl) hs.attempts
    usage := hs.usage.rewrite (g := f.closedAttempt) (fun _ => rfl)
    userScope := hs.userScope.rewrite (g := f.closedAttempt) (fun _ => rfl)
    instanceScope := hs.instanceScope.rewrite (g := f.closedAttempt) (fun _ => rfl) }

section

variable (hs : s.Sound userRules instanceRules)

include hs

/-- Settling both scopes, for an attempt whose row is there. -/
theorem Sound.settle {t : Bool} {a : Attempt}
    (hget : s.db.attempts.get? f.identity.attemptId = some a)
    (hq : a.requestId = f.identity.dbRequestId) (hw : s.BilledWithin (.finalize f)) :
    Sound userRules instanceRules ⟨f.settle s.db t, s.proofs⟩ := by
  have hu : UsageBounded (if t then
      recordAttemptUsage s.db.attemptUsage f.attemptUsage else s.db.attemptUsage)
      s.db.attempts s.proofs := by
    split
    · refine hs.usage.record hget hq fun d t h => ?_
      cases d with
      | requests => cases h
      | tokens => exact hw.1 t h
      | cost => exact hw.2 t h
    · exact hs.usage
  have hr := maybeSettle_shrinks (s := s.db.userBudget)
    (if t then recordAttemptUsage s.db.attemptUsage f.attemptUsage
      else s.db.attemptUsage) f.identity.dbRequestId f.terminalizeRequest f.now
  exact {
    userRules := hr.rules.trans hs.userRules
    instanceRules := (maybeSettle_shrinks _ _ _ _).rules.trans hs.instanceRules
    attempts := hs.attempts
    owners := by
      intro h' hh'
      obtain ⟨h, hh, hid, _⟩ := hr.holds h' hh'
      rw [← hid]
      exact hs.owners h hh
    usage := hu
    userScope := hs.userScope.settle hu
    instanceScope := hs.instanceScope.settle hu }

/-- **A finalization that bills within the worst case keeps the ledger.** -/
theorem Sound.finalize (hw : s.BilledWithin (.finalize f)) :
    (s.step (.finalize f)).Sound userRules instanceRules := by
  rw [step]
  rcases f.finalizeDurable_cases s.db with ⟨-, heq | heq | heq⟩ | ⟨ht, heq⟩ <;> rw [heq]
  · exact hs
  · exact hs.closeRequest
  · exact hs.closeRequest.closeAttempt
  · obtain ⟨a, hget, ha⟩ := (Option.any_eq_true _ _).mp ht
    simp only [Bool.and_eq_true, decide_eq_true_eq] at ha
    have hc : Sound userRules instanceRules
        ⟨f.releaseReservation (f.closeAttempt (f.closeRequest s.db)), s.proofs⟩ :=
      { hs.closeRequest.closeAttempt with }
    have hget' : (f.releaseReservation (f.closeAttempt (f.closeRequest s.db))).attempts.get?
        f.identity.attemptId = some (if f.selectsAttempt a then f.closedAttempt a else a) := by
      have hrow : (f.finalized s.db).1.attempts.get? f.identity.attemptId =
          (s.db.attempts.get? f.identity.attemptId).map
            (fun a => if f.selectsAttempt a then f.closedAttempt a else a) :=
        Finalization.get?_finalized_attempts _
      rwa [hget] at hrow
    refine hc.settle hget' ?_ hw
    split <;> exact ha.1.1.1.1.1

/-- **A recovery pass keeps the ledger.** -/
theorem Sound.recover (b : Nat) (now : String) :
    (s.step (.recover b now)).Sound userRules instanceRules := by
  have hr := releaseHolds_shrinks (s := s.db.userBudget)
    ((s.db.requests.mark pending (interrupt now) (fun _ => rfl) b).firstKeys interrupted b)
  exact {
    userRules := hs.userRules
    instanceRules := hs.instanceRules
    attempts := attempts_update (g := interruptAttempt now) (fun _ => rfl) hs.attempts
    owners := by
      intro h' hh'
      obtain ⟨h, hh, hid, _⟩ := hr.holds h' hh'
      rw [← hid]
      exact owners_update (g := interrupt now) (fun _ => rfl) (hs.owners h hh)
    usage := hs.usage.rewrite (fun _ => rfl)
    userScope := hs.userScope.release.rewrite (fun _ => rfl)
    instanceScope := hs.instanceScope.release.rewrite (fun _ => rfl) }

end

end Finalize

theorem Sound.step {a : Step} (hs : s.Sound userRules instanceRules) (hw : s.BilledWithin a) :
    (s.step a).Sound userRules instanceRules := by
  cases a with
  | publish p => exact hs.publish
  | finalize f => exact hs.finalize hw
  | recover bat now => exact hs.recover bat now
  | administer dir => exact { hs with }

/--
**No run that bills every attempt within its worst case passes a hard limit.** In
every state it reaches, settled usage plus active holds are within each hard
rule's limits, in every window and in both scopes.
-/
theorem hard_limits_hold (directory : Directory) (userRules : List (BudgetRule String))
    (instanceRules : List (BudgetRule Unit)) (steps : List Step)
    (hbilled : Along Recorded.step BilledWithin (start directory userRules instanceRules) steps) :
    (∀ rule ∈ userRules, rule.enforcement = .hard →
      (run Recorded.step (start directory userRules instanceRules) steps).db.userBudget.Keeps
        rule) ∧ (∀ rule ∈ instanceRules, rule.enforcement = .hard →
      (run Recorded.step (start directory userRules instanceRules) steps).db.instanceBudget.Keeps
        rule) := by
  have hs : Sound userRules instanceRules
      (run Recorded.step (start directory userRules instanceRules) steps) :=
    run_invariant_along (fun _ _ hs hw => hs.step hw) (sound_start directory) hbilled
  constructor
  · intro rule hrule hhard
    exact hs.userScope.keeps rule (by rw [hs.userRules]; exact hrule) hhard
  · intro rule hrule hhard
    exact hs.instanceScope.keeps rule (by rw [hs.instanceRules]; exact hrule) hhard

/-- A hard cap of 60 tokens a day. -/
def hardCap {ω : Type} (owner : ω) : BudgetRule ω where
  owner := owner
  scopeModel := none
  window := .day
  maxRequests := none
  maxTokens := some 60
  maxMicrodollars := none
  maxConcurrent := some 1
  enforcement := .hard

/-- An attempt that can bill at most 30 tokens, so that its request holds 60. -/
def provenAttempt : Publication :=
  { Publication.secondAttempt with
    input := ⟨"r", "openai", "openai", false, 1, 600, some ⟨20, some 10, some 1000000⟩⟩ }

/-- It ends with 25 tokens billed. -/
def provenEnd : Finalization :=
  { Finalization.afterLastAccount with
    data := { outcome := .completed, inputTokens := 15, outputTokens := 10, costMicrodollars := 25 } }

/-- The start of the run: one hard cap in each scope. -/
def capped : Recorded :=
  start Publication.drainedInstance.directory [hardCap "user"] [hardCap ()]

/-- The hold fills the cap, the settlement gives most of it back, and the limit holds throughout. -/
theorem hard_limits_hold_proven :
    (run Recorded.step capped [.publish provenAttempt]).db.userBudget.load (hardCap "user")
      "2026-01-02" .tokens = 60 ∧
    (run Recorded.step capped [.publish provenAttempt, .finalize provenEnd]).db.userBudget.load
      (hardCap "user") "2026-01-02" .tokens = 25 ∧
    Along Recorded.step BilledWithin capped [.publish provenAttempt, .finalize provenEnd] ∧
    (run Recorded.step capped [.publish provenAttempt, .finalize provenEnd]).db.userBudget.Keeps
      (hardCap "user") := by
  have htokens : worstTokens ((capped.step (.publish provenAttempt)).proofs 1) = some 30 := by
    decide +kernel
  have hcost : worstCost ((capped.step (.publish provenAttempt)).proofs 1) = some 30 := by
    decide +kernel
  have hbilled : Along Recorded.step BilledWithin capped
      [.publish provenAttempt, .finalize provenEnd] := by
    refine ⟨trivial, ⟨fun t ht => ?_, fun c hc => ?_⟩, trivial⟩
    · obtain rfl : 30 = t := Option.some.inj (htokens.symm.trans ht)
      decide
    · obtain rfl : 30 = c := Option.some.inj (hcost.symm.trans hc)
      decide
  refine ⟨by decide +kernel, by decide +kernel, hbilled, ?_⟩
  exact (hard_limits_hold _ _ _ _ hbilled).1 (hardCap "user") (List.mem_singleton_self _) rfl

end Recorded

end EggPool.Coordinator
