import EggPool.Health.HealthManager

/-!
# Model quarantine

A map from exact scopes to what was observed there. A first observation makes a scope
suspected, a second one while it lasts makes it quarantined; both end at an expiry. A terminal
withdrawal does not end, and is only ever lifted. The eligibility gate asks
`isModelQuarantined`.
-/

namespace EggPool.Health

open EggPool.Lib

inductive QuarantineState where
  | healthy | suspected | quarantined | terminalWithdrawn
  deriving DecidableEq, Repr

inductive EvidenceProvenance where
  | runtimeHttp | providerCatalog | modelInfo | manualOverride | operatorAction | migrationLegacy
  deriving DecidableEq, Repr

/-- The exact scope. Its digest is a function of the rest and left out. -/
@[ext]
structure QuarantineKey where
  (providerId accountId canonicalModelId : String)
  upstreamModelId : Option String
  upstreamProtocol : String
  deriving DecidableEq, Repr

/-- Keys are compared field by field. -/
def QuarantineKey.fields (k : QuarantineKey) :
    String ×ₗ String ×ₗ String ×ₗ WithBot String ×ₗ String :=
  toLex (k.providerId, toLex (k.accountId, toLex (k.canonicalModelId,
    toLex ((k.upstreamModelId : WithBot String), k.upstreamProtocol))))

theorem QuarantineKey.fields_injective : Function.Injective QuarantineKey.fields := by
  intro a b h
  simp only [fields, toLex_inj, Prod.mk.injEq] at h
  obtain ⟨hp, ha, hc, hr⟩ := h
  obtain ⟨hu, ht⟩ := Prod.mk.inj hr
  exact QuarantineKey.ext hp ha hc hu ht

instance : LinearOrder QuarantineKey := LinearOrder.lift' _ QuarantineKey.fields_injective

structure QuarantineEntry where
  state : QuarantineState
  evidenceProvenance : EvidenceProvenance
  reason : String
  (firstObserved lastObserved : Rat)
  observationCount : Nat
  (expiry clearedAt : Option Rat)
  clearReason : Option String
  lastStatusCode : Option Nat
  lastErrorClass : Option String
  deriving DecidableEq

/-- The time of the entry is over. -/
def QuarantineEntry.expired (e : QuarantineEntry) (now : Rat) : Bool := e.expiry.any (· ≤ now)

abbrev QuarantineEntries := OrdMap QuarantineKey QuarantineEntry

def QUARANTINE_ENTRY_HARD_CAP : Nat := 4096

/-! ## Pruning -/

def dropExpired : List QuarantineKey → QuarantineEntries → QuarantineEntries
  | [], entries => entries
  | key :: keys, entries =>
    let entries := entries.erase key
    if entries.size ≤ QUARANTINE_ENTRY_HARD_CAP then entries else dropExpired keys entries

/-- One entry goes in each round, so that as many rounds as entries are enough. -/
def evictOldest : Nat → QuarantineEntries → QuarantineEntries
  | 0, entries => entries
  | rounds + 1, entries =>
    if entries.size ≤ QUARANTINE_ENTRY_HARD_CAP then entries
    else
      let oldest := (entries.rows.filter fun r => r.2.state ≠ .terminalWithdrawn).argmin
        fun r => r.2.lastObserved
      match oldest.or entries.rows.head? with
      | none => entries
      | some r => evictOldest rounds (entries.erase r.1)

def pruneToCap (entries : QuarantineEntries) (now : Rat) : QuarantineEntries :=
  if entries.size ≤ QUARANTINE_ENTRY_HARD_CAP then entries
  else
    let expired := (entries.rows.filter fun r =>
      r.2.state ≠ .terminalWithdrawn ∧ r.2.expired now).map Prod.fst
    evictOldest entries.size (dropExpired expired entries)

structure ModelQuarantine where
  entries : QuarantineEntries
  (suspectedTtl quarantinedTtl : Rat)
  promotionThreshold : Nat

namespace ModelQuarantine

def default : ModelQuarantine := ⟨.empty, 120, 300, 2⟩

def isModelQuarantined (q : ModelQuarantine) (key : QuarantineKey) (now : Rat) : Bool :=
  match q.entries.lookup key with
  | none => false
  | some entry =>
    entry.state ∈ [QuarantineState.suspected, .quarantined, .terminalWithdrawn] ∧
      entry.expired now = false

def recordObservationUntil (q : ModelQuarantine) (key : QuarantineKey)
    (provenance : EvidenceProvenance) (reason : String) (statusCode : Option Nat)
    (errorClass : Option String) (now : Rat) (expiry : Option Rat) :
    QuarantineEntry × ModelQuarantine :=
  -- the cap is on the distance from now
  let explicitExpiry := expiry.map fun value =>
    now + max 0 (min (value - now) MAX_NONTERMINAL_BACKOFF_SECONDS)
  let entries : QuarantineEntries :=
    if (q.entries.lookup key).any (·.expired now) then q.entries.erase key else q.entries
  let entries : QuarantineEntries :=
    if (entries.lookup key).any (·.state = .healthy) then entries.erase key else entries
  match entries.lookup key with
  | some entry =>
    if entry.state = .terminalWithdrawn then (entry, { q with entries := entries })
    else
      let entry := { entry with
        lastObserved := now
        observationCount := saturatingAdd entry.observationCount 1
        reason := reason
        evidenceProvenance := provenance
        lastStatusCode := statusCode
        lastErrorClass := errorClass
        expiry := explicitExpiry.or entry.expiry }
      let entry :=
        if entry.state = .suspected ∧ q.promotionThreshold ≤ entry.observationCount then
          { entry with
            state := .quarantined
            expiry := explicitExpiry.or
              (some (now + min q.quarantinedTtl MAX_NONTERMINAL_BACKOFF_SECONDS)) }
        else entry
      (entry, { q with entries := entries.set key entry })
  | none =>
    let entry : QuarantineEntry := {
      state := .suspected
      evidenceProvenance := provenance
      reason := reason
      firstObserved := now
      lastObserved := now
      observationCount := 1
      expiry := explicitExpiry.or
        (some (now + min q.suspectedTtl MAX_NONTERMINAL_BACKOFF_SECONDS))
      clearedAt := none
      clearReason := none
      lastStatusCode := statusCode
      lastErrorClass := errorClass }
    (entry, { q with entries := pruneToCap (entries.set key entry) now })

/-- A success lifts terminal withdrawals only. -/
def clearAuthoritativeReappearanceFor (q : ModelQuarantine)
    (accountId canonicalModelId : String) (now : Rat) : ModelQuarantine :=
  { q with
    entries := q.entries.update
      (fun r => r.2.state = .terminalWithdrawn ∧ r.1.accountId = accountId ∧
        r.1.canonicalModelId = canonicalModelId)
      (fun r => (r.1, { r.2 with
        state := .healthy
        clearedAt := some now
        clearReason := some "authoritative_reappearance"
        expiry := none }))
      fun _ => rfl }

/-! ## One scope on its own -/

/-- A scope that is shut: when it opens again, and whether it was observed more than once. -/
structure Window where
  opens : Rat
  confirmed : Bool
  deriving DecidableEq

/-- An observation with a delay sets the end; one without waits its turn. -/
def Window.observe (gate : Option Window) (now : Rat) (delay : Option Rat) : Window :=
  match gate.filter (now < ·.opens), delay with
  | none, delay => ⟨now + delay.getD 120, false⟩
  | some _, some delay => ⟨now + delay, true⟩
  | some w, none => if w.confirmed then w else ⟨now + 300, true⟩

theorem Window.observe_opened {gate : Option Window} {now : Rat} (h : ∀ w ∈ gate, w.opens ≤ now)
    (d : Option Rat) : observe gate now d = ⟨now + d.getD 120, false⟩ := by
  have hn : gate.filter (now < ·.opens) = none := by
    rw [Option.filter_eq_none_iff]
    intro w hw
    simp [h w hw]
  unfold observe
  rw [hn]

theorem Window.observe_shut {w : Window} {now : Rat} (h : now < w.opens) (d : Option Rat) :
    observe (some w) now d = match d with
      | some d => ⟨now + d, true⟩
      | none => if w.confirmed then w else ⟨now + 300, true⟩ := by
  have hs : (some w).filter (now < ·.opens) = some w := by simp [h]
  unfold observe
  rw [hs]
  cases d <;> rfl

/-- The entry of a scope with this window. -/
def Window.Holds (w : Window) (e : QuarantineEntry) : Prop :=
  e.expiry = some w.opens ∧ e.state = (if w.confirmed then .quarantined else .suspected) ∧
    1 ≤ e.observationCount

/-- The quarantine knows of one scope, and there of a window. -/
structure Gated (key : QuarantineKey) (q : ModelQuarantine) (gate : Option Window) : Prop where
  config : q = ⟨q.entries, 120, 300, 2⟩
  only : ∀ r ∈ q.entries.rows, r.1 = key
  opened : gate = none → q.entries.lookup key = none
  shut : ∀ w, gate = some w → ∃ e, q.entries.lookup key = some e ∧ w.Holds e

variable {key : QuarantineKey} {q : ModelQuarantine} {gate : Option Window}

/-- The gate's answer. -/
theorem Gated.isModelQuarantined (h : Gated key q gate) (now : Rat) :
    q.isModelQuarantined key now = gate.any (now < ·.opens) := by
  unfold ModelQuarantine.isModelQuarantined
  cases hg : gate with
  | none => rw [h.opened hg]; rfl
  | some w =>
    obtain ⟨e, he, hx, hst, -⟩ := h.shut w hg
    rw [he]
    cases hc : w.confirmed <;>
      simp [hst, hc, QuarantineEntry.expired, hx]

theorem gated_set {en : QuarantineEntries} {w : Window} {e : QuarantineEntry}
    (hn : ∀ r ∈ en.rows, r.1 = key) (he : w.Holds e) :
    Gated key ⟨en.set key e, 120, 300, 2⟩ (some w) where
  config := rfl
  only := by
    intro r hr
    rcases Table.mem_place hr with rfl | hold
    · rfl
    · exact hn r hold
  opened hno := by cases hno
  shut := by
    rintro _ ⟨⟩
    exact ⟨e, by simp, he⟩

/-- One scope is far from the cap. -/
theorem pruneToCap_set {en : QuarantineEntries} (he : ∀ r ∈ en.rows, r.1 = key)
    (hn : en.lookup key = none) (e : QuarantineEntry) (now : Rat) :
    pruneToCap (en.set key e) now = en.set key e := by
  have hm : en.rows = [] := by
    rw [List.eq_nil_iff_forall_not_mem]
    rintro ⟨k, v⟩ hr
    obtain rfl : k = key := he _ hr
    exact absurd (OrdMap.lookup_eq_some.mpr hr) (by simp [hn])
  have hs : (en.set key e).size = 1 := by
    rw [OrdMap.size_set, hn, Table.size, hm]
    rfl
  rw [pruneToCap, if_pos (by rw [hs]; decide)]

theorem Gated.recordObservationUntil (h : Gated key q gate) (p : EvidenceProvenance)
    (re : String) {now : Rat} {de : Option Rat}
    (hde : ∀ d, de = some d → 0 ≤ d ∧ d ≤ MAX_NONTERMINAL_BACKOFF_SECONDS) :
    Gated key (q.recordObservationUntil key p re none none now
      (de.map (now + ·))).2 (some (.observe gate now de)) := by
  have ht : (de.map (now + ·)).map (fun val =>
      now + max 0 (min (val - now) MAX_NONTERMINAL_BACKOFF_SECONDS)) = de.map (now + ·) := by
    cases hd : de with
    | none => rfl
    | some d =>
      obtain ⟨hw, hh⟩ := hde d hd
      simp [max_eq_right hw, min_eq_left hh]
  rw [h.config]
  unfold ModelQuarantine.recordObservationUntil
  rw [ht]
  have htw : ∀ n, 1 ≤ n → 2 ≤ saturatingAdd n 1 := by
    unfold saturatingAdd
    omega
  cases hg : gate with
  | none =>
    have hn := h.opened hg
    simp only [hn, Option.any_none, Bool.false_eq_true, if_false]
    rw [pruneToCap_set h.only hn]
    refine gated_set h.only ?_
    refine ⟨?_, rfl, Nat.le_refl 1⟩
    cases de <;> rfl
  | some w =>
    obtain ⟨e, he, hx, hst, hcn⟩ := h.shut w hg
    by_cases ho : w.opens ≤ now
    · -- the window is over: the entry is forgotten
      have hee : e.expired now = true := by simp [QuarantineEntry.expired, hx, ho]
      have hn : OrdMap.lookup (q.entries.erase key) key = none := by simp
      have hl : ∀ r ∈ (q.entries.erase key).rows, r.1 = key :=
        fun r hr => h.only r (List.mem_of_mem_filter hr)
      simp only [he, Option.any_some, hee, if_true, hn, Option.any_none,
        Bool.false_eq_true, if_false]
      rw [pruneToCap_set hl hn, Window.observe_opened (by simpa using ho)]
      refine gated_set hl ?_
      refine ⟨?_, rfl, Nat.le_refl 1⟩
      cases de <;> rfl
    · have hp : now < w.opens := not_le.mp ho
      have hee : e.expired now = false := by simp [QuarantineEntry.expired, hx, hp]
      have hc := htw _ hcn
      rw [Window.observe_shut hp]
      cases hco : w.confirmed with
      | false =>
        rw [hco] at hst
        simp [he, hee, hst, hc]
        refine gated_set h.only ?_
        refine ⟨?_, ?_, Nat.le_of_succ_le hc⟩
        · cases de <;> rfl
        · cases de <;> rfl
      | true =>
        rw [hco] at hst
        simp [he, hee, hst]
        refine gated_set h.only ?_
        refine ⟨?_, ?_, Nat.le_of_succ_le hc⟩
        · cases de <;> simp [hx]
        · cases de <;> simp [hco]

/-- There is no terminal withdrawal to lift. -/
theorem Gated.clearAuthoritativeReappearanceFor (h : Gated key q gate) (a c : String) (now : Rat) :
    q.clearAuthoritativeReappearanceFor a c now = q := by
  unfold ModelQuarantine.clearAuthoritativeReappearanceFor
  rw [Table.update_eq_self_iff.mpr]
  intro r hr ht
  obtain ⟨k, v⟩ := r
  obtain rfl : k = key := h.only _ hr
  have hv := OrdMap.lookup_eq_some.mpr hr
  cases hg : gate with
  | none =>
    rw [h.opened hg] at hv
    cases hv
  | some w =>
    obtain ⟨e, he, -, hst, -⟩ := h.shut w hg
    obtain rfl : v = e := Option.some.inj (hv.symm.trans he)
    cases hc : w.confirmed <;> simp [hst, hc] at ht

end ModelQuarantine

end EggPool.Health
