import EggPool.Routing.ClaimCapacity

/-!
# The claim ledger balances

The book counts active slots, the estimator counts pending and reserved quota,
and neither looks at the other's numbers. What keeps them in step is the token:
each operation moves the counters of the token's account by exactly what the
token's record starts or stops holding.

`holding` says what a record holds. The ledger invariant is one equation per
account: the seven counters are the sum of what its tokens hold.
-/

namespace EggPool.Routing

open EggPool.Lib EggPool.Quota OwnedClaim ClaimOp EstimatorState Table

namespace OwnedClaim

def isPending (o : OwnedClaim) : Bool := o.state == .pending

/-- Pending or converted: the claim occupies an active slot. -/
def holdsSlot (o : OwnedClaim) : Bool := o.state == .pending || o.state == .converted

/-- Converted, and its reservation not yet given back. -/
def holdsQuota (o : OwnedClaim) : Bool := o.converted && !o.quotaReleased

/-- The flags a record can have in each state. -/
structure WellFormed (o : OwnedClaim) : Prop where
  pending : o.state = .pending → o.converted = false ∧ o.quotaReleased = false
  converted : o.state = .converted → o.converted = true

end OwnedClaim

/-- Active slots; pending requests, tokens, cost; reserved requests, tokens, cost. -/
abbrev Position := ℤ × (ℤ × ℤ × ℤ) × (ℤ × ℤ × ℤ)

/-- One request with the token's projected tokens and cost. -/
def SelectionClaim.amount (c : SelectionClaim) : ℤ × ℤ × ℤ :=
  (1, c.projectedTokens, c.projectedCostMicrodollars)

/-- What a token holds while its record reads `o`; an evicted token holds nothing. -/
def holding (o : Option OwnedClaim) (c : SelectionClaim) : Position :=
  (if o.any OwnedClaim.holdsSlot then 1 else 0,
    if o.any OwnedClaim.isPending then c.amount else 0,
    if o.any OwnedClaim.holdsQuota then c.amount else 0)

/-- The book, the estimator and the tokens that were handed out. -/
structure Ownership where
  book : ClaimBook
  estimator : EstimatorState
  issued : Table SelectionClaim.id

/-- Requests to the router and to tokens it handed out. -/
inductive OwnershipOp
  | publish (poisoned : Bool) (candidate : SelectionClaim)
  | on (op : ClaimOp) (id : Nat)

namespace Ownership

variable (w : Ownership)

/-- An account's counters. -/
def position (a : String) : Position :=
  (w.book.activeRequests a, w.estimator.pending a, w.estimator.reserved a)

/--
The last part of a selection: reserve pending quota, publish, and give the quota
back when the book refuses.
-/
def publishCandidate (poisoned : Bool) (candidate : SelectionClaim) : Ownership :=
  let claim := { candidate with projectedTokens := max candidate.projectedTokens 0 }
  match w.estimator.addPendingClaim claim.accountName claim.projectedTokens
      claim.projectedCostMicrodollars with
  | .error _ => w
  | .ok e =>
    match Routing.publish poisoned w.book claim with
    | (b, .ok token) => ⟨b, e, w.issued.insert token⟩
    | (b, .error _) =>
      match claim.releasePending e with
      | .ok e => ⟨b, e, w.issued⟩
      -- a failed compensation is only logged
      | .error _ => ⟨b, e, w.issued⟩

/-- Run one operation on a token. -/
def applyTo (op : ClaimOp) (c : SelectionClaim) : Ownership :=
  ⟨(op.apply c w.book w.estimator).book, (op.apply c w.book w.estimator).estimator, w.issued⟩

def step : OwnershipOp → Ownership
  | .publish poisoned candidate => w.publishCandidate poisoned candidate
  | .on op id =>
    match w.issued.get? id with
    | none => w
    | some c => w.applyTo op c

/-- Nothing handed out; any accounts may be registered. -/
def init (accounts : String → Option AccountQuota) : Ownership :=
  ⟨ClaimBook.empty, EstimatorState.init accounts, Table.empty⟩

/-- The state after a list of operations. -/
def after (accounts : String → Option AccountQuota) (ops : List OwnershipOp) : Ownership :=
  run step (init accounts) ops

/-- The counters an operation adds to stay within `i64`. -/
def Fits : OwnershipOp → Prop
  | .publish _ candidate =>
    w.book.activeRequests candidate.accountName + 1 ≤ I64.MAX ∧
    w.estimator.pending candidate.accountName +
      (1, max candidate.projectedTokens 0, candidate.projectedCostMicrodollars) ≤
      (I64.MAX, I64.MAX, I64.MAX)
  | .on .convert id => ∀ c, w.issued.get? id = some c →
    w.estimator.reserved c.accountName + c.amount ≤ (I64.MAX, I64.MAX, I64.MAX)
  | .on _ _ => True

/-- What the tokens of an account hold together. -/
def held (a : String) : Position :=
  w.issued.sumBy (fun c => if c.accountName = a then holding (w.book.claim? c.id) c else 0)

/-- **The ledger invariant.** -/
structure Balanced (w : Ownership) : Prop where
  /-- Every counter is the sum of what the account's tokens hold. -/
  position : ∀ a, w.position a = w.held a
  /-- Tokens carry amounts that are not negative. -/
  amounts : ∀ c ∈ w.issued.rows, 0 ≤ c.amount
  /-- Records have consistent flags. -/
  records : ∀ id o, w.book.claim? id = some o → o.WellFormed
  /-- Identifiers not handed out yet have neither token nor record. -/
  fresh : ∀ k, w.book.nextId < k → w.issued.get? k = none ∧ w.book.claim? k = none

end Ownership

/-! ## Holdings -/

/-- A record that owes nothing holds nothing. -/
theorem holding_of_not_owes {o : OwnedClaim} (h : o.owes = false) (c : SelectionClaim) :
    holding (some o) c = 0 := by
  obtain ⟨sta, qr, converted⟩ := o
  cases sta <;> cases qr <;> cases converted <;>
    simp_all [owes, holding, holdsSlot, isPending, holdsQuota]

/-- Pruning changes no holding. -/
theorem holding_prune (b : ClaimBook) (id : Nat) (c : SelectionClaim) :
    holding (b.pruneTerminalClaims.claim? id) c = holding (b.claim? id) c := by
  rcases b.claim?_prune id with h | ⟨h, own, ho, hw⟩
  · rw [h]
  · rw [h, ho, holding_of_not_owes hw]
    rfl

theorem holding_nonneg {c : SelectionClaim} (h : 0 ≤ c.amount) (o : Option OwnedClaim) :
    0 ≤ holding o c := by
  refine ⟨?_, ?_, ?_⟩
  · simp [holding]; split <;> simp
  all_goals
    simp only [holding]
    split
    · exact h
    · exact le_refl _

namespace ClaimBook

theorem pruneLoop_active : ∀ (n : Nat) (b : ClaimBook),
    (b.pruneLoop n).activeRequests = b.activeRequests ∧ (b.pruneLoop n).nextId = b.nextId
  | 0, _ => ⟨rfl, rfl⟩
  | n + 1, b => by
      rw [pruneLoop]
      split
      · exact ⟨rfl, rfl⟩
      split
      · exact ⟨rfl, rfl⟩
      split
      · exact pruneLoop_active n _
      · exact pruneLoop_active n _

theorem prune_active (b : ClaimBook) : b.pruneTerminalClaims.activeRequests = b.activeRequests :=
  (pruneLoop_active _ b).1

theorem prune_nextId (b : ClaimBook) : b.pruneTerminalClaims.nextId = b.nextId :=
  (pruneLoop_active _ b).2

end ClaimBook

/-! ## Operations as moves of a record -/

namespace ClaimOp

/-- The operation leaves such a record alone. -/
def idle : ClaimOp → OwnedClaim → Bool
  | .rollback, o => o.state != .pending
  | .convert, o => o.state != .pending
  | .releaseActive, o => o.state == .released || o.state == .rolledBack
  | .releaseQuota, o => o.quotaReleased || !o.converted

/-- What the operation makes of a record it does not leave alone. -/
def move : ClaimOp → OwnedClaim → OwnedClaim
  | .rollback, o => { o with state := .rolledBack }
  | .convert, o => { o with state := .converted, converted := true }
  | .releaseActive, o => { o with state := .released }
  | .releaseQuota, o => { o with quotaReleased := true }

theorem idle_move (op : ClaimOp) (o : OwnedClaim) : op.idle (op.move o) = true := by
  cases op <;> simp [idle, move]

theorem wellFormed_move {op : ClaimOp} {o : OwnedClaim} (h : o.WellFormed)
    (hi : op.idle o = false) : (op.move o).WellFormed := by
  obtain ⟨sta, qr, converted⟩ := o
  obtain ⟨hp, hc⟩ := h
  constructor <;> cases op <;> cases sta <;> simp_all [move, idle]

/-- On a record it leaves alone, or on an evicted token, an operation changes nothing. -/
theorem apply_idle {op : ClaimOp} {c : SelectionClaim} {b : ClaimBook} (e : EstimatorState)
    (h : ∀ o, b.claim? c.id = some o → op.idle o = true) : ∃ r, op.apply c b e = ⟨b, e, r⟩ ∧
      (r = .ok .alreadyTransitioned ∨ r = .error (.notPending c.id) ∨
        r = .error (.unknownAccount c.accountName)) := by
  cases hc : b.claim? c.id with
  | none =>
    cases op <;> simp [apply, SelectionClaim.rollbackClaim,
      SelectionClaim.convertClaimAfterDurablePublication, SelectionClaim.releaseActiveClaim,
      SelectionClaim.releaseQuotaReservation, hc]
  | some o =>
    have hi := h o hc
    cases op with
    | rollback =>
      have hs : o.state ≠ .pending := by simpa [idle] using hi
      simp [apply, SelectionClaim.rollbackClaim, hc, hs]
    | convert =>
      have hs : o.state ≠ .pending := by simpa [idle] using hi
      by_cases hv : o.state = .converted
      · simp [apply, SelectionClaim.convertClaimAfterDurablePublication, hc, hv]
      · simp [apply, SelectionClaim.convertClaimAfterDurablePublication, hc, hv, hs]
    | releaseActive =>
      have hs : o.state = .released ∨ o.state = .rolledBack := by simpa [idle] using hi
      simp [apply, SelectionClaim.releaseActiveClaim, hc, hs]
    | releaseQuota =>
      have hs : o.quotaReleased = true ∨ o.converted = false := by simpa [idle] using hi
      simp [apply, SelectionClaim.releaseQuotaReservation, hc, hs]

end ClaimOp

/-! ## What the invariant gives an operation -/

/-- The errors that say a counter could not absorb a release. -/
def ClaimError.isUnderflow : ClaimError → Bool
  | .activeOwnershipUnderflow _ => true
  | .quota (.pendingOwnershipUnderflow _) => true
  | .quota (.pendingCostUnderflow _) => true
  | .quota (.reservationOwnershipUnderflow _) => true
  | _ => false

namespace Ownership

variable {w : Ownership} {c : SelectionClaim} {o : OwnedClaim}

theorem Balanced.share_nonneg (h : Balanced w) (a : String) : ∀ d ∈ w.issued.rows,
    0 ≤ (if d.accountName = a then holding (w.book.claim? d.id) d else 0) := by
  intro d hd
  split
  · exact holding_nonneg (h.amounts d hd) _
  · exact le_refl _

theorem Balanced.holding_le (h : Balanced w) (hc : w.issued.get? c.id = some c) :
    holding (w.book.claim? c.id) c ≤ w.position c.accountName := by
  have hle := le_sumBy (h.share_nonneg c.accountName) hc
  rwa [if_pos rfl, ← held, ← h.position] at hle

theorem Balanced.position_nonneg (h : Balanced w) (a : String) : 0 ≤ w.position a := by
  rw [h.position]
  exact sumBy_nonneg (h.share_nonneg a)

/-- The record a token is left with, and how the counters of its account follow it. -/
structure Moved (w : Ownership) (op : ClaimOp) (c : SelectionClaim) (o : OwnedClaim)
    (out : ClaimOutcome) (active : String → Int) : Prop where
  book : out.book = { w.book with activeRequests := active }.modifyClaim c.id op.move ∨
    out.book = ({ w.book with activeRequests := active }.modifyClaim c.id op.move).pruneTerminalClaims
  ok : ∃ t, out.result = .ok t
  counters : w.Fits (.on op c.id) → ∀ a,
    ((active a, out.estimator.pending a, out.estimator.reserved a) : Position) +
        (if c.accountName = a then holding (some o) c else 0) =
      w.position a + (if c.accountName = a then holding (some (op.move o)) c else 0)

/-- Counters that moved at one account only. -/
theorem counters_at_account {ac : String} {x : ℤ} {p r : ℤ × ℤ × ℤ} {old new : Position}
    {act : String → Int} {pe re : String → ℤ × ℤ × ℤ}
    (ha : act = Function.update w.book.activeRequests ac x)
    (hp : pe = Function.update w.estimator.pending ac p)
    (hr : re = Function.update w.estimator.reserved ac r)
    (h : ((x, p, r) : Position) + old = w.position ac + new) (a : String) :
    ((act a, pe a, re a) : Position) + (if ac = a then old else 0) =
      w.position a + (if ac = a then new else 0) := by
  subst ha hp hr
  by_cases hka : ac = a
  · subst hka
    simpa only [Function.update_self, if_true] using h
  · simp only [Function.update_of_ne (Ne.symm hka), if_neg hka]
    rfl

/-- The holdings of a pending record, of a converted one, and of a reserved one. -/
theorem holding_pending (hs : o.state = .pending) (hv : o.converted = false) :
    holding (some o) c = (1, c.amount, 0) := by
  simp [holding, holdsSlot, isPending, holdsQuota, hs, hv]

theorem holding_converted (hs : o.state = .converted) :
    holding (some o) c = (1, 0, if o.holdsQuota then c.amount else 0) := by
  simp [holding, holdsSlot, isPending, hs]

theorem holding_terminal (hs : o.state = .released ∨ o.state = .rolledBack) :
    holding (some o) c = (0, 0, if o.holdsQuota then c.amount else 0) := by
  rcases hs with hs | hs <;>
    simp [holding, holdsSlot, isPending, hs]

/-- **Under the invariant an operation leaves everything as it was, or it succeeds and keeps the
counters in step.** -/
theorem Balanced.moved (h : Balanced w) (hc : w.issued.get? c.id = some c) (op : ClaimOp) :
    (∃ r, op.apply c w.book w.estimator = ⟨w.book, w.estimator, r⟩ ∧
      ∀ err, r = .error err → err.isUnderflow = false) ∨
    ∃ o, w.book.claim? c.id = some o ∧ op.idle o = false ∧
      ∃ active, Moved w op c o (op.apply c w.book w.estimator) active := by
  by_cases hd : ∀ x, w.book.claim? c.id = some x → op.idle x = true
  · obtain ⟨r, hr, hs⟩ := apply_idle w.estimator hd
    refine .inl ⟨r, hr, fun err he => ?_⟩
    rcases hs with hr | hr | hr <;> rw [hr] at he <;> cases he <;> rfl
  obtain ⟨o, hx⟩ := not_forall.mp hd
  obtain ⟨ho, hi⟩ := Classical.not_imp.mp hx
  rw [Bool.not_eq_true] at hi
  refine .inr ⟨o, ho, hi, ?_⟩
  have hle := h.holding_le hc
  have hpo := h.position_nonneg c.accountName
  have hwf := h.records _ _ ho
  obtain ⟨-, ha, hco⟩ := h.amounts c (mem_of_get? hc)
  rw [ho] at hle
  -- releasing the pending quota, as rollback and an early release do
  have hre : o.state = .pending → ∃ e', c.releasePending w.estimator = .ok e' ∧
      e'.pending = Function.update w.estimator.pending c.accountName
        (w.estimator.pending c.accountName - c.amount) ∧
      e'.reserved = w.estimator.reserved := by
    intro hs
    rw [holding_pending hs (hwf.pending hs).1] at hle
    exact releasePendingClaim_ok ha hco hle.2.1
  have hl : o.state = .pending ∨ o.state = .converted →
      1 ≤ w.book.activeRequests c.accountName := by
    rintro (hs | hs)
    · rw [holding_pending hs (hwf.pending hs).1] at hle; exact hle.1
    · rw [holding_converted hs] at hle; exact hle.1
  have hrs : o.converted = true → o.quotaReleased = false →
      c.amount ≤ w.estimator.reserved c.accountName := by
    intro hv hq
    have := hle.2.2
    simpa [holding, holdsQuota, hv, hq, Ownership.position] using this
  cases op with
  | rollback =>
    have hs : o.state = .pending := by simpa [idle] using hi
    obtain ⟨e', he, hp, hr⟩ := hre hs
    rw [apply, SelectionClaim.rollbackClaim_eq ho hs (hl (.inl hs)) he]
    refine ⟨(w.book.lowerActive c.accountName).activeRequests, .inr rfl, ⟨_, rfl⟩, ?_⟩
    intro _
    refine counters_at_account rfl hp (hr.trans (Function.update_eq_self _ _).symm) ?_
    rw [holding_pending hs (hwf.pending hs).1, holding_terminal (.inr rfl)]
    simp [move, holdsQuota, (hwf.pending hs).1, Ownership.position]
  | convert =>
    have hs : o.state = .pending := by simpa [idle] using hi
    have hn := hle.2.1
    rw [holding_pending hs (hwf.pending hs).1] at hn
    obtain ⟨e', he, hp, hr⟩ := convertPendingClaim_ok ha hco hn hpo.2.2
    rw [apply, SelectionClaim.convertClaim_eq ho hs he]
    refine ⟨w.book.activeRequests, .inl rfl, ⟨_, rfl⟩, ?_⟩
    intro hfit
    refine counters_at_account (Function.update_eq_self _ _).symm hp (hr (hfit c hc)) ?_
    rw [holding_pending hs (hwf.pending hs).1, holding_converted rfl]
    simp [move, holdsQuota, (hwf.pending hs).2, Ownership.position, SelectionClaim.amount]
  | releaseActive =>
    have hs : o.state = .pending ∨ o.state = .converted := by
      cases hst : o.state <;> simp_all [idle]
    have ht : holding (some (releaseActive.move o)) c =
        (0, 0, if o.holdsQuota then c.amount else 0) := holding_terminal (.inl rfl)
    rcases hs with hs | hs
    · obtain ⟨e', he, hp, hr⟩ := hre hs
      rw [apply, SelectionClaim.releaseActiveClaim_pending_eq ho hs (hl (.inl hs)) he,
        SelectionClaim.releaseSlot_eq (hl (.inl hs))]
      refine ⟨(w.book.lowerActive c.accountName).activeRequests, .inr rfl, ⟨_, rfl⟩, ?_⟩
      intro _
      refine counters_at_account rfl hp (hr.trans (Function.update_eq_self _ _).symm) ?_
      rw [holding_pending hs (hwf.pending hs).1, ht]
      simp [holdsQuota, (hwf.pending hs).1, Ownership.position]
    · rw [apply, SelectionClaim.releaseActiveClaim_converted_eq ho hs,
        SelectionClaim.releaseSlot_eq (hl (.inr hs))]
      refine ⟨(w.book.lowerActive c.accountName).activeRequests, .inr rfl, ⟨_, rfl⟩, ?_⟩
      intro _
      refine counters_at_account rfl (Function.update_eq_self _ _).symm
        (Function.update_eq_self _ _).symm ?_
      rw [holding_converted hs, ht]
      simp [Ownership.position]
  | releaseQuota =>
    have hs : o.quotaReleased = false ∧ o.converted = true := by simpa [idle] using hi
    obtain ⟨e', he, hp, hr⟩ :=
      removeReservation_ok ha hco (hrs hs.2 hs.1)
    rw [apply, SelectionClaim.releaseQuotaReservation_eq ho hs.1 hs.2 he]
    refine ⟨w.book.activeRequests, .inl rfl, ⟨_, rfl⟩, ?_⟩
    intro _
    refine counters_at_account (Function.update_eq_self _ _).symm
      (hp.trans (Function.update_eq_self _ _).symm) hr ?_
    simp [holding, move, holdsQuota, holdsSlot,
      isPending, hs, Ownership.position, SelectionClaim.amount]

/-! ## The invariant along a run -/

theorem balanced_init (a : String → Option AccountQuota) : Balanced (init a) where
  position := fun _ => rfl
  amounts := by intro c hc; cases hc
  records := by intro id o h; cases h
  fresh := fun _ _ => ⟨rfl, rfl⟩

theorem Balanced.prune (h : Balanced w) :
    Balanced ⟨w.book.pruneTerminalClaims, w.estimator, w.issued⟩ where
  position := by
    intro a
    have hh : held ⟨w.book.pruneTerminalClaims, w.estimator, w.issued⟩ a = w.held a := by
      refine sumBy_congr ?_
      simp [holding_prune]
    rw [hh, ← h.position]
    simp [Ownership.position, ClaimBook.prune_active]
  amounts := h.amounts
  records := fun id o ho => h.records id o (ClaimBook.claim?_of_prune ho)
  fresh := by
    intro k hk
    rw [ClaimBook.prune_nextId] at hk
    obtain ⟨hi, hn⟩ := h.fresh k hk
    refine ⟨hi, ?_⟩
    rcases w.book.claim?_prune k with heq | ⟨hno, _⟩
    · rw [heq, hn]
    · exact hno

/-- Rewriting a token's record keeps the balance when the counters follow it. -/
theorem Balanced.rewrite (h : Balanced w) (hc : w.issued.get? c.id = some c)
    (ho : w.book.claim? c.id = some o) {op : ClaimOp} (hi : op.idle o = false)
    {active : String → Int} {e : EstimatorState}
    (ht : ∀ a, ((active a, e.pending a, e.reserved a) : Position) +
        (if c.accountName = a then holding (some o) c else 0) =
      w.position a + (if c.accountName = a then holding (some (op.move o)) c else 0)) :
    Balanced ⟨{ w.book with activeRequests := active }.modifyClaim c.id op.move, e, w.issued⟩ := by
  have hl : ∀ k, ({ w.book with activeRequests := active }.modifyClaim c.id op.move).claim? k =
      (w.book.claim? k).map (fun x => if k = c.id then op.move x else x) :=
    fun k => ClaimBook.claim?_modifyClaim _ _ k _
  refine ⟨?_, h.amounts, ?_, ?_⟩
  · intro a
    have he := sumBy_congr_except hc
      (f := fun d => if d.accountName = a then holding (w.book.claim? d.id) d else 0)
      (g := fun d => if d.accountName = a then
        holding (({ w.book with activeRequests := active }.modifyClaim c.id op.move).claim? d.id) d
        else 0) (by
          intro d _ hd
          simp [hl, hd])
    simp only [hl c.id, ho, if_true] at he
    have hh := ht a
    rw [h.position a] at hh
    exact add_right_cancel (hh.trans he)
  · intro id x hx
    rw [hl] at hx
    cases hid : w.book.claim? id with
    | none => rw [hid] at hx; cases hx
    | some y =>
      rw [hid, Option.map_some, Option.some.injEq] at hx
      subst hx
      split
      · rename_i heq
        subst heq
        rw [ho, Option.some.injEq] at hid
        subst hid
        exact wellFormed_move (h.records _ _ ho) hi
      · exact h.records id y hid
  · intro k hk
    obtain ⟨hi', hn⟩ := h.fresh k hk
    exact ⟨hi', by rw [hl, hn]; rfl⟩

theorem Balanced.applyTo (h : Balanced w) (hc : w.issued.get? c.id = some c) (op : ClaimOp)
    (hfit : w.Fits (.on op c.id)) : Balanced (w.applyTo op c) := by
  rcases h.moved hc op with ⟨r, hr, _⟩ | ⟨o, ho, hi, active, hm⟩
  · simpa [Ownership.applyTo, hr] using h
  have hrw := h.rewrite hc ho hi (hm.counters hfit)
  rw [Ownership.applyTo]
  rcases hm.book with hb | hb
  · rw [hb]; exact hrw
  · rw [hb]; exact hrw.prune

/-- Entering a token: it holds a slot and its pending quota from then on. -/
theorem Balanced.register (h : Balanced w) {cl : SelectionClaim} {e : EstimatorState}
    (ha : 0 ≤ cl.amount) (hact : w.book.activeRequests cl.accountName + 1 ≤ I64.MAX)
    (hp : e.pending = Function.update w.estimator.pending cl.accountName
      (w.estimator.pending cl.accountName + cl.amount)) (hr : e.reserved = w.estimator.reserved) :
    Balanced ⟨w.book.register (w.book.nextId + 1) cl.accountName, e,
      w.issued.insert { cl with id := w.book.nextId + 1 }⟩ := by
  obtain ⟨hi, hn⟩ := h.fresh _ (Nat.lt_succ_self w.book.nextId)
  have hnn := (h.position_nonneg cl.accountName).1
  have hc : ∀ k, (w.book.register (w.book.nextId + 1) cl.accountName).claim? k =
      if w.book.nextId + 1 = k then some ⟨.pending, false, false⟩ else w.book.claim? k :=
    fun k => claim?_register _ _ _ _
  have hs : I64.saturatingAdd (w.book.activeRequests cl.accountName) 1 =
      w.book.activeRequests cl.accountName + 1 := by
    refine I64.saturatingAdd_eq ?_ hact
    have : (0 : ℤ) ≤ w.book.activeRequests cl.accountName := hnn
    unfold I64.MIN
    omega
  refine ⟨?_, ?_, ?_, ?_⟩
  · intro a
    rw [held, sumBy_insert (by exact hi)]
    have hre : w.issued.sumBy (fun d => if d.accountName = a then
        holding ((w.book.register (w.book.nextId + 1) cl.accountName).claim? d.id) d else 0) =
        w.held a := by
      refine sumBy_congr ?_
      intro d hd
      have hne : ¬ w.book.nextId + 1 = d.id := by
        intro heq
        have := get?_self hd
        rw [← heq, hi] at this
        cases this
      simp only [hc, if_neg hne]
    have hnew : holding
        ((w.book.register (w.book.nextId + 1) cl.accountName).claim? (w.book.nextId + 1))
        { cl with id := w.book.nextId + 1 } = (1, cl.amount, 0) := by
      rw [hc, if_pos rfl]
      rfl
    simp only [hre, hnew, ← h.position]
    by_cases hka : cl.accountName = a
    · subst hka
      simp [Ownership.position, ClaimBook.register, hp, hr, hs, zero_add, add_comm]
    · simp only [Ownership.position, ClaimBook.register, Function.update_of_ne (Ne.symm hka), hp, hr,
        if_neg hka, zero_add]
  · intro d hd
    rcases mem_place hd with rfl | hd
    · exact ha
    · exact h.amounts d hd
  · intro id x hx
    rw [hc] at hx
    split at hx
    · cases hx
      exact ⟨fun _ => ⟨rfl, rfl⟩, fun hst => by cases hst⟩
    · exact h.records id x hx
  · intro k hk
    have hk' : w.book.nextId + 1 < k := hk
    obtain ⟨hik, hck⟩ := h.fresh k (by omega)
    have hne : ¬ w.book.nextId + 1 = k := by omega
    exact ⟨by simpa [hne] using hik, by rw [hc, if_neg hne, hck]⟩

/-- The three ways a publish ends. -/
theorem publish_cases (p : Bool) (b : ClaimBook) (cl : SelectionClaim) :
    publish p b cl = (b, .error .poisoned) ∨
    publish p b cl = (b.pruneTerminalClaims, .error .poisoned) ∨
    publish p b cl =
      (b.pruneTerminalClaims.register (b.pruneTerminalClaims.nextId + 1) cl.accountName,
        .ok { cl with id := b.pruneTerminalClaims.nextId + 1 }) := by
  unfold publish
  split
  · exact .inl rfl
  dsimp only
  split
  · exact .inr (.inl rfl)
  split
  · exact .inr (.inl rfl)
  · exact .inr (.inr rfl)

/-- The same counters under a pruned or unpruned book. -/
theorem Balanced.withEstimator (h : Balanced w) {e : EstimatorState}
    (hp : e.pending = w.estimator.pending) (hr : e.reserved = w.estimator.reserved) :
    Balanced ⟨w.book, e, w.issued⟩ := by
  refine ⟨?_, h.amounts, h.records, h.fresh⟩
  intro a
  have hs : Ownership.position ⟨w.book, e, w.issued⟩ a = w.position a := by
    simp [Ownership.position, hp, hr]
  rw [hs]
  exact h.position a

theorem Balanced.publishCandidate (h : Balanced w) {p : Bool} {ca : SelectionClaim}
    (hfit : w.Fits (.publish p ca)) : Balanced (w.publishCandidate p ca):= by
  obtain ⟨hact, hn⟩ := hfit
  unfold Ownership.publishCandidate
  dsimp only
  split
  · exact h
  rename_i he
  -- a refused negative cost is the only error, so the cost is not negative here
  have hc : 0 ≤ ca.projectedCostMicrodollars := by
    by_contra hg
    have hlt : ca.projectedCostMicrodollars < 0 := by omega
    have ht : ¬ max ca.projectedTokens 0 < 0 := by omega
    simp only [addPendingClaim, requireNonNegative, if_neg ht, if_pos hlt] at he
    cases he
  have hk : 0 ≤ max ca.projectedTokens 0 := le_max_right _ _
  obtain ⟨e', he', hp, hr⟩ := addPendingClaim_ok hk hc
    (h.position_nonneg ca.accountName).2.1 hn
  rw [he', Except.ok.injEq] at he
  subst he
  -- the compensation takes back exactly what was added
  have hb : ∃ e'', ({ ca with projectedTokens := max ca.projectedTokens 0 } :
      SelectionClaim).releasePending e' = .ok e'' ∧
      e''.pending = w.estimator.pending ∧ e''.reserved = w.estimator.reserved := by
    have hle : ((1, max ca.projectedTokens 0, ca.projectedCostMicrodollars) :
        ℤ × ℤ × ℤ) ≤ e'.pending ca.accountName := by
      rw [hp, Function.update_self]
      exact le_add_of_nonneg_left (h.position_nonneg ca.accountName).2.1
    obtain ⟨e'', hl, hp'', hr''⟩ := releasePendingClaim_ok hk hc hle
    refine ⟨e'', hl, ?_, hr''.trans hr⟩
    rw [hp'', hp, Function.update_self, add_sub_cancel_right, Function.update_idem,
      Function.update_eq_self]
  obtain ⟨e'', hl, hp'', hr''⟩ := hb
  rcases publish_cases p w.book
    { ca with projectedTokens := max ca.projectedTokens 0 } with heq | heq | heq
  · rw [heq]
    simp only [hl]
    exact h.withEstimator hp'' hr''
  · rw [heq]
    simp only [hl]
    exact h.prune.withEstimator hp'' hr''
  · rw [heq]
    refine h.prune.register ⟨zero_le_one, hk, hc⟩ ?_ hp hr
    simpa only [ClaimBook.prune_active] using hact

theorem Balanced.step (h : Balanced w) (op : OwnershipOp) (hfit : w.Fits op) :
    Balanced (w.step op) := by
  cases op with
  | publish poi can => exact h.publishCandidate hfit
  | on op id =>
    simp [Ownership.step]
    split
    · exact h
    rename_i c hc
    have hid : c.id = id := key_of_get? hc
    subst hid
    exact h.applyTo hc op hfit

/-- **Every run whose sums stay within `i64` is balanced.** -/
theorem balanced_run (a : String → Option AccountQuota) {ops : List OwnershipOp}
    (hfit : Along step Fits (init a) ops) : Balanced (after a ops) :=
  run_invariant_along (I := Balanced) (fun _ op h hop => h.step op hop) (balanced_init a)
    hfit

/-! ## Reading the ledger -/

/-- Sum of `f` over an account's tokens whose record satisfies `p`. -/
def total (w : Ownership) (p : OwnedClaim → Bool) (f : SelectionClaim → ℤ) (a : String) : ℤ :=
  w.issued.sumBy (fun c => if c.accountName = a ∧ (w.book.claim? c.id).any p then f c else 0)

theorem held_eq (w : Ownership) (a : String) : w.held a =
    (w.total OwnedClaim.holdsSlot (fun _ => 1) a, (w.total OwnedClaim.isPending (fun _ => 1) a,
        w.total OwnedClaim.isPending SelectionClaim.projectedTokens a,
        w.total OwnedClaim.isPending SelectionClaim.projectedCostMicrodollars a),
      (w.total OwnedClaim.holdsQuota (fun _ => 1) a,
        w.total OwnedClaim.holdsQuota SelectionClaim.projectedTokens a,
        w.total OwnedClaim.holdsQuota SelectionClaim.projectedCostMicrodollars a)) := by
  simp only [held, total, sumBy_prod, Prod.mk.injEq]
  refine ⟨?_, ⟨?_, ?_, ?_⟩, ?_, ?_, ?_⟩
  all_goals
    refine sumBy_congr fun c _ => ?_
    by_cases ha : c.accountName = a
    · simp only [ha, if_true, true_and, holding]
      try split <;> rfl
    · simp [ha]

theorem Balanced.no_underflow (h : Balanced w) (hc : w.issued.get? c.id = some c) (op : ClaimOp)
    {err : ClaimError} (he : (op.apply c w.book w.estimator).result = .error err) :
    err.isUnderflow = false := by
  rcases h.moved hc op with ⟨r, hr, hn⟩ | ⟨o, _, _, _, hm⟩
  · rw [hr] at he
    exact hn err he
  · obtain ⟨t, ht⟩ := hm.ok
    rw [ht] at he
    cases he

/-- Doing an operation twice is doing it once. -/
theorem Balanced.applyTo_twice (h : Balanced w) (hc : w.issued.get? c.id = some c) (op : ClaimOp) :
    (w.applyTo op c).applyTo op c = w.applyTo op c := by
  rcases h.moved hc op with ⟨r, hr, _⟩ | ⟨x, ho, _, active, hm⟩
  · have hs : w.applyTo op c = w := by simp only [Ownership.applyTo, hr]
    rw [hs, hs]
  · have hv : ({ w.book with activeRequests := active }.modifyClaim c.id op.move).claim? c.id =
        some (op.move x) := by
      rw [ClaimBook.claim?_modifyClaim, show ClaimBook.claim? { w.book with
        activeRequests := active } c.id = some x from ho, Option.map_some, if_pos rfl]
    -- after the move the record is one the operation leaves alone, or it is gone
    have ha : ∀ y, (op.apply c w.book w.estimator).book.claim? c.id = some y →
        op.idle y = true := by
      intro y hy
      have hk : ({ w.book with activeRequests := active }.modifyClaim c.id op.move).claim? c.id =
          some y := by
        rcases hm.book with hb | hb <;> rw [hb] at hy
        · exact hy
        · exact ClaimBook.claim?_of_prune hy
      cases hv.symm.trans hk
      exact op.idle_move x
    obtain ⟨r, hr, _⟩ := apply_idle (op.apply c w.book w.estimator).estimator ha
    simp [Ownership.applyTo, hr]

/--
**The ledger balances.** In every state of every run whose sums stay within `i64`,
each account's counters are the sums over its tokens, no operation on a token
fails with an underflow, and repeating an operation on a token changes nothing.
-/
theorem ledger_balances (accounts : String → Option AccountQuota) (ops : List OwnershipOp)
    (hfit : Along step Fits (init accounts) ops) :
    let w := after accounts ops
    (∀ a, w.book.activeRequests a = w.total holdsSlot (fun _ => 1) a ∧
      w.estimator.pendingRequests a = w.total isPending (fun _ => 1) a ∧
      w.estimator.pendingTokens a =
        w.total isPending SelectionClaim.projectedTokens a ∧
      w.estimator.pendingCost a =
        w.total isPending SelectionClaim.projectedCostMicrodollars a ∧
      w.estimator.reservedRequests a = w.total holdsQuota (fun _ => 1) a ∧
      w.estimator.reservedTokens a =
        w.total holdsQuota SelectionClaim.projectedTokens a ∧
      w.estimator.reservedCost a =
        w.total holdsQuota SelectionClaim.projectedCostMicrodollars a) ∧
    ∀ (op : ClaimOp) (c : SelectionClaim), w.issued.get? c.id = some c →
      (∀ err, (op.apply c w.book w.estimator).result = .error err → err.isUnderflow = false) ∧
      (w.applyTo op c).applyTo op c = w.applyTo op c := by
  intro w
  have h : Balanced w := balanced_run accounts hfit
  refine ⟨?_, fun op c hc => ⟨fun err herr => h.no_underflow hc op herr, h.applyTo_twice hc op⟩⟩
  intro a
  have heq := (h.position a).trans (w.held_eq a)
  simp only [Ownership.position, pending, reserved,
    Prod.mk.injEq] at heq
  obtain ⟨h1, ⟨h2, h3, h4⟩, h5, h6, h7⟩ := heq
  exact ⟨h1, h2, h3, h4, h5, h6, h7⟩

/-- A claim that is published, converted and gives its slot back. -/
def lateQuota : List OwnershipOp :=
  [.publish false ⟨0, 1, "account", "provider", "model", none, 700, 30⟩, .on .convert 1,
    .on .releaseActive 1]

theorem ledger_balances_lateQuota :
    (after (fun _ => none) lateQuota).estimator.reservedTokens "account" = 700 ∧
    (after (fun _ => none) lateQuota).total OwnedClaim.holdsQuota
      SelectionClaim.projectedTokens "account" = 700 := by
  have hfit : Along step Fits (init fun _ => none) lateQuota := by
    refine ⟨⟨by decide, ⟨by decide, by decide, by decide⟩⟩, ?_, trivial, trivial⟩
    intro c hc
    cases hc
    exact ⟨by decide, by decide, by decide⟩
  have h := (ledger_balances (fun _ => none) lateQuota hfit).1 "account"
  have htokens : (after (fun _ => none) lateQuota).estimator.reservedTokens "account" = 700 := by
    decide
  exact ⟨htokens, h.2.2.2.2.2.1.symm.trans htokens⟩

end Ownership

end EggPool.Routing
