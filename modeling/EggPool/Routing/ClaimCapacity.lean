import EggPool.Lib.Run
import EggPool.Routing.Claim

/-!
# When the claim book takes another claim

The book is meant to refuse a claim only when `CLAIM_RECORD_HARD_CAP` records
still owe a release: "prune what is releasable, then refuse". Pruning does keep
every record that owes something. But it stops as soon as the book holds *at
most* the cap, and `publish` refuses as soon as it holds *at least* the cap, so
pruning never has anything to do: a book holds every record it was ever given,
and takes no claim after the first `CLAIM_RECORD_HARD_CAP`, whatever became of
them.
-/

namespace EggPool.Routing

open EggPool.Lib EggPool.Quota

namespace ClaimBook

/-- How many records still owe a release. -/
def owing (b : ClaimBook) : Nat := (b.claims.rows.filter (fun r => r.2.owes)).length

/-- A claim is refused only for lack of room among the records that owe. -/
def TakesClaims (b : ClaimBook) : Prop :=
  b.owing < CLAIM_RECORD_HARD_CAP → b.nextId < U64_MAX →
    ∀ claim, ∃ token, (publish false b claim).2 = .ok token

/-! ## Pruning -/

theorem claim?_modifyClaim (b : ClaimBook) (id k : Nat) (g : OwnedClaim → OwnedClaim) :
    (b.modifyClaim id g).claim? k = (b.claim? k).map (fun o => if k = id then g o else o) := by
  simp only [claim?, modifyClaim, Table.get?_update]
  cases hk : b.claims.get? k with
  | none => rfl
  | some r =>
    have hkey : r.1 = k := Table.key_of_get? hk
    by_cases h : k = id <;> simp [hkey, h]

/-- Pruning drops only records that owe nothing, whatever the book. -/
theorem claim?_pruneLoop (id n : Nat) (b : ClaimBook) :
    (b.pruneLoop n).claim? id = b.claim? id ∨
      ((b.pruneLoop n).claim? id = none ∧ ∃ owned, b.claim? id = some owned ∧ owned.owes = false) := by
  fun_induction pruneLoop n b with
  | case1 | case2 | case3 => exact .inl rfl
  | case4 n b hc k rest ht hev ih =>
    by_cases hk : id = k
    · -- this is the record the round evicts
      subst hk
      obtain ⟨owned, ho, he⟩ := (Option.any_eq_true _ _).mp hev
      rw [OwnedClaim.evictable_eq_not_owes, Bool.not_eq_true'] at he
      have hn : ClaimBook.claim?
          { b with claims := b.claims.erase id, terminalOrder := rest } id = none := by
        simp [claim?]
      rw [hn] at ih
      exact .inr ⟨ih.elim (fun h => h) And.left, owned, ho, he⟩
    · have hs : ClaimBook.claim?
          { b with claims := b.claims.erase k, terminalOrder := rest } id = b.claim? id := by
        simp [claim?, hk]
      rwa [hs] at ih
  | case5 n b hc k rest ht hev ih => exact ih

theorem claim?_prune (b : ClaimBook) (id : Nat) : b.pruneTerminalClaims.claim? id = b.claim? id ∨
      (b.pruneTerminalClaims.claim? id = none ∧ ∃ o, b.claim? id = some o ∧ o.owes = false):=
  claim?_pruneLoop id _ b

theorem claim?_of_prune {b : ClaimBook} {id : Nat} {owned : OwnedClaim}
    (h : b.pruneTerminalClaims.claim? id = some owned) : b.claim? id = some owned := by
  rcases b.claim?_prune id with hp | ⟨hp, -⟩ <;> rw [hp] at h
  · exact h
  · cases h

theorem claim?_prune_of_owes {b : ClaimBook} {id : Nat} {owned : OwnedClaim}
    (h : b.claim? id = some owned) (ho : owned.owes) :
    b.pruneTerminalClaims.claim? id = some owned := by
  rcases b.claim?_prune id with hp | ⟨_, own', h', ho'⟩
  · rw [hp, h]
  rw [h, Option.some.injEq] at h'
  rw [h', ho'] at ho
  exact Bool.noConfusion ho

end ClaimBook

/-! ## What one call does to the records -/

/-- Every record the book was ever given is still there. -/
structure Retains (b : ClaimBook) : Prop where
  /-- As many records as identifiers handed out. -/
  size : b.claims.size = b.nextId
  /-- Identifiers not handed out yet have no record. -/
  fresh : ∀ k, b.nextId < k → b.claims.get? k = none
  /-- The cap holds. -/
  cap : b.nextId ≤ CLAIM_RECORD_HARD_CAP

variable {b : ClaimBook}

/-- A book at or below the cap is not touched. -/
theorem Retains.prune (h : Retains b) : b.pruneTerminalClaims = b := by
  unfold ClaimBook.pruneTerminalClaims
  cases b.terminalOrder.length with
  | zero => rfl
  | succ n => rw [ClaimBook.pruneLoop, if_pos (h.size ▸ h.cap)]

theorem Retains.modifyClaim (h : Retains b) (id : Nat)
    (g : OwnedClaim → OwnedClaim) : Retains (b.modifyClaim id g) where
  size := by simpa [ClaimBook.modifyClaim] using h.size
  fresh := by
    intro k hk
    simp [ClaimBook.modifyClaim, h.fresh k hk]
  cap := h.cap

theorem Retains.register (h : Retains b) (hc : b.nextId < CLAIM_RECORD_HARD_CAP)
    (a : String) : Retains (b.register (b.nextId + 1) a) where
  size := by
    have hn : b.claims.get? (b.nextId + 1) = none := h.fresh _ (Nat.lt_succ_self _)
    rw [ClaimBook.register, Table.size_insert hn, h.size]
  fresh := by
    intro k hk
    have hk' : b.nextId + 1 < k := hk
    have hne : ¬ b.nextId + 1 = k := by omega
    simp [ClaimBook.register, hne, h.fresh k (by omega)]
  cap := hc

/-- **What `publish` answers on a book that retains everything.** -/
theorem Retains.publish_eq (h : Retains b) (c : SelectionClaim) : publish false b c =
      if b.nextId < CLAIM_RECORD_HARD_CAP then
        (b.register (b.nextId + 1) c.accountName, .ok { c with id := b.nextId + 1 })
      else (b, .error .poisoned) := by
  have hm : ¬ U64_MAX ≤ b.nextId := by
    have := h.cap
    unfold U64_MAX CLAIM_RECORD_HARD_CAP at *
    omega
  simp only [publish, Bool.false_eq_true, if_false, h.prune, h.size, hm]
  by_cases hlt : b.nextId < CLAIM_RECORD_HARD_CAP
  · rw [if_pos hlt, if_neg (by omega)]
  · rw [if_neg hlt, if_pos (by omega)]

theorem Retains.publish (h : Retains b) (c : SelectionClaim) : Retains (publish false b c).1:= by
  rw [h.publish_eq]
  split
  · rename_i hlt; exact h.register hlt _
  · exact h

theorem decrementActive_ok {b b' : ClaimBook} {accountName : String}
    (h : b.decrementActive accountName = .ok b') : b' = b.lowerActive accountName := by
  by_cases ha : 1 ≤ b.activeRequests accountName
  · rw [SelectionClaim.decrementActive_eq ha] at h
    exact (Except.ok.inj h).symm
  have hlt : b.activeRequests accountName < 1 := by omega
  simp only [ClaimBook.decrementActive, ClaimBook.ensureActiveOwnership, if_pos hlt] at h
  cases h

/-- A book that differs in one token's record and in the active counts. -/
def Rewrites (c : SelectionClaim) (b b' : ClaimBook) : Prop :=
  ∃ active g, b' = { b with activeRequests := active }.modifyClaim c.id g

theorem Retains.rewrites {c : SelectionClaim} {b b' : ClaimBook} (h : Retains b)
    (hw : Rewrites c b b') : Retains b' := by
  obtain ⟨active, g, rfl⟩ := hw
  have hact : Retains { b with activeRequests := active } := ⟨h.size, h.fresh, h.cap⟩
  exact hact.modifyClaim c.id g

theorem Retains.rewritten {c : SelectionClaim} {b b' : ClaimBook} (h : Retains b)
    (hw : Rewrites c b b') : Retains b'.pruneTerminalClaims := by
  rw [(h.rewrites hw).prune]
  exact h.rewrites hw

theorem Retains.releaseSlot (h : Retains b) (c : SelectionClaim) (e : EstimatorState) :
    Retains (c.releaseSlot b e).book := by
  simp only [SelectionClaim.releaseSlot]
  split
  · exact h
  rename_i hd
  rw [decrementActive_ok hd]
  exact h.rewritten (c := c) ⟨_, _, rfl⟩

/-- An operation on a token rewrites at most that token's record and an active count. -/
theorem Retains.apply (h : Retains b) (op : ClaimOp) (c : SelectionClaim)
    (e : EstimatorState) : Retains (op.apply c b e).book := by
  cases op with
  | rollback =>
    dsimp only [ClaimOp.apply]
    fun_cases SelectionClaim.rollbackClaim c b e with
    | case6 =>
      rename_i hd
      rw [decrementActive_ok hd]
      exact h.rewritten (c := c) ⟨_, _, rfl⟩
    | _ => exact h
  | convert =>
    dsimp only [ClaimOp.apply]
    fun_cases SelectionClaim.convertClaimAfterDurablePublication c b e with
    | case5 => exact h.modifyClaim c.id ({ · with state := .converted, converted := true })
    | _ => exact h
  | releaseActive =>
    dsimp only [ClaimOp.apply]
    fun_cases SelectionClaim.releaseActiveClaim c b e with
    | case5 | case6 => exact h.releaseSlot c _
    | _ => exact h
  | releaseQuota =>
    dsimp only [ClaimOp.apply]
    fun_cases SelectionClaim.releaseQuotaReservation c b e with
    | case4 => exact h.modifyClaim c.id ({ · with quotaReleased := true })
    | _ => exact h

/-! ## Runs -/

/-- A book together with the tokens it has handed out. -/
structure Desk where
  book : ClaimBook
  issued : Table SelectionClaim.id

/--
One call on the desk. An operation runs on a token that was handed out, and sees
whatever the estimator holds at that time.
-/
inductive BookCall
  | publish (claim : SelectionClaim)
  | on (op : ClaimOp) (id : Nat) (estimator : EstimatorState)

def Desk.step (d : Desk) : BookCall → Desk
  | .publish claim =>
    match Routing.publish false d.book claim with
    | (book, .ok token) => ⟨book, d.issued.insert token⟩
    | (book, .error _) => ⟨book, d.issued⟩
  | .on op id estimator =>
    match d.issued.get? id with
    | none => d
    | some c => { d with book := (op.apply c d.book estimator).book }

/-- The desk after a list of calls, from an empty book. -/
def Desk.after (calls : List BookCall) : Desk := run Desk.step ⟨ClaimBook.empty, Table.empty⟩ calls

theorem retains_step (d : Desk) (c : BookCall) (h : Retains d.book) : Retains (d.step c).book:= by
  cases c with
  | publish cla =>
    have hp := h.publish cla
    simp only [Desk.step]
    split <;> (rename_i heq; rw [heq] at hp; exact hp)
  | on op id est =>
    simp [Desk.step]
    split
    · exact h
    · exact h.apply op _ est

/-- **No record is ever evicted.** -/
theorem retains_after (c : List BookCall) : Retains (Desk.after c).book :=
  run_invariant (I := fun d : Desk => Retains d.book) retains_step
    ⟨rfl, fun k _ => Table.get?_empty k, Nat.zero_le _⟩ c

/--
**The book takes claims only while it is young.** In every state a run reaches, no
record that owes a release can be pruned; and the book takes the next claim
whenever fewer records than the cap owe a release exactly if it has handed out
fewer identifiers than the cap, or all its records do owe one.
-/
theorem takesClaims_iff (calls : List BookCall) :
    (∀ (b : ClaimBook) (id : Nat) (owned : OwnedClaim), b.claim? id = some owned → owned.owes →
      b.pruneTerminalClaims.claim? id = some owned) ∧ ((Desk.after calls).book.TakesClaims ↔
      (Desk.after calls).book.nextId < CLAIM_RECORD_HARD_CAP ∨
      CLAIM_RECORD_HARD_CAP ≤ (Desk.after calls).book.owing) := by
  refine ⟨fun b id owned h ho => ClaimBook.claim?_prune_of_owes h ho, ?_⟩
  have hr := retains_after calls
  generalize (Desk.after calls).book = b at hr
  constructor
  · intro ht
    by_contra hcon
    obtain ⟨hfull, howing⟩ := not_or.mp hcon
    have hmax : b.nextId < U64_MAX := by
      have := hr.cap
      unfold U64_MAX CLAIM_RECORD_HARD_CAP at *
      omega
    obtain ⟨token, htoken⟩ := ht (not_le.mp howing) hmax ⟨0, 0, "", "", "", none, 0, 0⟩
    rw [hr.publish_eq, if_neg hfull] at htoken
    cases htoken
  · intro h howing _ claim
    have hlt : b.nextId < CLAIM_RECORD_HARD_CAP := by
      rcases h with h | h
      · exact h
      · omega
    exact ⟨_, by rw [hr.publish_eq, if_pos hlt]⟩

/-! ## A book worn out by settled claims -/

/-- A claim that holds one slot of an account and no tokens or cost. -/
def slotClaim (id : Nat) : SelectionClaim := ⟨id, 1, "account", "provider", "model", none, 0, 0⟩

/-- An estimator in which every account has one pending request. -/
def onePending : EstimatorState :=
  { EstimatorState.init (fun _ => none) with pendingRequests := fun _ => 1 }

/-- Publish a claim and roll it back, `n` times over. -/
def churn : Nat → List BookCall
  | 0 => []
  | n + 1 => churn n ++ [.publish (slotClaim 0), .on .rollback (n + 1) onePending]

/-- The book after a claim was entered and rolled back. -/
def ClaimBook.enterAndRollback (b : ClaimBook) (id : Nat) : ClaimBook :=
  ((b.register id "account").lowerActive "account").modifyClaim id
    ({ · with state := .rolledBack })

theorem active_register (h : b.activeRequests "account" = 0) (id : Nat) :
    (b.register id "account").activeRequests "account" = 1 := by
  simp [ClaimBook.register, h, I64.saturatingAdd, I64.MAX, I64.MIN]

theorem claim?_register (b : ClaimBook) (id k : Nat) (a : String) : (b.register id a).claim? k =
      if id = k then some ⟨.pending, false, false⟩ else b.claim? k := by
  by_cases h : id = k <;> simp [ClaimBook.claim?, ClaimBook.register, h]

theorem rollback_register {id : Nat} (hr : Retains (b.register id "account"))
    (h : b.activeRequests "account" = 0) :
    (ClaimOp.rollback.apply (slotClaim id) (b.register id "account") onePending).book =
      b.enterAndRollback id := by
  obtain ⟨e, he⟩ : ∃ e, (slotClaim id).releasePending onePending = .ok e := ⟨_, rfl⟩
  have hc := claim?_register b id id "account"
  rw [if_pos rfl] at hc
  have hact := active_register h id
  have hrb := SelectionClaim.rollbackClaim_eq hc rfl
    (le_of_eq hact.symm) he
  rw [ClaimOp.apply, hrb]
  exact (hr.rewrites (c := slotClaim id) ⟨_, _, rfl⟩).prune

/-- A desk that handed out `n` tokens and got all of them back. -/
structure Settled (d : Desk) (n : Nat) : Prop where
  nextId : d.book.nextId = n
  idle : d.book.activeRequests "account" = 0
  clear : ∀ id owned, d.book.claim? id = some owned → owned.owes = false

theorem settled_owing {d : Desk} {n : Nat} (h : Settled d n) : d.book.owing = 0 := by
  refine List.length_eq_zero_iff.mpr (List.filter_eq_nil_iff.mpr ?_)
  intro r hr
  have hc : d.book.claim? r.1 = some r.2 := by
    rw [ClaimBook.claim?, Table.get?_self hr, Option.map_some]
  simp [h.clear _ _ hc]

theorem settled_round {d : Desk} {n : Nat} (hr : Retains d.book) (h : Settled d n)
    (hn : n < CLAIM_RECORD_HARD_CAP) :
    Settled ((d.step (.publish (slotClaim 0))).step (.on .rollback (n + 1) onePending)) (n + 1) := by
  have hp : d.step (.publish (slotClaim 0)) =
      ⟨d.book.register (n + 1) "account", d.issued.insert (slotClaim (n + 1))⟩ := by
    simp only [Desk.step, hr.publish_eq, h.nextId, if_pos hn]
    rfl
  have hget : (d.issued.insert (slotClaim (n + 1))).get? (n + 1) = some (slotClaim (n + 1)) :=
    Table.get?_insert_self d.issued (slotClaim (n + 1))
  have hg : Retains (d.book.register (n + 1) "account") := by
    have := hr.register (h.nextId ▸ hn) "account"
    rwa [h.nextId] at this
  have hs : (d.step (.publish (slotClaim 0))).step (.on .rollback (n + 1) onePending) =
      ⟨d.book.enterAndRollback (n + 1), d.issued.insert (slotClaim (n + 1))⟩ := by
    rw [hp]
    simp [Desk.step, hget, rollback_register hg h.idle]
  rw [hs]
  refine ⟨rfl, ?_, ?_⟩
  · have hact := active_register h.idle (n + 1)
    simp only [ClaimBook.enterAndRollback, ClaimBook.lowerActive, hact]
    rfl
  · intro id own hid
    have hl : ((d.book.register (n + 1) "account").lowerActive "account").claim? id =
        if n + 1 = id then some ⟨.pending, false, false⟩ else d.book.claim? id :=
      claim?_register d.book (n + 1) id "account"
    rw [ClaimBook.enterAndRollback, ClaimBook.claim?_modifyClaim, hl] at hid
    by_cases hk : id = n + 1
    · rw [if_pos hk.symm, Option.map_some, if_pos hk, Option.some.injEq] at hid
      subst hid
      rfl
    · simp only [if_neg (Ne.symm hk), if_neg hk, Option.map_id'] at hid
      exact h.clear id own hid

theorem settled_churn : ∀ {n : Nat}, n ≤ CLAIM_RECORD_HARD_CAP → Settled (Desk.after (churn n)) n
  | 0, _ => ⟨rfl, rfl, fun _ _ h => by cases h⟩
  | n + 1, hn => by
      have ih := settled_churn (n := n) (by omega)
      have hr := settled_round (retains_after (churn n)) ih hn
      rwa [Desk.after, churn, run_append]

/-- After as many settled claims as the cap, nothing is owed and nothing is taken. -/
theorem churn_wears_out :
    (Desk.after (churn CLAIM_RECORD_HARD_CAP)).book.owing < CLAIM_RECORD_HARD_CAP ∧
    (Desk.after (churn CLAIM_RECORD_HARD_CAP)).book.nextId < U64_MAX ∧
    (publish false (Desk.after (churn CLAIM_RECORD_HARD_CAP)).book (slotClaim 0)).2 =
      .error .poisoned := by
  have h := settled_churn (le_refl CLAIM_RECORD_HARD_CAP)
  have hr := retains_after (churn CLAIM_RECORD_HARD_CAP)
  refine ⟨?_, ?_, ?_⟩
  · rw [settled_owing h]; decide
  · rw [h.nextId]; decide
  · rw [hr.publish_eq, h.nextId, if_neg (lt_irrefl _)]

end EggPool.Routing
