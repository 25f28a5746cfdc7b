import EggPool.Lib.Metered
import EggPool.Lib.OrdMap
import EggPool.Lib.Run

/-!
# Admission fairness

Each principal has a bucket of tokens that refills continuously, and so has the process as a
whole. A request takes a token from both or from neither. The table of principals is bounded:
a principal that is not in it waits until an entry has been idle for two minutes, which is
long enough for its bucket to be full again. So throwing the entry away changes nothing that
its principal could see, and the bound of the bucket holds across evictions.

Times are seconds on the monotonic clock, and token arithmetic is exact.
-/

namespace EggPool.Request

open EggPool.Lib

def WINDOW : ℚ := 60
def STALE_AFTER : ℚ := 120
def LEGACY_PRINCIPAL : String := "\x00legacy-shared-key"
def U32_MAX : Nat := 4294967295

/-- The policy of a configuration that has passed its checks. -/
structure AdmissionFairnessPolicy where
  (requestsPerMinutePerPrincipal globalRequestsPerMinute : Option Nat)
  maxTrackedPrincipals : Nat
  principal_range : ∀ rate ∈ requestsPerMinutePerPrincipal, 1 ≤ rate ∧ rate ≤ 60000
  global_range : ∀ rate ∈ globalRequestsPerMinute, 1 ≤ rate ∧ rate ≤ 60000
  tracked_range : 1 ≤ maxTrackedPrincipals ∧ maxTrackedPrincipals ≤ 65536

def AdmissionFairnessPolicy.isEnabled (policy : AdmissionFairnessPolicy) : Bool :=
  policy.requestsPerMinutePerPrincipal.isSome || policy.globalRequestsPerMinute.isSome

/-- One request a minute, one principal at a time. -/
def onePerMinute : AdmissionFairnessPolicy where
  requestsPerMinutePerPrincipal := some 1
  globalRequestsPerMinute := none
  maxTrackedPrincipals := 1
  principal_range := by rintro rate ⟨⟩; decide
  global_range := by rintro rate ⟨⟩
  tracked_range := by decide

inductive AdmissionFairnessDecision
  | disabled
  | allowed (remaining : Nat) (scope : String)
  | limited (retryAfterSeconds : Nat) (scope : String)
deriving DecidableEq, Repr

def AdmissionFairnessDecision.isAllowed : AdmissionFairnessDecision → Bool
  | .allowed _ _ => true
  | _ => false

/-- `now.saturating_duration_since(earlier)`, in seconds. -/
def saturatingDurationSince (now earlier : ℚ) : ℚ := max (now - earlier) 0

theorem saturatingDurationSince_of_le {now earlier : ℚ} (h : earlier ≤ now) :
    saturatingDurationSince now earlier = now - earlier :=
  max_eq_left (sub_nonneg.mpr h)

structure Bucket where
  (tokens updatedAt lastSeen : ℚ)
deriving DecidableEq, Repr

namespace Bucket

def full (capacity : Nat) (now : ℚ) : Bucket := ⟨capacity, now, now⟩

variable (bucket : Bucket)

def refill (capacity : Nat) (now : ℚ) : Bucket where
  tokens :=
    min (bucket.tokens + saturatingDurationSince now bucket.updatedAt * (capacity / WINDOW)) capacity
  updatedAt := now
  lastSeen := now

def retryAfter (capacity : Nat) : Nat :=
  max ⌈max (1 - bucket.tokens) 0 / (capacity / WINDOW)⌉.toNat 1

/-- The bucket a request finds: the stored one refilled, or a full one. -/
def current (stored : Option Bucket) (capacity : Nat) (now : ℚ) : Bucket :=
  match stored with
  | some bucket => bucket.refill capacity now
  | none => full capacity now

theorem tokens_refill {b : Bucket} {now : ℚ} (h : b.updatedAt ≤ now) (capacity : Nat) :
    (b.refill capacity now).tokens =
      min (b.tokens + (now - b.updatedAt) * (capacity / WINDOW)) capacity := by
  rw [refill, saturatingDurationSince_of_le h]

@[simp]
theorem updatedAt_current (s : Option Bucket) (c : Nat) (now : ℚ) :
    (current s c now).updatedAt = now := by
  cases s <;> rfl

@[simp]
theorem lastSeen_current (s : Option Bucket) (c : Nat) (now : ℚ) :
    (current s c now).lastSeen = now := by
  cases s <;> rfl

/-- `bucket.tokens.floor() as u32`. -/
def whole : Nat := min ⌊bucket.tokens⌋.toNat U32_MAX

/-- How long the entry can still not be thrown away. -/
def untilStale (now : ℚ) : ℚ :=
  max (STALE_AFTER - saturatingDurationSince now bucket.lastSeen) 0

def isStale (now : ℚ) : Bool :=
  STALE_AFTER ≤ saturatingDurationSince now bucket.lastSeen

end Bucket

structure LimiterState where
  principals : OrdMap String Bucket
  global : Option Bucket

def LimiterState.empty : LimiterState := ⟨.empty, none⟩

/-- The order in which a hash map happens to be visited. -/
structure VisitOrder where
  visit : List (String × Bucket) → List (String × Bucket)
  perm : ∀ entries, (visit entries).Perm entries

/-- The order of the keys. -/
def VisitOrder.sorted : VisitOrder := ⟨id, fun _ => .refl _⟩

structure Call where
  policy : AdmissionFairnessPolicy
  principalId : Option String
  now : ℚ
  order : VisitOrder

/-- Under which key a call is tracked if principals are. -/
def Call.principal (call : Call) : String := call.principalId.getD LEGACY_PRINCIPAL

namespace LimiterState

variable (principals : OrdMap String Bucket)

/-- The entry that has been idle longest among those that are stale. -/
def staleEntry (call : Call) : Option (String × Bucket) :=
  ((call.order.visit principals.rows).filter fun entry => entry.2.isStale call.now).argmin
    fun entry => entry.2.lastSeen

/-- The wait that is reported when the table has no room. -/
def crowdedRetryAfter (now : ℚ) : Nat :=
  (principals.rows.map fun entry => max ⌊entry.2.untilStale now⌋.toNat 1).min?.getD 1

/-- The table with room for the principal of the call, or the wait for it. -/
def makeRoom (call : Call) : Except Nat (OrdMap String Bucket) :=
  if call.policy.requestsPerMinutePerPrincipal.isSome ∧ principals.lookup call.principal = none ∧
      call.policy.maxTrackedPrincipals ≤ principals.size then
    match staleEntry principals call with
    | some (staleId, _) => .ok (principals.erase staleId)
    | none => .error (crowdedRetryAfter principals call.now)
  else .ok principals

/-- The wait that is reported when a bucket has no whole token. -/
def exhausted (capacity : Option Nat) (bucket : Option Bucket) : Option Nat :=
  match capacity, bucket with
  | some capacity, some bucket =>
    if bucket.tokens < 1 then some (bucket.retryAfter capacity) else none
  | _, _ => none

def allowedScope (policy : AdmissionFairnessPolicy) : String :=
  match policy.requestsPerMinutePerPrincipal.isSome, policy.globalRequestsPerMinute.isSome with
  | true, true => "principal,global"
  | true, false => "principal"
  | false, true => "global"
  | false, false => "none"

variable (s : LimiterState)

def admitAt (call : Call) : LimiterState × AdmissionFairnessDecision :=
  let policy := call.policy
  if !policy.isEnabled then (s, .disabled) else
  let principalKey := policy.requestsPerMinutePerPrincipal.map fun _ => call.principal
  let principalExisting := principalKey.bind s.principals.lookup
  match makeRoom s.principals call with
  | .error retryAfterSeconds => (s, .limited retryAfterSeconds "principal_state_capacity")
  | .ok principals =>
    let userCapacity := policy.requestsPerMinutePerPrincipal
    let userBucket := userCapacity.map (Bucket.current principalExisting · call.now)
    let globalBucket := policy.globalRequestsPerMinute.map (Bucket.current s.global · call.now)
    match exhausted userCapacity userBucket with
    | some retryAfterSeconds => (⟨principals, s.global⟩, .limited retryAfterSeconds "principal")
    | none =>
    match exhausted policy.globalRequestsPerMinute globalBucket with
    | some retryAfterSeconds => (⟨principals, s.global⟩, .limited retryAfterSeconds "global")
    | none =>
    let userBucket := userBucket.map fun bucket =>
      { bucket with tokens := bucket.tokens - 1, lastSeen := call.now }
    let globalBucket := globalBucket.map fun bucket => { bucket with tokens := bucket.tokens - 1 }
    let principals := match principalKey, userBucket with
      | some key, some bucket => principals.set key bucket
      | _, _ => principals
    let remaining := (userBucket.toList ++ globalBucket.toList).foldl
      (fun remaining bucket => min remaining bucket.whole) U32_MAX
    (⟨principals, globalBucket.or s.global⟩, .allowed remaining (allowedScope policy))

/-! ## What a call can do -/

/-- A call for a principal that is not in the table, with every entry still in use. -/
def Crowded (call : Call) : Prop :=
  call.policy.requestsPerMinutePerPrincipal.isSome ∧ principals.lookup call.principal = none ∧
    call.policy.maxTrackedPrincipals ≤ principals.size ∧
    ∀ entry ∈ principals.rows, entry.2.isStale call.now = false

variable {principals : OrdMap String Bucket} {call : Call}

theorem staleEntry_eq_none : staleEntry principals call = none ↔
      ∀ en ∈ principals.rows, en.2.isStale call.now = false := by
  rw [staleEntry, List.argmin_eq_none, List.filter_eq_nil_iff]
  constructor
  · intro h en he
    exact Bool.eq_false_iff.mpr (h en ((call.order.perm _).mem_iff.mpr he))
  · intro h en he
    exact Bool.eq_false_iff.mp (h en ((call.order.perm _).mem_iff.mp he))

theorem makeRoom_eq_error {r : Nat} : makeRoom principals call = .error r ↔
      Crowded principals call ∧ r = crowdedRetryAfter principals call.now := by
  unfold makeRoom
  split
  · rename_i hf
    cases hs : staleEntry principals call with
    | none =>
      have hc : Crowded principals call :=
        ⟨hf.1, hf.2.1, hf.2.2, staleEntry_eq_none.mp hs⟩
      simp [hc, eq_comm]
    | some ent =>
      refine iff_of_false (by simp) fun h => ?_
      simp [staleEntry_eq_none.mpr h.1.2.2.2] at hs
  · rename_i hr
    refine iff_of_false (by simp) fun h => ?_
    exact hr ⟨h.1.1, h.1.2.1, h.1.2.2.1⟩

/-- What the table is when there is room in it. -/
inductive Room (principals : OrdMap String Bucket) (call : Call) : OrdMap String Bucket → Prop
  | kept (h : ¬ (call.policy.requestsPerMinutePerPrincipal.isSome ∧
      principals.lookup call.principal = none ∧
      call.policy.maxTrackedPrincipals ≤ principals.size)) : Room principals call principals
  | evicted {key : String} {bucket : Bucket} (habsent : principals.lookup call.principal = none)
      (hentry : principals.lookup key = some bucket) (hstale : bucket.isStale call.now = true) :
      Room principals call (principals.erase key)

theorem makeRoom_eq_ok {table : OrdMap String Bucket} (h : makeRoom principals call = .ok table) :
    Room principals call table := by
  unfold makeRoom at h
  split at h
  · rename_i hf
    cases hs : staleEntry principals call with
    | none => simp [hs] at h
    | some ent =>
      obtain ⟨hmem, hi⟩ := List.mem_filter.mp (List.argmin_mem hs)
      rw [(call.order.perm _).mem_iff] at hmem
      rw [hs] at h
      cases h
      exact .evicted hf.2.1 (OrdMap.lookup_eq_some.mpr hmem) hi
  · rename_i hr
    cases h
    exact .kept hr

/-- The bucket of its principal, as a call finds it. -/
def found (call : Call) (capacity : Nat) : Bucket :=
  .current (s.principals.lookup call.principal) capacity call.now

/-- The bucket of the process, as a call finds it. -/
def foundGlobal (call : Call) (capacity : Nat) : Bucket :=
  .current s.global capacity call.now

/-- The table after an allowed call. -/
def charge (call : Call) (table : OrdMap String Bucket) : OrdMap String Bucket :=
  match call.policy.requestsPerMinutePerPrincipal with
  | some capacity =>
    table.set call.principal ⟨(s.found call capacity).tokens - 1, call.now, call.now⟩
  | none => table

def chargeGlobal (call : Call) : Option Bucket :=
  match call.policy.globalRequestsPerMinute with
  | some capacity => some ⟨(s.foundGlobal call capacity).tokens - 1, call.now, call.now⟩
  | none => s.global

/-- Everything a call can lead to. -/
inductive Outcome (s : LimiterState) (call : Call) :
    LimiterState × AdmissionFairnessDecision → Prop
  | disabled (h : call.policy.isEnabled = false) : Outcome s call (s, .disabled)
  | crowded (h : Crowded s.principals call) :
      Outcome s call
        (s, .limited (crowdedRetryAfter s.principals call.now) "principal_state_capacity")
  | principal {table : OrdMap String Bucket} {capacity : Nat} (hroom : Room s.principals call table)
      (hrate : call.policy.requestsPerMinutePerPrincipal = some capacity)
      (hlow : (s.found call capacity).tokens < 1) :
      Outcome s call
        (⟨table, s.global⟩, .limited ((s.found call capacity).retryAfter capacity) "principal")
  | global {table : OrdMap String Bucket} {capacity : Nat} (hroom : Room s.principals call table)
      (hrate : call.policy.globalRequestsPerMinute = some capacity)
      (hlow : (s.foundGlobal call capacity).tokens < 1) :
      Outcome s call
        (⟨table, s.global⟩, .limited ((s.foundGlobal call capacity).retryAfter capacity) "global")
  | allowed {table : OrdMap String Bucket} {remaining : Nat} {scope : String}
      (hroom : Room s.principals call table)
      (htokens : ∀ capacity ∈ call.policy.requestsPerMinutePerPrincipal,
        1 ≤ (s.found call capacity).tokens) :
      Outcome s call (⟨s.charge call table, s.chargeGlobal call⟩, .allowed remaining scope)

theorem exhausted_eq_some {ra : Option Nat} {b : Nat → Bucket} {r : Nat}
    (h : exhausted ra (ra.map b) = some r) :
    ∃ capacity, ra = some capacity ∧ (b capacity).tokens < 1 ∧
      r = (b capacity).retryAfter capacity := by
  cases ra with
  | none => cases h
  | some capacity =>
    simp only [exhausted, Option.map_some, Option.ite_none_right_eq_some, Option.some.injEq] at h
    exact ⟨capacity, rfl, h.1, h.2.symm⟩

theorem exhausted_eq_none {ra : Option Nat} {b : Nat → Bucket}
    (h : exhausted ra (ra.map b) = none) : ∀ c ∈ ra, 1 ≤ (b c).tokens:= by
  rintro c rfl
  simpa [exhausted] using h

theorem current_existing {s : LimiterState} :
    (call.policy.requestsPerMinutePerPrincipal.map (Bucket.current
      ((call.policy.requestsPerMinutePerPrincipal.map fun _ => call.principal).bind
        s.principals.lookup) · call.now)) =
      call.policy.requestsPerMinutePerPrincipal.map (s.found call) := by
  cases call.policy.requestsPerMinutePerPrincipal <;> rfl

theorem current_global {s : LimiterState} :
    call.policy.globalRequestsPerMinute.map (Bucket.current s.global · call.now) =
      call.policy.globalRequestsPerMinute.map (s.foundGlobal call) := rfl

/-- A call ends in one of the outcomes. -/
theorem admitAt_outcome (call : Call) : Outcome s call (s.admitAt call) := by
  unfold admitAt
  by_cases he : call.policy.isEnabled = true
  · simp only [he, Bool.not_true, Bool.false_eq_true, if_false, current_existing, current_global]
    cases hm : makeRoom s.principals call with
    | error retry =>
      obtain ⟨hc, rfl⟩ := makeRoom_eq_error.mp hm
      exact .crowded hc
    | ok table =>
      have ht : Room s.principals call table := makeRoom_eq_ok hm
      cases hu : exhausted call.policy.requestsPerMinutePerPrincipal
          (call.policy.requestsPerMinutePerPrincipal.map (s.found call)) with
      | some retry =>
        obtain ⟨cpc, hr, hl, rfl⟩ := exhausted_eq_some hu
        exact .principal ht hr hl
      | none =>
        cases hg : exhausted call.policy.globalRequestsPerMinute
            (call.policy.globalRequestsPerMinute.map (s.foundGlobal call)) with
        | some retry =>
          obtain ⟨cpc, hr, hl, rfl⟩ := exhausted_eq_some hg
          exact .global ht hr hl
        | none =>
          -- the buckets that are stored are the ones found, less a token
          convert Outcome.allowed ht (exhausted_eq_none hu) using 3
          · unfold charge
            cases call.policy.requestsPerMinutePerPrincipal with
            | none => rfl
            | some cpc => simp [found]
          · unfold chargeGlobal
            cases call.policy.globalRequestsPerMinute with
            | none => rfl
            | some cpc => simp [foundGlobal]
  · rw [Bool.not_eq_true] at he
    simp only [he]
    exact .disabled he

/-- The state after some calls. -/
def after (calls : List Call) : LimiterState := run (fun s call => (s.admitAt call).1) .empty calls

end LimiterState

end EggPool.Request
