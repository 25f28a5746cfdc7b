import EggPool.Request.AdmissionFairness

/-!
# The bound of a bucket

What a principal may still do is a function of the table and of the time: a principal without
an entry has a full bucket. In these terms an eviction is not an event at all, and the bucket
meters the calls of its principal like any other credit.
-/

namespace EggPool.Request

open EggPool.Lib AdmissionFairnessDecision

namespace LimiterState

/-- Stored buckets are not overdrawn, and were stored when their principal was last seen. -/
def Sound (s : LimiterState) (now : ℚ) : Prop :=
  ∀ key bucket, s.principals.lookup key = some bucket →
    0 ≤ bucket.tokens ∧ bucket.lastSeen = bucket.updatedAt ∧ bucket.updatedAt ≤ now

/-- The tokens a principal has at a time, whether it is tracked or not. -/
def available (capacity : Nat) (key : String) (s : LimiterState) (now : ℚ) : ℚ :=
  match s.principals.lookup key with
  | some bucket => min (bucket.tokens + (now - bucket.updatedAt) * (capacity / WINDOW)) capacity
  | none => capacity

theorem rate_nonneg (capacity : Nat) : (0 : ℚ) ≤ capacity / WINDOW :=
  div_nonneg (Nat.cast_nonneg capacity) (by norm_num [WINDOW])

variable {s : LimiterState}

theorem Sound.later {now later : ℚ} (h : s.Sound now) (hle : now ≤ later) : s.Sound later := by
  intro key buc hb
  obtain ⟨ht, hs, hu⟩ := h key buc hb
  exact ⟨ht, hs, hu.trans hle⟩

theorem available_nonneg {now : ℚ} (h : s.Sound now) (capacity : Nat)
    (key : String) : 0 ≤ s.available capacity key now := by
  unfold available
  split
  · rename_i buc hb
    obtain ⟨ht, -, hu⟩ := h key buc hb
    have hg : 0 ≤ (now - buc.updatedAt) * (capacity / WINDOW) :=
      mul_nonneg (sub_nonneg.mpr hu) (rate_nonneg capacity)
    exact le_min (add_nonneg ht hg) (Nat.cast_nonneg capacity)
  · exact Nat.cast_nonneg capacity

/-- While nothing happens the tokens grow at the refill rate at most. -/
theorem available_later (s : LimiterState) {now l : ℚ} (hle : now ≤ l) (capacity : Nat)
    (key : String) : s.available capacity key l ≤
      s.available capacity key now + capacity / WINDOW * (l - now) := by
  have hg : 0 ≤ (capacity : ℚ) / WINDOW * (l - now) :=
    mul_nonneg (rate_nonneg capacity) (sub_nonneg.mpr hle)
  unfold available
  split
  · rw [← min_add_add_right]
    refine min_le_min (le_of_eq ?_) (le_add_of_nonneg_right hg)
    ring
  · exact le_add_of_nonneg_right hg

variable {call : Call}

/-- A call finds the tokens that are available. -/
theorem tokens_found (h : s.Sound call.now) (capacity : Nat) :
    (s.found call capacity).tokens = s.available capacity call.principal call.now := by
  unfold found available Bucket.current
  cases hb : s.principals.lookup call.principal with
  | some buc =>
    exact Bucket.tokens_refill (h _ _ hb).2.2 capacity
  | none => rfl

variable {table : OrdMap String Bucket}

/-- **Throwing a stale entry away changes nothing.** Two minutes fill any bucket. -/
theorem available_room (h : s.Sound call.now)
    (hr : Room s.principals call table) (g : Option Bucket) (capacity : Nat) (key : String) :
    available capacity key ⟨table, g⟩ call.now = s.available capacity key call.now := by
  cases hr with
  | kept _ => rfl
  | @evicted old buc _ he hs =>
    unfold available
    rw [OrdMap.lookup_erase]
    by_cases hkey : key = old
    · subst hkey
      obtain ⟨ht, hse, hu⟩ := h key buc he
      rw [if_pos rfl, he]
      have hi : (120 : ℚ) ≤ call.now - buc.updatedAt := by
        have hs := of_decide_eq_true hs
        rwa [hse, saturatingDurationSince_of_le hu] at hs
      have hf : (capacity : ℚ) ≤
          buc.tokens + (call.now - buc.updatedAt) * (capacity / WINDOW) := by
        have hre := mul_le_mul_of_nonneg_right hi (rate_nonneg capacity)
        have hw : (120 : ℚ) * (capacity / WINDOW) = capacity + capacity := by
          unfold WINDOW
          ring
        linarith
      exact (min_eq_right hf).symm
    · rw [if_neg hkey]

theorem sound_room (h : s.Sound call.now) (hr : Room s.principals call table) (g : Option Bucket) :
    Sound ⟨table, g⟩ call.now := by
  cases hr with
  | kept _ => exact h
  | evicted _ _ _ =>
    intro key buc hb
    rw [OrdMap.lookup_erase] at hb
    split at hb
    · cases hb
    · exact h key buc hb

theorem lookup_charge {capacity : Nat}
    (hr : call.policy.requestsPerMinutePerPrincipal = some capacity) (key : String) :
    (s.charge call table).lookup key =
      if call.principal = key then some ⟨(s.found call capacity).tokens - 1, call.now, call.now⟩
      else table.lookup key := by
  unfold charge
  rw [hr]
  exact OrdMap.lookup_set ..

section Step

variable {s : LimiterState} {call : Call} {capacity : Nat}

section

variable (hra : call.policy.requestsPerMinutePerPrincipal = some capacity)

include hra

theorem sound_admitAt (h : s.Sound call.now) : (s.admitAt call).1.Sound call.now := by
  have hout := admitAt_outcome s call
  generalize s.admitAt call = result at hout
  cases hout with
  | disabled _ | crowded _ => exact h
  | principal hr _ _ | global hr _ _ => exact sound_room h hr _
  | allowed hr ht =>
    intro key buc hb
    rw [lookup_charge hra] at hb
    split at hb
    · cases hb
      exact ⟨sub_nonneg.mpr (ht capacity hra), rfl, le_rfl⟩
    · exact sound_room h hr none key buc hb

/-- **An allowed call costs its principal a token, and no call brings one.** -/
theorem available_admitAt
    (h : s.Sound call.now) (key : String) : (s.admitAt call).1.available capacity key call.now +
        (if decide (call.principal = key) && (s.admitAt call).2.isAllowed then 1 else 0) ≤
      s.available capacity key call.now := by
  have hout := admitAt_outcome s call
  generalize s.admitAt call = result at hout
  cases hout with
  | disabled _ | crowded _ => simp [isAllowed]
  | principal hr _ _ | global hr _ _ =>
    simp [isAllowed, available_room h hr]
  | allowed hr ht =>
    by_cases hkey : call.principal = key
    · -- the stored bucket holds what was found less one, and has had no time to refill
      subst hkey
      rw [← tokens_found h]
      unfold available
      rw [lookup_charge hra]
      have hl := min_le_left
        ((s.found call capacity).tokens - 1 + (call.now - call.now) * (capacity / WINDOW))
        (capacity : ℚ)
      simpa [isAllowed, le_sub_iff_add_le] using hl
    · rw [← available_room h hr none]
      unfold available
      rw [lookup_charge hra]
      simp [hkey]

end

end Step

/-- The bucket of a principal meters its calls. -/
def meter (capacity : Nat) (key : String) : Meter admitAt Call.now fun call decision =>
      decide (call.principal = key) && decision.isAllowed where
  cap := capacity
  rate := capacity / WINDOW
  rate_nonneg := rate_nonneg capacity
  Sound := Sound
  credit s := s.available capacity key
  credit_nonneg h := available_nonneg h capacity key
  credit_le_cap _ := by
    unfold available
    split
    · exact min_le_right _ _
    · exact le_rfl
  sound_later := Sound.later
  credit_later _ hle := available_later _ hle capacity key
  Metered call := call.policy.requestsPerMinutePerPrincipal = some capacity
  sound_step := sound_admitAt
  credit_step hrate h := available_admitAt hrate h key

/-! ## The bound of the table -/

theorem size_room_le (hr : Room s.principals call table) : table.size ≤ s.principals.size := by
  cases hr with
  | kept _ => exact le_rfl
  | evicted _ he _ =>
    obtain ⟨row, hrow, -⟩ := Option.map_eq_some_iff.mp he
    have hs := Table.size_erase hrow
    omega

/-- The room that is made is room for the principal of the call. -/
theorem size_charge_le (hr : Room s.principals call table)
    (hs : s.principals.size ≤ call.policy.maxTrackedPrincipals) :
    (s.charge call table).size ≤ call.policy.maxTrackedPrincipals := by
  have hb := size_room_le hr
  unfold charge
  split
  · rename_i ht
    rw [OrdMap.size_set]
    split
    · exact hb.trans hs
    rename_i ha
    cases hr with
    | kept hf =>
      have hn : s.principals.lookup call.principal = none := by simpa using ha
      simp only [ht, Option.isSome_some, hn, true_and] at hf
      omega
    | evicted _ he _ =>
      obtain ⟨row, hrow, -⟩ := Option.map_eq_some_iff.mp he
      have hs := Table.size_erase hrow
      omega
  · exact hb.trans hs

theorem size_admitAt_le (hs : s.principals.size ≤ call.policy.maxTrackedPrincipals) :
    (s.admitAt call).1.principals.size ≤ call.policy.maxTrackedPrincipals := by
  have hout := admitAt_outcome s call
  generalize s.admitAt call = result at hout
  cases hout with
  | disabled _ | crowded _ => exact hs
  | principal hr _ _ | global hr _ _ => exact (size_room_le hr).trans hs
  | allowed hr _ => exact size_charge_le hr hs

/-- How many calls of a principal were allowed from `start` on, within `d` seconds. -/
def allowedWithin (calls : List Call) (key : String) (start d : ℚ) : Nat :=
  Meter.chargedBetween Call.now
    (fun call decision => decide (call.principal = key) && decision.isAllowed) start (start + d)
    (transcript admitAt .empty calls)

/--
**A principal is allowed at most `capacity + capacity * d / 60` calls in `d` seconds**, also
when its entry is thrown away and made anew meanwhile, and the table is never larger than
its maximum.
-/
theorem admissions_bounded {calls : List Call} {maximum : Nat}
    (hmaximum : ∀ call ∈ calls, call.policy.maxTrackedPrincipals = maximum)
    (htimes : calls.Pairwise fun a b => a.now ≤ b.now) : (∀ capacity : Nat,
      (∀ call ∈ calls, call.policy.requestsPerMinutePerPrincipal = some capacity) →
      ∀ (key : String) (start d : ℚ), 0 ≤ d →
        (allowedWithin calls key start d : ℚ) ≤ capacity + capacity * d / 60) ∧
    ∀ first, first <+: calls → (after first).principals.size ≤ maximum := by
  constructor
  · intro capacity hrate key start d hd
    cases calls with
    | nil =>
      have hbound : (0 : ℚ) ≤ capacity + capacity * d / 60 := by positivity
      simpa [allowedWithin, transcript, Meter.chargedBetween] using hbound
    | cons call calls =>
      have hstart : Sound .empty call.now := by
        intro key bucket hbucket
        cases hbucket
      have hfrom : ∀ other ∈ call :: calls, call.now ≤ other.now :=
        List.forall_mem_cons.mpr ⟨le_rfl, (List.pairwise_cons.mp htimes).1⟩
      have hbound := (meter capacity key).charged_le start hd hstart hrate hfrom htimes
      have hrewrite : (capacity : ℚ) / WINDOW * d = capacity * d / 60 := by
        unfold WINDOW
        ring
      exact hrewrite ▸ hbound
  · intro first hfirst
    refine run_invariant_along
     
      (I := fun s : LimiterState => s.principals.size ≤ maximum) ?_ (Nat.zero_le maximum)
      (along_of_forall (fun call hcall => hmaximum call (hfirst.subset hcall)) _)
    rintro s call hsize rfl
    exact size_admitAt_le hsize

/-- Two principals take turns in a table for one. -/
def turns : List Call :=
  [⟨onePerMinute, some "a", 0, .sorted⟩, ⟨onePerMinute, some "b", 119, .sorted⟩,
    ⟨onePerMinute, some "b", 120, .sorted⟩, ⟨onePerMinute, some "a", 240, .sorted⟩]

theorem admissions_bounded_turns :
    allowedWithin turns "a" 0 240 = 2 ∧ (allowedWithin turns "a" 0 240 : ℚ) ≤ 1 + 1 * 240 / 60 ∧
      (after turns).principals.size ≤ 1 := by
  have hmaximum : ∀ call ∈ turns, call.policy.maxTrackedPrincipals = 1 := by
    simp [turns, onePerMinute]
  have hrate : ∀ call ∈ turns, call.policy.requestsPerMinutePerPrincipal = some 1 := by
    simp [turns, onePerMinute]
  have htimes : turns.Pairwise fun a b => a.now ≤ b.now := by
    norm_num [turns, List.pairwise_cons]
  obtain ⟨hbound, htable⟩ := admissions_bounded hmaximum htimes
  refine ⟨by decide +kernel, ?_, htable turns (List.prefix_refl turns)⟩
  have hspan := hbound 1 hrate "a" 0 240 (by norm_num)
  rwa [Nat.cast_one] at hspan

end LimiterState

end EggPool.Request
