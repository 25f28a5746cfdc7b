import EggPool.Request.AdmissionFairness

/-!
# The advertised wait

A limited call is told how many seconds to wait. The two buckets round that wait up, so the
same call after it is not limited by the same bucket. A full table rounds it down: unless the
entry that can be thrown away first is due on a whole second, or within the one second that is
always advertised, a client that waits as it is told finds the table still full.
-/

namespace EggPool.Request

open EggPool.Lib List

/-! ## Buckets -/

namespace Bucket

theorem one_le_full {c : Nat} (h : 1 ≤ c) (now : ℚ) : 1 ≤ (full c now).tokens:=
  Nat.one_le_cast.mpr h

/-- The wait of a bucket is long enough for the token it lacks. -/
theorem lacking_le_retryAfter (b : Bucket) {capacity : Nat} (hp : 1 ≤ capacity) :
    1 - b.tokens ≤ b.retryAfter capacity * (capacity / WINDOW) := by
  have hr : (0 : ℚ) < capacity / WINDOW :=
    div_pos (by exact_mod_cast hp) (by norm_num [WINDOW])
  rw [← div_le_iff₀ hr]
  have hl : (1 - b.tokens) / (capacity / WINDOW) ≤
      max (1 - b.tokens) 0 / (capacity / WINDOW) :=
    div_le_div_of_nonneg_right (le_max_left _ _) hr.le
  have hc := Int.le_ceil (max (1 - b.tokens) 0 / (capacity / WINDOW))
  have hn : (⌈max (1 - b.tokens) 0 / (capacity / WINDOW)⌉ : ℚ) ≤
      (⌈max (1 - b.tokens) 0 / (capacity / WINDOW)⌉.toNat : ℚ) := by
    exact_mod_cast Int.self_le_toNat _
  have hm : (⌈max (1 - b.tokens) 0 / (capacity / WINDOW)⌉.toNat : ℚ) ≤
      b.retryAfter capacity := by
    exact_mod_cast le_max_left _ _
  exact hl.trans (hc.trans (hn.trans hm))

/-- **A bucket that had no token has one after the wait it advertised.** -/
theorem one_le_current_later {st : Option Bucket} {capacity : Nat} {now : ℚ}
    (hp : 1 ≤ capacity) (hn : ∀ b ∈ st, b.updatedAt ≤ now)
    (hl : (current st capacity now).tokens < 1) :
    1 ≤ (current st capacity (now + (current st capacity now).retryAfter capacity)).tokens := by
  cases st with
  | none => exact absurd hl (not_lt.mpr (one_le_full hp now))
  | some b =>
    have ho : (1 : ℚ) ≤ capacity := by exact_mod_cast hp
    have hu := hn b rfl
    have hw := lacking_le_retryAfter (b.refill capacity now) hp
    have ht : (0 : ℚ) ≤ (b.refill capacity now).retryAfter capacity := Nat.cast_nonneg _
    simp only [current] at hl ⊢
    generalize (b.refill capacity now).retryAfter capacity = wait at hw ht ⊢
    rw [tokens_refill hu] at hl hw
    rw [tokens_refill (by linarith)]
    -- the refill at `now` did not reach the capacity, so the later one goes on from it
    have hs : b.tokens + (now - b.updatedAt) * (capacity / WINDOW) ≤ capacity := by
      by_contra hc
      rw [min_eq_right (not_le.mp hc).le] at hl
      exact absurd hl (not_lt.mpr ho)
    rw [min_eq_left hs] at hw
    refine le_min ?_ ho
    calc (1 : ℚ) ≤ b.tokens + (now - b.updatedAt) * (capacity / WINDOW) +
          wait * (capacity / WINDOW) := by linarith
      _ = b.tokens + (now + wait - b.updatedAt) * (capacity / WINDOW) := by ring

end Bucket

namespace LimiterState

/-! ## No bucket is from the future -/

/-- Every stored bucket was stored by now. -/
def Seen (s : LimiterState) (now : ℚ) : Prop :=
  (∀ key bucket, s.principals.lookup key = some bucket →
    bucket.updatedAt ≤ now ∧ bucket.lastSeen ≤ now) ∧
  ∀ bucket ∈ s.global, bucket.updatedAt ≤ now

variable {s : LimiterState} {now : ℚ}

theorem Seen.later {later : ℚ} (h : s.Seen now) (hle : now ≤ later) : s.Seen later :=
  ⟨fun key buc hb => ⟨(h.1 key buc hb).1.trans hle,
    (h.1 key buc hb).2.trans hle⟩, fun buc hb => (h.2 buc hb).trans hle⟩

variable {call : Call}

theorem Seen.room {t : OrdMap String Bucket} (h : s.Seen call.now)
    (hr : Room s.principals call t) : Seen ⟨t, s.global⟩ call.now := by
  cases hr with
  | kept _ => exact h
  | evicted _ _ _ =>
    refine ⟨fun key buc hb => ?_, h.2⟩
    rw [OrdMap.lookup_erase] at hb
    split at hb
    · cases hb
    · exact h.1 key buc hb

theorem seen_admitAt (h : s.Seen call.now) : (s.admitAt call).1.Seen call.now := by
  have hout := admitAt_outcome s call
  generalize s.admitAt call = result at hout
  cases hout with
  | disabled _ | crowded _ => exact h
  | principal hr _ _ | global hr _ _ => exact h.room hr
  | allowed hr _ =>
    obtain ⟨ht, hg⟩ := h.room hr
    constructor
    · intro key buc hb
      dsimp only [charge] at hb
      split at hb
      · rw [OrdMap.lookup_set] at hb
        split at hb
        · cases hb
          exact ⟨le_rfl, le_rfl⟩
        · exact ht key buc hb
      · exact ht key buc hb
    · intro buc hb
      dsimp only [chargeGlobal] at hb
      split at hb
      · cases hb
        exact le_rfl
      · exact hg buc hb

/-- After calls at non-decreasing times no bucket is from the future. -/
theorem seen_after {c : List Call} (hs : c.Pairwise fun a b => a.now ≤ b.now)
    (hn : ∀ call ∈ c, call.now ≤ now) : (after c).Seen now := by
  induction c using reverseRecOn generalizing now with
  | nil => exact ⟨nofun, nofun⟩
  | append_singleton c call ih =>
    obtain ⟨hc, -, hx⟩ := pairwise_append.mp hs
    have hb := ih hc fun other ho => hx other ho call (mem_singleton_self call)
    rw [after, run_append]
    exact (seen_admitAt hb).later (hn call (mem_append_right c (mem_singleton_self call)))

/-! ## A full table -/

/-- The entry that can be thrown away first is due within a second or on a whole one. -/
def DueOnTheSecond (principals : OrdMap String Bucket) (now : ℚ) : Prop :=
  ∃ entry ∈ principals.rows,
    (∀ other ∈ principals.rows, entry.2.untilStale now ≤ other.2.untilStale now) ∧
    (entry.2.untilStale now ≤ 1 ∨ (⌊entry.2.untilStale now⌋ : ℚ) = entry.2.untilStale now)

/-- The advertised wait is that of the entry that is due first. -/
theorem crowdedRetryAfter_eq {p : OrdMap String Bucket} {en : String × Bucket} (he : en ∈ p.rows)
    (hf : ∀ other ∈ p.rows, en.2.untilStale now ≤ other.2.untilStale now) :
    crowdedRetryAfter p now = max ⌊en.2.untilStale now⌋.toNat 1 := by
  have hm : (p.rows.map fun en => max ⌊en.2.untilStale now⌋.toNat 1).min? =
      some (max ⌊en.2.untilStale now⌋.toNat 1) := by
    rw [min?_eq_some_iff]
    refine ⟨mem_map.mpr ⟨en, he, rfl⟩, fun wait hw => ?_⟩
    obtain ⟨other, ho, rfl⟩ := mem_map.mp hw
    exact max_le_max (Int.toNat_le_toNat (Int.floor_le_floor (hf other ho))) le_rfl
  rw [crowdedRetryAfter, hm]
  rfl

/-- Rounding down, but not below one, is enough only where nothing is cut off. -/
theorem le_max_floor_iff {wait : ℚ} (hp : 0 < wait) :
    wait ≤ (max ⌊wait⌋.toNat 1 : Nat) ↔ wait ≤ 1 ∨ (⌊wait⌋ : ℚ) = wait := by
  have hf : ((⌊wait⌋.toNat : Nat) : ℚ) = ⌊wait⌋ := by
    exact_mod_cast Int.toNat_of_nonneg (Int.floor_nonneg.mpr hp.le)
  rw [Nat.cast_max, hf, le_max_iff, or_comm]
  refine or_congr_right ⟨fun h => le_antisymm (Int.floor_le wait) h, fun h => h.ge⟩

/-- When an entry that is in use can be thrown away. -/
theorem isStale_later_iff {b : Bucket} {wait : ℚ} (hs : b.lastSeen ≤ now)
    (hf : b.isStale now = false) (hw : 0 ≤ wait) :
    b.isStale (now + wait) = true ↔ b.untilStale now ≤ wait := by
  unfold Bucket.isStale at hf ⊢
  unfold Bucket.untilStale
  rw [saturatingDurationSince_of_le hs] at hf ⊢
  rw [saturatingDurationSince_of_le (by linarith)]
  have hi : 0 ≤ STALE_AFTER - (now - b.lastSeen) :=
    sub_nonneg.mpr (not_le.mp (of_decide_eq_false hf)).le
  rw [decide_eq_true_eq, max_eq_left hi]
  constructor <;> intro h <;> linarith

theorem untilStale_pos {b : Bucket} (hf : b.isStale now = false) : 0 < b.untilStale now:=
  lt_max_of_lt_left (sub_pos.mpr (not_le.mp (of_decide_eq_false hf)))

/-- A full table has an entry that is due first. -/
theorem exists_first {p : OrdMap String Bucket} (h : Crowded p call) : ∃ en ∈ p.rows,
      ∀ other ∈ p.rows, en.2.untilStale call.now ≤ other.2.untilStale call.now := by
  cases hf : p.rows.argmin fun en => en.2.untilStale call.now with
  | none =>
    have hs : p.size = 0 := by
      rw [Table.size, argmin_eq_none.mp hf]
      rfl
    have ht := call.policy.tracked_range.1
    have hl := h.2.2.1
    omega
  | some en =>
    refine ⟨en, argmin_mem hf, fun other ho => ?_⟩
    exact le_of_mem_argmin (f := fun en : String × Bucket => en.2.untilStale call.now)
      ho hf

/-- The same call at a later time, with the table visited in whatever order it then is. -/
def retried (call : Call) (retryAfterSeconds : Nat) (order : VisitOrder) : Call :=
  { call with now := call.now + retryAfterSeconds, order := order }

/-- **The wait for a full table is too short unless the first entry is due on the second.** -/
theorem crowded_retried_iff (hse : s.Seen call.now) (h : Crowded s.principals call)
    (o : VisitOrder) :
    Crowded s.principals (retried call (crowdedRetryAfter s.principals call.now) o) ↔
      ¬ DueOnTheSecond s.principals call.now := by
  obtain ⟨ent, he, hf⟩ := exists_first h
  have hr := h.2.2.2
  have hs : ∀ other ∈ s.principals.rows,
      (other.2.isStale (call.now + (crowdedRetryAfter s.principals call.now : Nat)) = true ↔
        other.2.untilStale call.now ≤ (crowdedRetryAfter s.principals call.now : Nat)) :=
    fun other ht => isStale_later_iff
      (hse.1 other.1 other.2 (OrdMap.lookup_eq_some.mpr ht)).2 (hr other ht)
      (Nat.cast_nonneg _)
  have hd : DueOnTheSecond s.principals call.now ↔
      ent.2.untilStale call.now ≤ (crowdedRetryAfter s.principals call.now : Nat) := by
    rw [crowdedRetryAfter_eq he hf, le_max_floor_iff (untilStale_pos (hr ent he))]
    constructor
    · rintro ⟨other, ht, hl, hn⟩
      have hm : ent.2.untilStale call.now = other.2.untilStale call.now :=
        le_antisymm (hf other ht) (hl ent he)
      rwa [hm]
    · exact fun hn => ⟨ent, he, hf, hn⟩
  rw [hd]
  constructor
  · intro hst hre
    have hw := hst.2.2.2 ent he
    rw [retried, (hs ent he).mpr hre] at hw
    cases hw
  · intro hh
    refine ⟨h.1, h.2.1, h.2.2.1, fun other ht => ?_⟩
    rw [Bool.eq_false_iff]
    intro ho
    exact hh ((hf other ht).trans ((hs other ht).mp ho))

/-! ## The same call again -/

theorem admitAt_of_crowded (h : Crowded s.principals call) : s.admitAt call =
      (s, .limited (crowdedRetryAfter s.principals call.now) "principal_state_capacity") := by
  have he : call.policy.isEnabled = true := by
    simp [AdmissionFairnessPolicy.isEnabled, h.1]
  unfold admitAt
  rw [makeRoom_eq_error.mpr ⟨h, rfl⟩]
  simp [he]

theorem Room.not_crowded {p t : OrdMap String Bucket} (h : Room p call t) : ¬ Crowded p call := by
  intro hc
  cases h with
  | kept hr => exact hr ⟨hc.1, hc.2.1, hc.2.2.1⟩
  | evicted _ he hs =>
    have hf := hc.2.2.2 _ (OrdMap.lookup_eq_some.mp he)
    simp [hs] at hf

/-- What each scope says about the state. -/
theorem limited_cases {r : Nat} {sc : String} (h : (s.admitAt call).2 = .limited r sc) :
    (sc = "principal_state_capacity" ∧ Crowded s.principals call) ∨
    (sc = "principal" ∧ ∃ c, call.policy.requestsPerMinutePerPrincipal = some c ∧
      (s.found call c).tokens < 1) ∨
    (sc = "global" ∧ ∃ c, call.policy.globalRequestsPerMinute = some c ∧
      (s.foundGlobal call c).tokens < 1) := by
  have hout := admitAt_outcome s call
  generalize s.admitAt call = result at hout h
  cases hout with
  | disabled _ => cases h
  | crowded hc =>
    cases h
    exact .inl ⟨rfl, hc⟩
  | principal _ hr hl =>
    cases h
    exact .inr (.inl ⟨rfl, _, hr, hl⟩)
  | global _ hr hl =>
    cases h
    exact .inr (.inr ⟨rfl, _, hr, hl⟩)
  | allowed _ _ => cases h

/--
**A client that waits as told is not limited again by the same scope**, exactly if the table
had room for it or its first entry is due on the second.
-/
theorem retry_after_suffices_iff {calls : List Call} {call : Call}
    (htimes : (calls ++ [call]).Pairwise fun a b => a.now ≤ b.now) {s : LimiterState}
    {retry : Nat} {scope : String} (h : (after calls).admitAt call = (s, .limited retry scope)) :
    (∀ order again, (s.admitAt (retried call retry order)).2 ≠ .limited again scope) ↔
      ¬ Crowded (after calls).principals call ∨
        DueOnTheSecond (after calls).principals call.now := by
  obtain ⟨hsorted, -, hlast⟩ := pairwise_append.mp htimes
  have hseen : (after calls).Seen call.now :=
    seen_after hsorted fun other hother => hlast other hother call mem_cons_self
  have hout := admitAt_outcome (after calls) call
  rw [h] at hout
  cases hout with
  | crowded hcrowded =>
    have hlater := crowded_retried_iff hseen hcrowded
    rw [or_iff_right (not_not.mpr hcrowded)]
    constructor
    · intro hfree
      by_contra hdue
      exact hfree .sorted _ (congrArg Prod.snd (admitAt_of_crowded ((hlater .sorted).mpr hdue)))
    · intro hdue order again hagain
      rcases limited_cases hagain with ⟨-, hstill⟩ | ⟨hscope, -⟩ | ⟨hscope, -⟩
      · exact (hlater order).mp hstill hdue
      · exact absurd hscope (by decide)
      · exact absurd hscope (by decide)
  | @principal table capacity hroom hrate hlow =>
    have hcapacity := (call.policy.principal_range capacity hrate).1
    refine iff_of_true (fun order again hagain => ?_) (.inl hroom.not_crowded)
    -- a principal that lacks a token is in the table, so nothing was thrown away for it
    have hkept : table = (after calls).principals := by
      cases hroom with
      | kept _ => rfl
      | evicted habsent _ _ =>
        rw [found, habsent] at hlow
        exact absurd hlow (not_lt.mpr (Bucket.one_le_full hcapacity _))
    subst hkept
    rcases limited_cases hagain with ⟨hscope, -⟩ | ⟨-, other, hother, hstill⟩ | ⟨hscope, -⟩
    · exact absurd hscope (by decide)
    · cases hrate.symm.trans hother
      exact absurd hstill (not_lt.mpr (Bucket.one_le_current_later hcapacity
        (fun bucket hbucket => (hseen.1 _ bucket hbucket).1) hlow))
    · exact absurd hscope (by decide)
  | @global table capacity hroom hrate hlow =>
    have hcapacity := (call.policy.global_range capacity hrate).1
    refine iff_of_true (fun order again hagain => ?_) (.inl hroom.not_crowded)
    rcases limited_cases hagain with ⟨hscope, -⟩ | ⟨hscope, -⟩ | ⟨-, other, hother, hstill⟩
    · exact absurd hscope (by decide)
    · exact absurd hscope (by decide)
    cases hrate.symm.trans hother
    exact absurd hstill
      (not_lt.mpr (Bucket.one_le_current_later hcapacity hseen.2 hlow))

/-- A principal takes the only place of the table. -/
def occupied : List Call := [⟨onePerMinute, some "a", 0, .sorted⟩]

/-- Another one comes later. -/
def newcomer (now : ℚ) : Call := ⟨onePerMinute, some "b", now, .sorted⟩

theorem retry_after_suffices_iff_occupied :
    ((after occupied).admitAt (newcomer 1)).2 = .limited 119 "principal_state_capacity" ∧
    ((∀ order again, (((after occupied).admitAt (newcomer 1)).1.admitAt
        (retried (newcomer 1) 119 order)).2 ≠ .limited again "principal_state_capacity") ↔
      ¬ Crowded (after occupied).principals (newcomer 1) ∨
        DueOnTheSecond (after occupied).principals 1) := by
  have htimes : (occupied ++ [newcomer 1]).Pairwise fun a b => a.now ≤ b.now := by
    norm_num [occupied, newcomer, pairwise_cons]
  have hlimited : ((after occupied).admitAt (newcomer 1)).2 =
      .limited 119 "principal_state_capacity" := by decide +kernel
  exact ⟨hlimited, retry_after_suffices_iff htimes (Prod.ext rfl hlimited)⟩

/-- Half a second after the first call 119.5 seconds are left, and 119 are advertised. -/
theorem retry_after_too_short :
    ((after occupied).admitAt (newcomer (1 / 2))).2 = .limited 119 "principal_state_capacity" ∧
    (((after occupied).admitAt (newcomer (1 / 2))).1.admitAt
      (retried (newcomer (1 / 2)) 119 .sorted)).2 = .limited 1 "principal_state_capacity" := by
  decide +kernel

end LimiterState

end EggPool.Request
