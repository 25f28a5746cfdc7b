import EggPool.Coordinator.Removal

/-!
# Redacting a second time

A pass writes what it copies and what its rules render. The copied text agrees with
the input up to the next removal, so a rule that finds nothing in the input finds
nothing in the output either. The URL rule alone reads across the marker, and there
the condition on the input says that removals make no longer authority.
-/

namespace EggPool.Coordinator.Redaction

open List Option

/-! ## Positions of a pass -/

/-- A property holds at every position where a pass writes something. -/
def AlongPass (P : Option Char → List Char → Prop) : Option Char → List Char → Nat → Nat → Prop
  | _, [], _, _ => True
  | _, c :: rest, skip + 1, emitted => AlongPass P (some c) rest skip emitted
  | before, c :: rest, 0, emitted =>
    match redactAt before (c :: rest) with
    | some (consumed, rendered) =>
      emitted + rendered.length ≤ MAX_ERROR_DETAIL →
        P before (c :: rest) ∧ AlongPass P (some c) rest (consumed - 1) (emitted + rendered.length)
    | none =>
      if isDropped c then AlongPass P (some c) rest 0 emitted
      else emitted + 1 ≤ MAX_ERROR_DETAIL →
        P before (c :: rest) ∧ AlongPass P (some c) rest 0 (emitted + 1)

instance AlongPass.decidable (P : Option Char → List Char → Prop)
    [∀ before rest, Decidable (P before rest)] :
    ∀ before rest skip emitted, Decidable (AlongPass P before rest skip emitted)
  | _, [], _, _ => .isTrue (by simp [AlongPass])
  | _, c :: rest, skip + 1, emitted =>
    have := AlongPass.decidable P (some c) rest skip emitted
    decidable_of_iff (AlongPass P (some c) rest skip emitted) (by rw [AlongPass])
  | before, c :: rest, 0, emitted =>
    match hr : redactAt before (c :: rest) with
    | some (consumed, rendered) =>
      have := AlongPass.decidable P (some c) rest (consumed - 1) (emitted + rendered.length)
      decidable_of_iff (emitted + rendered.length ≤ MAX_ERROR_DETAIL → P before (c :: rest) ∧
        AlongPass P (some c) rest (consumed - 1) (emitted + rendered.length))
        (by rw [AlongPass, hr])
    | none =>
      have := AlongPass.decidable P (some c) rest 0 emitted
      have := AlongPass.decidable P (some c) rest 0 (emitted + 1)
      decidable_of_iff (if isDropped c then AlongPass P (some c) rest 0 emitted
        else emitted + 1 ≤ MAX_ERROR_DETAIL →
          P before (c :: rest) ∧ AlongPass P (some c) rest 0 (emitted + 1))
        (by rw [AlongPass, hr])

/-- Characters a rule consumed are passed over. -/
theorem sanitizeFrom_skip (c : Char) (rest : List Char) (k emitted : Nat) :
    sanitizeFrom (some c) rest k emitted =
      sanitizeFrom (c :: rest.take k).getLast? (rest.drop k) 0 emitted := by
  induction rest generalizing c k with
  | nil => rw [drop_nil, sanitizeFrom, sanitizeFrom]
  | cons d rest ih =>
    cases k with
    | zero => rfl
    | succ k =>
      rw [sanitizeFrom, ih, take_succ_cons, drop_succ_cons, getLast?_cons_cons]

theorem alongPass_skip {P : Option Char → List Char → Prop} (c : Char) (rest : List Char)
    (k emitted : Nat) : AlongPass P (some c) rest k emitted =
      AlongPass P (c :: rest.take k).getLast? (rest.drop k) 0 emitted := by
  induction rest generalizing c k with
  | nil => rw [drop_nil, AlongPass, AlongPass]
  | cons d rest ih =>
    cases k with
    | zero => rfl
    | succ k =>
      rw [AlongPass, ih, take_succ_cons, drop_succ_cons, getLast?_cons_cons]

/-! ## A stable text is a fixed point -/

/-- Nothing is recognised here but a URL that is rendered as it is. -/
def Untouched (before : Option Char) (rest : List Char) : Prop :=
  ∀ consumed rendered, redactAt before rest = some (consumed, rendered) →
    labeledValue before rest = none ∧ matchUrlUserinfo before rest = some (consumed, rendered) ∧
      rendered = rest.take consumed

variable {before : Option Char} {rest : List Char}

theorem redactAt_of_url {m : Nat × List Char}
    (hl : labeledValue before rest = none) (h : matchUrlUserinfo before rest = some m) :
    redactAt before rest = some m := by
  rw [redactAt, matchLabeledCredential, hl, map_none, none_or, h, some_or]

theorem Stable.fixed {y : List Char} {emitted : Nat}
    (h : Stable before y) (hp : Plain y) (hfit : emitted + y.length ≤ MAX_ERROR_DETAIL) :
    sanitizeFrom before y 0 emitted = y ∧ AlongPass Untouched before y 0 emitted := by
  induction h generalizing emitted with
  | nil before => exact ⟨by rw [sanitizeFrom], by rw [AlongPass]; trivial⟩
  | @copy before c rest hn _ ih =>
    have hc : isDropped c = false := hp c mem_cons_self
    rw [length_cons] at hfit
    have hre : Plain rest := fun d hd => hp d (mem_cons_of_mem _ hd)
    obtain ⟨hrun, ha⟩ := ih hre (show emitted + 1 + rest.length ≤ _ by omega)
    constructor
    · rw [sanitizeFrom, hn]
      rw [hc, if_neg (by simp), if_neg (by omega), hrun]
    · rw [AlongPass, hn]
      rw [hc]
      intro _
      refine ⟨?_, ha⟩
      intro con rendered hs
      rw [hn] at hs
      cases hs
  | @url before text rest hne hl hu _ ih =>
    rw [length_append] at hfit
    obtain ⟨hrun, ha⟩ := ih hp.of_append_right
      (show emitted + text.length + rest.length ≤ _ by omega)
    have hr := redactAt_of_url hl hu
    have hm : Untouched before (text ++ rest) := by
      intro con rendered hs
      rw [hr, some.injEq] at hs
      obtain ⟨rfl, rfl⟩ := hs
      exact ⟨hl, hu, take_left.symm⟩
    obtain ⟨c, t, rfl⟩ := exists_cons_of_ne_nil hne
    rw [cons_append] at hr hm ⊢
    constructor
    · rw [sanitizeFrom, hr]
      dsimp only
      rw [if_neg (by omega), sanitizeFrom_skip, length_cons, Nat.add_sub_cancel,
        take_left, drop_left, ← length_cons, hrun, cons_append]
    · rw [AlongPass, hr]
      intro _
      rw [alongPass_skip, length_cons, Nat.add_sub_cancel, take_left, drop_left]
      exact ⟨hm, ha⟩

/-! ## The first pass -/

/-- A pass over a text, with what it writes: at each position it copies or removes. -/
inductive Pass : Option Char → List Char → List Char → Prop
  /-- The text is over, or the cap is reached. -/
  | stop {before : Option Char} {rest : List Char} : Pass before rest []
  | copy {before : Option Char} {c : Char} {rest out : List Char} :
      redactAt before (c :: rest) = none → Settled before (c :: rest) →
      Pass (some c) rest out → Pass before (c :: rest) (c :: out)
  | removed {before : Option Char} {gone after rendered out : List Char} :
      Removed before (gone ++ after) rendered after → gone ≠ [] →
      (redactAt before (gone ++ after)).isSome = true → Settled before (gone ++ after) →
      Pass gone.getLast? after out → Pass before (gone ++ after) (rendered ++ out)

section Pass

variable {before : Option Char} {rest out rendered gone after : List Char} {c : Char}

theorem cut_redacted (t : List Char) : Cut (REDACTED ++ t) :=
  .inr ⟨"redacted]".toList ++ t, rfl⟩

/-- The output agrees with the input up to the first removal. -/
theorem Pass.agree (h : Pass before rest out) : ∃ l r o, rest = l ++ r ∧ out = l ++ o ∧ Cut o := by
  induction h with
  | @stop _ rest => exact ⟨[], rest, [], rfl, rfl, .inl rfl⟩
  | @copy _ c _ _ _ _ _ ih =>
    obtain ⟨l, r, o, rfl, rfl, hc⟩ := ih
    exact ⟨c :: l, r, o, rfl, rfl, hc⟩
  | @removed _ _ after _ out hm _ _ _ _ _ =>
    cases hm with
    | @named l w sec _ hr _ _ _ _ _ _ =>
      refine ⟨l ++ w, sec ++ after, REDACTED ++ out, ?_, ?_, cut_redacted out⟩
      · rw [hr, append_assoc]
      · rw [append_assoc, append_assoc, append_assoc]
    | bare _ _ _ _ => exact ⟨[], _, REDACTED ++ out, rfl, rfl, cut_redacted out⟩
    | @url ope usr ho _ hr _ _ _ _ _ _ =>
      refine ⟨ope, _, REDACTED ++ ('@' :: ho ++ out), hr, ?_, cut_redacted _⟩
      rw [append_assoc, append_assoc]

/-- A text without `[` that the output starts with is copied from the input. -/
theorem Pass.starts {p Y : List Char} (h : Pass before rest (p ++ Y)) (hp : '[' ∉ p) :
    ∃ X, rest = p ++ X := by
  obtain ⟨l, r, o, rfl, hout, hc⟩ := h.agree
  rcases List.append_eq_append_iff.mp hout with ⟨d, rfl, _⟩ | ⟨d, rfl, heq⟩
  · exact ⟨d ++ r, List.append_assoc _ _ _⟩
  rcases hc with rfl | ⟨t, rfl⟩
  · obtain ⟨rfl, _⟩ := List.append_eq_nil_iff.mp heq.symm
    exact ⟨r, by rw [List.append_nil]⟩
  cases d with
  | nil => exact ⟨r, by rw [List.append_nil]⟩
  | cons z d =>
    obtain ⟨rfl, _⟩ := List.cons.inj heq
    exact absurd (by simp) hp

/-! ## URLs in the output -/

/-- Where nothing is recognised, a pass copies or stops. -/
theorem Pass.of_quiet (h : Pass before rest out) (hq : rest = [] ∨ redactAt before rest = none) :
    out = [] ∨ ∃ c r o, rest = c :: r ∧ out = c :: o ∧ Pass (some c) r o := by
  cases h with
  | stop => exact .inl rfl
  | @copy _ c r o _ _ hp => exact .inr ⟨c, r, o, rfl, rfl, hp⟩
  | removed _ hne hs _ _ =>
    rcases hq with hnil | hn
    · exact absurd (append_eq_nil_iff.mp hnil).1 hne
    · rw [hn] at hs
      cases hs

end Pass

/-! ## The second pass -/

end EggPool.Coordinator.Redaction
