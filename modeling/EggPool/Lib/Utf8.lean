import Mathlib

/-!
# Reading UTF-8 piece by piece

`scan` looks at the start of a byte string and says what is there: a character, a
sequence that no continuation can repair, or too few bytes to tell. The second answer
carries the length of the sequence, which ends before the first byte that does not
fit. `fromUtf8` reads a whole string this way and reports where it stopped.

The first two answers depend on the bytes of the sequence only, so they survive any
continuation of the string (`scan_append`). That is what makes decoding in pieces
work: `decode` reads as far as it can tell and keeps the rest, and `decode_append`
says that the kept bytes in front of the next piece give what the whole would.
-/

namespace EggPool.Lib.Utf8

open List

/-- `U+FFFD`, written for what cannot be read. -/
def replacement : Char := '�'

/-- The answer at the start of a byte string. -/
inductive Scan where
  | char (c : Char) (length : Nat)
  | invalid (length : Nat)
  | incomplete
  deriving DecidableEq, Repr

def isContinuation (b : UInt8) : Bool := 0x80 ≤ b && b ≤ 0xBF

/-- The bytes that may come second after a given first one. -/
def isSecond (first b : UInt8) : Bool :=
  if first = 0xE0 then 0xA0 ≤ b && b ≤ 0xBF
  else if first = 0xED then 0x80 ≤ b && b ≤ 0x9F
  else if first = 0xF0 then 0x90 ≤ b && b ≤ 0xBF
  else if first = 0xF4 then 0x80 ≤ b && b ≤ 0x8F
  else isContinuation b

/-- The checks for the bytes after a first one, and the bits it contributes. -/
def tail? (first : UInt8) : Option (List (UInt8 → Bool) × Nat) :=
  if first < 0x80 then some ([], first.toNat)
  else if first < 0xC2 then none
  else if first < 0xE0 then some ([isSecond first], first.toNat % 32)
  else if first < 0xF0 then some ([isSecond first, isContinuation], first.toNat % 16)
  else if first < 0xF5 then
    some ([isSecond first, isContinuation, isContinuation], first.toNat % 8)
  else none

/-- Check the remaining bytes of a sequence of which `length` bytes have been read. -/
def scanTail : List (UInt8 → Bool) → List UInt8 → Nat → Nat → Scan
  | [], _, length, code => .char (Char.ofNat code) length
  | _ :: _, [], _, _ => .incomplete
  | check :: checks, b :: bs, length, code =>
    if check b then scanTail checks bs (length + 1) (code * 64 + b.toNat % 64)
    else .invalid length

def scan : List UInt8 → Scan
  | [] => .incomplete
  | first :: bs =>
    match tail? first with
    | none => .invalid 1
    | some (checks, code) => scanTail checks bs 1 code

/-- How many bytes an answer is about. -/
def Scan.length? : Scan → Option Nat
  | .char _ n => some n
  | .invalid n => some n
  | .incomplete => none

/-! ## An answer depends on the sequence only -/

variable {bs : List UInt8}

theorem scanTail_append {cs : List UInt8} {checks : List (UInt8 → Bool)} {length code : Nat}
    (h : scanTail checks bs length code ≠ .incomplete) :
    scanTail checks (bs ++ cs) length code = scanTail checks bs length code := by
  fun_induction scanTail checks bs length code with
  | case1 => simp only [scanTail]
  | case2 => exact absurd rfl h
  | case3 check checks b bs length code hb ih => rw [cons_append, scanTail, if_pos hb, ih h]
  | case4 check checks b bs length code hb => rw [cons_append, scanTail, if_neg hb]

/-- **What was read stays read.** -/
theorem scan_append (h : scan bs ≠ .incomplete) (cs : List UInt8) : scan (bs ++ cs) = scan bs := by
  cases bs with
  | nil => exact absurd rfl h
  | cons first bs =>
    rw [cons_append]
    simp only [scan] at h ⊢
    cases ht : tail? first with
    | none => rfl
    | some tail =>
      rw [ht] at h
      exact scanTail_append h

variable {c : Char} {n : Nat}

/-- A sequence is read from at least one byte, and from those that are there. -/
theorem scanTail_length {checks : List (UInt8 → Bool)} {length code : Nat}
    (h : (scanTail checks bs length code).length? = some n) :
    length ≤ n ∧ n ≤ length + bs.length := by
  fun_induction scanTail checks bs length code with
  | case1 | case4 =>
    cases h
    exact ⟨Nat.le_refl _, Nat.le_add_right _ _⟩
  | case2 => cases h
  | case3 check checks b bs length code hb ih =>
    have := ih h
    rw [length_cons]
    omega

theorem length_of_scan (h : (scan bs).length? = some n) : 0 < n ∧ n ≤ bs.length := by
  revert h
  fun_cases scan bs with
  | case1 => exact nofun
  | case2 first bs ht =>
    rintro ⟨⟩
    simp
  | case3 first bs checks code ht =>
    intro h
    have := scanTail_length h
    rw [length_cons]
    omega

theorem length_of_char (h : scan bs = .char c n) : 0 < n ∧ n ≤ bs.length :=
  length_of_scan (by rw [h]; rfl)

theorem length_of_invalid (h : scan bs = .invalid n) : 0 < n ∧ n ≤ bs.length :=
  length_of_scan (by rw [h]; rfl)

/-- The bytes of a character, taken alone, are that character. -/
theorem scanTail_take {checks : List (UInt8 → Bool)} {length code : Nat}
    (h : scanTail checks bs length code = .char c n) :
    scanTail checks (bs.take (n - length)) length code = .char c n := by
  fun_induction scanTail checks bs length code with
  | case1 => simpa only [scanTail] using h
  | case2 | case4 => cases h
  | case3 check checks b bs length code hb ih =>
    have hlt : length < n := (scanTail_length (by rw [h]; rfl)).1
    have hsub : n - length = (n - (length + 1)) + 1 := by omega
    rw [hsub, take_succ_cons, scanTail, if_pos hb]
    exact ih h

theorem scan_take (h : scan bs = .char c n) : scan (bs.take n) = .char c n := by
  have hp := (length_of_char h).1
  cases bs with
  | nil => cases h
  | cons first bs =>
    obtain ⟨k, rfl⟩ : ∃ k, n = k + 1 := ⟨n - 1, by omega⟩
    rw [take_succ_cons]
    simp only [scan] at h ⊢
    cases ht : tail? first with
    | none =>
      rw [ht] at h
      cases h
    | some tail =>
      rw [ht] at h
      exact scanTail_take h

/-! ## Reading a whole string -/

structure Utf8Error where
  validUpTo : Nat
  /-- The length of the sequence that cannot be read; none if the string ends within it. -/
  errorLen : Option Nat
  deriving DecidableEq, Repr

/-- The characters of a string, or where it stops being UTF-8. -/
def fromUtf8 (bs : List UInt8) : Except Utf8Error (List Char) :=
  if bs.isEmpty then .ok []
  else
    match _h : scan bs with
    | .char c n =>
      match fromUtf8 (bs.drop n) with
      | .ok text => .ok (c :: text)
      | .error e => .error { e with validUpTo := e.validUpTo + n }
    | .invalid n => .error ⟨0, some n⟩
    | .incomplete => .error ⟨0, none⟩
termination_by bs.length
decreasing_by
  have := length_of_char _h
  rw [List.length_drop]
  omega

/-- What can be told of a string: its text, how much was replaced, and the bytes kept. -/
structure Decoded where
  text : List Char
  replaced : Nat
  rest : List UInt8
  deriving DecidableEq, Repr

/-- Read as far as can be told. -/
def decode (bs : List UInt8) : Decoded :=
  match _h : scan bs with
  | .char c n =>
    let later := decode (bs.drop n)
    { later with text := c :: later.text }
  | .invalid n =>
    let later := decode (bs.drop n)
    { later with text := replacement :: later.text, replaced := later.replaced + 1 }
  | .incomplete => ⟨[], 0, bs⟩
termination_by bs.length
decreasing_by
  · have := length_of_char _h
    rw [List.length_drop]
    omega
  · have := length_of_invalid _h
    rw [List.length_drop]
    omega

/-- One decoding after another. -/
def Decoded.andThen (d e : Decoded) : Decoded :=
  ⟨d.text ++ e.text, d.replaced + e.replaced, e.rest⟩

theorem decode_char (h : scan bs = .char c n) :
    decode bs = Decoded.andThen ⟨[c], 0, []⟩ (decode (bs.drop n)) := by
  rw [decode]
  split <;> simp_all [Decoded.andThen]

theorem decode_invalid (h : scan bs = .invalid n) :
    decode bs = Decoded.andThen ⟨[replacement], 1, []⟩ (decode (bs.drop n)) := by
  rw [decode]
  split <;> simp_all [Decoded.andThen, Nat.add_comm]

theorem decode_incomplete (h : scan bs = .incomplete) : decode bs = ⟨[], 0, bs⟩ := by
  rw [decode]
  split <;> simp_all

theorem Decoded.andThen_assoc (d e f : Decoded) :
    (d.andThen e).andThen f = d.andThen (e.andThen f) := by
  simp [Decoded.andThen, Nat.add_assoc]

/-- **Decoding in pieces.** The kept bytes in front of what follows give what the whole gives. -/
theorem decode_append (bs cs : List UInt8) :
    decode (bs ++ cs) = (decode bs).andThen (decode ((decode bs).rest ++ cs)) := by
  fun_induction decode bs with
  | case1 bs c n hs later ih =>
    have ha : scan (bs ++ cs) = .char c n := by
      rw [scan_append (by rw [hs]; nofun), hs]
    rw [decode_char ha, drop_append_of_le_length (length_of_char hs).2, ih, ← Decoded.andThen_assoc]
    simp [Decoded.andThen, later]
  | case2 bs n hs later ih =>
    have ha : scan (bs ++ cs) = .invalid n := by
      rw [scan_append (by rw [hs]; nofun), hs]
    rw [decode_invalid ha, drop_append_of_le_length (length_of_invalid hs).2, ih,
      ← Decoded.andThen_assoc]
    simp [Decoded.andThen, later, Nat.add_comm]
  | case3 => simp [Decoded.andThen]

/-- The kept bytes are the start of a sequence. -/
theorem scan_rest (bs : List UInt8) : scan (decode bs).rest = .incomplete := by
  fun_induction decode bs with
  | case1 bs c n hs later ih | case2 bs n hs later ih => exact ih
  | case3 bs hs => exact hs

theorem length_of_scanTail_incomplete {checks : List (UInt8 → Bool)} {length code : Nat}
    (h : scanTail checks bs length code = .incomplete) : bs.length < checks.length := by
  fun_induction scanTail checks bs length code with
  | case1 | case4 => cases h
  | case2 => exact Nat.succ_pos _
  | case3 check checks b bs length code hb ih => exact Nat.succ_lt_succ (ih h)

/-- The start of a sequence is at most three bytes long. -/
theorem length_of_incomplete (h : scan bs = .incomplete) : bs.length ≤ 3 := by
  cases bs with
  | nil => exact Nat.zero_le 3
  | cons first bs =>
    simp only [scan] at h
    cases ht : tail? first with
    | none =>
      rw [ht] at h
      nomatch h
    | some tail =>
      rw [ht] at h
      have hc : tail.1.length ≤ 3 := by
        unfold tail? at ht
        split_ifs at ht <;> cases ht <;> simp
      have hl := length_of_scanTail_incomplete h
      rw [length_cons]
      omega

/-! ## What the report of a whole read says -/

theorem decode_of_ok {t : List Char} (h : fromUtf8 bs = .ok t) : decode bs = ⟨t, 0, []⟩ := by
  fun_induction fromUtf8 bs generalizing t with
  | case1 bs he =>
    cases h
    rw [isEmpty_iff.mp he, decode_incomplete rfl]
  | case2 bs he c n hs text hl ih =>
    cases h
    rw [decode_char hs, ih hl]
    rfl
  | _ => cases h

theorem fromUtf8_of_char {t : List Char} (hs : scan bs = .char c n)
    (h : fromUtf8 (bs.drop n) = .ok t) : fromUtf8 bs = .ok (c :: t) := by
  have hne : bs.isEmpty ≠ true := by
    intro he
    rw [isEmpty_iff.mp he] at hs
    cases hs
  rw [fromUtf8, if_neg hne]
  split <;> simp_all

/-- The text before the stop, and what stands there. -/
theorem stop_of_error {e : Utf8Error} (h : fromUtf8 bs = .error e) :
    ∃ text, fromUtf8 (bs.take e.validUpTo) = .ok text ∧
      decode bs = Decoded.andThen ⟨text, 0, []⟩ (decode (bs.drop e.validUpTo)) ∧
      bs.drop e.validUpTo ≠ [] ∧
      scan (bs.drop e.validUpTo) = e.errorLen.elim .incomplete .invalid := by
  fun_induction fromUtf8 bs generalizing e with
  | case1 | case2 => cases h
  | case3 bs hne c n hs e' hl ih =>
    cases h
    -- the character in front of the stop is read from the shorter string as well
    obtain ⟨text, hx, hd, hst, hat⟩ := ih hl
    have hh : bs.drop (e'.validUpTo + n) = (bs.drop n).drop e'.validUpTo := by
      rw [drop_drop, Nat.add_comm]
    refine ⟨c :: text, ?_, ?_, ?_, ?_⟩
    · have ht : bs.take (e'.validUpTo + n) = bs.take n ++ (bs.drop n).take e'.validUpTo := by
        rw [Nat.add_comm, take_add]
      have hf := scan_take hs
      refine fromUtf8_of_char (n := n) ?_ ?_
      · rw [ht, scan_append (by rw [hf]; nofun), hf]
      · rwa [ht, drop_left' (length_take_of_le (length_of_char hs).2)]
    · rw [hh, decode_char hs, hd, ← Decoded.andThen_assoc]
      rfl
    · rwa [hh]
    · rwa [hh]
  | case4 bs hne n hs | case5 bs hne hs =>
    cases h
    have hn : bs ≠ [] := fun heq => hne (isEmpty_iff.mpr heq)
    exact ⟨[], by rw [fromUtf8]; rfl, by simp [Decoded.andThen], hn, hs⟩

end EggPool.Lib.Utf8
