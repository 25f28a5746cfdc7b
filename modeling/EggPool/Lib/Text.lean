import Mathlib

/-!
# Trimming and splitting text

Operations of a string library, on lists of characters and from there on
strings: cutting whitespace off both ends, splitting at the first or the last
occurrence of a separator, and cutting off a beginning. What a caller needs of
them is that trimming settles (a second trim does nothing) and that a split
leaves something strictly shorter.
-/

namespace EggPool.Lib

section Lists

variable {α : Type} {p : α → Bool} {l : List α}

/-- Cut what `p` selects off both ends. -/
def trimList (p : α → Bool) (l : List α) : List α := (l.dropWhile p).rdropWhile p

/-- **Trimming settles.** -/
theorem trimList_trimList (l : List α) : trimList p (trimList p l) = trimList p l := by
  have hf : (trimList p l).dropWhile p = trimList p l := by
    rw [List.dropWhile_eq_self_iff]
    intro hlen
    -- the first element is where the front cut stopped
    have hpre : trimList p l <+: l.dropWhile p := List.rdropWhile_prefix p _
    have hlen' : 0 < (l.dropWhile p).length := lt_of_lt_of_le hlen hpre.length_le
    have hs := List.dropWhile_eq_self_iff.mp (List.dropWhile_idempotent p l) hlen'
    rwa [← hpre.getElem hlen] at hs
  have hb : (trimList p l).rdropWhile p = trimList p l := List.rdropWhile_idempotent p _
  rw [trimList, hf, hb]

/-- Split at the last element that equals `c`. -/
def rsplitOnceList [DecidableEq α] (c : α) : List α → Option (List α × List α)
  | [] => none
  | x :: xs =>
    match rsplitOnceList c xs with
    | some (front, back) => some (x :: front, back)
    | none => if x = c then some ([], xs) else none

/-- Split at the first occurrence of a list. -/
def splitOnceList [DecidableEq α] (sep : List α) : List α → Option (List α × List α)
  | [] => if sep = [] then some ([], []) else none
  | x :: xs =>
    if sep.isPrefixOf (x :: xs) then some ([], (x :: xs).drop sep.length)
    else (splitOnceList sep xs).map fun (front, back) => (x :: front, back)

theorem rsplitOnceList_eq_none [DecidableEq α] {c : α} : ∀ {l : List α},
    rsplitOnceList c l = none ↔ c ∉ l := by
  intro l
  induction l with
  | nil => simp [rsplitOnceList]
  | cons x xs ih =>
    rw [rsplitOnceList, List.mem_cons, not_or, ← ih]
    cases rsplitOnceList c xs with
    | some par => simp
    | none => simp [eq_comm]

theorem append_of_rsplitOnceList [DecidableEq α] {c : α} {l f back : List α}
    (h : rsplitOnceList c l = some (f, back)) : f ++ c :: back = l := by
  fun_induction rsplitOnceList c l generalizing f back with
  | case2 x xs front back' hrec ih =>
    cases h
    exact congrArg (x :: ·) (ih hrec)
  | case3 => cases h; rfl
  | _ => cases h

end Lists

/-- The characters with the Unicode property `White_Space`. -/
def isWhitespace (c : Char) : Bool :=
  let n := c.toNat
  (0x09 ≤ n && n ≤ 0x0D) || n = 0x20 || n = 0x85 || n = 0xA0 || n = 0x1680 ||
    (0x2000 ≤ n && n ≤ 0x200A) || n = 0x2028 || n = 0x2029 || n = 0x202F || n = 0x205F ||
    n = 0x3000

/-- `str::trim` -/
def trim (s : String) : String := String.ofList (trimList isWhitespace s.toList)

/-- The pieces between characters of a kind: `str::split_whitespace` and
`str::split_ascii_whitespace`. -/
def splitBy (p : Char → Bool) (s : String) : List String :=
  ((s.toList.splitOnP p).filter (!·.isEmpty)).map String.ofList

/-- `str::rsplit_once` -/
def rsplitOnce (s : String) (c : Char) : Option (String × String) :=
  (rsplitOnceList c s.toList).map fun (front, back) => (String.ofList front, String.ofList back)

/-- `str::split_once` -/
def splitOnce (s sep : String) : Option (String × String) :=
  (splitOnceList sep.toList s.toList).map fun (front, back) =>
    (String.ofList front, String.ofList back)

/-- `str::strip_prefix` -/
def dropStart (s start : String) : Option String :=
  if start.toList.isPrefixOf s.toList then
    some (String.ofList (s.toList.drop start.toList.length))
  else none

@[simp]
theorem trim_trim (s : String) : trim (trim s) = trim s := by
  rw [trim, trim, String.toList_ofList, trimList_trimList]

theorem length_trim_le (s : String) : (trim s).toList.length ≤ s.toList.length := by
  rw [trim, String.toList_ofList]
  exact le_trans (List.rdropWhile_prefix _ _).length_le (List.dropWhile_suffix _).length_le

theorem rsplitOnce_eq_none {s : String} {c : Char} : rsplitOnce s c = none ↔ c ∉ s.toList := by
  rw [rsplitOnce, Option.map_eq_none_iff, rsplitOnceList_eq_none]

theorem append_of_rsplitOnce {s fr ba : String} {c : Char}
    (h : rsplitOnce s c = some (fr, ba)) : fr.toList ++ c :: ba.toList = s.toList := by
  rw [rsplitOnce, Option.map_eq_some_iff] at h
  obtain ⟨⟨f, b⟩, hs, heq⟩ := h
  cases heq
  rw [String.toList_ofList, String.toList_ofList]
  exact append_of_rsplitOnceList hs

end EggPool.Lib
