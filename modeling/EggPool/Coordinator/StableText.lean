import EggPool.Coordinator.Redaction

/-!
# Texts that redaction leaves alone

A text is stable when a pass over it copies every character, except that it renders
some URLs as they are. The marker is stable wherever it stands, and so are the labels
and scheme words that a rule keeps in front of it.
-/

namespace EggPool.Coordinator.Redaction

open List

/-! ## Positions at which no rule starts -/

section Positions

variable {before : Option Char} {c : Char} {rest : List Char}

theorem toLower_eq_self (h : ¬c.isUpper = true) : c.toLower = c := by
  unfold Char.toLower
  unfold Char.isUpper at h
  grind

section

variable (hc : c.isAlpha = false)

include hc

end

end Positions

/-! ## Texts a second pass leaves alone -/

/-- A text that a pass copies, except that it renders some URLs as they are. -/
inductive Stable : Option Char → List Char → Prop
  | nil (before : Option Char) : Stable before []
  | copy {before : Option Char} {c : Char} {rest : List Char} :
      redactAt before (c :: rest) = none → Stable (some c) rest → Stable before (c :: rest)
  | url {before : Option Char} {text rest : List Char} : text ≠ [] →
      labeledValue before (text ++ rest) = none →
      matchUrlUserinfo before (text ++ rest) = some (text.length, text) →
      Stable text.getLast? rest → Stable before (text ++ rest)

/-- What stands between a label or a scheme word and its value. -/
def isGap (c : Char) : Bool := [' ', '\t', '\n'].contains c || isQuote c || isSeparator c

structure Gap (w : List Char) : Prop where
  chars : ∀ c ∈ w, isGap c = true
  separators : w.countP isSeparator ≤ 1

/-- The end of a label or a scheme word, in some case. -/
def WordEnd (l : List Char) : Prop :=
  ∃ word ∈ CREDENTIAL_LABELS ++ CREDENTIAL_SCHEMES, l.map Char.toLower <:+ word.toList

section Named

variable {l w t : List Char} {c g : Char}

theorem Gap.tail (h : Gap (g :: w)) : Gap w :=
  ⟨fun c hc => h.chars c (mem_cons_of_mem _ hc),
    Nat.le_trans (sublist_cons_self g w).countP_le h.separators⟩

theorem WordEnd.tail (h : WordEnd (c :: l)) : WordEnd l := by
  obtain ⟨word, hmem, ht⟩ := h
  exact ⟨word, hmem, (suffix_cons _ _).trans ht⟩

/-- The characters of a label or a scheme word. -/
def isNameByte (c : Char) : Bool := c.isAlpha || c = '-' || c = '_'

theorem word_chars : ∀ word ∈ CREDENTIAL_LABELS ++ CREDENTIAL_SCHEMES,
    ∀ c ∈ word.toList, isNameByte c = true := forall_chars (by decide +kernel)

theorem word_length : ∀ word ∈ CREDENTIAL_LABELS ++ CREDENTIAL_SCHEMES,
    word.toList.length ≤ 19 := by decide

theorem isNameByte_of_toLower (h : isNameByte c.toLower = true) : isNameByte c = true := by
  by_cases hu : c.isUpper = true
  · simp [isNameByte, Char.isAlpha, hu]
  · rwa [toLower_eq_self hu] at h

theorem WordEnd.chars (h : WordEnd l) : ∀ c ∈ l, isNameByte c = true := by
  obtain ⟨word, hmem, ht⟩ := h
  intro c hc
  refine isNameByte_of_toLower (word_chars word hmem _ ?_)
  exact ht.subset (mem_map_of_mem hc)

theorem WordEnd.length_le (h : WordEnd l) : l.length ≤ 19 := by
  obtain ⟨word, hmem, ht⟩ := h
  have hle := ht.length_le
  have hm := word_length word hmem
  rw [length_map] at hle
  omega

variable {before : Option Char}

end Named

end EggPool.Coordinator.Redaction
