import Mathlib

/-!
# Redaction of error details

Before an error detail is stored, credential-shaped text in it is replaced by a
marker. The scan goes through the text once: at each position six rules are asked
in turn, the first that recognises something replaces it and the scan goes on
behind it, and otherwise the character is copied. Control characters are dropped
and the result is capped.

The source works on bytes. Every rule looks for ASCII bytes only, and a byte of a
longer character belongs to no class, so a text is a list of characters here, and a
position of it is the character before the cursor with the text that follows.
-/

namespace EggPool.Coordinator.Redaction

open List Option

/-! ## Classes of characters -/

variable (c : Char)

def isWordByte : Bool := c.isAlphanum || c = '_'

def isAsciiControl : Bool := c.toNat < 0x20 || c.toNat = 0x7f

/-- `char::is_control`: the ASCII controls and U+0080 to U+009F. -/
def isControl : Bool := isAsciiControl c || (0x80 ≤ c.toNat && c.toNat ≤ 0x9f)

/-- Controls the output leaves out. -/
def isDropped : Bool := isControl c && !(c = '\n' || c = '\t')

def isAsciiWhitespace : Bool := [' ', '\t', '\n', '\x0c', '\r'].contains c

/-- A control byte that does not end a value. -/
def isInnerControl : Bool := isAsciiControl c && !(c = '\n' || c = '\r' || c = '\t')

def isCredentialByte : Bool :=
  c.isAlphanum || ['_', '-', '.', '~', '+', '/', '=', ':', '%'].contains c || isInnerControl c

def isOpaqueByte : Bool :=
  c.isAlphanum || ['_', '-', '+', '/', '='].contains c || isInnerControl c

def isAuthorityByte : Bool :=
  c.isAlphanum || ['-', '.', '_', '~', '%', '+', ':', '@', '[', ']'].contains c

def isJwtByte : Bool := c.isAlphanum || c = '_' || c = '-'

def isUrlSchemeByte : Bool := c.isAlphanum || ['+', '-', '.'].contains c

def isQuote : Bool := c = '"' || c = '\x27'

def isSeparator : Bool := c = ':' || c = '='

/-! ## Tables -/

def MAX_ERROR_DETAIL : Nat := 512

def REDACTED : List Char := "[redacted]".toList

def MIN_STANDALONE_CREDENTIAL_LENGTH : Nat := 16

def MIN_OPAQUE_TOKEN_LENGTH : Nat := 32

def CREDENTIAL_LABELS : List String :=
  ["access-token", "access_token", "anthropic-api-key", "api-key", "api-secret", "api_key",
    "api_secret", "authorization", "client-secret", "client_secret", "credential", "credentials",
    "id-token", "id_token", "openai-api-key", "passwd", "password", "private-key", "private_key",
    "proxy-authorization", "refresh-token", "refresh_token", "secret", "secret-key", "secret_key",
    "session-token", "session_token", "token", "x-access-token", "x-api-key", "x-api-token",
    "x-auth-token", "x-goog-api-key", "x-secret-key"]

def CREDENTIAL_SCHEMES : List String := ["bearer", "basic", "token", "digest"]

def VENDOR_TOKEN_PREFIXES : List (String × Nat) :=
  [("sk-", 16), ("sk_", 16), ("ghp_", 24), ("gho_", 24), ("ghs_", 24), ("ghu_", 24),
    ("github_pat_", 30), ("xoxb-", 16), ("xoxp-", 16), ("AKIA", 20), ("AIza", 30)]

/-! ## Scanning -/

/-- The text behind a word, if it starts with the word in some ASCII case. -/
def stripIgnoreCase : List Char → List Char → Option (List Char)
  | [], rest => some rest
  | _ :: _, [] => none
  | w :: word, c :: rest => if c.toLower = w.toLower then stripIgnoreCase word rest else none

/-- The text behind an exact word. -/
def stripExact : List Char → List Char → Option (List Char)
  | [], rest => some rest
  | _ :: _, [] => none
  | w :: word, c :: rest => if c = w then stripExact word rest else none

def skipWhitespace (rest : List Char) : List Char := rest.dropWhile isAsciiWhitespace

def scanCredentialRun (rest : List Char) : List Char := rest.takeWhile isCredentialByte

def scanOpaqueRun (rest : List Char) : List Char := rest.takeWhile isOpaqueByte

def scanAuthority (rest : List Char) : List Char := rest.takeWhile isAuthorityByte

/-- A scheme starts with a letter. -/
def scanUrlScheme : List Char → List Char
  | [] => []
  | c :: rest => if c.isAlpha then c :: rest.takeWhile isUrlSchemeByte else []

/-- The text behind a nonempty segment of a JSON web token. -/
def skipJwtSegment (rest : List Char) : Option (List Char) :=
  if (rest.takeWhile isJwtByte).isEmpty then none else some (rest.dropWhile isJwtByte)

/-- The index of the last element with a property. -/
def rposition (p : Char → Bool) (l : List Char) : Option Nat :=
  (l.reverse.findIdx? p).map (l.length - 1 - ·)

/-- Keep what stands before the secret, without dropped controls, and mark the secret. -/
def renderRedaction (rest secret : List Char) : List Char :=
  (rest.take (rest.length - secret.length)).filter (!isDropped ·) ++ REDACTED

/-! ## The rules -/

/-- The closing quote of a quoted key, with the blanks behind it. -/
def skipKeyQuote : List Char → List Char
  | [] => []
  | c :: rest => if isQuote c then skipWhitespace rest else c :: rest

/-- The opening quote of a quoted value. -/
def skipValueQuote : List Char → List Char
  | [] => []
  | c :: rest => if isQuote c then rest else c :: rest

/-- From a separator to the start of the value behind it. -/
def separatedValue : List Char → Option (List Char)
  | [] => none
  | separator :: rest =>
    if isSeparator separator then some (skipValueQuote (skipWhitespace rest)) else none

/-- From behind a label to the start of its value. -/
def labelValue (rest : List Char) : Option (List Char) :=
  separatedValue (skipKeyQuote (skipWhitespace rest))

/-- The credential behind a scheme word, when the value is one. -/
def schemeCredential (value : List Char) : Option (List Char) :=
  let word := scanCredentialRun value
  if CREDENTIAL_SCHEMES.any (fun scheme => stripIgnoreCase scheme.toList word = some []) then
    let credential := skipWhitespace (value.drop word.length)
    if (scanCredentialRun credential).isEmpty then none else some credential
  else none

variable (before : Option Char)

/-- The value of the first label that stands here with a value. -/
def labeledValue (rest : List Char) : Option (List Char) :=
  if before.any isWordByte then none
  else CREDENTIAL_LABELS.findSome? fun label =>
    ((stripIgnoreCase label.toList rest).bind labelValue).filter
      fun value => !(scanCredentialRun value).isEmpty

def matchLabeledCredential (rest : List Char) : Option (Nat × List Char) :=
  (labeledValue before rest).map fun value =>
    let secret := (schemeCredential value).getD value
    (rest.length - (secret.length - (scanCredentialRun secret).length), renderRedaction rest secret)

def matchVendorToken (rest : List Char) : Option (Nat × List Char) :=
  VENDOR_TOKEN_PREFIXES.findSome? fun (start, minimumLength) => do
    let token ← stripIgnoreCase start.toList rest
    let length := start.toList.length + (scanCredentialRun token).length
    if length < minimumLength then none else some (length, REDACTED)

def matchStandaloneCredential (rest : List Char) : Option (Nat × List Char) :=
  if before.any isWordByte then none
  else CREDENTIAL_SCHEMES.findSome? fun scheme => do
    let blank ← stripIgnoreCase scheme.toList rest
    if blank.head? = some ' ' || blank.head? = some '\t' then
      let value := skipWhitespace blank
      if (scanCredentialRun value).length < MIN_STANDALONE_CREDENTIAL_LENGTH then none
      else some (rest.length - (value.length - (scanCredentialRun value).length),
        renderRedaction rest value)
    else none

/-- The authority of a URL that starts here. -/
def urlBody (rest : List Char) : Option (List Char) :=
  if before.any isWordByte then none
  else if (scanUrlScheme rest).isEmpty then none
  else stripExact "://".toList (rest.drop (scanUrlScheme rest).length)

def matchUrlUserinfo (rest : List Char) : Option (Nat × List Char) := do
  let body ← urlBody before rest
  let authority := scanAuthority body
  let userinfoLen ← rposition (· = '@') authority
  if userinfoLen = 0 then none
  else some (rest.length - body.length + authority.length,
    rest.take (rest.length - body.length) ++ REDACTED ++ '@' :: authority.drop (userinfoLen + 1))

def matchJsonWebToken (rest : List Char) : Option (Nat × List Char) := do
  let first ← (stripExact "eyJ".toList rest).bind skipJwtSegment
  let second ← (stripExact ['.'] first).bind skipJwtSegment
  let third ← (stripExact ['.'] second).bind skipJwtSegment
  some (rest.length - third.length, REDACTED)

def matchLongOpaqueToken (rest : List Char) : Option (Nat × List Char) :=
  let run := scanOpaqueRun rest
  if before.any isOpaqueByte then none
  else if run.length < MIN_OPAQUE_TOKEN_LENGTH then none
  else if !run.any Char.isDigit || !run.any Char.isAlpha then none
  else some (run.length, REDACTED)

/-- Remove the first credential-shaped value at the cursor, if any. -/
def redactAt (rest : List Char) : Option (Nat × List Char) :=
  (matchLabeledCredential before rest).or <| (matchUrlUserinfo before rest).or <|
    (matchVendorToken rest).or <| (matchStandaloneCredential before rest).or <|
    (matchJsonWebToken rest).or <| matchLongOpaqueToken before rest

/-! ## The scan -/

/--
One pass from a cursor. `skip` counts the characters that a rule consumed and the
cursor has still to pass; `emitted` counts what was written before.
-/
def sanitizeFrom : Option Char → List Char → Nat → Nat → List Char
  | _, [], _, _ => []
  | _, c :: rest, skip + 1, emitted => sanitizeFrom (some c) rest skip emitted
  | before, c :: rest, 0, emitted =>
    match redactAt before (c :: rest) with
    | some (consumed, rendered) =>
      if MAX_ERROR_DETAIL < emitted + rendered.length then []
      else rendered ++ sanitizeFrom (some c) rest (consumed - 1) (emitted + rendered.length)
    | none =>
      if isDropped c then sanitizeFrom (some c) rest 0 emitted
      else if MAX_ERROR_DETAIL < emitted + 1 then []
      else c :: sanitizeFrom (some c) rest 0 (emitted + 1)

def sanitizeDetail (value : String) : String := String.ofList (sanitizeFrom none value.toList 0 0)

/-! ## The cap -/

/-- A text that is over, or goes on with the marker. -/
def Cut (o : List Char) : Prop := o = [] ∨ ∃ t, o = '[' :: t

section Cut

variable {p : Char → Bool} {l o a r : List Char} {before : Option Char}

variable {w : List Char}

theorem Cut.head (ho : Cut o) {c : Char} (h : o.head? = some c) : c = '[' := by
  rcases ho with rfl | ⟨t, rfl⟩
  · cases h
  · exact (some.inj h).symm

/-- Blanks and quotes, which may stand around a separator. -/
def isSkipByte (c : Char) : Bool := isAsciiWhitespace c || isQuote c

/--
A reader that goes past blanks and quotes, and looks at no more than the character behind them.
-/
def Skips (f : List Char → List Char) : Prop :=
  ∀ l, ∃ w, l = w ++ f l ∧ (∀ c ∈ w, isSkipByte c = true) ∧
    ∀ v, v.head? = (f l).head? → f (w ++ v) = v

theorem Skips.comp {f g : List Char → List Char} (hf : Skips f) (hg : Skips g) :
    Skips (g ∘ f) := by
  intro l
  obtain ⟨w, hl, hw, hr⟩ := hf l
  obtain ⟨w', hl', hw', hr'⟩ := hg (f l)
  refine ⟨w ++ w', ?_, forall_mem_append.mpr ⟨hw, hw'⟩, fun v hv => ?_⟩
  · rw [append_assoc, Function.comp, ← hl', ← hl]
  · have hh : (w' ++ v).head? = (w' ++ g (f l)).head? := by
      rw [List.head?_append, List.head?_append, hv]
      rfl
    rw [← hl'] at hh
    rw [Function.comp, append_assoc, hr _ hh, hr' v hv]

section

open List

variable {rest v : List Char} {c : Char}

/-- A URL scheme: a letter, then letters, digits, `+`, `-` and `.`. -/
def IsScheme (s : List Char) : Prop :=
  ∃ c t, s = c :: t ∧ c.isAlpha = true ∧ ∀ d ∈ t, isUrlSchemeByte d = true

theorem IsScheme.chars {s : List Char} (h : IsScheme s) : ∀ d ∈ s, isUrlSchemeByte d = true := by
  obtain ⟨c, t, rfl, hc, ht⟩ := h
  exact forall_mem_cons.mpr ⟨by simp [isUrlSchemeByte, Char.isAlphanum, hc], ht⟩

end

/-- A check of all characters of all words of a table. -/
theorem forall_chars {w : List String} {p : Char → Bool}
    (h : w.all (fun word => word.toList.all p) = true) :
    ∀ word ∈ w, ∀ c ∈ word.toList, p c = true := by
  intro word hw c hc
  rw [List.all_eq_true] at h
  exact List.all_eq_true.mp (h word hw) c hc

section

variable (ho : Cut o)

include ho

end

end Cut

end EggPool.Coordinator.Redaction
