import EggPool.Coordinator.StableText

/-!
# What a redaction rule removes

Six rules recognise credential-shaped text, and what they do to it has three forms:
a label or a scheme word is kept and the credential behind it is marked, a token is
marked as a whole, or the userinfo of a URL is marked between its scheme and its host.
-/

namespace EggPool.Coordinator.Redaction

open List Option

/-- A text with nothing to drop. -/
def Plain (text : List Char) : Prop := ∀ c ∈ text, isDropped c = false

instance (text : List Char) : Decidable (Plain text) :=
  decidable_of_iff (text.all (!isDropped ·) = true) (by simp [Plain, List.all_eq_true])

/-- The label rule keeps a scheme word in front of the marker here. -/
def keepsScheme (before : Option Char) (rest : List Char) : Bool :=
  (labeledValue before rest).any fun value => (schemeCredential value).isSome

/-- A JSON web token is directly followed by a character of an opaque run here. -/
def jwtTail (rest : List Char) : Bool :=
  (matchJsonWebToken rest).any fun (consumed, _) => (rest.drop consumed).head?.any isOpaqueByte

/-- The characters of URL authorities and of credential runs. -/
def isUrlByte (c : Char) : Bool := isAuthorityByte c || isCredentialByte c

/-- Nothing is recognised at a place of a URL's body. -/
def Quiet (body : List Char) (k : Nat) : Prop := redactAt ('/' :: body)[k]? (body.drop k) = none

instance (body : List Char) (k : Nat) : Decidable (Quiet body k) :=
  inferInstanceAs (Decidable (_ = _))

/--
Removing text does not make a longer URL authority: nothing is removed directly behind
the authority of a URL with userinfo, and in a URL without userinfo no `@` follows in
the same run of characters, or nothing in that run is removed.
-/
def JoinFree (before : Option Char) (rest : List Char) : Prop :=
  ∀ body, urlBody before rest = some body →
    if (matchUrlUserinfo before rest).isSome then Quiet body (scanAuthority body).length
    else '@' ∉ (body.takeWhile isUrlByte).tail ∨
      ∀ k < (body.takeWhile isUrlByte).length, Quiet body k

instance (before : Option Char) (rest : List Char) : Decidable (JoinFree before rest) :=
  inferInstanceAs (Decidable (∀ body ∈ urlBody before rest, _))

/-- A position where what the pass does leaves nothing for a second pass. -/
structure Settled (before : Option Char) (rest : List Char) : Prop where
  scheme : keepsScheme before rest = false
  token : jwtTail rest = false
  url : JoinFree before rest

instance (before : Option Char) (rest : List Char) : Decidable (Settled before rest) :=
  decidable_of_iff (keepsScheme before rest = false ∧ jwtTail rest = false ∧ JoinFree before rest)
    ⟨fun ⟨hscheme, htoken, hurl⟩ => ⟨hscheme, htoken, hurl⟩,
      fun h => ⟨h.scheme, h.token, h.url⟩⟩

/-- What a rule did at a position: the text it wrote and the text that is left. -/
inductive Removed (before : Option Char) (rest : List Char) : List Char → List Char → Prop
  /-- A label or a scheme word is kept, and the credential behind it is removed. -/
  | named {l w secret after : List Char} : rest = l ++ (w ++ (secret ++ after)) →
      WordEnd l → Gap w → w ≠ [] → secret ≠ [] → (∀ c ∈ secret, isCredentialByte c = true) →
      (∀ c, after.head? = some c → isOpaqueByte c = false) →
      Removed before rest (l ++ (w ++ REDACTED)) after
  /-- A token is removed as a whole. -/
  | bare {secret after : List Char} : rest = secret ++ after → secret ≠ [] →
      (∀ c ∈ secret, isCredentialByte c = true) →
      (∀ c, after.head? = some c → isOpaqueByte c = false) → Removed before rest REDACTED after
  /-- The userinfo of a URL is removed. -/
  | url {opener userinfo host after : List Char} :
      rest = opener ++ (userinfo ++ '@' :: (host ++ after)) →
      urlBody before rest = some (userinfo ++ '@' :: (host ++ after)) →
      labeledValue before rest = none → userinfo ≠ [] → '@' ∉ host →
      (∀ c ∈ userinfo ++ host, isAuthorityByte c = true) →
      (∀ c, after.head? = some c → isAuthorityByte c = false) →
      Removed before rest (opener ++ (REDACTED ++ '@' :: host)) after

section Removed

variable {before : Option Char} {rest l a v w : List Char} {n : Nat} {rendered : List Char}

theorem Plain.of_append_right (h : Plain (l ++ a)) : Plain a :=
  fun c hc => h c (mem_append_right _ hc)

variable {c : Char}

variable {p : Char → Bool}

end Removed

end EggPool.Coordinator.Redaction
