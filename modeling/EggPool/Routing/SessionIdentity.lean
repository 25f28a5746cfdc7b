import EggPool.Lib.Delimited
import EggPool.Lib.Text
import EggPool.Lib.Utf8

/-!
# The identity of a conversation

A conversation without a session of its own is recognised by a hash of its system messages and
its first user text. Every text is framed with its role and its lengths, so the bytes that are
hashed can be taken apart again, and the user's frame is the one with the role `user`. The
budget of the system messages leaves some room for the user text; a text that does not fit is
represented by its two ends.
-/

namespace EggPool.Routing

open EggPool.Lib List

structure ConversationTextFragment where
  (role text : String)

structure ConversationPrefix where
  systemDeveloper : List ConversationTextFragment
  firstUserText : Option String

def AUTOMATIC_PREFIX_MAX_BYTES : Nat := 4096

def AUTOMATIC_FIRST_USER_MIN_BYTES : Nat := 1536

def normalizeIdentityText (value : String) : String :=
  " ".intercalate (splitBy isWhitespace value)

/-- The two ends of a text that is too long, cut where characters begin. -/
def boundedUtf8 (bytes : List UInt8) (maxBytes : Nat) : List UInt8 :=
  if maxBytes = 0 then []
  else if bytes.length ≤ maxBytes then bytes
  else
    let headBudget := maxBytes / 2
    let tailBudget := maxBytes - headBudget
    let headEnd := headBudget -
      ((bytes.take (headBudget + 1)).reverse.takeWhile Utf8.isContinuation).length
    let tailStart := bytes.length - tailBudget
    bytes.take headEnd ++ (bytes.drop tailStart).dropWhile Utf8.isContinuation

/-- A hash of 64 bytes from the middle. -/
def midSample (bytes : List UInt8) : Nat :=
  ((bytes.drop (bytes.length / 2 - 32)).take 64).foldl
    (fun hash byte => (hash * 0x100000001b3 + byte.toNat) % 2 ^ 64) 0xcbf29ce484222325

/-- The layout of a field. -/
def frame (role text : List UInt8) (fullLen sample : Nat) : List UInt8 :=
  delimited 2 role ++ (toBeBytes 4 text.length ++ (toBeBytes 8 fullLen ++
    (toBeBytes 8 sample ++ text)))

def boundedIdentityField (role text : String) (maxBytes : Nat) : List UInt8 :=
  let framingBytes := 2 + (asBytes role).length + 4 + 8 + 8
  if maxBytes ≤ framingBytes then []
  else
    let textBytes := boundedUtf8 (asBytes text) (maxBytes - framingBytes)
    if textBytes.isEmpty then []
    else frame (asBytes role) textBytes (asBytes text).length (midSample (asBytes text))

/-- The loop over the system messages: what is hashed, and what remains for the user. -/
def systemFields : List ConversationTextFragment → Nat → Nat → List UInt8 × Nat
  | [], remaining, _ => ([], remaining)
  | fragment :: rest, remaining, systemBudget =>
    if !(["system", "developer"].contains fragment.role) || systemBudget = 0 then
      systemFields rest remaining systemBudget
    else
      let field := boundedIdentityField fragment.role (normalizeIdentityText fragment.text)
        systemBudget
      if field.isEmpty then systemFields rest remaining systemBudget
      else
        let (fields, remaining) := systemFields rest (remaining - field.length)
          (systemBudget - field.length)
        (field ++ fields, remaining)

def userRoleOverhead : Nat := 2 + 4 + 4

def reservedUserBytes : Nat :=
  min AUTOMATIC_FIRST_USER_MIN_BYTES (AUTOMATIC_PREFIX_MAX_BYTES - userRoleOverhead)

variable (c : ConversationPrefix)

def ConversationPrefix.fields : List UInt8 × Nat :=
  systemFields c.systemDeveloper AUTOMATIC_PREFIX_MAX_BYTES
    (AUTOMATIC_PREFIX_MAX_BYTES - userRoleOverhead - reservedUserBytes)

/-- The bytes `automatic_session_identity` hashes. -/
def automaticSessionInput (clientSurface : String) : Option (List UInt8) := do
  if clientSurface = "responses" then none
  let userText := normalizeIdentityText (← c.firstUserText)
  if userText = "" then none
  let userField := boundedIdentityField "user" userText c.fields.2
  if userField.isEmpty then none
  some (asBytes "eggpool-route-affinity/v1" ++ (delimited 2 (asBytes clientSurface) ++
    (c.fields.1 ++ userField)))

/-- The text bytes the user's field has room for. -/
def ConversationPrefix.userRoom : Nat := c.fields.2 - 26

/-! ## Taking the fields apart -/

theorem length_boundedUtf8_le (b : List UInt8) (n : Nat) : (boundedUtf8 b n).length ≤ n:= by
  unfold boundedUtf8
  split
  · exact Nat.zero_le _
  split
  · assumption
  rename_i hl
  have hd := (dropWhile_sublist Utf8.isContinuation
    (l := b.drop (b.length - (n - n / 2)))).length_le
  simp only [length_append, length_take, length_drop] at hd ⊢
  omega

/-- A field that is there is a frame that keeps within its bytes. -/
theorem boundedIdentityField_eq {r t : String} {n : Nat}
    (h : (boundedIdentityField r t n).isEmpty = false) : ∃ bytes, boundedIdentityField r t n =
        frame (asBytes r) bytes (asBytes t).length (midSample (asBytes t)) ∧
      bytes = boundedUtf8 (asBytes t) (n - (22 + (asBytes r).length)) ∧
      22 + (asBytes r).length + bytes.length ≤ n := by
  have hs : 2 + (asBytes r).length + 4 + 8 + 8 = 22 + (asBytes r).length := by omega
  unfold boundedIdentityField at h ⊢
  simp only [hs] at h ⊢
  split at h
  · cases h
  rename_i hn
  split at h
  · cases h
  rename_i hb
  have hlen := length_boundedUtf8_le (asBytes t) (n - (22 + (asBytes r).length))
  exact ⟨_, by rw [if_neg hn, if_neg hb], rfl, by omega⟩

theorem length_frame (r t : List UInt8) (n k : Nat) :
    (frame r t n k).length = 22 + r.length + t.length := by
  simp only [frame, delimited, length_append, length_toBeBytes]
  omega

/-- **A frame is read back whatever follows it.** -/
theorem frame_append {r r' te t' s t : List UInt8} {n k n' k' : Nat}
    (hr : r.length < 256 ^ 2) (hr' : r'.length < 256 ^ 2) (ht : te.length < 256 ^ 4)
    (ht' : t'.length < 256 ^ 4) (h : frame r te n k ++ s = frame r' t' n' k' ++ t) :
    r = r' ∧ te = t' ∧ s = t := by
  simp only [frame, append_assoc] at h
  obtain ⟨hl, h⟩ := delimited_append hr hr' h
  obtain ⟨hlen, h⟩ := toBeBytes_append h
  obtain ⟨-, h⟩ := toBeBytes_append h
  obtain ⟨-, h⟩ := toBeBytes_append h
  obtain ⟨hx, h⟩ := append_inj h (toBeBytes_inj ht ht' hlen)
  exact ⟨hl, hx, h⟩

/-- A run of frames of system messages. -/
inductive Framed : List UInt8 → Prop
  | nil : Framed []
  | cons {role : String} {text rest : List UInt8} {n k : Nat} :
      role ∈ ["system", "developer"] → text.length < 256 ^ 4 → Framed rest →
      Framed (frame (asBytes role) text n k ++ rest)

/-- The loop writes frames and takes no more than its budget from what remains. -/
theorem systemFields_spec (f : List ConversationTextFragment) (remaining b : Nat)
    (hb : b < 256 ^ 4) : Framed (systemFields f remaining b).1 ∧
      remaining ≤ (systemFields f remaining b).2 + b ∧
      (systemFields f remaining b).2 ≤ remaining := by
  induction f generalizing remaining b with
  | nil => exact ⟨.nil, Nat.le_add_right _ _, le_rfl⟩
  | cons fra rest ih =>
    unfold systemFields
    split
    · exact ih remaining b hb
    rename_i hl
    simp only [Bool.or_eq_true, Bool.not_eq_true', not_or, Bool.not_eq_false] at hl
    dsimp only
    cases hf : (boundedIdentityField fra.role (normalizeIdentityText fra.text)
        b).isEmpty with
    | true => exact ih remaining b hb
    | false =>
      obtain ⟨bytes, heq, -, hle⟩ := boundedIdentityField_eq hf
      have hlen := length_frame (asBytes fra.role) bytes
        (asBytes (normalizeIdentityText fra.text)).length
        (midSample (asBytes (normalizeIdentityText fra.text)))
      rw [heq]
      obtain ⟨hm, hr, hle'⟩ := ih (remaining - (22 + (asBytes fra.role).length +
        bytes.length)) (b - (22 + (asBytes fra.role).length + bytes.length)) (by omega)
      rw [hlen]
      simp only [Bool.false_eq_true, if_false]
      exact ⟨.cons (contains_iff_mem.mp hl.1) (by omega) hm, by omega, by omega⟩

/-- The user's frame is the first one with its role. -/
theorem user_frame_eq {a b t text' : List UInt8} {n k n' k' : Nat} (ha : Framed a)
    (hb : Framed b) (ht : t.length < 256 ^ 4) (ht' : text'.length < 256 ^ 4)
    (h : a ++ frame (asBytes "user") t n k = b ++ frame (asBytes "user") text' n' k') :
    t = text' := by
  have hr : ∀ role ∈ ["system", "developer"],
      (asBytes role).length < 256 ^ 2 ∧ asBytes role ≠ asBytes "user" := by decide
  have hu : (asBytes "user").length < 256 ^ 2 := by decide
  induction ha generalizing b with
  | nil =>
    cases hb with
    | nil => exact (frame_append hu hu ht ht' (congrArg (· ++ []) h)).2.1
    | cons hmem hlen _ =>
      rw [append_assoc, nil_append, ← append_nil (frame _ t n k)] at h
      exact absurd (frame_append hu (hr _ hmem).1 ht hlen h).1.symm (hr _ hmem).2
  | cons hmem hlen _ ih =>
    rw [append_assoc] at h
    cases hb with
    | nil =>
      rw [nil_append, ← append_nil (frame _ text' n' k')] at h
      exact absurd (frame_append (hr _ hmem).1 hu hlen ht' h).1 (hr _ hmem).2
    | cons hmem' hlen' hb =>
      rw [append_assoc] at h
      exact ih hb (frame_append (hr _ hmem).1 (hr _ hmem').1 hlen hlen' h).2.2

/-! ## The identity -/

theorem fields_spec : Framed c.fields.1 ∧ 1520 ≤ c.userRoom ∧ c.userRoom < 256 ^ 4 := by
  obtain ⟨hf, hr, hle⟩ := systemFields_spec c.systemDeveloper AUTOMATIC_PREFIX_MAX_BYTES
    (AUTOMATIC_PREFIX_MAX_BYTES - userRoleOverhead - reservedUserBytes) (by decide)
  have hb : AUTOMATIC_PREFIX_MAX_BYTES - userRoleOverhead - reservedUserBytes = 2550 := rfl
  have hm : AUTOMATIC_PREFIX_MAX_BYTES = 4096 := rfl
  refine ⟨hf, ?_⟩
  unfold ConversationPrefix.userRoom ConversationPrefix.fields
  omega

/-- What is hashed ends in a frame with the user text, if there is room for it. -/
theorem automaticSessionInput_eq {c : ConversationPrefix} {s u : String}
    {i : List UInt8} (hu : c.firstUserText = some u)
    (hfit : (asBytes (normalizeIdentityText u)).length ≤ c.userRoom)
    (h : automaticSessionInput c s = some i) : ∃ n k,
      i = asBytes "eggpool-route-affinity/v1" ++ (delimited 2 (asBytes s) ++
        (c.fields.1 ++ frame (asBytes "user") (asBytes (normalizeIdentityText u)) n k)) := by
  simp only [automaticSessionInput, hu, Option.bind_eq_bind, Option.bind_some] at h
  split at h
  · cases h
  split at h
  · cases h
  split at h
  · cases h
  rename_i hf
  obtain ⟨bytes, heq, hb, -⟩ := boundedIdentityField_eq (Bool.eq_false_of_not_eq_true hf)
  have hs : 22 + (asBytes "user").length = 26 := by decide
  rw [hs, boundedUtf8] at hb
  have hr := (fields_spec c).2.1
  unfold ConversationPrefix.userRoom at hr hfit
  rw [if_neg (by omega), if_pos hfit] at hb
  rw [heq, hb] at h
  exact ⟨_, _, (Option.some.inj h).symm⟩

/-- **First user texts that differ after normalisation and are not cut give different identities,
whatever the system messages; a text of at most 1520 bytes is never cut.** -/
theorem first_user_texts_distinguish :
    (∀ c : ConversationPrefix, 1520 ≤ c.userRoom) ∧
    ∀ (c c' : ConversationPrefix) (surface surface' u u' : String) (input input' : List UInt8),
      c.firstUserText = some u → c'.firstUserText = some u' →
      (asBytes surface).length < 256 ^ 2 → (asBytes surface').length < 256 ^ 2 →
      automaticSessionInput c surface = some input →
      automaticSessionInput c' surface' = some input' →
      (asBytes (normalizeIdentityText u)).length ≤ c.userRoom →
      (asBytes (normalizeIdentityText u')).length ≤ c'.userRoom →
      normalizeIdentityText u ≠ normalizeIdentityText u' → input ≠ input' := by
  refine ⟨fun c => (fields_spec c).2.1, ?_⟩
  intro c c' surface surface' u u' input input' hu hu' hs hs' h h' hfit hfit' hne heq
  obtain ⟨n, k, rfl⟩ := automaticSessionInput_eq hu hfit h
  obtain ⟨n', k', rfl⟩ := automaticSessionInput_eq hu' hfit' h'
  obtain ⟨-, hrest⟩ := delimited_append hs hs' (append_cancel_left heq)
  obtain ⟨hframed, -, hmax⟩ := fields_spec c
  obtain ⟨hframed', -, hmax'⟩ := fields_spec c'
  exact hne (asBytes_inj (user_frame_eq hframed hframed' (hfit.trans_lt hmax)
    (hfit'.trans_lt hmax') hrest))

/-- Two questions under one system message. -/
theorem first_user_texts_distinguish_hi :
    automaticSessionInput ⟨[⟨"system", "be brief"⟩], some "hi"⟩ "messages" ≠
      automaticSessionInput ⟨[⟨"system", "be brief"⟩], some "ho"⟩ "messages" := by
  have hsome : ∀ u ∈ ["hi", "ho"], (automaticSessionInput ⟨[⟨"system", "be brief"⟩], some u⟩
      "messages").isSome = true := by decide +kernel
  obtain ⟨inp, h⟩ := Option.isSome_iff_exists.mp (hsome "hi" (by simp))
  obtain ⟨inp', h'⟩ := Option.isSome_iff_exists.mp (hsome "ho" (by simp))
  obtain ⟨hroom, hall⟩ := first_user_texts_distinguish
  rw [h, h']
  refine fun heq => hall _ _ _ _ _ _ _ _ rfl rfl ?_ ?_ h h' ((?_ : _ ≤ 1520).trans (hroom _))
    ((?_ : _ ≤ 1520).trans (hroom _)) ?_ (Option.some.inj heq)
  all_goals decide +kernel

/-- Texts that differ in their blanks have one identity. -/
theorem blanks_do_not_distinguish :
    (automaticSessionInput ⟨[], some "a b"⟩ "messages").isSome = true ∧
    automaticSessionInput ⟨[], some "a b"⟩ "messages" =
      automaticSessionInput ⟨[], some "a  b"⟩ "messages" := by
  decide +kernel

end EggPool.Routing
