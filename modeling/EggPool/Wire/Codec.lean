import EggPool.Lib.Collect
import EggPool.Wire.ResponsesEncoder

/-!
# Finite bodies

What the codecs of whole requests and responses share: the surfaces, an error with the field
and the surfaces it is about, the notices of a success, and the checks of media. A body that
arrives in one piece is decoded by code of its own, apart from the stream decoders; all of it
is in the namespace `Finite`.
-/

namespace EggPool.Wire.Finite

open EggPool.Lib

/-! ## Surfaces -/

inductive ClientSurface where
  | chatCompletions | responses | messages
  deriving DecidableEq, Repr

inductive WireSurface where
  | openaiChatCompletions | openaiResponses | anthropicMessages | geminiInteractions
  | geminiGenerateContent
  deriving DecidableEq, Repr

inductive Protocol where
  | openai | anthropic | gemini
  deriving DecidableEq, Repr

def ClientSurface.protocol : ClientSurface → Protocol
  | messages => .anthropic
  | chatCompletions => .openai
  | responses => .openai

inductive RequestOrigin where
  | canonical
  | clientWire (surface : ClientSurface)
  deriving DecidableEq, Repr

def clientWireSurface : ClientSurface → WireSurface
  | .chatCompletions => .openaiChatCompletions
  | .responses => .openaiResponses
  | .messages => .anthropicMessages

def RequestOrigin.sourceSurface : RequestOrigin → Option WireSurface
  | canonical => none
  | clientWire surface => some (clientWireSurface surface)

/-! ## Errors and notices -/

/-- A codec failure; unlike a stream's, it names a field. -/
structure CodecError where
  reason : CodecReasonCode
  field : Option String
  (sourceSurface targetSurface : Option WireSurface)
  deriving DecidableEq, Repr

/-- `codec_error` and `error`. -/
def codecError (reason : CodecReasonCode) (field : String)
    (sourceSurface targetSurface : Option WireSurface) : CodecError :=
  ⟨reason, some field, sourceSurface, targetSurface⟩

def responseError (field : String) : CodecError :=
  codecError .malformedProviderResponse field none none

def unsupported (field : String) (surface : WireSurface) : CodecError :=
  codecError .unsupportedSemanticFeature field (some surface) none

structure AdaptationNotice where
  code : String
  reason : CodecReasonCode
  field : Option String
  (sourceSurface targetSurface : Option WireSurface)
  deriving DecidableEq, Repr

def notice (code field : String) (source target : Option WireSurface) : AdaptationNotice :=
  ⟨code, .unsupportedSemanticFeature, some field, source, target⟩

structure CodecOutput (α : Type) where
  value : α
  notices : List AdaptationNotice := []

/-! ## Members of an object -/

def optionalString (members : Map) (key : String) : Except CodecError (Option String) :=
  match members.get key with
  | none => .ok none
  | some .null => .ok none
  | some (.string text) => .ok (some text)
  | some _ => .error (responseError key)

def requiredString (members : Map) (key field : String) : Except CodecError String :=
  match string (members.get key) with
  | some text => .ok text
  | none => .error (responseError field)

/-- A member that must be an array. -/
def requiredArray (members : Map) (key field : String) : Except CodecError (List Value) :=
  match array (members.get key) with
  | some items => .ok items
  | none => .error (responseError field)

/-- A member that must be an object. -/
def requiredObject (members : Map) (key field : String) : Except CodecError Map :=
  match object (members.get key) with
  | some inner => .ok inner
  | none => .error (responseError field)

theorem requiredObject_eq_ok_iff {m i : Map} {key f : String} :
    requiredObject m key f = .ok i ↔ m.get key = some (.object i) := by
  unfold requiredObject
  cases m.get key with
  | none => exact ⟨nofun, nofun⟩
  | some val => cases val <;> simp [Wire.object, Value.asObject]

theorem requiredArray_eq_ok_iff {m : Map} {key f : String} {i : List Value} :
    requiredArray m key f = .ok i ↔ m.get key = some (.array i) := by
  unfold requiredArray
  cases m.get key with
  | none => exact ⟨nofun, nofun⟩
  | some val => cases val <;> simp [Wire.array, Value.asArray]

/-- An item that must be an object. -/
def itemObject (item : Value) (field : String) : Except CodecError Map :=
  match item.asObject with
  | some members => .ok members
  | none => .error (responseError field)

/-! ## Content and media -/

inductive CanonicalBlockKind where
  | text | image | document | audio | reasoning | toolCall | toolResult | refusal
  deriving DecidableEq, Repr

def TOOL_SEARCH_TOOL_NAME : String := "tool_search"

structure MediaSource where
  (mediaType data uri detail fileId : Option String := none)
  deriving DecidableEq, Repr

def MAX_IMAGE_BYTES : Nat := 5 * 1024 * 1024
def MAX_PDF_BYTES : Nat := 32 * 1024 * 1024
def MAX_MEDIA_URI_BYTES : Nat := 8 * 1024
def MAX_MEDIA_TYPE_BYTES : Nat := 128

def decodedBase64Len (encoded : String) : Option Nat :=
  let size := encoded.utf8ByteSize
  let text := encoded.toList
  let padding := (text.reverse.takeWhile (· == '=')).length
  if size = 0 || size % 4 != 0 then none
  else if padding > 2 || (text.take (text.length - padding)).contains '=' then none
  else if !text.all fun c => c.isAlphanum || c == '+' || c == '/' || c == '=' then none
  -- a text that is not empty has a quartet, so that neither step of the source can overflow
  else some (size / 4 * 3 - padding)

/-- The empty text counts as too large: its subtraction underflows. -/
def base64DefinitelyExceeds (encoded : String) (limit : Nat) : Bool :=
  let minimumDecoded := encoded.utf8ByteSize / 4 * 3
  encoded.utf8ByteSize % 4 == 0 &&
    (if 2 ≤ minimumDecoded then minimumDecoded - 2 else 2 ^ 64 - 1) > limit

inductive MediaLimitError where
  | invalidBase64
  | encodedPayloadTooLarge (kind : String)
  deriving DecidableEq, Repr

def validateBase64 (encoded : String) (limit : Nat) (kind : String) : Except MediaLimitError Nat:=
  if base64DefinitelyExceeds encoded limit then .error (.encodedPayloadTooLarge kind)
  else
    match decodedBase64Len encoded with
    | none => .error .invalidBase64
    | some decoded =>
      if decoded > limit then .error (.encodedPayloadTooLarge kind) else .ok decoded

def validateMediaType (mediaType : String) : Bool :=
  let text := mediaType.toList
  !text.isEmpty && mediaType.utf8ByteSize ≤ MAX_MEDIA_TYPE_BYTES &&
    text.all (fun c => c.toNat < 128) && !text.any isWhitespace &&
    match splitOnce mediaType "/" with
    | some (kind, subtype) =>
      !kind.isEmpty && !subtype.isEmpty &&
        kind.toList.all (fun c => c.isAlphanum || c == '-') &&
        subtype.toList.all fun c => c.isAlphanum || c == '.' || c == '+' || c == '-'
    | none => false

/-- The media type, the data and the reference of a source object. -/
def mediaParts (source : Map) : Option String × Option String × Option String :=
  match string ((source.get "url").or (source.get "file_data")) with
  | some value =>
    match (dropStart value "data:").bind (splitOnce · ";base64,") with
    | some (mediaType, encoded) => (some mediaType, some encoded, none)
    | none => (none, none, some value)
  | none =>
    (string ((source.get "media_type").or (source.get "mime_type")),
      string (source.get "data"),
      string ((source.get "file_uri").or (source.get "uri")))

def decodeResponseMedia (members : Map) (kind : String) : Except CodecError MediaSource :=
  let source := (object ((members.get "image_url").or
    ((members.get "source").or (members.get "file")))).getD members
  let (mediaType, data, uri) := mediaParts source
  let large := kind == "document" || kind == "file"
  if data.isNone && uri.isNone && (source.get "file_id").isNone then
    .error (responseError
      (if kind == "document" then "content[].document" else "content[].image"))
  else if data.any fun data =>
      !(validateBase64 data (if large then MAX_PDF_BYTES else MAX_IMAGE_BYTES)
        (if large then "document" else "image")).isOk then
    .error (codecError .resourceLimitViolation "content[].media.data" none none)
  else if mediaType.any fun mediaType => !validateMediaType mediaType then
    .error (responseError "content[].media.media_type")
  else if uri.any (fun uri => uri.utf8ByteSize > MAX_MEDIA_URI_BYTES) ||
      (string (source.get "file_id")).any fun id => id.utf8ByteSize > MAX_MEDIA_URI_BYTES then
    .error (codecError .resourceLimitViolation "content[].media.reference" none none)
  else
    .ok {
      mediaType := mediaType
      data := data
      uri := uri
      detail := string (source.get "detail")
      fileId := string ((source.get "file_id").or (source.get "fileId")) }

end EggPool.Wire.Finite
