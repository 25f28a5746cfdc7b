import EggPool.Lib.Utf8

/-!
# Server-sent event framing

The decoder takes bytes in whatever pieces the transport delivers and hands out
complete records. Between two pieces it remembers four things: the bytes of a
character that is not complete, a carriage return that may be half of a line end, the
line so far, and the record so far.

The first of these is the only one that has to do with bytes; the rest is a machine
that reads one character at a time. So the pieces disappear in two steps: decoding in
pieces gives the characters of the whole (`Utf8.decode_append`), and a machine that
reads character by character does not see where one text ends and the next begins.

The byte counts are natural numbers. The source adds them with a check, and an
overflow is the same error as passing the limit.
-/

namespace EggPool.Wire

open EggPool.Lib Utf8

/-- One assembled event. -/
structure SseFrame where
  event : Option String
  data : String
  fields : List (String × String)
  isCommentOnly : Bool
  byteCount : Nat
  deriving DecidableEq, Repr

inductive SseDecodeError where
  | frameTooLarge (limit : Nat)
  | finished
  deriving DecidableEq, Repr

/-- What a decoder reports at the end of its input. -/
structure SseDecodeResult where
  frames : List SseFrame
  incompleteFrame : Bool
  (invalidUtf8Replacements discardedFrameCount : Nat)
  deriving DecidableEq, Repr

/-- The part of a decoder that reads characters. -/
structure SseAssembly where
  maxFrameBytes : Nat
  lineBuffer : List Char
  lineBufferBytes : Nat
  pendingCr : Bool
  fields : List (String × String)
  dataLines : List String
  event : Option String
  frameBytes : Nat
  deriving DecidableEq, Repr

structure SseDecoder extends SseAssembly where
  utf8Pending : List UInt8
  invalidUtf8Replacements : Nat
  finished : Bool
  deriving DecidableEq, Repr

namespace SseAssembly

variable (a : SseAssembly)

/-- `reset_frame` and the frame handed out, if there is anything in it. -/
def emitFrame : SseAssembly × Option SseFrame :=
  if a.fields.isEmpty then
    ({ a with fields := [], dataLines := [], event := none, frameBytes := 0 }, none)
  else
    ({ a with fields := [], dataLines := [], event := none, frameBytes := 0 },
      some {
        event := a.event
        data := "\n".intercalate a.dataLines
        fields := a.fields
        isCommentOnly := a.fields.all fun field => field.1.isEmpty
        byteCount := a.frameBytes })

/-- Name and value of a line: one blank after the colon is not part of the value. -/
def splitField (line : List Char) : String × String :=
  match line.dropWhile (· ≠ ':') with
  | [] => (String.ofList line, "")
  | _ :: value =>
    (String.ofList (line.takeWhile (· ≠ ':')),
      String.ofList (match value with
        | ' ' :: value => value
        | value => value))

def processLine (line : List Char) : SseAssembly :=
  match line with
  | ':' :: rest => { a with fields := a.fields ++ [("", String.ofList rest)] }
  | line =>
    let (name, value) := splitField line
    let a := { a with fields := a.fields ++ [(name, value)] }
    if name = "event" then { a with event := some value }
    else if name = "data" then { a with dataLines := a.dataLines ++ [value] }
    else a

def finishLine : Except SseDecodeError (SseAssembly × List SseFrame) :=
  let frameBytes := a.frameBytes + (a.lineBufferBytes + 1)
  if frameBytes > a.maxFrameBytes then .error (.frameTooLarge a.maxFrameBytes)
  else
    let line := a.lineBuffer
    let a := { a with frameBytes := frameBytes, lineBuffer := [], lineBufferBytes := 0 }
    if line.isEmpty then
      let (a, frame) := a.emitFrame
      .ok (a, frame.toList)
    else .ok (a.processLine line, [])

/-- A character outside of a pending line end. -/
def put (c : Char) : Except SseDecodeError (SseAssembly × List SseFrame) :=
  if c = '\r' then .ok ({ a with pendingCr := true }, [])
  else if c = '\n' then a.finishLine
  else
    let a := { a with
      lineBuffer := a.lineBuffer ++ [c]
      lineBufferBytes := a.lineBufferBytes + c.utf8Size }
    if a.lineBufferBytes > a.maxFrameBytes then .error (.frameTooLarge a.maxFrameBytes)
    else .ok (a, [])

/-- One character: a line feed after a carriage return belongs to it. -/
def step (c : Char) : Except SseDecodeError (SseAssembly × List SseFrame) :=
  if a.pendingCr then
    match { a with pendingCr := false }.finishLine with
    | .error e => .error e
    | .ok (a, frames) =>
      if c = '\n' then .ok (a, frames)
      else
        match a.put c with
        | .error e => .error e
        | .ok (a, more) => .ok (a, frames ++ more)
  else a.put c

/-- The loop over the characters of a text; an error loses the frames before it. -/
def read (a : SseAssembly) : List Char → Except SseDecodeError (SseAssembly × List SseFrame)
  | [] => .ok (a, [])
  | c :: text =>
    match a.step c with
    | .error e => .error e
    | .ok (a, frames) =>
      match a.read text with
      | .error e => .error e
      | .ok (a, more) => .ok (a, frames ++ more)

/-- The end of the input: an unterminated line and an unterminated record count. -/
def close : Except SseDecodeError (SseAssembly × List SseFrame) :=
  let lastLine : Except SseDecodeError (SseAssembly × List SseFrame) :=
    if a.pendingCr then { a with pendingCr := false }.finishLine
    else if !a.lineBuffer.isEmpty then a.finishLine
    else .ok (a, [])
  match lastLine with
  | .error e => .error e
  | .ok (a, frames) =>
    if a.fields.isEmpty then .ok (a, frames)
    else
      let (a, frame) := a.emitFrame
      .ok (a, frames ++ frame.toList)

end SseAssembly

namespace SseDecoder

def new (maxFrameBytes : Nat) : SseDecoder where
  maxFrameBytes := maxFrameBytes
  lineBuffer := []
  lineBufferBytes := 0
  pendingCr := false
  fields := []
  dataLines := []
  event := none
  frameBytes := 0
  utf8Pending := []
  invalidUtf8Replacements := 0
  finished := false

/--
The loop of `decode_utf8_pending` over the pending bytes: the text, the replacements
made, and the bytes that stay pending.
-/
def decodeUtf8Pending (finalChunk : Bool) (pending : List UInt8) : Utf8.Decoded :=
  match _h : Utf8.fromUtf8 pending with
  | .ok text => ⟨text, 0, []⟩
  | .error e =>
    let valid := (Utf8.fromUtf8 (pending.take e.validUpTo)).toOption.getD []
    match _hlen : e.errorLen with
    | some length =>
      let later := decodeUtf8Pending finalChunk (pending.drop (e.validUpTo + length))
      ⟨valid ++ Utf8.replacement :: later.text, later.replaced + 1, later.rest⟩
    | none =>
      if finalChunk then ⟨valid ++ [Utf8.replacement], 1, []⟩
      else ⟨valid, 0, pending.drop e.validUpTo⟩
termination_by pending.length
decreasing_by
  obtain ⟨_, _, _, _, hscan⟩ := Utf8.stop_of_error _h
  rw [_hlen] at hscan
  have hlength := Utf8.length_of_invalid hscan
  rw [List.length_drop] at hlength ⊢
  omega

/-- The decoder once the characters of a piece have been read. -/
def advance (d : SseDecoder) (decoded : Utf8.Decoded) (a : SseAssembly) : SseDecoder :=
  { d with
    toSseAssembly := a
    utf8Pending := decoded.rest
    invalidUtf8Replacements := d.invalidUtf8Replacements + decoded.replaced }

/-- Consume bytes and return the complete records. -/
def feed (d : SseDecoder) (bytes : List UInt8) :
    Except SseDecodeError (SseDecoder × List SseFrame) :=
  if d.finished then .error .finished
  else
    let decoded := decodeUtf8Pending false (d.utf8Pending ++ bytes)
    match d.toSseAssembly.read decoded.text with
    | .error e => .error e
    | .ok (a, frames) => .ok (d.advance decoded a, frames)

/-- Flush the pending bytes and the record they belong to. -/
def finish (d : SseDecoder) : Except SseDecodeError (SseDecoder × SseDecodeResult) :=
  if d.finished then .ok (d, ⟨[], false, 0, 0⟩)
  else
    let decoded := decodeUtf8Pending true d.utf8Pending
    match d.toSseAssembly.read decoded.text with
    | .error e => .error e
    | .ok (a, frames) =>
      match a.close with
      | .error e => .error e
      | .ok (a, more) =>
        let d := { d.advance decoded a with finished := true }
        .ok (d, ⟨frames ++ more, false, d.invalidUtf8Replacements, 0⟩)

/-- Feed pieces one after another, up to the first error. -/
def feedAll (d : SseDecoder) : List (List UInt8) →
    Except SseDecodeError (SseDecoder × List SseFrame)
  | [] => .ok (d, [])
  | bytes :: chunks =>
    match d.feed bytes with
    | .error e => .error e
    | .ok (d, frames) =>
      match d.feedAll chunks with
      | .error e => .error e
      | .ok (d, more) => .ok (d, frames ++ more)

/-- A fresh decoder fed with the pieces and finished: all frames, and the replacements. -/
def decodeChunks (maxFrameBytes : Nat) (chunks : List (List UInt8)) :
    Except SseDecodeError (List SseFrame × Nat) :=
  match (new maxFrameBytes).feedAll chunks with
  | .error e => .error e
  | .ok (d, frames) =>
    match d.finish with
    | .error e => .error e
    | .ok (_, result) => .ok (frames ++ result.frames, result.invalidUtf8Replacements)

end SseDecoder

/-! ## Characters do not remember pieces -/

/-- Reading two texts one after the other is reading them as one. -/
theorem SseAssembly.read_append (f s : List Char) : ∀ a : SseAssembly,
    a.read (f ++ s) = match a.read f with
      | .error e => .error e
      | .ok (a, frames) => match a.read s with
        | .error e => .error e
        | .ok (a, more) => .ok (a, frames ++ more) := by
  induction f with
  | nil =>
    intro a
    simp only [SseAssembly.read, List.nil_append]
    cases a.read s <;> rfl
  | cons c f ih =>
    intro a
    simp [SseAssembly.read]
    cases a.step c with
    | error e => rfl
    | ok out =>
      obtain ⟨a', frames⟩ := out
      dsimp only
      rw [ih a']
      cases a'.read f with
      | error e => rfl
      | ok out =>
        obtain ⟨a'', more⟩ := out
        dsimp only
        cases a''.read s with
        | error e => rfl
        | ok out =>
          dsimp only
          rw [List.append_assoc]

namespace SseDecoder

/-! ## Bytes do not either -/

/-- At the end of the input a sequence that is not complete is replaced as well. -/
def flush (finalChunk : Bool) (d : Utf8.Decoded) : Utf8.Decoded :=
  if finalChunk && !d.rest.isEmpty then ⟨d.text ++ [Utf8.replacement], d.replaced + 1, []⟩ else d

theorem flush_andThen (f : Bool) (d e : Utf8.Decoded) :
    flush f (d.andThen e) = d.andThen (flush f e) := by
  unfold flush Utf8.Decoded.andThen
  split
  · simp [Nat.add_assoc]
  · rfl

/-- **What the loop over the pending bytes gives.** -/
theorem decodeUtf8Pending_eq (f : Bool) (p : List UInt8) :
    decodeUtf8Pending f p = flush f (decode p) := by
  fun_induction decodeUtf8Pending f p with
  | case1 p text hok =>
    rw [decode_of_ok hok]
    simp [flush]
  | case2 p e he valid n hlen later ih =>
    -- a sequence that cannot be read: the loop goes on behind it
    obtain ⟨text, ht, hd, -, hc⟩ := stop_of_error he
    rw [hlen] at hc
    rw [hd, decode_invalid hc, flush_andThen, flush_andThen, List.drop_drop, ← ih]
    simp [Utf8.Decoded.andThen, Nat.add_comm, valid, later, ht, Except.toOption]
  | case3 p e he valid hlen hf | case4 p e he valid hlen hf =>
    -- the string ends within a sequence
    obtain ⟨text, ht, hd, hs, hc⟩ := stop_of_error he
    rw [hlen] at hc
    rw [hd, decode_incomplete hc, flush_andThen]
    simp [flush, hf, hs, Utf8.Decoded.andThen, valid, ht, Except.toOption]

theorem feed_eq {d : SseDecoder} (ho : d.finished = false) (b : List UInt8) :
    d.feed b = match d.toSseAssembly.read (decode (d.utf8Pending ++ b)).text with
      | .error e => .error e
      | .ok (a, frames) => .ok (d.advance (decode (d.utf8Pending ++ b)) a, frames) := by
  unfold feed
  rw [ho, decodeUtf8Pending_eq]
  rfl

/-- **Feeding pieces is feeding what they add up to.** -/
theorem feedAll_eq (c : List (List UInt8)) : ∀ {d : SseDecoder}, d.finished = false →
    scan d.utf8Pending = .incomplete → d.feedAll c = d.feed c.flatten := by
  induction c with
  | nil =>
    intro d ho hp
    rw [feed_eq ho, List.flatten_nil, List.append_nil, decode_incomplete hp]
    rfl
  | cons bytes c ih =>
    intro d ho hp
    have hw := decode_append (d.utf8Pending ++ bytes) c.flatten
    have hr := scan_rest (d.utf8Pending ++ bytes)
    rw [feed_eq ho, List.flatten_cons, ← List.append_assoc, hw]
    simp [feedAll]
    rw [feed_eq ho]
    generalize decode (d.utf8Pending ++ bytes) = now at hr
    dsimp only [Utf8.Decoded.andThen]
    rw [SseAssembly.read_append]
    cases d.toSseAssembly.read now.text with
    | error e => rfl
    | ok out =>
      obtain ⟨a, frames⟩ := out
      dsimp only
      -- the other pieces meet a decoder whose pending bytes are an open sequence
      rw [ih (d := d.advance now a) ho hr, feed_eq (d := d.advance now a) ho]
      dsimp only [advance]
      cases a.read (decode (now.rest ++ c.flatten)).text with
      | error e => rfl
      | ok out =>
        rw [Nat.add_assoc]

/--
**Framing does not depend on the pieces.** Two ways to cut the same bytes give the same
frames and the same number of replacements, or both report a frame that is too large.
-/
theorem decodeChunks_eq_of_flatten_eq (maxFrameBytes : Nat) (first second : List (List UInt8))
    (h : first.flatten = second.flatten) :
    decodeChunks maxFrameBytes first = decodeChunks maxFrameBytes second := by
  unfold decodeChunks
  rw [feedAll_eq first rfl rfl, feedAll_eq second rfl rfl, h]

/-- A character cut in two, and a record whose last line is not ended. -/
theorem decodeChunks_cut_character :
    decodeChunks 64 [[0x64, 0x61, 0x74, 0x61, 0x3A, 0xC3], [0xA9]] =
      decodeChunks 64 [[0x64, 0x61, 0x74, 0x61, 0x3A, 0xC3, 0xA9]] :=
  decodeChunks_eq_of_flatten_eq 64 _ _ rfl

end SseDecoder

end EggPool.Wire
