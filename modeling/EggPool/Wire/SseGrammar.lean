import EggPool.Lib.Pieces
import EggPool.Wire.Sse

/-!
# The grammar of an event stream

The stream format says what a whole text means: it has lines, a blank line ends a record,
and a record has fields. The decoder is a machine that reads one character at a time and
puts off a carriage return until it knows what follows. Here the format is written down for
whole texts, and the machine is shown to deliver what it says.

The machine is followed in three steps. A carriage return that is put off is a line end
like any other (`readClose_unifyEnds`); between two line ends the machine collects a line
(`readClose_eq_runLines`); between two blank lines it collects a record
(`runLines_records`).

Comment lines are where the decoder and the format part. The format drops them. The
decoder keeps them as fields without a name, and hands out a record of comments only as a
frame of its own, flagged as such.
-/

namespace EggPool.Wire

open List EggPool.Lib Nat

/-! ## Texts, lines, records -/

namespace SseGrammar

/-- A line ends at CR LF, at CR and at LF; here each of them becomes one LF. -/
def unifyEnds : List Char → List Char
  | '\r' :: '\n' :: text => '\n' :: unifyEnds text
  | '\r' :: text => '\n' :: unifyEnds text
  | c :: text => c :: unifyEnds text
  | [] => []

/-- The lines of a text; the last one need not be ended. -/
def lines (text : List Char) : List (List Char) :=
  (pieces (· == '\n') (unifyEnds text)).map Prod.fst

/-- The records of a text and whether a blank line ended each. -/
def records (text : List Char) : List (List (List Char) × Bool) :=
  pieces List.isEmpty (lines text)

def isComment (line : List Char) : Bool := line.head? == some ':'

def lineBytes (line : List Char) : Nat := (line.map Char.utf8Size).sum

/-- Bytes of a record; every line counts one for its end, and so does the blank line. -/
def recordBytes (record : List (List Char) × Bool) : Nat :=
  (record.1.map fun line => lineBytes line + 1).sum + if record.2 then 1 else 0

/-- A value loses one blank in front, if it has one. -/
def fieldValue : List Char → List Char
  | ' ' :: value => value
  | value => value

/-- Name and value of a line that is not a comment. -/
def field (line : List Char) : String × String :=
  (String.ofList (line.takeWhile (· ≠ ':')),
    String.ofList (fieldValue (line.dropWhile (· ≠ ':')).tail))

/-- The values of the fields of one name, in order. -/
def valuesOf (name : String) (fields : List (String × String)) : List String :=
  (fields.filter (·.1 == name)).map Prod.snd

/-- What a record says. -/
structure Event where
  event : Option String
  data : String
  fields : List (String × String)
  deriving DecidableEq, Repr

/-- The event of a record: the last name wins, and the data is one text. -/
def eventOf (record : List (List Char)) : Event :=
  let fields := record.map field
  { event := (valuesOf "event" fields).getLast?
    data := "\n".intercalate (valuesOf "data" fields)
    fields := fields }

/-- **The format**: comment lines do not count, and every record that has a line is an event. -/
def events (text : List Char) : List Event :=
  ((pieces List.isEmpty ((lines text).filter (!isComment ·))).filter (!·.1.isEmpty)).map
    (eventOf ·.1)

/-- The field the decoder makes of a line: a comment is a field without a name. -/
def lineField (line : List Char) : String × String :=
  if isComment line then ("", String.ofList line.tail) else field line

/-- The frame of a record with its comments. -/
def frameOf (record : List (List Char) × Bool) : SseFrame :=
  let fields := record.1.map lineField
  { event := (valuesOf "event" fields).getLast?
    data := "\n".intercalate (valuesOf "data" fields)
    fields := fields
    isCommentOnly := record.1.all isComment
    byteCount := recordBytes record }

/-- A frame for every record that has a line. -/
def frames (text : List Char) : List SseFrame :=
  ((records text).filter (!·.1.isEmpty)).map frameOf

/-- A frame without what the comments left in it. -/
def withoutComments (frame : SseFrame) : Event where
  event := frame.event
  data := frame.data
  fields := frame.fields.filter (!·.1.isEmpty)

/-- The text of a byte string, with what cannot be read replaced. -/
def textOf (bytes : List UInt8) : List Char :=
  (SseDecoder.flush true (Utf8.decode bytes)).text

end SseGrammar

/-! ## The machine, with the end of the input -/

namespace SseAssembly

variable (out : Except SseDecodeError (SseAssembly × List SseFrame))

/-- One part of the machine's work after another; the frames add up. -/
def andThen (next : SseAssembly → Except SseDecodeError (SseAssembly × List SseFrame)) :
    Except SseDecodeError (SseAssembly × List SseFrame) :=
  match out with
  | .error e => .error e
  | .ok (a, frames) =>
    match next a with
    | .error e => .error e
    | .ok (a, more) => .ok (a, frames ++ more)

theorem andThen_assoc (n last : SseAssembly → Except SseDecodeError (SseAssembly × List SseFrame)) :
    andThen (andThen out n) last = andThen out fun a => andThen (n a) last := by
  rcases out with e | ⟨a, frames⟩
  · rfl
  dsimp only [andThen]
  rcases n a with e | ⟨a, more⟩
  · rfl
  dsimp only
  rcases last a with e | ⟨a, rest⟩
  · rfl
  · dsimp only
    rw [append_assoc]

variable (a : SseAssembly)

theorem ok_andThen (n : SseAssembly → Except SseDecodeError (SseAssembly × List SseFrame)) :
    andThen (.ok (a, [])) n = n a := by
  dsimp only [andThen]
  rcases n a with e | ⟨a, more⟩ <;> rfl

theorem andThen_ok : (andThen out fun a => .ok (a, [])) = out := by
  rcases out with e | ⟨a, frames⟩
  · rfl
  · dsimp only [andThen]
    rw [append_nil]

/-- What follows is only reached through a success. -/
theorem andThen_congr {out : Except SseDecodeError (SseAssembly × List SseFrame)}
    {n next' : SseAssembly → Except SseDecodeError (SseAssembly × List SseFrame)}
    (h : ∀ a frames, out = .ok (a, frames) → n a = next' a) : andThen out n = andThen out next':= by
  rcases out with e | ⟨a, frames⟩
  · rfl
  · dsimp only [andThen]
    rw [h a frames rfl]

theorem read_cons (c : Char) (t : List Char) : a.read (c :: t) = andThen (a.step c) (·.read t) := by
  rw [read]
  rcases a.step c with e | ⟨a, frames⟩ <;> rfl

/-- Between two lines nothing of a line is held. -/
structure BetweenLines (a : SseAssembly) : Prop where
  line : a.lineBuffer = []
  bytes : a.lineBufferBytes = 0
  noCr : a.pendingCr = false

/-- The record at the end of the input. -/
def closeRecord : Except SseDecodeError (SseAssembly × List SseFrame) :=
  if a.fields.isEmpty then .ok (a, [])
  else .ok (a.emitFrame.1, a.emitFrame.2.toList)

/-- All of a text and the end of the input. -/
def readClose (text : List Char) : Except SseDecodeError (SseAssembly × List SseFrame) :=
  andThen (a.read text) close

theorem close_eq : a.close = andThen (if a.pendingCr then { a with pendingCr := false }.finishLine
        else if !a.lineBuffer.isEmpty then a.finishLine else .ok (a, [])) closeRecord := by
  unfold close
  generalize (if a.pendingCr then { a with pendingCr := false }.finishLine
    else if !a.lineBuffer.isEmpty then a.finishLine else .ok (a, [])) = out
  rcases out with e | ⟨a, frames⟩
  · rfl
  dsimp only [andThen, closeRecord]
  by_cases h : a.fields.isEmpty = true
  · rw [if_pos h, if_pos h]
    simp only [append_nil]
  · rw [if_neg h, if_neg h]

theorem close_of_betweenLines {a : SseAssembly} (h : a.BetweenLines) : a.close = a.closeRecord := by
  rw [close_eq, h.noCr, h.line, if_neg Bool.false_ne_true, isEmpty_nil, Bool.not_true,
    if_neg Bool.false_ne_true, ok_andThen]

/-- A line end leaves nothing of the line. -/
theorem finishLine_betweenLines {a b : SseAssembly} {f : List SseFrame}
    (hcr : a.pendingCr = false) (h : a.finishLine = .ok (b, f)) :
    b.BetweenLines ∧ b.maxFrameBytes = a.maxFrameBytes := by
  unfold finishLine at h
  dsimp only at h
  split at h
  · nomatch h
  split at h
  · cases h
    unfold emitFrame
    split
    · exact ⟨⟨rfl, rfl, hcr⟩, rfl⟩
    · exact ⟨⟨rfl, rfl, hcr⟩, rfl⟩
  · cases h
    unfold processLine
    split
    · exact ⟨⟨rfl, rfl, hcr⟩, rfl⟩
    dsimp only
    split
    · exact ⟨⟨rfl, rfl, hcr⟩, rfl⟩
    split
    · exact ⟨⟨rfl, rfl, hcr⟩, rfl⟩
    · exact ⟨⟨rfl, rfl, hcr⟩, rfl⟩

end SseAssembly

/-! ## Line ends -/

namespace SseAssembly

theorem step_eq_put {a : SseAssembly} (h : a.pendingCr = false) (c : Char) : a.step c = a.put c := by
  unfold step
  rw [h, if_neg Bool.false_ne_true]

theorem step_pending (a : SseAssembly) (c : Char) : { a with pendingCr := true }.step c =
      andThen { a with pendingCr := false }.finishLine fun b =>
        if c = '\n' then .ok (b, []) else b.put c := by
  unfold step
  rw [if_pos rfl]
  generalize { a with pendingCr := false }.finishLine = out
  rcases out with e | ⟨b, frames⟩
  · rfl
  dsimp only [andThen]
  by_cases hc : c = '\n'
  · rw [if_pos hc, if_pos hc]
    simp only [append_nil]
  · rcases b.put c with e | ⟨b, more⟩ <;> rw [if_neg hc, if_neg hc]

/-- Only a carriage return is put off. -/
theorem step_noCr {a b : SseAssembly} {c : Char} {f : List SseFrame}
    (h : a.pendingCr = false) (hc : c ≠ '\r') (hs : a.step c = .ok (b, f)) :
    b.pendingCr = false := by
  rw [step_eq_put h] at hs
  unfold put at hs
  rw [if_neg hc] at hs
  split at hs
  · exact (finishLine_betweenLines h hs).1.noCr
  dsimp only at hs
  split at hs
  · nomatch hs
  · cases hs
    exact h

theorem readClose_cons (a : SseAssembly) (c : Char) (t : List Char) :
    a.readClose (c :: t) = andThen (a.step c) (·.readClose t) := by
  rw [readClose, read_cons, andThen_assoc]
  rfl

/-- A line feed ends the line. -/
theorem readClose_lf {a : SseAssembly} (h : a.pendingCr = false) (t : List Char) :
    a.readClose ('\n' :: t) = andThen a.finishLine (·.readClose t) := by
  rw [readClose_cons, step_eq_put h]
  rfl

/-- A carriage return ends it as well, and takes a line feed behind it with it. -/
theorem readClose_cr {a : SseAssembly} (h : a.pendingCr = false) (t : List Char) :
    a.readClose ('\r' :: t) =
      andThen a.finishLine (·.readClose (if t.head? = some '\n' then t.tail else t)) := by
  have hs : { a with pendingCr := false } = a := by rw [← h]
  have hp : a.step '\r' = .ok ({ a with pendingCr := true }, []) := by
    rw [step_eq_put h]
    rfl
  rw [readClose_cons, hp, ok_andThen]
  cases t with
  | nil =>
    rw [readClose, read, ok_andThen, close_eq, if_pos rfl]
    rw [hs]
    refine andThen_congr fun b frames hb => ?_
    rw [if_neg (by simp), readClose, read, ok_andThen,
    close_of_betweenLines (finishLine_betweenLines h hb).1]
  | cons c t =>
    rw [readClose_cons, step_pending, hs, andThen_assoc]
    refine andThen_congr fun b frames hb => ?_
    by_cases hc : c = '\n'
    · rw [if_pos hc, if_pos (by rw [hc]; rfl), ok_andThen]
      rfl
    have hhe : ¬ (c :: t).head? = some '\n' := fun hh => hc (Option.some.inj hh)
    rw [if_neg hc, if_neg hhe, readClose_cons, step_eq_put (finishLine_betweenLines h hb).1.noCr]

/-- **Reading with line ends of any kind is reading with line feeds.** -/
theorem readClose_unifyEnds (t : List Char) : ∀ {a : SseAssembly}, a.pendingCr = false →
    a.readClose t = a.readClose (SseGrammar.unifyEnds t) := by
  induction t using SseGrammar.unifyEnds.induct with
  | case1 t ih =>
    intro a h
    rw [SseGrammar.unifyEnds, readClose_cr h, readClose_lf h]
    exact andThen_congr fun b frames hb => ih (finishLine_betweenLines h hb).1.noCr
  | case2 t hn ih =>
    intro a h
    have hhe : ¬ t.head? = some '\n' := by
      intro hh
      obtain ⟨rest, rfl⟩ := List.head?_eq_some_iff.1 hh
      exact hn rest rfl
    rw [SseGrammar.unifyEnds, readClose_cr h, readClose_lf h, if_neg hhe]
    · exact andThen_congr fun b frames hb => ih (finishLine_betweenLines h hb).1.noCr
    · exact hn
  | case3 c t hc hcr ih =>
    intro a h
    rw [SseGrammar.unifyEnds, readClose_cons, readClose_cons]
    · refine andThen_congr fun b frames hb => ?_
      exact ih (step_noCr h hcr hb)
    · exact hc
    · exact hcr
  | case4 => intros; rfl

end SseAssembly

/-! ## Lines -/

namespace SseGrammar

theorem cr_notMem_unifyEnds (t : List Char) : ∀ c ∈ unifyEnds t, c ≠ '\r' := by
  fun_induction unifyEnds t with
  | case1 t ih | case2 t hn ih => exact forall_mem_cons.2 ⟨by decide, ih⟩
  | case3 c t hc hcr ih => exact forall_mem_cons.2 ⟨hcr, ih⟩
  | case4 => exact forall_mem_nil _

theorem lineBytes_cons (c : Char) (line : List Char) :
    lineBytes (c :: line) = c.utf8Size + lineBytes line := by
  rfl

end SseGrammar

namespace SseAssembly

open SseGrammar

/-- What is held once some characters of a line have been read. -/
def holdLine (a : SseAssembly) (line : List Char) : SseAssembly :=
  { a with
    lineBuffer := a.lineBuffer ++ line
    lineBufferBytes := a.lineBufferBytes + lineBytes line }

/-- A whole line at once. -/
def endLine (a : SseAssembly) (line : List Char) :
    Except SseDecodeError (SseAssembly × List SseFrame) :=
  (a.holdLine line).finishLine

/-- Whole lines one after another. -/
def runLines (a : SseAssembly) : List (List Char) →
    Except SseDecodeError (SseAssembly × List SseFrame)
  | [] => .ok (a, [])
  | line :: lines => andThen (a.endLine line) (·.runLines lines)

/-- The characters of a line are collected, as long as the line fits. -/
theorem read_line {l : List Char} (hln : ∀ c ∈ l, c ≠ '\r' ∧ c ≠ '\n') :
    ∀ {a : SseAssembly}, a.pendingCr = false → a.lineBufferBytes + lineBytes l ≤ a.maxFrameBytes →
        a.read l = .ok (a.holdLine l, []) := by
  induction l with
  | nil =>
    intro a hcr hfit
    rw [read, holdLine, append_nil]
    rfl
  | cons c l ih =>
    intro a hcr hfit
    obtain ⟨hc, hln⟩ := forall_mem_cons.1 hln
    rw [lineBytes_cons] at hfit
    have hp : a.put c = .ok (a.holdLine [c], []) := by
      have ho : lineBytes [c] = c.utf8Size := by rw [lineBytes_cons]; rfl
      rw [put, if_neg hc.1, if_neg hc.2]
      dsimp only
      rw [if_neg (by omega), holdLine, ho]
    rw [read_cons, step_eq_put hcr, hp, ok_andThen, ih hln]
    · -- one character and the rest are the line
      simp only [holdLine, append_assoc, singleton_append, lineBytes, map_cons,
        map_nil, sum_cons, sum_nil, add_zero, add_assoc]
    · exact hcr
    · simp only [holdLine, lineBytes, map_cons, map_nil, sum_cons, sum_nil]
      simp only [lineBytes] at hfit
      omega

theorem BetweenLines.read_line {a : SseAssembly} (ha : a.BetweenLines) {l : List Char}
    (hcr : ∀ c ∈ l, c ≠ '\r') (hlf : ∀ c ∈ l, (c == '\n') = false)
    (hfit : lineBytes l ≤ a.maxFrameBytes) : a.read l = .ok (a.holdLine l, []) := by
  refine SseAssembly.read_line (fun c hc => ⟨hcr c hc, ?_⟩) ha.noCr ?_
  · exact beq_eq_false_iff_ne.1 (hlf c hc)
  · rwa [ha.bytes, zero_add]

theorem runLines_singleton (a : SseAssembly) (line : List Char) :
    a.runLines [line] = a.endLine line := by
  simp only [runLines, andThen_ok]

theorem readClose_append {a b : SseAssembly} {t : List Char} (h : a.read t = .ok (b, []))
    (rest : List Char) : a.readClose (t ++ rest) = b.readClose rest := by
  rw [readClose, readClose, read_append, h]
  dsimp only
  rcases b.read rest with e | ⟨b, frames⟩ <;> rfl

/-- **Between two line ends the machine collects a line**, and the last one may be open. -/
theorem readClose_eq_runLines (t : List Char) : ∀ {a : SseAssembly}, a.BetweenLines →
    (∀ c ∈ t, c ≠ '\r') →
    (∀ line ∈ (pieces (· == '\n') t).map Prod.fst, lineBytes line ≤ a.maxFrameBytes) →
      a.readClose t = andThen (a.runLines ((pieces (· == '\n') t).map Prod.fst)) closeRecord:= by
  induction t using pieces_induction with
  | nil =>
    intro a ha _ _
    rw [readClose, read, ok_andThen, close_of_betweenLines ha, pieces, map_nil, runLines,
      ok_andThen]
  | opened line hln hne =>
    intro a ha hcr hfit
    rw [pieces_open hln hne, map_cons, map_nil] at hfit ⊢
    have hr := ha.read_line hcr hln (hfit line mem_cons_self)
    have ho : (a.holdLine line).lineBuffer.isEmpty = false := by
      rw [holdLine, ha.line, nil_append]
      simpa using hne
    have hcr : ¬ (a.holdLine line).pendingCr = true := by
      rw [holdLine, ha.noCr]
      exact Bool.false_ne_true
    rw [readClose, hr, ok_andThen, close_eq, runLines_singleton, endLine, if_neg hcr, ho,
      Bool.not_false, if_pos rfl]
  | ended line c t hln hc ih =>
    intro a ha hcr hfit
    have hlf : c = '\n' := eq_of_beq hc
    rw [pieces_ended hln hc, map_cons] at hfit ⊢
    have hr := ha.read_line (fun c hc => hcr c (mem_append_left _ hc)) hln
      (hfit line mem_cons_self)
    rw [readClose_append hr, hlf, readClose_lf (a := a.holdLine line) ha.noCr, runLines, andThen_assoc]
    refine andThen_congr fun b frames hb => ?_
    obtain ⟨hb, hm⟩ := finishLine_betweenLines (a := a.holdLine line) ha.noCr hb
    refine ih hb (fun c hc => hcr c ?_) fun line hmem => ?_
    · exact mem_append_right _ (mem_cons_of_mem _ hc)
    · rw [hm]
      exact hfit line (mem_cons_of_mem _ hmem)

end SseAssembly

/-! ## Records -/

namespace SseAssembly

open SseGrammar

/-- What is held between two lines of a record. -/
def holding (maxFrameBytes : Nat) (record : List (List Char)) : SseAssembly where
  maxFrameBytes := maxFrameBytes
  lineBuffer := []
  lineBufferBytes := 0
  pendingCr := false
  fields := record.map lineField
  dataLines := valuesOf "data" (record.map lineField)
  event := (valuesOf "event" (record.map lineField)).getLast?
  frameBytes := recordBytes (record, false)

theorem splitField_eq (line : List Char) : splitField line = field line := by
  unfold splitField field
  rcases h : line.dropWhile (· ≠ ':') with _ | ⟨c, value⟩
  · have hall := takeWhile_append_dropWhile (p := (· ≠ ':')) (l := line)
    rw [h, append_nil] at hall
    rw [hall]
    rfl
  · exact rfl

/-- The values of one name after one more field. -/
theorem valuesOf_append (n : String) (fields : List (String × String)) (f : String × String) :
    valuesOf n (fields ++ [f]) =
      if f.1 = n then valuesOf n fields ++ [f.2] else valuesOf n fields := by
  unfold valuesOf
  rw [filter_append, map_append]
  by_cases h : f.1 = n
  · rw [if_pos h, filter_cons_of_pos (by simpa using h)]
    rfl
  · rw [if_neg h, filter_cons_of_neg (by simpa using h)]
    simp only [filter_nil, map_nil, append_nil]

/-- The field of a line is what `process_line` appends, and where it counts. -/
theorem processLine_eq (a : SseAssembly) {line : List Char} (hne : line.isEmpty = false) :
    a.processLine line =
      { a with
        fields := a.fields ++ [lineField line]
        event := if (lineField line).1 = "event" then some (lineField line).2 else a.event
        dataLines := if (lineField line).1 = "data" then a.dataLines ++ [(lineField line).2]
          else a.dataLines } := by
  unfold processLine
  split
  · -- a comment: its field has no name
    rfl
  rename_i hm
  have hf : lineField line = splitField line := by
    rw [splitField_eq, lineField, if_neg]
    cases line with
    | nil => nomatch hne
    | cons c rest =>
      intro hc
      obtain rfl : c = ':' := Option.some.inj (eq_of_beq hc)
      exact hm rest rfl
  rw [hf]
  dsimp only
  by_cases hev : (splitField line).1 = "event"
  · have hd : ¬ (splitField line).1 = "data" := by
      rw [hev]
      decide
    rw [if_pos hev, if_pos hev, if_neg hd]
  · rw [if_neg hev, if_neg hev]
    by_cases hd : (splitField line).1 = "data"
    · rw [if_pos hd, if_pos hd]
    · rw [if_neg hd, if_neg hd]

theorem recordBytes_append (record : List (List Char)) (l : List Char) :
    recordBytes (record ++ [l], false) = recordBytes (record, false) + (lineBytes l + 1) := by
  simp only [recordBytes, map_append, map_cons, map_nil, sum_append,
    sum_cons, sum_nil, Bool.false_eq_true, if_false, add_zero]

theorem finishLine_line {a : SseAssembly} (hne : a.lineBuffer.isEmpty = false)
    (hr : a.frameBytes + (a.lineBufferBytes + 1) ≤ a.maxFrameBytes) : a.finishLine = .ok ({ a with
        frameBytes := a.frameBytes + (a.lineBufferBytes + 1)
        lineBuffer := []
        lineBufferBytes := 0 }.processLine a.lineBuffer, []) := by
  unfold finishLine
  rw [if_neg (not_lt.2 hr), if_neg (ne_true_of_eq_false hne)]

theorem finishLine_blank {a : SseAssembly} (hln : a.lineBuffer = [])
    (hr : a.frameBytes + (a.lineBufferBytes + 1) ≤ a.maxFrameBytes) : a.finishLine = .ok
      (Prod.map id Option.toList { a with
        frameBytes := a.frameBytes + (a.lineBufferBytes + 1)
        lineBuffer := []
        lineBufferBytes := 0 }.emitFrame) := by
  unfold finishLine
  rw [if_neg (not_lt.2 hr), if_pos (by rw [hln]; rfl)]
  rfl

variable {maxFrameBytes : Nat} {record : List (List Char)}

/-- A line that is not blank joins the record. -/
theorem endLine_holding {l : List Char}
    (hne : l.isEmpty = false) (hfit : recordBytes (record ++ [l], false) ≤ maxFrameBytes) :
    (holding maxFrameBytes record).endLine l = .ok (holding maxFrameBytes (record ++ [l]), []):= by
  rw [recordBytes_append] at hfit
  rw [endLine, finishLine_line, processLine_eq]
  · simp only [holdLine, holding, map_append, recordBytes_append, zero_add,
      map_cons, map_nil, valuesOf_append, nil_append]
    by_cases hev : (lineField l).1 = "event"
    · rw [if_pos hev, if_pos hev, List.getLast?_append, List.getLast?_singleton, Option.some_or]
    · rw [if_neg hev, if_neg hev]
  · simpa [holdLine, holding] using hne
  · simpa [holdLine, holding] using hne
  · simpa [holdLine, holding] using hfit

/-- The lines of one record. -/
theorem runLines_holding (lines : List (List Char)) :
    ∀ {record : List (List Char)}, (∀ line ∈ lines, line.isEmpty = false) →
      recordBytes (record ++ lines, false) ≤ maxFrameBytes →
        (holding maxFrameBytes record).runLines lines =
          .ok (holding maxFrameBytes (record ++ lines), []) := by
  induction lines with
  | nil =>
    intro record _ _
    rw [runLines, append_nil]
  | cons line lines ih =>
    intro record hl hfit
    obtain ⟨hln, hl⟩ := forall_mem_cons.1 hl
    have hw : record ++ line :: lines = record ++ [line] ++ lines := by
      rw [append_assoc, singleton_append]
    rw [hw] at hfit ⊢
    have hn : recordBytes (record ++ [line], false) ≤ maxFrameBytes := by
      refine le_trans ?_ hfit
      simp only [recordBytes, map_append, sum_append]
      omega
    rw [runLines, endLine_holding hln hn, ok_andThen, ih hl hfit]

/-- Only a comment gives a field without a name. -/
theorem lineField_isEmpty {line : List Char} (hne : line.isEmpty = false) :
    (lineField line).1.isEmpty = isComment line := by
  cases line with
  | nil => nomatch hne
  | cons c line =>
    by_cases hc : c = ':'
    · rw [hc]
      rfl
    have hm : isComment (c :: line) = false := by simp [isComment, hc]
    have hn : (c :: line).takeWhile (· ≠ ':') = c :: line.takeWhile (· ≠ ':') :=
      takeWhile_cons_of_pos (by simpa using hc)
    rw [lineField, hm, field, hn]
    simp

/-- The record that is held is what is handed out. -/
theorem emitFrame_holding (maxFrameBytes : Nat) {record : List (List Char)} (en : Bool)
    (hl : ∀ line ∈ record, line.isEmpty = false) :
    { holding maxFrameBytes record with frameBytes := recordBytes (record, en) }.emitFrame =
      (holding maxFrameBytes [],
        if record.isEmpty then none else some (frameOf (record, en))) := by
  cases record with
  | nil => rfl
  | cons line record =>
    have hc : ((line :: record).map lineField).all (fun f => f.1.isEmpty) =
        (line :: record).all isComment := by
      rw [all_map, Bool.eq_iff_iff, List.all_eq_true, List.all_eq_true]
      refine forall₂_congr fun line hln => ?_
      rw [Function.comp, lineField_isEmpty (hl line hln)]
    unfold emitFrame
    dsimp only [holding]
    rw [hc]
    rfl

/-- A blank line hands out the record, if it has a line. -/
theorem endLine_blank (hl : ∀ line ∈ record, line.isEmpty = false)
    (hfit : recordBytes (record, true) ≤ maxFrameBytes) :
    (holding maxFrameBytes record).endLine [] = .ok (holding maxFrameBytes [],
        if record.isEmpty then [] else [frameOf (record, true)]) := by
  have hb : recordBytes (record, false) + (0 + 0 + 1) = recordBytes (record, true) := by
    simp only [recordBytes, if_true, Bool.false_eq_true, if_false, zero_add]
  have hbl : ((holding maxFrameBytes record).holdLine []).lineBuffer = [] := rfl
  rw [endLine, finishLine_blank hbl (hb ▸ hfit)]
  have he := emitFrame_holding maxFrameBytes true hl
  refine (congrArg (fun out => Except.ok (Prod.map id Option.toList out)) he).trans ?_
  cases record with
  | nil | cons => rfl

/-- The end of the input hands out the record as well. -/
theorem closeRecord_holding (hl : ∀ line ∈ record, line.isEmpty = false) :
    (holding maxFrameBytes record).closeRecord = .ok (holding maxFrameBytes [],
        if record.isEmpty then [] else [frameOf (record, false)]) := by
  cases record with
  | nil => rfl
  | cons line record =>
    have he := emitFrame_holding maxFrameBytes false hl
    exact congrArg (fun out => Except.ok (Prod.map id Option.toList out)) he

theorem runLines_append (f s : List (List Char)) : ∀ a : SseAssembly,
    a.runLines (f ++ s) = andThen (a.runLines f) (·.runLines s) := by
  induction f with
  | nil =>
    intro a
    rw [nil_append, runLines, ok_andThen]
  | cons line f ih =>
    intro a
    rw [cons_append, runLines, runLines, andThen_assoc]
    exact andThen_congr fun b frames _ => ih b

/-- What records give, with one more in front. -/
theorem map_records_cons {γ : Type} (g : List (List Char) × Bool → γ) (record : List (List Char))
    (en : Bool) (r : List (List (List Char) × Bool)) :
    (((record, en) :: r).filter (!·.1.isEmpty)).map g =
      (if record.isEmpty then [] else [g (record, en)]) ++ (r.filter (!·.1.isEmpty)).map g := by
  cases record with
  | nil | cons => rfl

/-- **Between two blank lines the machine collects a record**, and the last one may be open. -/
theorem runLines_records (l : List (List Char)) :
    (∀ record ∈ pieces List.isEmpty l, recordBytes record ≤ maxFrameBytes) →
      andThen ((holding maxFrameBytes []).runLines l) closeRecord = .ok (holding maxFrameBytes [],
          ((pieces List.isEmpty l).filter (!·.1.isEmpty)).map frameOf) := by
  induction l using pieces_induction with
  | nil =>
    intro _
    rfl
  | opened record hl hne =>
    intro hfit
    rw [pieces_open hl hne] at hfit ⊢
    rw [runLines_holding record hl (hfit _ mem_cons_self), ok_andThen, nil_append,
      closeRecord_holding hl, map_records_cons, filter_nil, map_nil, append_nil]
  | ended record blank l hl hb ih =>
    intro hfit
    rw [pieces_ended hl hb] at hfit ⊢
    obtain ⟨hrec, hfit⟩ := forall_mem_cons.1 hfit
    have ho : recordBytes (record, false) ≤ maxFrameBytes := by
      refine le_trans ?_ hrec
      simp only [recordBytes, Bool.false_eq_true, if_false, add_zero, le_add_right]
    rw [runLines_append, runLines_holding record hl ho, ok_andThen, nil_append, runLines,
      List.isEmpty_iff.1 hb, endLine_blank hl hrec, andThen_assoc, andThen, ih hfit, map_records_cons]

end SseAssembly

/-! ## Comments -/

namespace SseGrammar

variable {record : List (List Char)}

/-- The fields that have a name are those of the lines that are not comments. -/
theorem named_fields (hl : ∀ line ∈ record, line.isEmpty = false) :
    (record.map lineField).filter (!·.1.isEmpty) = (record.filter (!isComment ·)).map field := by
  have hn : record.filter ((!·.1.isEmpty) ∘ lineField) = record.filter (!isComment ·) :=
    filter_congr fun line hln => by
      rw [Function.comp, SseAssembly.lineField_isEmpty (hl line hln)]
  rw [filter_map, hn]
  refine map_congr_left fun line hln => ?_
  have hc := (mem_filter.1 hln).2
  rw [lineField, if_neg (by simpa using hc)]

/-- Leaving fields out by their names leaves the values of the other names. -/
theorem valuesOf_filter (q : String → Bool) (n : String) (fields : List (String × String)) :
    valuesOf n (fields.filter (q ·.1)) = if q n then valuesOf n fields else [] := by
  have hf : ∀ f ∈ fields, (f.1 == n && q f.1) = (f.1 == n && q n) := by
    intro f _
    by_cases h : f.1 = n
    · rw [h]
    · rw [beq_eq_false_iff_ne.2 h, Bool.false_and, Bool.false_and]
  rw [valuesOf, filter_filter, filter_congr hf]
  cases q n with
  | true => simp only [Bool.and_true, if_true, valuesOf]
  | false => simp

theorem withoutComments_frameOf (en : Bool) (hl : ∀ line ∈ record, line.isEmpty = false) :
    withoutComments (frameOf (record, en)) = eventOf (record.filter (!isComment ·)) := by
  unfold withoutComments eventOf
  dsimp only [frameOf]
  rw [← named_fields hl, valuesOf_filter (!·.isEmpty), valuesOf_filter (!·.isEmpty)]
  rfl

/-- The events of one record, with and without its comments. -/
theorem event_of_record (en : Bool) (hl : ∀ line ∈ record, line.isEmpty = false) :
    (if (record.filter (!isComment ·)).isEmpty then []
        else [eventOf (record.filter (!isComment ·))]) =
      ((if record.isEmpty then [] else [frameOf (record, en)]).filter
        (!·.isCommentOnly)).map withoutComments := by
  have hs : (record.filter (!isComment ·)).isEmpty = record.all isComment := by
    rw [Bool.eq_iff_iff, List.isEmpty_iff, List.filter_eq_nil_iff, List.all_eq_true]
    simp only [Bool.not_eq_true', Bool.not_eq_false]
  rw [hs, ← withoutComments_frameOf en hl]
  cases record with
  | nil => rfl
  | cons line record =>
    cases hc : (line :: record).all isComment with
    | true => simp [frameOf, hc]
    | false => simp [frameOf, hc]

/-- **Without the comments the frames are the events of the format.** -/
theorem events_eq_frames (l : List (List Char)) :
    ((pieces List.isEmpty (l.filter (!isComment ·))).filter (!·.1.isEmpty)).map (eventOf ·.1) =
      ((((pieces List.isEmpty l).filter (!·.1.isEmpty)).map frameOf).filter
        (!·.isCommentOnly)).map withoutComments := by
  induction l using pieces_induction with
  | nil => rfl
  | opened record hl hne =>
    rw [pieces_open hl hne, SseAssembly.map_records_cons, filter_nil, map_nil,
      append_nil, ← event_of_record false hl]
    by_cases hn : record.filter (!isComment ·) = []
    · rw [hn]
      rfl
    have hk : ∀ line ∈ record.filter (!isComment ·), line.isEmpty = false :=
      fun line hln => hl line (mem_of_mem_filter hln)
    rw [pieces_open hk hn, SseAssembly.map_records_cons, filter_nil, map_nil, append_nil]
  | ended record blank l hl hb ih =>
    have hk : ∀ line ∈ record.filter (!isComment ·), line.isEmpty = false :=
      fun line hln => hl line (mem_of_mem_filter hln)
    have ht : (!isComment blank) = true := by
      rw [List.isEmpty_iff.1 hb]
      rfl
    rw [filter_append, filter_cons, if_pos ht, pieces_ended hk hb,
      pieces_ended hl hb, SseAssembly.map_records_cons, SseAssembly.map_records_cons, filter_append,
      map_append, ← event_of_record true hl, ih]

end SseGrammar

/-! ## The decoder -/

namespace SseDecoder

open SseGrammar

/-- What the end of the input adds to the text and to the replacements. -/
theorem flush_eq {d : Utf8.Decoded} (h : Utf8.scan d.rest = .incomplete) :
    (flush true d).text = d.text ++ (decodeUtf8Pending true d.rest).text ∧
      (flush true d).replaced = d.replaced + (decodeUtf8Pending true d.rest).replaced := by
  rw [decodeUtf8Pending_eq, Utf8.decode_incomplete h]
  obtain ⟨text, replaced, rest⟩ := d
  cases rest with
  | nil => exact ⟨(append_nil text).symm, rfl⟩
  | cons b rest => exact ⟨rfl, rfl⟩

/-- A decoder that gets everything at once reads the whole text. -/
theorem decodeChunks_whole (maxFrameBytes : Nat) (bytes : List UInt8) :
    decodeChunks maxFrameBytes [bytes] =
      ((SseAssembly.holding maxFrameBytes []).readClose (textOf bytes)).map fun out =>
        (out.2, (flush true (Utf8.decode bytes)).replaced) := by
  obtain ⟨ht, hr⟩ := flush_eq (Utf8.scan_rest bytes)
  unfold decodeChunks
  rw [feedAll_eq [bytes] rfl rfl, feed_eq rfl, textOf, ht, hr, SseAssembly.readClose,
    SseAssembly.read_append]
  have hb : (new maxFrameBytes).utf8Pending ++ [bytes].flatten = bytes := by
    rw [flatten_singleton]
    rfl
  have hnew : (new maxFrameBytes).toSseAssembly = SseAssembly.holding maxFrameBytes [] := rfl
  rw [hb, hnew]
  rcases (SseAssembly.holding maxFrameBytes []).read (Utf8.decode bytes).text with e | ⟨a, frames⟩
  · rfl
  dsimp only
  unfold finish
  rw [if_neg (by exact Bool.false_ne_true)]
  dsimp only [advance]
  rcases a.read (decodeUtf8Pending true (Utf8.decode bytes).rest).text with e | ⟨a, more⟩
  · rfl
  dsimp only [SseAssembly.andThen]
  rcases a.close with e | ⟨a, rest⟩
  · rfl
  · simp only [Except.map, append_assoc, new, zero_add]

/-- No record of the text is larger than the limit. -/
def WithinLimit (maxFrameBytes : Nat) (text : List Char) : Prop :=
  ∀ record ∈ records text, recordBytes record ≤ maxFrameBytes

instance (maxFrameBytes : Nat) (text : List Char) : Decidable (WithinLimit maxFrameBytes text) :=
  inferInstanceAs (Decidable (∀ record ∈ records text, recordBytes record ≤ maxFrameBytes))

theorem lineBytes_le {maxFrameBytes : Nat} {t : List Char} (h : WithinLimit maxFrameBytes t) :
    ∀ line ∈ lines t, lineBytes line ≤ maxFrameBytes := by
  intro line hln
  cases hb : line.isEmpty with
  | true =>
    rw [List.isEmpty_iff.1 hb]
    exact zero_le _
  | false =>
    obtain ⟨record, hrec, hmem⟩ := exists_mem_pieces hb hln
    have hs : lineBytes line + 1 ≤ (record.1.map fun line => lineBytes line + 1).sum :=
      single_le_sum (fun _ _ => zero_le _) _ (mem_map_of_mem hmem)
    have hfit := h record hrec
    rw [recordBytes] at hfit
    omega

/-- The frames of a stream that stays within the limit, in whatever pieces it comes. -/
theorem decodeChunks_of_withinLimit {maxFrameBytes : Nat} {c : List (List UInt8)}
    (h : WithinLimit maxFrameBytes (textOf c.flatten)) : decodeChunks maxFrameBytes c =
      .ok (frames (textOf c.flatten), (flush true (Utf8.decode c.flatten)).replaced) := by
  have hw : decodeChunks maxFrameBytes c = decodeChunks maxFrameBytes [c.flatten] := by
    unfold decodeChunks
    rw [feedAll_eq c rfl rfl, feedAll_eq [c.flatten] rfl rfl, flatten_singleton]
  have hc : (SseAssembly.holding maxFrameBytes []).BetweenLines := ⟨rfl, rfl, rfl⟩
  rw [hw, decodeChunks_whole, SseAssembly.readClose_unifyEnds _ hc.noCr,
    SseAssembly.readClose_eq_runLines _ hc (cr_notMem_unifyEnds _) (lineBytes_le h)]
  change (SseAssembly.andThen ((SseAssembly.holding maxFrameBytes []).runLines
    (lines (textOf c.flatten))) SseAssembly.closeRecord).map _ = _
  rw [SseAssembly.runLines_records _ h]
  rfl

/--
**The decoder implements the format, comments apart.** The frames it gives for a whole
string are those of its records with their comments, and they are the events of the
format once the records of comments only and the fields without a name are taken out.
-/
theorem decodeChunks_eq_frames (maxFrameBytes : Nat) (bytes : List UInt8)
    (h : WithinLimit maxFrameBytes (textOf bytes)) : decodeChunks maxFrameBytes [bytes] =
        .ok (frames (textOf bytes), (flush true (Utf8.decode bytes)).replaced) ∧
      ((frames (textOf bytes)).filter (!·.isCommentOnly)).map withoutComments =
        events (textOf bytes) := by
  have hflat : [bytes].flatten = bytes := flatten_singleton
  have hwithin : WithinLimit maxFrameBytes (textOf [bytes].flatten) := by rwa [hflat]
  refine ⟨?_, (events_eq_frames _).symm⟩
  rw [decodeChunks_of_withinLimit hwithin, hflat]

/-- A record with a comment between two lines, and a last record that nothing ends. -/
def commentedStream : List UInt8 := "id:1\r:c\ndata: a\r\n\ndata:b".toUTF8.data.toList

theorem decodeChunks_eq_frames_commented : decodeChunks 64 [commentedStream] =
        .ok (frames (textOf commentedStream), (flush true (Utf8.decode commentedStream)).replaced) ∧
      ((frames (textOf commentedStream)).filter (!·.isCommentOnly)).map withoutComments =
        events (textOf commentedStream) :=
  decodeChunks_eq_frames 64 commentedStream (by decide +kernel)

/-- The format drops a record of comments only, and the decoder hands it out. -/
theorem comment_record_delivered : WithinLimit 64 (textOf [0x3A, 0x78, 0x0A, 0x0A]) ∧
      decodeChunks 64 [[0x3A, 0x78, 0x0A, 0x0A]] = .ok ([⟨none, "", [("", "x")], true, 4⟩], 0) ∧
      events (textOf [0x3A, 0x78, 0x0A, 0x0A]) = [] := by
  decide +kernel

end SseDecoder

end EggPool.Wire
