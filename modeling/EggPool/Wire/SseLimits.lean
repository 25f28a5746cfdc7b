import EggPool.Lib.Run
import EggPool.Wire.SseGrammar

/-!
# What a decoder holds, and for how long

`Wire.Sse` drops the decoder where a call fails, since nothing reads it afterwards. The
source does not: an error leaves the object as it was at that point, and a caller may go on
with it. Here the decoder keeps its state after an error, and the calls are those a caller
can make, in any order.

The limit is meant to bound both what a frame counts and what is held between two calls.
It does so as long as nobody goes on after an error and a line that does not fit is the
first one of its record (`run_within_limit`). After an error each further call adds to the
line that was too long, and `finish` hands out a record that was refused
(`finish_delivers_refused_record`).
-/

namespace EggPool.Wire

open List EggPool.Lib SseGrammar Nat SseAssembly

/-! ## A decoder that survives its errors -/

/-- A state, and what the caller was told. -/
abbrev Kept (σ : Type) := σ × Except SseDecodeError (List SseFrame)

namespace Kept

/-- More work, unless the first part failed. -/
def next (out : Kept SseAssembly) (more : SseAssembly → Kept SseAssembly) : Kept SseAssembly :=
  match out with
  | (a, .error e) => (a, .error e)
  | (a, .ok frames) => ((more a).1, (more a).2.map (frames ++ ·))

/-- The same with the state dropped on an error. -/
def toExcept {σ : Type} (out : Kept σ) : Except SseDecodeError (σ × List SseFrame) :=
  out.2.map fun frames => (out.1, frames)

theorem toExcept_next (out : Kept SseAssembly) (m : SseAssembly → Kept SseAssembly) :
    (out.next m).toExcept = andThen out.toExcept fun a => (m a).toExcept := by
  obtain ⟨a, e | frames⟩ := out
  · rfl
  · dsimp only [next, toExcept, Except.map, andThen]
    rcases (m a).2 with e | rest <;> rfl

end Kept

namespace SseMachine

variable (a : SseAssembly)

/-- The line counts before the limit is checked, and stays if it is passed. -/
def finishLine : Kept SseAssembly :=
  let a := { a with frameBytes := a.frameBytes + (a.lineBufferBytes + 1) }
  if a.frameBytes > a.maxFrameBytes then (a, .error (.frameTooLarge a.maxFrameBytes))
  else
    let line := a.lineBuffer
    let a := { a with lineBuffer := [], lineBufferBytes := 0 }
    if line.isEmpty then (a.emitFrame.1, .ok a.emitFrame.2.toList)
    else (a.processLine line, .ok [])

/-- A character is in the line before the limit is checked, too. -/
def put (c : Char) : Kept SseAssembly :=
  if c = '\r' then ({ a with pendingCr := true }, .ok [])
  else if c = '\n' then finishLine a
  else
    let a := { a with
      lineBuffer := a.lineBuffer ++ [c]
      lineBufferBytes := a.lineBufferBytes + c.utf8Size }
    if a.lineBufferBytes > a.maxFrameBytes then (a, .error (.frameTooLarge a.maxFrameBytes))
    else (a, .ok [])

def step (c : Char) : Kept SseAssembly :=
  if a.pendingCr then
    (finishLine { a with pendingCr := false }).next fun a =>
      if c = '\n' then (a, .ok []) else put a c
  else put a c

def read (a : SseAssembly) : List Char → Kept SseAssembly
  | [] => (a, .ok [])
  | c :: text => (step a c).next fun a => read a text

/-- The record at the end of the input is handed out without a check. -/
def closeRecord : Kept SseAssembly :=
  if a.fields.isEmpty then (a, .ok []) else (a.emitFrame.1, .ok a.emitFrame.2.toList)

def close : Kept SseAssembly :=
  (if a.pendingCr then finishLine { a with pendingCr := false }
    else if !a.lineBuffer.isEmpty then finishLine a
    else (a, .ok [])).next closeRecord

variable (d : SseDecoder)

def feed (bytes : List UInt8) : Kept SseDecoder :=
  if d.finished then (d, .error .finished)
  else
    let decoded := SseDecoder.decodeUtf8Pending false (d.utf8Pending ++ bytes)
    let out := read d.toSseAssembly decoded.text
    (d.advance decoded out.1, out.2)

/-- The decoder is finished also when this fails. -/
def finish : Kept SseDecoder :=
  if d.finished then (d, .ok [])
  else
    let decoded := SseDecoder.decodeUtf8Pending true d.utf8Pending
    let out := (read d.toSseAssembly decoded.text).next close
    ({ d.advance decoded out.1 with finished := true }, out.2)

inductive Call where
  | feed (bytes : List UInt8)
  | finish
  deriving DecidableEq, Repr

def call : Call → Kept SseDecoder
  | .feed bytes => feed d bytes
  | .finish => finish d

/-- A decoder with everything it has handed out so far. -/
structure Served where
  decoder : SseDecoder
  frames : List SseFrame
  deriving DecidableEq, Repr

def Served.new (maxFrameBytes : Nat) : Served := ⟨.new maxFrameBytes, []⟩

def Served.step (s : Served) (c : Call) : Served :=
  { decoder := (call s.decoder c).1
    frames := s.frames ++ (call s.decoder c).2.toOption.getD [] }

/-! ## The same decoder, as far as both go -/

variable (a : SseAssembly)

theorem finishLine_toExcept : (finishLine a).toExcept = a.finishLine := by
  unfold finishLine SseAssembly.finishLine
  dsimp only
  split
  · rfl
  split
  · rfl
  · rfl

theorem put_toExcept (c : Char) : (put a c).toExcept = a.put c := by
  unfold put SseAssembly.put
  split
  · rfl
  split
  · exact finishLine_toExcept a
  dsimp only
  split
  · rfl
  · rfl

theorem step_toExcept (c : Char) : (step a c).toExcept = a.step c := by
  cases hcr : a.pendingCr with
  | false =>
    rw [step_eq_put hcr, step, hcr, if_neg Bool.false_ne_true, put_toExcept]
  | true =>
    have hl : { a with pendingCr := true } = a := by rw [← hcr]
    have hs := step_pending a c
    rw [hl] at hs
    rw [step, hcr, if_pos rfl, Kept.toExcept_next, finishLine_toExcept, hs]
    refine andThen_congr fun b frames _ => ?_
    by_cases hc : c = '\n'
    · rw [if_pos hc, if_pos hc]
      rfl
    · rw [if_neg hc, if_neg hc, put_toExcept]

theorem read_toExcept (text : List Char) : ∀ a : SseAssembly,
    (read a text).toExcept = a.read text := by
  induction text with
  | nil =>
    intro a
    rfl
  | cons c text ih =>
    intro a
    rw [read, Kept.toExcept_next, step_toExcept]
    exact andThen_congr fun b frames _ => ih b

theorem closeRecord_toExcept : (closeRecord a).toExcept = a.closeRecord := by
  unfold closeRecord SseAssembly.closeRecord
  split
  · rfl
  · rfl

theorem close_toExcept : (close a).toExcept = a.close := by
  rw [close, Kept.toExcept_next, close_eq]
  simp only [closeRecord_toExcept]
  congr 1
  split
  · exact finishLine_toExcept _
  split
  · exact finishLine_toExcept a
  · rfl

/-- **A call that succeeds is the call of `Wire.Sse`**, and one that fails, fails there too. -/
theorem feed_toExcept (bytes : List UInt8) : (feed d bytes).toExcept = d.feed bytes := by
  unfold feed SseDecoder.feed
  split
  · rfl
  dsimp only
  rw [← read_toExcept]
  rcases read d.toSseAssembly _ with ⟨a, e | frames⟩ <;> rfl

theorem finish_toExcept : (finish d).toExcept = d.finish.map fun out => (out.1, out.2.frames) := by
  unfold finish SseDecoder.finish
  split
  · rfl
  dsimp only
  rw [← read_toExcept]
  rcases read d.toSseAssembly _ with ⟨a, e | frames⟩
  · rfl
  dsimp only [Kept.next, Kept.toExcept, Except.map]
  rw [← close_toExcept]
  rcases close a with ⟨b, e | more⟩ <;> rfl

/-! ## Counting a text -/

/-- The bytes of the open record, those of the open line, and whether a CR is put off. -/
structure Counters where
  (record line : Nat)
  cr : Bool
  deriving DecidableEq, Repr

/-- What a character does to the counters. -/
inductive Course where
  | goesOn (counters : Counters)
  /-- The limit is passed by a record's first line, or by the end of a line. -/
  | fails
  /-- A later line of a record takes the record over the limit. -/
  | spills
  deriving DecidableEq, Repr

namespace Counters

def endLine (limit : Nat) (k : Counters) : Course :=
  if limit < k.record + (k.line + 1) then .fails
  else if k.line = 0 then .goesOn ⟨0, 0, false⟩
  else .goesOn ⟨k.record + (k.line + 1), 0, false⟩

def put (limit : Nat) (k : Counters) (c : Char) : Course :=
  if c = '\r' then .goesOn { k with cr := true }
  else if c = '\n' then k.endLine limit
  else if k.record ≠ 0 ∧ limit < k.record + (k.line + c.utf8Size) then .spills
  else if limit < k.line + c.utf8Size then .fails
  else .goesOn { k with line := k.line + c.utf8Size }

def step (limit : Nat) (k : Counters) (c : Char) : Course :=
  if k.cr then
    match { k with cr := false }.endLine limit with
    | .goesOn k => if c = '\n' then .goesOn k else k.put limit c
    | course => course
  else k.put limit c

/-- Up to a first failure no later line takes its record over the limit. -/
def fits (limit : Nat) (k : Counters) : List Char → Bool
  | [] => true
  | c :: text =>
    match k.step limit c with
    | .goesOn k => k.fits limit text
    | .fails => true
    | .spills => false

end Counters

@[reducible] def counters (a : SseAssembly) : Counters := ⟨a.frameBytes, a.lineBufferBytes, a.pendingCr⟩

/-! ## What is held -/

def fieldBytes (fields : List (String × String)) : Nat :=
  (fields.map fun f => lineBytes f.1.toList + lineBytes f.2.toList).sum

/-- The bytes of the stream that wait in the decoder. `data_lines` and `event` are copies. -/
def bufferedBytes : Nat :=
  d.utf8Pending.length + lineBytes d.lineBuffer + fieldBytes d.fields

/-- The counters count what is held. -/
structure Counted (a : SseAssembly) : Prop where
  line : lineBytes a.lineBuffer = a.lineBufferBytes
  fields : fieldBytes a.fields ≤ a.frameBytes

/-- Nothing is held that the limit does not cover. -/
structure Tidy (a : SseAssembly) : Prop extends Counted a where
  lineFits : a.lineBufferBytes ≤ a.maxFrameBytes
  recordFits : a.frameBytes = 0 ∨ a.frameBytes + a.lineBufferBytes ≤ a.maxFrameBytes

/-- What a failure leaves: a counter over the limit, with at most one character too much. -/
structure Over (a : SseAssembly) : Prop extends Counted a where
  exceeds : a.maxFrameBytes < a.frameBytes ∨ a.maxFrameBytes < a.lineBufferBytes
  held : fieldBytes a.fields + a.lineBufferBytes ≤ a.maxFrameBytes + 4

/-- A call that started tidy: it ends tidy with frames that fit, or fails and is over. -/
def Bounded (limit : Nat) : Kept SseAssembly → Prop
  | (b, .ok frames) => b.maxFrameBytes = limit ∧ Tidy b ∧ ∀ f ∈ frames, f.byteCount ≤ limit
  | (b, .error _) => b.maxFrameBytes = limit ∧ Over b

/-- What the counters say of an outcome. -/
inductive Follows (limit : Nat) : Course → Kept SseAssembly → Prop
  | goesOn {k : Counters} {b : SseAssembly} {frames : List SseFrame} (hk : counters b = k)
      (h : Bounded limit (b, .ok frames)) : Follows limit (.goesOn k) (b, .ok frames)
  | fails {b : SseAssembly} {e : SseDecodeError} (h : Bounded limit (b, .error e)) :
      Follows limit .fails (b, .error e)
  | spills {out : Kept SseAssembly} : Follows limit .spills out

variable {limit : Nat}

theorem Bounded.next {out : Kept SseAssembly} {m : SseAssembly → Kept SseAssembly}
    (h : Bounded limit out) (hm : ∀ b frames, out = (b, .ok frames) → Bounded limit (m b)) :
    Bounded limit (out.next m) := by
  obtain ⟨b, e | frames⟩ := out
  · exact h
  have hr := hm b frames rfl
  dsimp only [Kept.next]
  generalize m b = out at hr
  obtain ⟨b', e | rest⟩ := out
  · exact hr
  exact ⟨hr.1, hr.2.1, forall_mem_append.2 ⟨h.2.2, hr.2.2⟩⟩

/-! ### Fields are not larger than their line -/

theorem lineBytes_append (f second : List Char) :
    lineBytes (f ++ second) = lineBytes f + lineBytes second := by
  rw [lineBytes, map_append, sum_append]
  rfl

theorem lineBytes_tail_le (line : List Char) : lineBytes line.tail ≤ lineBytes line := by
  cases line with
  | nil => exact le_refl _
  | cons c line =>
    exact le_add_left _ _

theorem lineBytes_fieldValue_le (value : List Char) :
    lineBytes (fieldValue value) ≤ lineBytes value := by
  unfold fieldValue
  split
  · exact lineBytes_tail_le (' ' :: _)
  · exact le_refl _

theorem lineBytes_eq_zero {l : List Char} : lineBytes l = 0 ↔ l = [] := by
  cases l with
  | nil => exact ⟨fun _ => rfl, fun _ => rfl⟩
  | cons c l =>
    rw [lineBytes_cons]
    have hp := c.utf8Size_pos
    constructor
    · omega
    · nofun

theorem lineField_bytes_le (line : List Char) :
    lineBytes (lineField line).1.toList + lineBytes (lineField line).2.toList ≤ lineBytes line := by
  unfold lineField
  split
  · rw [String.toList_ofList, String.toList_ofList]
    exact le_trans (le_of_eq (zero_add _)) (lineBytes_tail_le line)
  · rw [field, String.toList_ofList, String.toList_ofList]
    have hv := lineBytes_fieldValue_le (line.dropWhile (· ≠ ':')).tail
    have ht := lineBytes_tail_le (line.dropWhile (· ≠ ':'))
    have hl := lineBytes_append (line.takeWhile (· ≠ ':')) (line.dropWhile (· ≠ ':'))
    rw [takeWhile_append_dropWhile] at hl
    omega

theorem fieldBytes_append (fi : List (String × String)) (f : String × String) :
    fieldBytes (fi ++ [f]) = fieldBytes fi + (lineBytes f.1.toList + lineBytes f.2.toList) := by
  simp only [fieldBytes, map_append, map_cons, map_nil, sum_append,
    sum_cons, sum_nil, add_zero]

theorem emitFrame_fst :
    a.emitFrame.1 = { a with fields := [], dataLines := [], event := none, frameBytes := 0 } := by
  unfold emitFrame
  split
  · rfl
  · rfl

variable {a : SseAssembly}

theorem byteCount_of_emitFrame {f : SseFrame}
    (hf : f ∈ a.emitFrame.2.toList) : f.byteCount = a.frameBytes := by
  unfold emitFrame at hf
  split at hf
  · nomatch hf
  · rw [mem_singleton.1 hf]

/-! ### One character -/

theorem Tidy.held_le (h : Tidy a) : fieldBytes a.fields + a.lineBufferBytes ≤ a.maxFrameBytes := by
  have hf := h.fields
  have hl := h.lineFits
  rcases h.recordFits with hz | hfit <;> omega

theorem Tidy.withCr (h : Tidy a) (cr : Bool) : Tidy { a with pendingCr := cr } :=
  ⟨⟨h.line, h.fields⟩, h.lineFits, h.recordFits⟩

/-- A line end follows the counters. -/
theorem finishLine_follows (h : Tidy a) (hcr : a.pendingCr = false) :
    Follows a.maxFrameBytes ((counters a).endLine a.maxFrameBytes) (finishLine a) := by
  have hh := h.held_le
  have hfi := h.fields
  unfold finishLine Counters.endLine
  by_cases ho : a.maxFrameBytes < a.frameBytes + (a.lineBufferBytes + 1)
  · rw [if_pos ho, if_pos ho]
    exact .fails ⟨rfl, ⟨h.line, le_trans hfi (le_add_right _ _)⟩, .inl ho,
      le_trans hh (le_add_right _ _)⟩
  · rw [if_neg ho, if_neg ho]
    have hz : a.lineBufferBytes = 0 ↔ a.lineBuffer.isEmpty = true := by
      rw [← h.line, lineBytes_eq_zero, List.isEmpty_iff]
    by_cases hb : a.lineBuffer.isEmpty = true
    · -- a blank line hands out the record and starts a new one
      rw [if_pos (hz.2 hb), if_pos hb]
      refine .goesOn ?_ ⟨?_, ?_, fun f hf => ?_⟩
      · rw [emitFrame_fst, hcr]
      · rw [emitFrame_fst]
      · rw [emitFrame_fst]
        exact ⟨⟨rfl, le_refl _⟩, zero_le _, .inl rfl⟩
      · rw [byteCount_of_emitFrame hf]
        exact not_lt.1 ho
    · rw [if_neg (mt hz.1 hb), if_neg hb, processLine_eq _ (Bool.eq_false_iff.2 hb)]
      have hd := lineField_bytes_le a.lineBuffer
      rw [h.line] at hd
      refine .goesOn ?_ ⟨rfl, ⟨⟨rfl, ?_⟩, zero_le _, .inr ?_⟩, forall_mem_nil _⟩
      · rw [hcr]
      · dsimp only
        rw [fieldBytes_append]
        omega
      · dsimp only
        omega

theorem put_follows (h : Tidy a) (hcr : a.pendingCr = false) (c : Char) :
    Follows a.maxFrameBytes ((counters a).put a.maxFrameBytes c) (put a c) := by
  unfold put Counters.put
  by_cases hr : c = '\r'
  · rw [if_pos hr, if_pos hr]
    exact .goesOn rfl ⟨rfl, h.withCr true, forall_mem_nil _⟩
  rw [if_neg hr, if_neg hr]
  by_cases hn : c = '\n'
  · rw [if_pos hn, if_pos hn]
    exact finishLine_follows h hcr
  rw [if_neg hn, if_neg hn]
  have hh := h.held_le
  have hf := h.fields
  have hz := c.utf8Size_le_four
  have hl : lineBytes (a.lineBuffer ++ [c]) = a.lineBufferBytes + c.utf8Size := by
    rw [lineBytes_append, h.line]
    rfl
  by_cases hs : a.frameBytes ≠ 0 ∧
      a.maxFrameBytes < a.frameBytes + (a.lineBufferBytes + c.utf8Size)
  · rw [if_pos hs]
    exact .spills
  rw [if_neg hs]
  by_cases ho : a.maxFrameBytes < a.lineBufferBytes + c.utf8Size
  · -- only the first line of a record gets this far
    rw [if_pos ho, if_pos ho]
    refine .fails ⟨rfl, ⟨hl, hf⟩, .inr ho, ?_⟩
    dsimp only
    omega
  · rw [if_neg ho, if_neg ho]
    refine .goesOn rfl ⟨rfl, ⟨⟨hl, hf⟩, not_lt.1 ho, ?_⟩, forall_mem_nil _⟩
    dsimp only
    omega

theorem cr_of_endLine {k k' : Counters} (h : k.endLine limit = .goesOn k') : k'.cr = false := by
  unfold Counters.endLine at h
  split at h
  · nomatch h
  · split at h <;> cases h <;> rfl

/-- Frames that fit may stand in front. -/
theorem Follows.prepend {c : Course} {out : Kept SseAssembly} (h : Follows limit c out)
    {fr : List SseFrame} (hr : ∀ f ∈ fr, f.byteCount ≤ limit) :
    Follows limit c (out.1, out.2.map (fr ++ ·)) := by
  cases h with
  | spills => exact .spills
  | fails hb => exact .fails hb
  | goesOn hk hb =>
    exact .goesOn hk ⟨hb.1, hb.2.1, forall_mem_append.2 ⟨hr, hb.2.2⟩⟩

theorem step_follows (h : Tidy a) (c : Char) :
    Follows a.maxFrameBytes ((counters a).step a.maxFrameBytes c) (step a c) := by
  cases hcr : a.pendingCr with
  | false =>
    have hk : ¬ (counters a).cr = true := by
      rw [counters, hcr]
      exact Bool.false_ne_true
    rw [step, Counters.step, if_neg hk, if_neg hk]
    exact put_follows h hcr c
  | true =>
    have hk : (counters a).cr = true := hcr
    rw [step, Counters.step, if_pos hk, if_pos hk]
    -- the line end that was put off comes first
    have hend : Follows a.maxFrameBytes ({ counters a with cr := false }.endLine a.maxFrameBytes)
        (finishLine { a with pendingCr := false }) :=
      finishLine_follows (h.withCr false) rfl
    revert hend
    generalize hco : { counters a with cr := false }.endLine a.maxFrameBytes = course
    generalize finishLine { a with pendingCr := false } = out
    intro hend
    cases hend with
    | fails hf => exact .fails hf
    | spills => exact .spills
    | @goesOn k b frames hk hb =>
      obtain ⟨hm, hb, hr⟩ := hb
      refine Follows.prepend ?_ hr
      dsimp only
      by_cases hc : c = '\n'
      · rw [if_pos hc, if_pos hc]
        exact .goesOn hk ⟨hm, hb, forall_mem_nil _⟩
      have hbc : b.pendingCr = false := by
        have hkc := cr_of_endLine hco
        rwa [← hk] at hkc
      rw [if_neg hc, if_neg hc, ← hk, ← hm]
      exact put_follows hb hbc c

/-! ### A text -/

theorem Follows.bounded {c : Course} {out : Kept SseAssembly} (h : Follows limit c out)
    (hc : c ≠ .spills) : Bounded limit out := by
  cases h with
  | goesOn _ hb | fails hb => exact hb
  | spills => exact absurd rfl hc

theorem read_bounded (t : List Char) : ∀ {a : SseAssembly}, Tidy a →
    (counters a).fits a.maxFrameBytes t = true → Bounded a.maxFrameBytes (read a t) := by
  induction t with
  | nil =>
    intro a h _
    exact ⟨rfl, h, forall_mem_nil _⟩
  | cons c t ih =>
    intro a h hfit
    have hs := step_follows h c
    rw [Counters.fits] at hfit
    rw [read]
    revert hs hfit
    generalize (counters a).step a.maxFrameBytes c = course
    generalize step a c = out
    intro hfit hs
    cases hs with
    | fails hf => exact hf
    | spills => nomatch hfit
    | @goesOn k b frames hk hb =>
      refine hb.next fun b' fra' heq => ?_
      cases heq
      rw [← hb.1]
      refine ih hb.2.1 ?_
      rwa [hk, hb.1]

theorem finishLine_bounded (h : Tidy a) (hcr : a.pendingCr = false) :
    Bounded a.maxFrameBytes (finishLine a) := by
  refine (finishLine_follows h hcr).bounded ?_
  unfold Counters.endLine
  split
  · nofun
  · split <;> nofun

theorem closeRecord_bounded (h : Tidy a) : Bounded a.maxFrameBytes (closeRecord a) := by
  unfold closeRecord
  split
  · exact ⟨rfl, h, forall_mem_nil _⟩
  refine ⟨by rw [emitFrame_fst], ?_, fun f hf => ?_⟩
  · rw [emitFrame_fst]
    exact ⟨⟨h.line, le_refl _⟩, h.lineFits, .inl rfl⟩
  · rw [byteCount_of_emitFrame hf]
    rcases h.recordFits with hz | hfit <;> omega

theorem close_bounded (h : Tidy a) : Bounded a.maxFrameBytes (close a) := by
  have hl : Bounded a.maxFrameBytes (if a.pendingCr then finishLine { a with pendingCr := false }
      else if !a.lineBuffer.isEmpty then finishLine a else (a, .ok [])) := by
    by_cases hcr : a.pendingCr = true
    · rw [if_pos hcr]
      exact finishLine_bounded (h.withCr false) rfl
    rw [if_neg hcr]
    split
    · exact finishLine_bounded h (Bool.eq_false_iff.2 hcr)
    · exact ⟨rfl, h, forall_mem_nil _⟩
  refine hl.next fun b frames hb => ?_
  rw [hb] at hl
  rw [← hl.1]
  exact closeRecord_bounded hl.2.1

/-! ## Calls -/

/-- The characters a call reads. -/
def textOfCall : Call → List Char
  | .feed bytes => (SseDecoder.decodeUtf8Pending false (d.utf8Pending ++ bytes)).text
  | .finish => (SseDecoder.decodeUtf8Pending true d.utf8Pending).text

/-- No earlier call left too much behind, and no later line of a record is too long for it. -/
def Permitted (s : Served) (c : Call) : Prop :=
  s.decoder.finished = true ∨
    (s.decoder.frameBytes ≤ s.decoder.maxFrameBytes ∧
      s.decoder.lineBufferBytes ≤ s.decoder.maxFrameBytes ∧
      (counters s.decoder.toSseAssembly).fits s.decoder.maxFrameBytes
        (textOfCall s.decoder c) = true)

/-- The invariant of permitted calls. -/
structure WithinLimit (limit : Nat) (s : Served) : Prop where
  limit_eq : s.decoder.maxFrameBytes = limit
  state : Tidy s.decoder.toSseAssembly ∨ Over s.decoder.toSseAssembly
  pending : s.decoder.utf8Pending.length ≤ 3
  frames : ∀ f ∈ s.frames, f.byteCount ≤ limit

theorem pending_length_le (f : Bool) (p : List UInt8) :
    (SseDecoder.decodeUtf8Pending f p).rest.length ≤ 3 := by
  rw [SseDecoder.decodeUtf8Pending_eq, SseDecoder.flush]
  split
  · exact zero_le 3
  · exact Utf8.length_of_incomplete (Utf8.scan_rest p)

/-- What one call does to the decoder and to the frames. -/
theorem WithinLimit.of_bounded {s : Served} (h : WithinLimit limit s) {d : SseDecoder}
    {out : Except SseDecodeError (List SseFrame)} (hout : Bounded limit (d.toSseAssembly, out))
    (hp : d.utf8Pending.length ≤ 3) : WithinLimit limit ⟨d, s.frames ++ out.toOption.getD []⟩:= by
  rcases out with e | frames
  · refine ⟨hout.1, .inr hout.2, hp, fun f hf => h.frames f ?_⟩
    exact (append_nil s.frames) ▸ hf
  exact ⟨hout.1, .inl hout.2.1, hp, forall_mem_append.2 ⟨h.frames, hout.2.2⟩⟩

theorem WithinLimit.step {s : Served} {c : Call} (h : WithinLimit limit s) (hc : Permitted s c) :
    WithinLimit limit (s.step c) := by
  cases hf : s.decoder.finished with
  | true =>
    -- a finished decoder does nothing any more
    have hl : call s.decoder c = (s.decoder, .error .finished) ∨
        call s.decoder c = (s.decoder, .ok []) := by
      cases c with
      | feed bytes => exact .inl (by rw [call, feed, if_pos hf])
      | finish => exact .inr (by rw [call, finish, if_pos hf])
    have hs : s.step c = s := by
      unfold Served.step
      rcases hl with hl | hl <;> rw [hl] <;>
        simp [Except.toOption]
    rwa [hs]
  | false =>
    obtain ⟨hfr, hn, hfit⟩ := hc.resolve_left (by rw [hf]; exact Bool.false_ne_true)
    have ht : Tidy s.decoder.toSseAssembly := by
      refine h.state.resolve_right fun hv => ?_
      rcases hv.exceeds with hv | hv <;> omega
    have hr := read_bounded (textOfCall s.decoder c) ht hfit
    rw [h.limit_eq] at hr
    have ho : ¬ s.decoder.finished = true := by
      rw [hf]
      exact Bool.false_ne_true
    cases c with
    | feed bytes =>
      rw [Served.step, call]
      refine h.of_bounded ?_ ?_
      · rwa [feed, if_neg ho]
      · rw [feed, if_neg ho]
        exact pending_length_le false _
    | finish =>
      rw [Served.step, call]
      refine h.of_bounded ?_ ?_
      · rw [finish, if_neg ho]
        refine hr.next fun b frames hb => ?_
        have hb' := hb ▸ hr
        rw [← hb'.1]
        exact close_bounded hb'.2.1
      · rw [finish, if_neg ho]
        exact pending_length_le true _

theorem withinLimit_new (limit : Nat) : WithinLimit limit (.new limit) where
  limit_eq := rfl
  state := .inl ⟨⟨rfl, le_refl _⟩, zero_le _, .inl rfl⟩
  pending := zero_le 3
  frames := forall_mem_nil _

theorem WithinLimit.bufferedBytes_le {s : Served} (h : WithinLimit limit s) :
    bufferedBytes s.decoder ≤ limit + 7 := by
  have hp := h.pending
  have hl := h.limit_eq
  unfold bufferedBytes
  rcases h.state with ht | ho
  · have hh := ht.held_le
    rw [ht.line]
    omega
  · have hh := ho.held
    rw [ho.line]
    omega

/--
**The limit bounds what is handed out and what is held**, at every point of a run of
permitted calls: three bytes of an open character and one character too much come on top.
-/
theorem run_within_limit (limit : Nat) (calls : List Call)
    (h : Along Served.step Permitted (.new limit) calls) (before after : List Call)
    (hcalls : before ++ after = calls) :
    (∀ f ∈ (run Served.step (.new limit) before).frames, f.byteCount ≤ limit) ∧
      bufferedBytes (run Served.step (.new limit) before).decoder ≤ limit + 7 := by
  rw [← hcalls] at h
  have hbefore := (along_append.1 h).1
  have hwithin : WithinLimit limit (run Served.step (.new limit) before) :=
    run_invariant_along (fun _ _ hs hc => hs.step hc) (withinLimit_new limit) hbefore
  exact ⟨hwithin.frames, hwithin.bufferedBytes_le⟩

/-- Bytes of a text, as they come. -/
def bytesOf (text : String) : List UInt8 := text.toUTF8.data.toList

/-- A first line that is too long is refused, and no call follows. -/
theorem run_within_limit_refused :
    (∀ f ∈ (run Served.step (.new 8) [.feed (bytesOf "a:b\n\n"), .feed (bytesOf "data:abcd")]).frames,
        f.byteCount ≤ 8) ∧
      bufferedBytes (run Served.step (.new 8)
        [.feed (bytesOf "a:b\n\n"), .feed (bytesOf "data:abcd")]).decoder ≤ 8 + 7 :=
  run_within_limit 8 [.feed (bytesOf "a:b\n\n"), .feed (bytesOf "data:abcd")]
    ⟨.inr (by decide +kernel), .inr (by decide +kernel), trivial⟩ _ [] rfl

/--
The blank line takes the record over the limit and is refused; `finish` hands the record
out all the same, with a count over the limit.
-/
theorem finish_delivers_refused_record :
    (call (SseDecoder.new 7) (.feed (bytesOf "data:a\n\n"))).2 = .error (.frameTooLarge 7) ∧
      (run Served.step (.new 7) [.feed (bytesOf "data:a\n\n"), .finish]).frames.map
        SseFrame.byteCount = [8] := by
  decide +kernel

end SseMachine

end EggPool.Wire
