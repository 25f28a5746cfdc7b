import EggPool.Wire.FrameFacts

/-!
# The usage a stream ends with

The usage objects of a stream that are read are folded, and of a stream of running totals
the fold should give the last one.

First the frames: what of a frame's usage reaches the fold. Then the fold of one counter,
as a sequence of counts of which some are read. Adding up is right if it adds nothing.
-/

namespace EggPool.Wire

open EggPool.Lib List StreamEventDecoder

/-! ## What a frame contributes -/

/-- A usage object of a stream, and whether it is read. -/
structure UsageReport where
  read : Bool
  usage : CanonicalUsage

/-- The usage object a frame carries. -/
def reportIn (json : SerdeJson) (adapter : StreamAdapterKind) (f : SseFrame) : Option UsageReport:=
  if !carriesDecodablePayload f then none
  else (payloadOf json f).bind fun payload =>
    (usageFrom (usagePlace adapter f.event payload) (usageProtocol adapter)).map
      (UsageReport.mk (readsUsage adapter f.event payload))

/-- The usage that events bring with them. -/
def usagesOf (events : List CanonicalEvent) : List CanonicalUsage :=
  events.filterMap (·.usage)

@[simp]
theorem usagesOf_append (ev more : List CanonicalEvent) :
    usagesOf (ev ++ more) = usagesOf ev ++ usagesOf more :=
  filterMap_append

theorem usagesOf_besides (events : List CanonicalEvent) :
    usagesOf (besides events) = usagesOf events := by
  unfold usagesOf besides
  rw [filterMap_filter]
  refine filterMap_congr fun eve _ => ?_
  cases hu : eve.usage <;> simp [isContent, hu]

theorem usagesOf_payloadFacts (a : StreamAdapterKind) (ev : Option String)
    (p : Map) : usagesOf (payloadFacts a ev p) = if readsUsage a ev p then
        (usageFrom (usagePlace a ev p) (usageProtocol a)).toList else [] := by
  have hend : usagesOf ((payloadEnd a ev p).toList.map endEvent) = [] := by
    cases payloadEnd a ev p <;> rfl
  rw [payloadFacts, usagesOf_append, hend, append_nil]
  split
  · unfold usageEvents
    cases usageFrom _ _ <;> rfl
  · rfl

/-- The reports that are read. -/
def readReports (reports : List UsageReport) : List CanonicalUsage :=
  (reports.filter (·.read)).map (·.usage)

/-- **What a frame contributes** is the usage object it carries, if that is read. -/
theorem usagesOf_frame {j : SerdeJson} {a : StreamAdapterKind} {f : SseFrame}
    {s ids : Option SourceIdentityState} {ev : List CanonicalEvent}
    (hc : carriesDecodablePayload f = true)
    (h : decodeStreamEventInto j a (frameValue f) s = .ok (ids, ev)) :
    usagesOf ev = readReports (reportIn j a f).toList := by
  unfold reportIn
  rw [hc, Bool.not_true]
  cases hp : payloadOf j f with
  | none =>
    obtain ⟨-, rfl⟩ := decode_of_no_payload hp h
    split <;> rfl
  | some pay =>
    rw [← usagesOf_besides, (besides_frame hp h).2, usagesOf_payloadFacts, Option.bind_some]
    cases usageFrom (usagePlace a f.event pay) (usageProtocol a) with
    | none => cases readsUsage a f.event pay <;> rfl
    | some usage => cases hr : readsUsage a f.event pay <;> simp [readReports]

/-! ## What a stream folds -/

/-- Running totals of Anthropic replace one another; the others add up. -/
def foldReport (adapter : StreamAdapterKind) (u incoming : CanonicalUsage) : CanonicalUsage :=
  if adapter = .anthropicMessagesSse then u.mergeCumulative incoming else u.merge incoming

namespace StreamEventDecoder

theorem foldl_mergeUsage_value (a : StreamAdapterKind) (ev : List CanonicalEvent) :
    ∀ u : UsageAccumulator, (ev.foldl (mergeUsage a) u).value =
      (usagesOf ev).foldl (foldReport a) u.value := by
  induction ev with
  | nil => intro u; rfl
  | cons eve ev ih =>
    intro u
    rw [foldl_cons, ih]
    unfold mergeUsage usagesOf foldReport
    cases hu : eve.usage with
    | none => rw [filterMap_cons_none hu]
    | some usage =>
      rw [filterMap_cons_some hu]
      split <;> rfl

theorem decodeFrame_value {j : SerdeJson} {d d' : StreamEventDecoder} {f : SseFrame}
    {ev : List CanonicalEvent} (h : d.decodeFrame j f = .ok (d', ev)) :
    d'.usage.value = (readReports (reportIn j d.adapter f).toList).foldl
      (foldReport d.adapter) d.usage.value := by
  unfold decodeFrame at h
  split at h
  · rename_i hc
    cases h
    rw [reportIn, if_pos hc]
    rfl
  · rename_i hc
    have hc : carriesDecodablePayload f = true := by simpa using hc
    dsimp only at h
    split at h
    · nomatch h
    rename_i hd
    cases h
    have hu : usagesOf ev = readReports (reportIn j d.adapter f).toList :=
      usagesOf_frame hc hd
    rw [← hu, foldl_foldUsage, observeTerminal, noteTerminal_eq]
    exact foldl_mergeUsage_value d.adapter ev d.usage

/-- **The usage of a stream** is the fold of the reports that are read. -/
theorem decodeFrames_value {j : SerdeJson} {fr : List SseFrame} {d d' : StreamEventDecoder}
    {ev : List CanonicalEvent} (h : d.decodeFrames j fr = .ok (d', ev)) :
    d'.usage.value = (readReports (fr.filterMap (reportIn j d.adapter))).foldl
      (foldReport d.adapter) d.usage.value := by
  fun_induction decodeFrames j d fr generalizing ev with
  | case1 => cases h; rfl
  | case4 d f fr d₁ first hf d₂ more hm ih =>
    cases h
    rw [ih hm, decodeFrame_adapter hf, decodeFrame_value hf, ← foldl_append]
    unfold readReports
    rw [← map_append, ← filter_append, filterMap_cons]
    cases reportIn j d.adapter f <;> rfl
  | _ => cases h

end StreamEventDecoder

/-! ## One counter -/

inductive TokenCounter where
  | input | output
  deriving DecidableEq, Repr

def TokenCounter.of : TokenCounter → CanonicalUsage → Option Nat
  | .input, u => u.inputTokens
  | .output, u => u.outputTokens

/-- The counts of a stream, each with whether it is read. -/
def counts (counter : TokenCounter) (reports : List UsageReport) : List (Bool × Nat) :=
  reports.filterMap fun r => (counter.of r.usage).map fun count => (r.read, count)

/-- Take a count in. -/
def takeCount (cumulative : Bool) (acc : Option Nat) (entry : Bool × Nat) : Option Nat :=
  if entry.1 then if cumulative then some entry.2 else addOptional acc (some entry.2) else acc

/-- What the counts amount to. -/
def amount (cumulative : Bool) (entries : List (Bool × Nat)) : Option Nat :=
  run (takeCount cumulative) none entries

theorem of_foldl_readReports (a : StreamAdapterKind) (c : TokenCounter)
    (reports : List UsageReport) : ∀ u : CanonicalUsage,
    c.of ((readReports reports).foldl (foldReport a) u) =
      run (takeCount (a = .anthropicMessagesSse)) (c.of u) (counts c reports) := by
  induction reports with
  | nil => intro u; rfl
  | cons r reports ih =>
    intro u
    obtain ⟨read, usage⟩ := r
    have hn : counts c (⟨read, usage⟩ :: reports) =
        ((c.of usage).map fun cou => (read, cou)).toList ++ counts c reports := by
      unfold counts
      rw [filterMap_cons]
      cases c.of usage <;> rfl
    rw [hn, run_append]
    cases read with
    | false =>
      have hr : readReports (⟨false, usage⟩ :: reports) = readReports reports := rfl
      rw [hr, ih]
      cases c.of usage <;> rfl
    | true =>
      have hr : readReports (⟨true, usage⟩ :: reports) = usage :: readReports reports := rfl
      rw [hr, foldl_cons, ih]
      have hm : c.of (u.mergeCumulative usage) = replacePresent (c.of u) (c.of usage) := by
        cases c <;> rfl
      have hs : c.of (u.merge usage) = addOptional (c.of u) (c.of usage) := by
        cases c <;> rfl
      unfold foldReport
      by_cases ha : a = .anthropicMessagesSse
      · rw [if_pos ha, decide_eq_true ha, hm]
        cases c.of usage <;> rfl
      · rw [if_neg ha, decide_eq_false ha, hs]
        cases c.of usage <;> cases c.of u <;> rfl

/-- Sums are zero when everything that is read is. -/
theorem amount_eq_zero_iff (en : List (Bool × Nat)) :
    (amount false en).getD 0 = 0 ↔ ∀ e ∈ en, e.1 = true → e.2 = 0 := by
  unfold amount
  induction en using reverseRecOn with
  | nil => simp
  | append_singleton en e ih =>
    obtain ⟨read, cou⟩ := e
    rw [run_append, forall_mem_append, ← ih]
    cases read with
    | false => simp [takeCount]
    | true =>
      cases run (takeCount false) none en with
      | none => simp [takeCount]
      | some sum => simp [takeCount, addOptional, saturatingAdd]

/--
What is read amounts to the last count: if the last count is read and replaces the others,
or nothing but zeros was read before it, or it is the largest count there is; and if it is
not read, when what was read before amounts to the same.
-/
def KeepsLast (cumulative : Bool) (entries : List (Bool × Nat)) : Prop :=
  ∀ before last, entries = before ++ [last] →
    if last.1 then
      cumulative = true ∨ (∀ e ∈ before, e.1 = true → e.2 = 0) ∨ last.2 = 2 ^ 64 - 1
    else amount cumulative before = some last.2

theorem amount_eq_last_iff {c : Bool} {entries : List (Bool × Nat)}
    (hfit : ∀ e ∈ entries, e.2 < 2 ^ 64) :
    amount c entries = entries.getLast?.map (·.2) ↔ KeepsLast c entries := by
  rcases eq_nil_or_concat entries with rfl | ⟨bef, last, rfl⟩
  · refine iff_of_true rfl fun bef last h => ?_
    exact absurd h (by simp)
  obtain ⟨read, count⟩ := last
  have hc : count < 2 ^ 64 := hfit (read, count) (by simp)
  have hl : KeepsLast c (bef ++ [(read, count)]) ↔
      if read then
        c = true ∨ (∀ e ∈ bef, e.1 = true → e.2 = 0) ∨ count = 2 ^ 64 - 1
      else amount c bef = some count := by
    constructor
    · intro h
      exact h bef (read, count) rfl
    intro h bef' last' heq
    obtain ⟨rfl, hl⟩ := append_inj' heq rfl
    cases hl
    exact h
  have ha : amount c (bef ++ [(read, count)]) =
      takeCount c (amount c bef) (read, count) := run_append _ _ _ _
  rw [concat_eq_append, hl, ha, getLast?_concat]
  cases read with
  | false => simp [takeCount]
  | true =>
    cases c with
    | true => simp [takeCount]
    | false =>
      have hz := amount_eq_zero_iff bef
      rw [← hz]
      cases amount false bef with
      | none => simp [takeCount]
      | some sum => simp [takeCount, addOptional, saturatingAdd]; omega

/-- The usage objects of a stream. -/
def reportsIn (json : SerdeJson) (adapter : StreamAdapterKind) (frames : List SseFrame) :
    List UsageReport :=
  frames.filterMap (reportIn json adapter)

/-- The counts that objects report are 64-bit numbers. -/
def ReportsFit (reports : List UsageReport) : Prop :=
  ∀ counter, ∀ entry ∈ counts counter reports, entry.2 < 2 ^ 64

def CanonicalUsage.counters (u : CanonicalUsage) : List (Option Nat) :=
  [u.inputTokens, u.outputTokens, u.totalTokens, u.cachedInputTokens, u.cacheReadInputTokens,
    u.cacheCreationInputTokens, u.cacheWriteInputTokens, u.reasoningTokens]

/-- No counter ever decreases from one object to a later one. -/
def RunningTotals (reports : List UsageReport) : Prop :=
  reports.Pairwise fun r later =>
    List.Forall₂ (fun x y => ∀ m ∈ x, ∀ n ∈ y, m ≤ n) r.usage.counters later.usage.counters

instance (reports : List UsageReport) : Decidable (RunningTotals reports) :=
  inferInstanceAs (Decidable (List.Pairwise _ _))

/--
**When the usage of a stream is its last report.** For every stream of every dialect that
is decoded to its end, and for each of the two counters: what was folded is the count of
the last object that reports it, exactly if what is read amounts to the last count.
-/
theorem stream_usage_is_last_iff (json : SerdeJson) (adapter : StreamAdapterKind)
    (maxFrameBytes : Nat) (frames : List SseFrame) (d : StreamEventDecoder)
    (events : List CanonicalEvent)
    (h : (StreamEventDecoder.withLimit adapter maxFrameBytes).decodeFrames json frames =
      .ok (d, events))
    (hfit : ReportsFit (reportsIn json adapter frames)) (counter : TokenCounter) :
    counter.of d.usage.value = (counts counter (reportsIn json adapter frames)).getLast?.map (·.2) ↔
      KeepsLast (adapter = .anthropicMessagesSse)
        (counts counter (reportsIn json adapter frames)) := by
  rw [← amount_eq_last_iff (hfit counter), decodeFrames_value h]
  have hfold := of_foldl_readReports adapter counter (reportsIn json adapter frames) {}
  have hstart : counter.of {} = none := by cases counter <;> rfl
  rw [hstart] at hfold
  unfold amount
  rw [← hfold]
  rfl

/-- An Anthropic stream restates its totals, and ends with the last of them. -/
theorem anthropic_stream_usage_is_last : let json : SerdeJson :=
      { fromStr := fun text =>
          if text = "start" then
            some (.object [("message", .object [("usage", .object
              [("input_tokens", .number (.posInt 10)), ("output_tokens", .number (.posInt 1))])])])
          else some (.object [("usage", .object [("output_tokens", .number (.posInt 5))])])
        toText := fun _ => "" }
    let frames : List SseFrame :=
      [⟨some "message_start", "start", [("data", "start")], false, 0⟩,
        ⟨some "message_delta", "delta", [("data", "delta")], false, 0⟩]
    ∃ d events, (withLimit .anthropicMessagesSse 64).decodeFrames json frames =
        .ok (d, events) ∧
      TokenCounter.output.of d.usage.value =
        (counts .output (reportsIn json .anthropicMessagesSse frames)).getLast?.map (·.2) := by
  intro json frames
  have hfit : ReportsFit (reportsIn json .anthropicMessagesSse frames) := by
    intro counter
    cases counter <;> decide +kernel
  have hread : (counts .output (reportsIn json .anthropicMessagesSse frames)) =
      [(true, 1), (true, 5)] := by
    decide +kernel
  obtain ⟨⟨d, events⟩, h, -⟩ := exists_ok_of_any (p := fun _ => true)
    (show ((withLimit .anthropicMessagesSse 64).decodeFrames json frames).toOption.any _ by
      decide +kernel)
  refine ⟨d, events, h, ?_⟩
  refine (stream_usage_is_last_iff json .anthropicMessagesSse 64 frames d events h hfit
    .output).mpr ?_
  intro before last hlast
  have hsplit : [(true, 1)] ++ [(true, 5)] = before ++ [last] := hread.symm.trans hlast
  obtain ⟨-, hlast⟩ := append_inj' hsplit rfl
  cases hlast
  exact .inl rfl

/-- A `generateContent` stream with its totals on both of its frames counts its prompt twice. -/
theorem generateContent_adds_totals : let json : SerdeJson :=
      { fromStr := fun text =>
          some (.object [("usageMetadata", .object [("promptTokenCount", .number (.posInt 10)),
            ("candidatesTokenCount", .number (.posInt (if text = "first" then 1 else 5)))])])
        toText := fun _ => "" }
    let frames : List SseFrame := [⟨none, "first", [("data", "first")], false, 0⟩,
      ⟨none, "second", [("data", "second")], false, 0⟩]
    RunningTotals (reportsIn json .geminiGenerateContentSse frames) ∧
      (counts .input (reportsIn json .geminiGenerateContentSse frames)).getLast?.map (·.2) =
        some 10 ∧
      ((withLimit .geminiGenerateContentSse 64).decodeFrames json
        frames).toOption.map (fun out => TokenCounter.input.of out.1.usage.value) =
          some (some 20) := by
  refine ⟨?_, ?_, ?_⟩ <;> decide +kernel

end EggPool.Wire
