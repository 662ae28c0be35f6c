import InferRoute.Proofs.Stream
import Mathlib.Data.List.Induction

/-! The usage a decoder reports after any lines. Every line is fed, also after one that finishes
the answer. The mesh decoder reports no input tokens and as output tokens the text deltas it
yielded. The local server's decoder reports as input tokens the last positive prompt count a
decoded line reported, and as output tokens the last positive completion count a decoded line
reported plus one for each text delta of the lines after that one; with no such report, one for
each text delta. A line is decoded when it is a data line without `[DONE]` whose payload reads as
a chunk.

Both output counts are 32-bit counters, and each follows a `tally`: line by line, a bump of one,
then perhaps a report that replaces the count. The counter holds the tally modulo `UInt32.size`.
A report fits in 32 bits and a bump adds one, so a tally goes past the largest 32-bit value only
by a bump from that value itself. So an increment overflows exactly when the tally, counted
without bound, would go past the largest value, and while none does the counts are exact. -/

namespace InferRoute

/-- The count that lines give without bound: each line first adds one when `bump` says so, then
replaces the count by its report, if it has one. -/
def tally (bump : String → Bool) (report : String → Option UInt32) (lines : List String) : Nat :=
  lines.foldl (fun n line => ((report line).map UInt32.toNat).getD (n + if bump line then 1 else 0))
    0

section Tally

variable (bump : String → Bool) (report : String → Option UInt32)

@[simp] theorem tally_nil : tally bump report [] = 0 := rfl

@[simp] theorem tally_append_singleton (lines : List String) (line : String) :
    tally bump report (lines ++ [line]) =
      ((report line).map UInt32.toNat).getD
        (tally bump report lines + if bump line then 1 else 0) := by
  simp [tally]

/-- Without reports a tally counts the lines that bump it. -/
theorem tally_without_reports (lines : List String) :
    tally bump (fun _ => none) lines = lines.countP bump := by
  induction lines using List.reverseRecOn with
  | nil => rfl
  | append_singleton lines line ih =>
    rw [tally_append_singleton, ih, List.countP_append]
    cases hbump : bump line <;> simp [hbump]

/-- A tally stays below `UInt32.size` as long as no line bumps it from the largest 32-bit value
or past it: a report always fits, and a bump from below the largest value stays below it. -/
theorem tally_lt_size (lines : List String)
    (h : ¬ ∃ pre line post, lines = pre ++ line :: post ∧ bump line = true ∧
      UInt32.size ≤ tally bump report pre + 1) :
    tally bump report lines < UInt32.size := by
  induction lines using List.reverseRecOn with
  | nil => exact Nat.zero_lt_of_ne_zero (by decide)
  | append_singleton lines line ih =>
    have hbefore := ih fun ⟨pre, l, post, hsplit, hbump, hge⟩ =>
      h ⟨pre, l, post ++ [line], by simp [hsplit], hbump, hge⟩
    rw [tally_append_singleton]
    cases hreport : report line with
    | some c => exact c.toNat_lt
    | none =>
      cases hbump : bump line with
      | false => simpa [hbump] using hbefore
      | true =>
        have hlast : ¬ UInt32.size ≤ tally bump report lines + 1 := fun hge =>
          h ⟨lines, line, [], rfl, hbump, hge⟩
        simp only [Option.map_none, Option.getD_none, if_true]
        simp only [UInt32.size] at hlast ⊢
        omega

/-- A tally at or past the largest 32-bit value is that value, or went past it by a bump from
it: a report fits in 32 bits, and bumps climb one at a time. -/
theorem tally_at_max_or_bumped (lines : List String)
    (h : UInt32.size ≤ tally bump report lines + 1) :
    tally bump report lines + 1 = UInt32.size ∨
      ∃ pre line post, lines = pre ++ line :: post ∧ bump line = true ∧
        tally bump report pre + 1 = UInt32.size := by
  induction lines using List.reverseRecOn with
  | nil =>
    rw [tally_nil] at h
    exact absurd h (by decide)
  | append_singleton lines line ih =>
    have hextend : (∃ pre l post, lines = pre ++ l :: post ∧ bump l = true ∧
          tally bump report pre + 1 = UInt32.size) →
        ∃ pre l post, lines ++ [line] = pre ++ l :: post ∧ bump l = true ∧
          tally bump report pre + 1 = UInt32.size :=
      fun ⟨pre, l, post, hsplit, hbump, hmax⟩ =>
        ⟨pre, l, post ++ [line], by simp [hsplit], hbump, hmax⟩
    rw [tally_append_singleton] at h ⊢
    cases hreport : report line with
    | some c =>
      have hfits := c.toNat_lt
      simp only [hreport, Option.map_some, Option.getD_some] at h ⊢
      simp only [UInt32.size] at h hfits ⊢
      exact .inl (by omega)
    | none =>
      simp only [hreport, Option.map_none, Option.getD_none] at h ⊢
      cases hbump : bump line with
      | false =>
        simp only [hbump, Bool.false_eq_true, if_false, Nat.add_zero] at h ⊢
        exact (ih h).imp_right hextend
      | true =>
        simp only [hbump, if_true] at h ⊢
        by_cases hreach : tally bump report lines + 1 + 1 = UInt32.size
        · exact .inl hreach
        · -- the tally before the line was at the largest value already, or got past it earlier
          rcases ih (by omega) with hmax | hbumped
          · exact .inr ⟨lines, line, [], rfl, hbump, hmax⟩
          · exact .inr (hextend hbumped)

/-- Some line bumps a tally at or past the largest 32-bit value exactly when some line bumps it
from that value itself. -/
theorem exists_bump_from_max_iff (lines : List String) :
    (∃ pre line post, lines = pre ++ line :: post ∧ bump line = true ∧
      UInt32.size ≤ tally bump report pre + 1) ↔
    ∃ pre line post, lines = pre ++ line :: post ∧ bump line = true ∧
      tally bump report pre + 1 = UInt32.size := by
  constructor
  · rintro ⟨pre, line, post, rfl, hbump, hge⟩
    rcases tally_at_max_or_bumped bump report pre hge with hmax | ⟨a, l, b, rfl, hl, hmax⟩
    · exact ⟨pre, line, post, rfl, hbump, hmax⟩
    · exact ⟨a, l, b ++ line :: post, by simp, hl, hmax⟩
  · rintro ⟨pre, line, post, hsplit, hbump, hmax⟩
    exact ⟨pre, line, post, hsplit, hbump, Nat.le_of_eq hmax.symm⟩

/-- Without reports, some line bumps the tally from the largest 32-bit value or past it exactly
when the tally of all the lines passes that value: the tally only grows. -/
theorem exists_bump_past_max_iff_without_reports (lines : List String) :
    (∃ pre line post, lines = pre ++ line :: post ∧ bump line = true ∧
      UInt32.size ≤ tally bump (fun _ => none) pre + 1) ↔
    UInt32.size ≤ tally bump (fun _ => none) lines := by
  constructor
  · rintro ⟨pre, line, post, rfl, hbump, hge⟩
    simp only [tally_without_reports, List.countP_append, List.countP_cons, hbump, if_true]
      at hge ⊢
    omega
  · intro hge
    by_contra hnone
    exact absurd hge (Nat.not_le.2 (tally_lt_size _ _ lines hnone))

end Tally

namespace LineDecoder

variable {σ : Type} [LineDecoder σ]

/-- Every line fed in order, whether or not an earlier one finished the answer: the decoder after
them, and the events they yielded. -/
def feedAll (d : σ) (lines : List String) : σ × List StreamEvent :=
  lines.foldl (fun acc line => ((decodeLine acc.1 line).1, acc.2 ++ (decodeLine acc.1 line).2.1))
    (d, [])

@[simp] theorem feedAll_nil (d : σ) : feedAll d [] = (d, []) := rfl

@[simp] theorem feedAll_append_singleton (d : σ) (lines : List String) (line : String) :
    feedAll d (lines ++ [line]) =
      ((decodeLine (feedAll d lines).1 line).1,
        (feedAll d lines).2 ++ (decodeLine (feedAll d lines).1 line).2.1) := by
  simp [feedAll]

/-- A decoder whose lines each yield their text delta, if any, yields over any lines the text
deltas of all of them. -/
theorem feedAll_events (text? : String → Option String)
    (h : ∀ (d : σ) line, (decodeLine d line).2.1 = (text? line).toList.map .textDelta) (d : σ)
    (lines : List String) : (feedAll d lines).2 = (lines.filterMap text?).map .textDelta := by
  induction lines using List.reverseRecOn with
  | nil => rfl
  | append_singleton lines line ih =>
    rw [feedAll_append_singleton, h, ih, List.filterMap_append]
    cases htext : text? line <;> simp [htext]

/-- Feeding `lines` to a fresh decoder makes its 32-bit count `count` overflow: some line bumps
the count while the decoder fed the lines before it holds the largest value. A dev build panics
there; a release build wraps to zero. -/
def Overflows (count : σ → UInt32) (bump : String → Bool) (lines : List String) : Prop :=
  ∃ pre line post, lines = pre ++ line :: post ∧ bump line = true ∧
    (count (feedAll (fresh : σ) pre).1).toNat + 1 = UInt32.size

section Count

variable (count : σ → UInt32) (bump : String → Bool) (report : String → Option UInt32)

/-- A 32-bit count that starts at zero and that each line bumps and then replaces as `tally` says
holds the tally modulo `UInt32.size`. -/
theorem count_feedAll (hfresh : count (fresh : σ) = 0)
    (hstep : ∀ d line, count (decodeLine d line).1 =
      (report line).getD (count d + if bump line then 1 else 0)) (lines : List String) :
    (count (feedAll (fresh : σ) lines).1).toNat = tally bump report lines % UInt32.size := by
  induction lines using List.reverseRecOn with
  | nil => simp [hfresh]
  | append_singleton lines line ih =>
    rw [feedAll_append_singleton, hstep, tally_append_singleton]
    cases report line with
    | some c => simp [Nat.mod_eq_of_lt c.toNat_lt]
    | none =>
      simp only [Option.getD_none, Option.map_none]
      cases bump line with
      | false => simpa using ih
      | true =>
        -- the increment wraps: it adds one modulo `UInt32.size`
        simp only [if_true, UInt32.toNat_add, UInt32.toNat_one, ih]
        simp only [UInt32.size]
        omega

variable {count bump report}
variable (hcount : ∀ lines, (count (feedAll (fresh : σ) lines).1).toNat =
  tally bump report lines % UInt32.size)
include hcount

/-- A count that holds its tally modulo `UInt32.size` overflows exactly when some line bumps the
tally, counted without bound, from the largest 32-bit value or past it. -/
theorem overflows_iff (lines : List String) :
    Overflows count bump lines ↔ ∃ pre line post, lines = pre ++ line :: post ∧
      bump line = true ∧ UInt32.size ≤ tally bump report pre + 1 := by
  constructor
  · rintro ⟨pre, line, post, hsplit, hbump, hmax⟩
    rw [hcount] at hmax
    refine ⟨pre, line, post, hsplit, hbump, ?_⟩
    simp only [UInt32.size] at hmax ⊢
    omega
  · rw [exists_bump_from_max_iff]
    rintro ⟨pre, line, post, hsplit, hbump, hmax⟩
    -- at the largest value the count is its tally
    refine ⟨pre, line, post, hsplit, hbump, ?_⟩
    rw [hcount, Nat.mod_eq_of_lt (by omega)]
    exact hmax

/-- While no increment overflows, the count is its tally. -/
theorem count_eq_tally_of_not_overflows {lines : List String} (h : ¬ Overflows count bump lines) :
    (count (feedAll (fresh : σ) lines).1).toNat = tally bump report lines := by
  rw [hcount, Nat.mod_eq_of_lt]
  exact tally_lt_size bump report lines fun hpast => h ((overflows_iff hcount lines).mpr hpast)

end Count

end LineDecoder

namespace LocalDecoder

/-- The chunk a line is decoded into: a data line with no `[DONE]` in it whose payload reads as a
chunk. -/
def chunkOf? (line : String) : Option ChatChunk :=
  match Search.dropPrefix? line dataPrefix with
  | none => none
  | some payload =>
    if Search.contains line doneMarker then none
    else match ChatChunk.parse payload with
      | .ok chunk => some chunk
      | .error _ => none

/-- The positive prompt count a line reports. -/
def promptReport? (line : String) : Option UInt32 :=
  (((chunkOf? line).bind ChatChunk.usage).bind ChatUsage.promptTokens).filter (0 < ·)

/-- The positive completion count a line reports. -/
def completionReport? (line : String) : Option UInt32 :=
  (((chunkOf? line).bind ChatChunk.usage).bind ChatUsage.completionTokens).filter (0 < ·)

/-- The text delta of a line. -/
def text? (line : String) : Option String := (chunkOf? line).bind ChatChunk.textDelta?

/-- The output count over lines, without bound: the last positive completion count a decoded
line reported plus one for each text delta of the lines after it; without such a report, one for
each text delta. -/
def outputCount (lines : List String) : Nat :=
  ((lines.reverse.findSome? completionReport?).map UInt32.toNat).getD 0 +
    ((lines.reverse.takeWhile fun l => (completionReport? l).isNone).filter
      fun l => (text? l).isSome).length

/-- A line is its chunk applied, or nothing. -/
theorem decodeLine_eq (d : LocalDecoder) (line : String) :
    d.decodeLine line =
      match chunkOf? line with
      | none => (d, [], .continue)
      | some chunk => ((d.applyChunk chunk).1, (d.applyChunk chunk).2, .continue) := by
  unfold decodeLine chunkOf?
  cases Search.dropPrefix? line dataPrefix with
  | none => rfl
  | some payload =>
    by_cases hdone : Search.contains line doneMarker = true
    · simp only [hdone, if_true]
    · simp only [hdone, Bool.false_eq_true, if_false]
      cases ChatChunk.parse payload <;> rfl

theorem applyUsage_inputTokens (d : LocalDecoder) (u : Option ChatUsage) :
    (d.applyUsage u).inputTokens =
      ((u.bind ChatUsage.promptTokens).filter (0 < ·)).getD d.inputTokens := by
  rcases u with _ | ⟨_ | p, _ | c⟩ <;> simp only [applyUsage] <;> grind [Option.filter]

theorem applyUsage_outputTokens (d : LocalDecoder) (u : Option ChatUsage) :
    (d.applyUsage u).outputTokens =
      ((u.bind ChatUsage.completionTokens).filter (0 < ·)).getD d.outputTokens := by
  rcases u with _ | ⟨_ | p, _ | c⟩ <;> simp only [applyUsage] <;> grind [Option.filter]

theorem applyChunk_inputTokens (d : LocalDecoder) (chunk : ChatChunk) :
    (d.applyChunk chunk).1.inputTokens =
      ((chunk.usage.bind ChatUsage.promptTokens).filter (0 < ·)).getD d.inputTokens := by
  unfold applyChunk
  split <;> simp [applyUsage_inputTokens]

/-- The text delta is counted before the usage report, which then overrides the count. -/
theorem applyChunk_outputTokens (d : LocalDecoder) (chunk : ChatChunk) :
    (d.applyChunk chunk).1.outputTokens =
      ((chunk.usage.bind ChatUsage.completionTokens).filter (0 < ·)).getD
        (d.outputTokens + if chunk.textDelta?.isSome then 1 else 0) := by
  unfold applyChunk
  split <;> simp_all [applyUsage_outputTokens]

/-- One line: a positive prompt report replaces the input count; a positive completion report
replaces the output count, the line's own text delta included; otherwise a text delta adds
one. -/
theorem decodeLine_counts (d : LocalDecoder) (line : String) :
    (d.decodeLine line).1.inputTokens = (promptReport? line).getD d.inputTokens ∧
    (d.decodeLine line).1.outputTokens =
      (completionReport? line).getD (d.outputTokens + if (text? line).isSome then 1 else 0) ∧
    (d.decodeLine line).2.1 = (text? line).toList.map .textDelta := by
  rw [decodeLine_eq]
  unfold promptReport? completionReport? text?
  cases chunkOf? line with
  | none => simp
  | some chunk =>
    exact ⟨applyChunk_inputTokens d chunk, applyChunk_outputTokens d chunk,
      applyChunk_events d chunk⟩

/-- The input count is the last positive prompt report, zero without one. -/
theorem feedAll_inputTokens (lines : List String) :
    (LineDecoder.feedAll (LineDecoder.fresh : LocalDecoder) lines).1.inputTokens =
      (lines.reverse.findSome? promptReport?).getD 0 := by
  induction lines using List.reverseRecOn with
  | nil => rfl
  | append_singleton lines line ih =>
    rw [LineDecoder.feedAll_append_singleton]
    refine (decodeLine_counts _ line).1.trans ?_
    rw [ih, List.reverse_append, List.reverse_singleton, List.singleton_append,
      List.findSome?_cons]
    cases promptReport? line <;> rfl

/-- The closed form of the output count is the tally of text deltas and completion reports: a
report on the latest line restarts the count from it, and otherwise the latest line's text delta
joins the run after the last report. -/
theorem outputCount_eq_tally (lines : List String) :
    outputCount lines = tally (fun l => (text? l).isSome) completionReport? lines := by
  induction lines using List.reverseRecOn with
  | nil => rfl
  | append_singleton lines line ih =>
    rw [tally_append_singleton, ← ih]
    unfold outputCount
    rw [List.reverse_append, List.reverse_singleton, List.singleton_append, List.findSome?_cons,
      List.takeWhile_cons]
    cases completionReport? line with
    | some c => simp
    | none =>
      cases htext : (text? line).isSome
      · simp [htext]
      · simp [htext]
        omega

/-- The output counter holds the closed form modulo `UInt32.size`. -/
theorem feedAll_outputTokens (lines : List String) :
    (LineDecoder.feedAll (LineDecoder.fresh : LocalDecoder) lines).1.outputTokens.toNat =
      tally (fun l => (text? l).isSome) completionReport? lines % UInt32.size :=
  LineDecoder.count_feedAll outputTokens _ _ rfl (fun d line => (decodeLine_counts d line).2.1)
    lines

end LocalDecoder

namespace MeshDecoder

/-- The chunk a line is decoded into: a data line whose payload is not `[DONE]` and reads as a
chunk. -/
def chunkOf? (line : String) : Option MeshChunk :=
  match Search.dropPrefix? line dataPrefix with
  | none => none
  | some payload =>
    if payload = doneMarker then none
    else match MeshChunk.parse payload with
      | .ok chunk => some chunk
      | .error _ => none

/-- The text delta of a line. -/
def text? (line : String) : Option String := (chunkOf? line).bind MeshChunk.text?

/-- One line adds one to the count when it yields a text delta, its one event. -/
theorem decodeLine_deltas (d : MeshDecoder) (line : String) :
    (d.decodeLine line).1.deltas = d.deltas + (if (text? line).isSome then 1 else 0) ∧
      (d.decodeLine line).2.1 = (text? line).toList.map .textDelta := by
  unfold decodeLine text? chunkOf?
  cases Search.dropPrefix? line dataPrefix with
  | none => simp
  | some payload =>
    by_cases hdone : payload = doneMarker
    · simp [hdone]
    · simp only [hdone, if_false]
      cases MeshChunk.parse payload with
      | error => simp
      | ok chunk =>
        refine ⟨?_, applyChunk_events d chunk⟩
        unfold applyChunk
        cases htext : chunk.text? <;> simp [htext]

/-- The delta counter holds the number of text deltas modulo `UInt32.size`. -/
theorem feedAll_deltas (lines : List String) :
    (LineDecoder.feedAll (LineDecoder.fresh : MeshDecoder) lines).1.deltas.toNat =
      tally (fun l => (text? l).isSome) (fun _ => none) lines % UInt32.size :=
  LineDecoder.count_feedAll deltas (fun l => (text? l).isSome) (fun _ => none) rfl
    (fun d line => (decodeLine_deltas d line).1) lines

/-- The tally of the mesh's lines counts the events they yield, all of them text deltas. -/
theorem tally_eq_countP_events (lines : List String) :
    tally (fun l => (text? l).isSome) (fun _ => none) lines =
      (LineDecoder.feedAll (LineDecoder.fresh : MeshDecoder) lines).2.countP
        fun e => !e.isUsage := by
  rw [tally_without_reports,
    LineDecoder.feedAll_events text? (fun d line => (decodeLine_deltas d line).2),
    List.countP_map, ← List.length_filterMap_eq_countP]
  exact (List.countP_eq_length.2 fun e he => rfl).symm

end MeshDecoder

open LineDecoder LocalDecoder

/-- The usage each decoder reports after any lines fed to a fresh one. Its counts are 32-bit:
each is the count below modulo `UInt32.size`, an increment overflows exactly when the count would
go past the largest 32-bit value, and while none does, the count is exact.

The mesh decoder reports no input tokens and, as output tokens, the number of text deltas it
yielded. The local server's decoder yields the text delta of each decoded line, and reports as
input tokens the prompt count of the last line reporting a positive one (zero without one), and
as output tokens the completion count of the last line reporting a positive one plus the text
deltas of the lines after it (without such a line, all text deltas). -/
theorem feedAll_usage (lines : List String) :
    let mesh := feedAll (fresh : MeshDecoder) lines
    let loc := feedAll (fresh : LocalDecoder) lines
    let deltas := mesh.2.countP fun e => !e.isUsage
    let input := ((lines.reverse.findSome? promptReport?).getD 0).toNat
    (usage mesh.1 = .usage 0 (deltas % UInt32.size) ∧
      (Overflows MeshDecoder.deltas (fun l => (MeshDecoder.text? l).isSome) lines ↔
        UInt32.size ≤ deltas) ∧
      (¬ Overflows MeshDecoder.deltas (fun l => (MeshDecoder.text? l).isSome) lines →
        usage mesh.1 = .usage 0 deltas)) ∧
    loc.2 = (lines.filterMap text?).map .textDelta ∧
    usage loc.1 = .usage input (outputCount lines % UInt32.size) ∧
    (Overflows LocalDecoder.outputTokens (fun l => (text? l).isSome) lines ↔
      ∃ pre line post, lines = pre ++ line :: post ∧ (text? line).isSome ∧
        UInt32.size ≤ outputCount pre + 1) ∧
    (¬ Overflows LocalDecoder.outputTokens (fun l => (text? l).isSome) lines →
      usage loc.1 = .usage input (outputCount lines)) := by
  intro mesh loc deltas input
  have hdeltas : tally (fun l => (MeshDecoder.text? l).isSome) (fun _ => none) lines = deltas :=
    MeshDecoder.tally_eq_countP_events lines
  have hmeshCount := MeshDecoder.feedAll_deltas
  have hlocCount : ∀ pre, (feedAll (fresh : LocalDecoder) pre).1.outputTokens.toNat =
      tally (fun l => (text? l).isSome) completionReport? pre % UInt32.size :=
    feedAll_outputTokens
  have hinput : (usage loc.1 : StreamEvent) = .usage input loc.1.outputTokens.toNat := by
    show StreamEvent.usage loc.1.inputTokens.toNat _ = _
    rw [feedAll_inputTokens]
  refine ⟨⟨?_, ?_, fun h => ?_⟩, feedAll_events text? (fun d line => (decodeLine_counts d line).2.2)
    fresh lines, ?_, ?_, fun h => ?_⟩
  · show StreamEvent.usage 0 mesh.1.deltas.toNat = _
    rw [hmeshCount, hdeltas]
  · rw [overflows_iff hmeshCount, ← hdeltas]
    exact exists_bump_past_max_iff_without_reports _ lines
  · show StreamEvent.usage 0 mesh.1.deltas.toNat = _
    rw [count_eq_tally_of_not_overflows hmeshCount h, hdeltas]
  · rw [hinput, hlocCount, outputCount_eq_tally]
  · simp only [overflows_iff hlocCount, outputCount_eq_tally]
  · rw [hinput, count_eq_tally_of_not_overflows hlocCount h, outputCount_eq_tally]

end InferRoute
