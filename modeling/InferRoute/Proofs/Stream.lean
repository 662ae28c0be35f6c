import InferRoute.Stream.Run

/-! Decoding a byte stream however it is cut into reads. The line buffer holds exactly the bytes
after the last line feed, so the lines it completes over a run of reads are the complete lines of
all the bytes together. A stream that is read to its end with no deadline and no cancellation
therefore yields what the decoder gives for those lines, fed in order up to the first line that
finishes the answer, and then one usage report; the bytes after the last line feed are dropped. -/

namespace InferRoute

namespace LineBuffer

/-- The complete lines of a byte string: the pieces before each line feed, each without one
trailing carriage return and read as UTF-8 with ill-formed parts replaced. The bytes after the
last line feed make no line. -/
def completeLines (bytes : List UInt8) : List String :=
  ((bytes.splitOn 10).dropLast).map finishLine

theorem splitLines_nil (current : List UInt8) : splitLines current [] = ([], current.reverse) :=
  rfl

theorem splitLines_lf (current rest : List UInt8) :
    splitLines current (10 :: rest) =
      (current.reverse :: (splitLines [] rest).1, (splitLines [] rest).2) :=
  rfl

theorem splitLines_other (current rest : List UInt8) {b : UInt8} (hb : b ≠ 10) :
    splitLines current (b :: rest) = splitLines (b :: current) rest := by
  simp [splitLines, hb]

/-- Bytes without a line feed only extend the segment being read. -/
theorem splitLines_of_lf_free (current bytes : List UInt8) (h : 10 ∉ bytes) :
    splitLines current bytes = ([], current.reverse ++ bytes) := by
  induction bytes generalizing current with
  | nil => simp [splitLines_nil]
  | cons b rest ih =>
    have hb : b ≠ 10 := fun hb => h (by simp [hb])
    rw [splitLines_other _ _ hb, ih _ (fun hr => h (by simp [hr]))]
    simp

/-- Splitting a concatenation: the second part is read on from the tail of the first. -/
theorem splitLines_append (current xs ys : List UInt8) :
    splitLines current (xs ++ ys) =
      ((splitLines current xs).1 ++ (splitLines (splitLines current xs).2.reverse ys).1,
        (splitLines (splitLines current xs).2.reverse ys).2) := by
  induction xs generalizing current with
  | nil => simp [splitLines_nil]
  | cons b rest ih =>
    by_cases hb : b = 10
    · subst hb
      simp [splitLines_lf, ih]
    · simp only [List.cons_append, splitLines_other _ _ hb, ih]

/-- A tail with no line feed read on from is the same as read from the start of a segment. -/
theorem splitLines_after_tail (tail ys : List UInt8) (h : 10 ∉ tail) :
    splitLines tail.reverse ys = splitLines [] (tail ++ ys) := by
  rw [splitLines_append, splitLines_of_lf_free _ _ h]
  simp

/-- The tail holds no line feed. -/
theorem lf_not_mem_splitLines_snd (current bytes : List UInt8) (h : 10 ∉ current) :
    10 ∉ (splitLines current bytes).2 := by
  induction bytes generalizing current with
  | nil => simpa [splitLines_nil] using h
  | cons b rest ih =>
    by_cases hb : b = 10
    · subst hb
      rw [splitLines_lf]
      exact ih [] (by simp)
    · rw [splitLines_other _ _ hb]
      exact ih _ (by simp [h, Ne.symm hb])

/-- The segments and the tail are the pieces of the bytes between line feeds. -/
theorem splitLines_eq_splitOn (current bytes : List UInt8) (h : 10 ∉ current) :
    (splitLines current bytes).1 ++ [(splitLines current bytes).2] =
      (current.reverse ++ bytes).splitOn 10 := by
  induction bytes generalizing current with
  | nil =>
    rw [splitLines_nil, List.append_nil, List.splitOn_eq_singleton (by simpa using h)]
    rfl
  | cons b rest ih =>
    by_cases hb : b = 10
    · subst hb
      rw [splitLines_lf, List.splitOn_append_cons_self_of_not_mem (by simpa using h)]
      simpa using ih [] (by simp)
    · rw [splitLines_other _ _ hb, ih _ (by simp [h, Ne.symm hb])]
      simp

theorem completeLines_eq (bytes : List UInt8) :
    completeLines bytes = (splitLines [] bytes).1.map finishLine := by
  have hsplit := splitLines_eq_splitOn [] bytes (by simp)
  rw [List.reverse_nil, List.nil_append] at hsplit
  rw [completeLines, ← hsplit, List.dropLast_concat]

end LineBuffer

namespace LineDecoder

variable {σ : Type} [LineDecoder σ]

/-- What a decoder gives for lines fed in order from `d`: the events of each line up to and
including the first that finishes the answer, then the usage report at that point. -/
def answer (d : σ) : List String → List StreamEvent
  | [] => [usage d]
  | line :: rest =>
    let (d', events, flow) := decodeLine d line
    events ++ match flow with
      | .finished => [usage d']
      | .continue => answer d' rest

end LineDecoder

namespace ReadSchedule

/-- A stream that delivers each chunk's bytes after its delay in milliseconds, and then ends. -/
def ofChunks (chunks : List (Nat × List UInt8)) : ReadSchedule :=
  ⟨chunks.map fun c => ⟨c.1, .bytes c.2⟩, .eof⟩

end ReadSchedule

namespace DecodeControl

@[simp] theorem cancelled_none (received : Nat) : DecodeControl.none.cancelled received = false :=
  rfl

@[simp] theorem late_none (t : Nat) : DecodeControl.none.late t = false := rfl

@[simp] theorem stopsBefore_none (t : Option Nat) : DecodeControl.none.stopsBefore t = .none :=
  rfl

end DecodeControl

namespace Decoding

variable {σ : Type} [LineDecoder σ]

open LineDecoder in
/-- Lines fed with no cancellation add the decoder's answer to them, up to a finishing line
and its usage report; the lines after that are the ones the answer goes on with. -/
theorem feedLines_none (d : σ) (lines more : List String) (items : List StreamItem) :
    let r := feedLines .none d lines items
    ∃ events, r.2.1 = items ++ events.map .ok ∧
      answer d (lines ++ more) = events ++ if r.2.2 then [] else answer r.1 more := by
  induction lines generalizing d items with
  | nil => exact ⟨[], by simp [feedLines], by simp [feedLines]⟩
  | cons line rest ih =>
    rcases h : decodeLine d line with ⟨d', events, flow⟩
    cases flow
    · -- the answer goes on with the rest of the lines
      obtain ⟨events', hitems, hanswer⟩ := ih d' (items ++ events.map .ok)
      refine ⟨events ++ events', ?_, ?_⟩
      · simpa [feedLines, h] using hitems
      · simp only [feedLines, h, List.cons_append, answer, List.append_assoc,
          DecodeControl.cancelled_none, Bool.false_eq_true, if_false] at hanswer ⊢
        rw [hanswer]
    · -- the line finishes the answer: its events, the usage report, and nothing more
      refine ⟨events ++ [usage d'], ?_, ?_⟩ <;> simp [feedLines, answer, h]

open LineDecoder LineBuffer in
/-- Reads of bytes that end the stream, with no deadline and no cancellation, add the decoder's
answer to the complete lines of the pending bytes followed by all the bytes still to come. The
buffer carries the unfinished line from one read to the next. -/
theorem runReads_chunks (chunks : List (Nat × List UInt8)) (d : σ) (pending : List UInt8)
    (now : Nat) (items : List StreamItem) (h : 10 ∉ pending) :
    ∃ stop, runReads .none .eof d ⟨pending⟩ now (ReadSchedule.ofChunks chunks).reads items =
      (items ++ (answer d ((splitLines [] (pending ++ (chunks.map Prod.snd).flatten)).1.map
        finishLine)).map .ok, some stop) := by
  induction chunks generalizing d pending now items with
  | nil =>
    refine ⟨now, ?_⟩
    rw [runReads.eq_def]
    simp [ReadSchedule.ofChunks, splitLines_of_lf_free _ _ h, answer]
  | cons chunk rest ih =>
    obtain ⟨delay, bytes⟩ := chunk
    -- the lines this read completes, and the tail it leaves in the buffer
    have hpush : LineBuffer.push ⟨pending⟩ bytes =
        ((splitLines [] (pending ++ bytes)).1.map finishLine,
          ⟨(splitLines [] (pending ++ bytes)).2⟩) := rfl
    have htail := lf_not_mem_splitLines_snd [] (pending ++ bytes) (by simp)
    generalize hsplit : splitLines [] (pending ++ bytes) = split at hpush htail
    obtain ⟨segments, tail⟩ := split
    have hall : (splitLines [] (pending ++ (bytes ++ (rest.map Prod.snd).flatten))).1 =
        segments ++ (splitLines [] (tail ++ (rest.map Prod.snd).flatten)).1 := by
      rw [← List.append_assoc, splitLines_append, hsplit, splitLines_after_tail _ _ htail]
    obtain ⟨events, hitems, hanswer⟩ := feedLines_none d (segments.map finishLine)
      ((splitLines [] (tail ++ (rest.map Prod.snd).flatten)).1.map finishLine) items
    rw [runReads.eq_def]
    simp only [ReadSchedule.ofChunks, List.map_cons, DecodeControl.cancelled_none,
      DecodeControl.stopsBefore_none, DecodeControl.late_none, Bool.false_eq_true, if_false,
      hpush, List.flatten_cons, hall, List.map_append] at hanswer ⊢
    rw [hanswer]
    generalize feedLines .none d (segments.map finishLine) items = r at hitems ⊢
    obtain ⟨d', items', stopped⟩ := r
    cases stopped
    · -- the answer goes on: the next reads start from the tail
      obtain ⟨stop, hrest⟩ := ih d' tail (now + delay) items' htail
      refine ⟨stop, ?_⟩
      simp only [ReadSchedule.ofChunks] at hrest
      simp only [Bool.false_eq_true, if_false] at hitems ⊢
      rw [hrest, hitems]
      simp
    · -- a line finished the answer: the stream stops after this read
      refine ⟨now + delay, ?_⟩
      simp only [if_true] at hitems ⊢
      simp [hitems]

end Decoding

open LineDecoder LineBuffer

/-- A stream that arrives in any chunks and ends, decoded with no deadline and no cancellation,
ends, and yields the decoder's answer to the complete lines of all its bytes. -/
theorem decodeFrom_ofChunks (σ : Type) [LineDecoder σ] (start : Nat)
    (chunks : List (Nat × List UInt8)) :
    ∃ stop, decodeFrom σ start (.ofChunks chunks) .none =
      ((answer (fresh : σ) (completeLines (chunks.map Prod.snd).flatten)).map .ok, some stop) := by
  obtain ⟨stop, h⟩ := Decoding.runReads_chunks chunks (fresh : σ) [] start [] (by simp)
  exact ⟨stop, by simpa [decodeFrom, completeLines_eq, LineBuffer.empty, ReadSchedule.ofChunks] using h⟩

namespace LineDecoder

variable {σ : Type} [LineDecoder σ]

/-- Whether every event a decoder's lines yield is text, so that usage reports come from the
driver alone. -/
def TextOnly (σ : Type) [LineDecoder σ] : Prop :=
  ∀ (d : σ) line, ∃ texts : List String, (decodeLine d line).2.1 = texts.map .textDelta

/-- Lines that yield only text are answered with text and one usage report, the last. -/
theorem answer_of_textOnly (h : TextOnly σ) (d : σ) (lines : List String) :
    ∃ (texts : List String) (d' : σ), answer d lines = texts.map .textDelta ++ [usage d'] := by
  induction lines generalizing d with
  | nil => exact ⟨[], d, rfl⟩
  | cons line rest ih =>
    obtain ⟨texts, htexts⟩ := h d line
    rcases hline : decodeLine d line with ⟨d', events, flow⟩
    replace htexts : events = texts.map .textDelta := by simpa [hline] using htexts
    cases flow
    · obtain ⟨texts', d'', hrest⟩ := ih d'
      exact ⟨texts ++ texts', d'', by simp [answer, hline, htexts, hrest]⟩
    · exact ⟨texts, d', by simp [answer, hline, htexts]⟩

end LineDecoder

theorem LocalDecoder.applyChunk_events (d : LocalDecoder) (chunk : ChatChunk) :
    (d.applyChunk chunk).2 = chunk.textDelta?.toList.map .textDelta := by
  unfold LocalDecoder.applyChunk
  split <;> simp_all

/-- The local server's lines yield at most one text delta each. -/
theorem LocalDecoder.textOnly : TextOnly LocalDecoder := by
  intro d line
  show ∃ texts : List String, (LocalDecoder.decodeLine d line).2.1 = texts.map .textDelta
  unfold LocalDecoder.decodeLine
  split
  · exact ⟨[], rfl⟩
  · split
    · exact ⟨[], rfl⟩
    · split
      · exact ⟨[], rfl⟩
      · next chunk _ => exact ⟨chunk.textDelta?.toList, LocalDecoder.applyChunk_events d chunk⟩

theorem MeshDecoder.applyChunk_events (d : MeshDecoder) (chunk : MeshChunk) :
    (d.applyChunk chunk).2.1 = chunk.text?.toList.map .textDelta := by
  unfold MeshDecoder.applyChunk
  cases chunk.text? <;> rfl

/-- The mesh's lines yield at most one text delta each. -/
theorem MeshDecoder.textOnly : TextOnly MeshDecoder := by
  intro d line
  show ∃ texts : List String, (MeshDecoder.decodeLine d line).2.1 = texts.map .textDelta
  unfold MeshDecoder.decodeLine
  split
  · exact ⟨[], rfl⟩
  · split
    · exact ⟨[], rfl⟩
    · split
      · exact ⟨[], rfl⟩
      · next chunk _ => exact ⟨chunk.text?.toList, MeshDecoder.applyChunk_events d chunk⟩

/-- What a decoder yields for a stream that arrives in any chunks and ends, with no deadline and
no cancellation: the stream ends; its items are the decoder's answer to the complete lines of all
the bytes, so they depend on the bytes alone and not on the chunks; and they are text deltas
followed by exactly one usage report. -/
def DecodesByLines (σ : Type) [LineDecoder σ] : Prop :=
  ∀ chunks : List (Nat × List UInt8),
    (decodeFrom σ 0 (.ofChunks chunks) .none).2.isSome ∧
    decodeStream σ (.ofChunks chunks) .none =
      (answer (fresh : σ) (completeLines (chunks.map Prod.snd).flatten)).map .ok ∧
    ∃ (texts : List String) (inputTokens outputTokens : Nat), decodeStream σ (.ofChunks chunks) .none =
      texts.map (fun t => .ok (.textDelta t)) ++ [.ok (.usage inputTokens outputTokens)]

theorem decodesByLines_of_textOnly {σ : Type} [LineDecoder σ] (h : TextOnly σ)
    (hu : ∀ d : σ, ∃ i o, usage d = .usage i o) : DecodesByLines σ := by
  intro chunks
  obtain ⟨stop, hrun⟩ := decodeFrom_ofChunks σ 0 chunks
  obtain ⟨texts, d', hanswer⟩ :=
    answer_of_textOnly h (fresh : σ) (completeLines (chunks.map Prod.snd).flatten)
  obtain ⟨i, o, hd'⟩ := hu d'
  refine ⟨by simp [hrun], by simp [decodeStream, hrun], texts, i, o, ?_⟩
  simp [decodeStream, hrun, hanswer, hd']

namespace StreamEvent

/-- The items of text deltas, in order. -/
def textItems {ε : Type} (texts : List String) : List (Except ε StreamEvent) :=
  texts.map (Except.ok ∘ StreamEvent.textDelta)

@[simp] theorem textItems_nil {ε : Type} : (textItems [] : List (Except ε StreamEvent)) = [] := rfl

@[simp] theorem textItems_append {ε : Type} (a b : List String) :
    (textItems (a ++ b) : List (Except ε StreamEvent)) = textItems a ++ textItems b := by
  simp [textItems]

@[simp] theorem map_ok_comp_textDelta {ε : Type} (texts : List String) :
    texts.map (Except.ok (ε := ε) ∘ StreamEvent.textDelta) = textItems texts := rfl

@[simp] theorem textItems_inj {ε : Type} {a b : List String} :
    (textItems a : List (Except ε StreamEvent)) = textItems b ↔ a = b :=
  List.map_inj_right fun x y h => by simpa using h

@[simp] theorem error_not_mem_textItems {ε : Type} (e : ε) (texts : List String) :
    (.error e : Except ε StreamEvent) ∉ textItems texts := by
  simp only [textItems, List.mem_map, Function.comp_apply]
  rintro ⟨_, _, h⟩
  cases h

@[simp] theorem length_textItems {ε : Type} (texts : List String) :
    (textItems texts : List (Except ε StreamEvent)).length = texts.length :=
  List.length_map _

theorem take_textItems {ε : Type} (texts : List String) (n : Nat) :
    (textItems texts : List (Except ε StreamEvent)).take n = textItems (texts.take n) := by
  simp only [textItems, List.map_take]

/-- The first `n` of items that begin with `n` texts or more are texts. -/
theorem take_textItems_append {ε : Type} {texts : List String} {n : Nat} (h : n ≤ texts.length)
    (tail : List (Except ε StreamEvent)) :
    (textItems texts ++ tail).take n = textItems (texts.take n) := by
  rw [List.take_append_of_le_length (by simpa using h), take_textItems]

theorem textItems_eq_map {ε : Type} (texts : List String) :
    (textItems texts : List (Except ε StreamEvent)) =
      (texts.map StreamEvent.textDelta).map Except.ok := by
  rw [List.map_map]
  rfl

theorem textItems_append_ok {ε : Type} (texts : List String) (event : StreamEvent) :
    (textItems texts ++ [.ok event] : List (Except ε StreamEvent)) =
      (texts.map StreamEvent.textDelta ++ [event]).map Except.ok := by
  rw [List.map_append, ← textItems_eq_map]
  rfl

end StreamEvent

open StreamEvent

/-- The backend of a decode error. -/
def DecodeError.backend : DecodeError → String
  | .transport backend _ | .timeout backend _ => backend

/-- What a stream decoded for a caller that never cancels yields, and when it stops: text, and
then nothing more while it waits for ever (which only a stream without a deadline does), or the
usage report, or an error of the decoder's backend. -/
inductive Decoded (σ : Type) [LineDecoder σ] (deadline : Option Nat) :
    List StreamItem × Option Nat → Prop
  | waiting (texts : List String) (h : deadline = none) : Decoded σ deadline (textItems texts, none)
  | finished (texts : List String) (i o t : Nat) :
      Decoded σ deadline (textItems texts ++ [.ok (.usage i o)], some t)
  | failed (texts : List String) (d : DecodeError) (t : Nat) (h : d.backend = LineDecoder.backend σ) :
      Decoded σ deadline (textItems texts ++ [.error d], some t)

namespace Decoding

variable {σ : Type} [LineDecoder σ]

/-- Lines fed by a caller that never cancels add text, and the usage report after a line that
finishes the answer. -/
theorem feedLines_shape (h : TextOnly σ) (hu : ∀ d : σ, ∃ i o, usage d = .usage i o)
    {ctl : DecodeControl} (hc : ctl.cancelAfter = .none) (d : σ) (lines : List String)
    (items : List StreamItem) :
    let r := feedLines ctl d lines items
    ∃ texts, (r.2.2 = false ∧ r.2.1 = items ++ textItems texts) ∨
      (r.2.2 = true ∧ ∃ i o, r.2.1 = items ++ textItems texts ++ [.ok (.usage i o)]) := by
  have hnot : ∀ n, ctl.cancelled n = false := fun n => by simp [DecodeControl.cancelled, hc]
  induction lines generalizing d items with
  | nil => exact ⟨[], .inl ⟨rfl, by simp [feedLines]⟩⟩
  | cons line rest ih =>
    obtain ⟨texts, htexts⟩ := h d line
    rcases hline : decodeLine d line with ⟨d', events, flow⟩
    replace htexts : events = texts.map .textDelta := by simpa [hline] using htexts
    cases flow
    · obtain ⟨texts', hrest⟩ := ih d' (items ++ textItems texts)
      refine ⟨texts ++ texts', ?_⟩
      simpa [feedLines, hnot, hline, htexts] using hrest
    · obtain ⟨i, o, hd'⟩ := hu d'
      exact ⟨texts, .inr ⟨by simp [feedLines, hnot, hline],
        i, o, by simp [feedLines, hnot, hline, htexts, hd']⟩⟩

/-- Reads for a caller that never cancels, after text, give a decoded stream. -/
theorem runReads_decoded (h : TextOnly σ) (hu : ∀ d : σ, ∃ i o, usage d = .usage i o)
    {ctl : DecodeControl} (hc : ctl.cancelAfter = .none) (ha : ctl.cancelAtMs = .none)
    (finish : StreamEnd) (reads : List TimedRead) (d : σ) (buf : LineBuffer) (now : Nat)
    (texts : List String) :
    Decoded σ ctl.deadlineMs (runReads ctl finish d buf now reads (textItems texts)) := by
  have hnot : ∀ n, ctl.cancelled n = false := fun n => by simp [DecodeControl.cancelled, hc]
  have hstop : ∀ t, ctl.stopsBefore t = .none := fun t => by simp [DecodeControl.stopsBefore, ha]
  induction reads generalizing d buf now texts with
  | nil =>
    rw [runReads.eq_def]
    simp only [hnot, hstop, Bool.false_eq_true, if_false]
    cases finish
    · obtain ⟨i, o, hd⟩ := hu d
      rw [hd]
      exact .finished texts i o now
    · cases hd : ctl.deadlineMs with
      | none => exact .waiting texts rfl
      | some ms => exact .failed texts _ (max now ms) rfl
  | cons r rest ih =>
    rw [runReads.eq_def]
    simp only [hnot, hstop, Bool.false_eq_true, if_false]
    split
    · -- the deadline comes first
      exact .failed texts _ _ rfl
    · cases hr : r.result with
      | failure msg => exact .failed texts _ _ rfl
      | bytes data =>
        dsimp only
        obtain ⟨texts', hfeed⟩ := feedLines_shape h hu hc d (buf.push data).1 (textItems texts)
        generalize feedLines ctl d (buf.push data).1 (textItems texts) = fed at hfeed ⊢
        obtain ⟨d', items', stopped⟩ := fed
        rcases hfeed with ⟨rfl, rfl⟩ | ⟨rfl, i, o, rfl⟩
        · -- the answer goes on with the next reads
          simpa using ih d' (buf.push data).2 (now + r.delayMs) (texts ++ texts')
        · simpa using @Decoded.finished σ _ ctl.deadlineMs (texts ++ texts') i o (now + r.delayMs)

end Decoding

/-- A stream decoded for a caller that never cancels, by a decoder whose lines yield only text,
is text and then at most one item that ends it. -/
theorem decodeFrom_decoded {σ : Type} [LineDecoder σ] (h : TextOnly σ)
    (hu : ∀ d : σ, ∃ i o, usage d = .usage i o) (ctl : DecodeControl)
    (hc : ctl.cancelAfter = .none) (ha : ctl.cancelAtMs = .none) (start : Nat)
    (schedule : ReadSchedule) : Decoded σ ctl.deadlineMs (decodeFrom σ start schedule ctl) :=
  Decoding.runReads_decoded h hu hc ha _ _ _ _ _ []

/-- The local server's stream under a deadline. -/
theorem LocalDecoder.decoded (deadline start : Nat) (schedule : ReadSchedule) :
    Decoded LocalDecoder (some deadline)
      (decodeFrom LocalDecoder start schedule ⟨some deadline, none, none⟩) :=
  decodeFrom_decoded LocalDecoder.textOnly (fun _ => ⟨_, _, rfl⟩) ⟨some deadline, none, none⟩ rfl
    rfl start schedule

/-- The mesh's stream, which has no deadline. -/
theorem MeshDecoder.decoded (start : Nat) (schedule : ReadSchedule) :
    Decoded MeshDecoder none (decodeFrom MeshDecoder start schedule .none) :=
  decodeFrom_decoded MeshDecoder.textOnly (fun _ => ⟨_, _, rfl⟩) .none rfl rfl start schedule

/-- Both decoders, fed a stream in any chunks that ends with no deadline and no cancellation,
give the answer to its complete lines: text, then one usage report. -/
theorem decodeStream_by_complete_lines : DecodesByLines LocalDecoder ∧ DecodesByLines MeshDecoder :=
  ⟨decodesByLines_of_textOnly LocalDecoder.textOnly fun _ => ⟨_, _, rfl⟩,
    decodesByLines_of_textOnly MeshDecoder.textOnly fun _ => ⟨_, _, rfl⟩⟩

end InferRoute
