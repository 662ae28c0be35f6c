import InferRoute.Proofs.Stream

/-! Decoding under the caller's control. A caller that cancels once it has received `n` items
gets exactly the first `n` items of the stream it would have got without cancelling, whatever
the reads, their timing and the deadline: the stream looks for the cancellation before each read,
before each line and before its usage report, and a line of either decoder yields at most one
event, so no event slips out between two of these checks. -/

namespace InferRoute

namespace LineDecoder

/-- Whether every line a decoder reads yields at most one event. -/
def AtMostOneEvent (σ : Type) [LineDecoder σ] : Prop :=
  ∀ (d : σ) line, (decodeLine d line).2.1.length ≤ 1

variable {σ : Type} [LineDecoder σ]

/-- Lines fed in order from `d`, up to and including the first that finishes the answer: the
decoder after them, the events they yield, and whether one of them finished the answer. -/
def feed (d : σ) : List String → σ × List StreamEvent × Bool
  | [] => (d, [], false)
  | line :: rest =>
    let step := decodeLine d line
    match step.2.2 with
    | .finished => (step.1, step.2.1, true)
    | .continue =>
      let more := feed step.1 rest
      (more.1, step.2.1 ++ more.2.1, more.2.2)

@[simp] theorem feed_nil (d : σ) : feed d [] = (d, [], false) := rfl

theorem feed_cons_finished {d d' : σ} {line : String} {events : List StreamEvent}
    (rest : List String) (h : decodeLine d line = (d', events, .finished)) :
    feed d (line :: rest) = (d', events, true) := by
  simp [feed, h]

theorem feed_cons_continue {d d' : σ} {line : String} {events : List StreamEvent}
    (rest : List String) (h : decodeLine d line = (d', events, .continue)) :
    feed d (line :: rest) = ((feed d' rest).1, events ++ (feed d' rest).2.1, (feed d' rest).2.2) := by
  simp [feed, h]

/-- The answer is what the lines yield up to the first that finishes it, then the usage report
of the decoder at that point. -/
theorem answer_eq_feed (d : σ) (lines : List String) :
    answer d lines = (feed d lines).2.1 ++ [usage (feed d lines).1] := by
  induction lines generalizing d with
  | nil => rfl
  | cons line rest ih =>
    rcases hline : decodeLine d line with ⟨d', events, flow⟩
    cases flow with
    | «continue» => simp [answer, hline, feed_cons_continue rest hline, ih]
    | finished => simp [answer, hline, feed_cons_finished rest hline]

/-- Feeding two runs of lines: the second is fed from where the first left the decoder, unless a
line of the first finished the answer. -/
theorem feed_append (d : σ) (first second : List String) :
    feed d (first ++ second) =
      if (feed d first).2.2 then feed d first
      else ((feed (feed d first).1 second).1, (feed d first).2.1 ++ (feed (feed d first).1 second).2.1,
        (feed (feed d first).1 second).2.2) := by
  induction first generalizing d with
  | nil => simp
  | cons line rest ih =>
    rcases hline : decodeLine d line with ⟨d', events, flow⟩
    cases flow with
    | «continue» =>
      rw [List.cons_append, feed_cons_continue _ hline, feed_cons_continue _ hline, ih]
      split <;> simp_all
    | finished => simp [feed_cons_finished _ hline]

end LineDecoder

open LineDecoder

theorem LocalDecoder.atMostOneEvent : AtMostOneEvent LocalDecoder := by
  intro d line
  show (LocalDecoder.decodeLine d line).2.1.length ≤ 1
  unfold LocalDecoder.decodeLine
  split
  · simp
  · split
    · simp
    · split
      · simp
      · next chunk _ =>
        show (d.applyChunk chunk).2.length ≤ 1
        rw [LocalDecoder.applyChunk_events]
        cases chunk.textDelta? <;> simp

theorem MeshDecoder.atMostOneEvent : AtMostOneEvent MeshDecoder := by
  intro d line
  show (MeshDecoder.decodeLine d line).2.1.length ≤ 1
  unfold MeshDecoder.decodeLine
  split
  · simp
  · split
    · simp
    · split
      · simp
      · next chunk _ =>
        rw [MeshDecoder.applyChunk_events]
        cases chunk.text? <;> simp

namespace ReadSchedule

/-- The milliseconds the reads of `chunks` take, one after another. -/
def chunksMs (chunks : List (Nat × List UInt8)) : Nat :=
  chunks.foldr (fun chunk t => chunk.1 + t) 0

@[simp] theorem chunksMs_nil : chunksMs [] = 0 := rfl

@[simp] theorem chunksMs_cons (chunk : Nat × List UInt8) (chunks : List (Nat × List UInt8)) :
    chunksMs (chunk :: chunks) = chunk.1 + chunksMs chunks := rfl

end ReadSchedule

namespace DecodeControl

variable {ctl : DecodeControl} {n : Nat}

theorem cancelled_of_cancelAfter_some (h : ctl.cancelAfter = some n) (received : Nat) :
    ctl.cancelled received = decide (n ≤ received) := by
  simp [cancelled, h]

theorem cancelled_of_cancelAfter_none (h : ctl.cancelAfter = Option.none) (received : Nat) :
    ctl.cancelled received = false := by
  simp [cancelled, h]

theorem stopsBefore_of_cancelAtMs_none (h : ctl.cancelAtMs = Option.none) (t : Option Nat) :
    ctl.stopsBefore t = Option.none := by
  simp [stopsBefore, h]

end DecodeControl

namespace Decoding

variable {σ : Type} [LineDecoder σ] {ctl : DecodeControl} {d : σ} {items : List StreamItem}

/-! ### One step of a decoded stream

One equation per way the next line or the next read can go; later proofs follow a stream with
these and never unfold the driver. -/

section Steps

variable {line : String} {rest : List String} {d' : σ} {events : List StreamEvent}

theorem feedLines_cons_stop (h : ctl.cancelled items.length = true) :
    feedLines ctl d (line :: rest) items = (d, items, true) := by
  simp [feedLines, h]

theorem feedLines_cons_continue (h : ctl.cancelled items.length = false)
    (hline : decodeLine d line = (d', events, .continue)) :
    feedLines ctl d (line :: rest) items =
      feedLines ctl d' rest (items ++ events.map Except.ok) := by
  simp [feedLines, h, hline]

theorem feedLines_cons_finished (h : ctl.cancelled items.length = false)
    (hline : decodeLine d line = (d', events, .finished)) :
    feedLines ctl d (line :: rest) items =
      if ctl.cancelled (items ++ events.map Except.ok).length then
        (d', items ++ events.map Except.ok, true)
      else (d', items ++ events.map Except.ok ++ [.ok (usage d')], true) := by
  simp [feedLines, h, hline]

variable {finish : StreamEnd} {buf : LineBuffer} {now : Nat} {reads : List TimedRead}
  {r : TimedRead}

theorem runReads_stop (h : ctl.cancelled items.length = true) :
    runReads ctl finish d buf now reads items = (items, some now) := by
  rw [runReads.eq_def]
  simp [h]

theorem runReads_eof (h : ctl.cancelled items.length = false) :
    runReads ctl .eof d buf now [] items = (items ++ [.ok (usage d)], some now) := by
  rw [runReads.eq_def]
  simp [h]

theorem runReads_pending_overdue {ms : Nat} (h : ctl.cancelled items.length = false)
    (hs : ctl.stopsBefore none = none) (hd : ctl.deadlineMs = some ms) :
    runReads ctl .pending d buf now [] items =
      (items ++ [.error (.timeout (backend σ) ms)], some (max now ms)) := by
  rw [runReads.eq_def]
  simp [h, hs, hd]

theorem runReads_pending_waits (h : ctl.cancelled items.length = false)
    (hs : ctl.stopsBefore none = none) (hd : ctl.deadlineMs = none) :
    runReads ctl .pending d buf now [] items = (items, none) := by
  rw [runReads.eq_def]
  simp [h, hs, hd]

theorem runReads_late (h : ctl.cancelled items.length = false)
    (hs : ctl.stopsBefore (some (now + r.delayMs)) = none)
    (hl : ctl.late (now + r.delayMs) = true) :
    runReads ctl finish d buf now (r :: reads) items =
      (items ++ [.error (.timeout (backend σ) (ctl.deadlineMs.getD 0))],
        some (max now (ctl.deadlineMs.getD 0))) := by
  rw [runReads.eq_def]
  simp [h, hs, hl]

theorem runReads_failure {msg : String} (h : ctl.cancelled items.length = false)
    (hs : ctl.stopsBefore (some (now + r.delayMs)) = none)
    (hl : ctl.late (now + r.delayMs) = false) (hr : r.result = .failure msg) :
    runReads ctl finish d buf now (r :: reads) items =
      (items ++ [.error (.transport (backend σ) msg)], some (now + r.delayMs)) := by
  rw [runReads.eq_def]
  simp [h, hs, hl, hr]

theorem runReads_bytes {data : List UInt8} (h : ctl.cancelled items.length = false)
    (hs : ctl.stopsBefore (some (now + r.delayMs)) = none)
    (hl : ctl.late (now + r.delayMs) = false) (hr : r.result = .bytes data) :
    runReads ctl finish d buf now (r :: reads) items =
      let fed := feedLines ctl d (buf.push data).1 items
      if fed.2.2 then (fed.2.1, some (now + r.delayMs))
      else runReads ctl finish fed.1 (buf.push data).2 (now + r.delayMs) reads fed.2.1 := by
  rw [runReads.eq_def]
  simp [h, hs, hl, hr]

end Steps


/-- Lines only add items after the ones already received. -/
theorem feedLines_extends (ctl : DecodeControl) (d : σ) (lines : List String)
    (items : List StreamItem) : items <+: (feedLines ctl d lines items).2.1 := by
  induction lines generalizing d items with
  | nil => exact List.prefix_refl items
  | cons line rest ih =>
    simp only [feedLines]
    split
    · exact List.prefix_refl items
    · rcases decodeLine d line with ⟨d', events, flow⟩
      cases flow
      · exact (List.prefix_append _ _).trans (ih d' _)
      · dsimp only
        split
        · exact List.prefix_append _ _
        · exact (List.prefix_append _ _).trans (List.prefix_append _ _)

/-- Reads only add items after the ones already received. -/
theorem runReads_extends (ctl : DecodeControl) (finish : StreamEnd) (reads : List TimedRead)
    (d : σ) (buf : LineBuffer) (now : Nat) (items : List StreamItem) :
    items <+: (runReads ctl finish d buf now reads items).1 := by
  induction reads generalizing d buf now items with
  | nil =>
    rw [runReads.eq_def]
    dsimp only
    split
    · exact List.prefix_refl items
    · split
      · exact List.prefix_append _ _
      · split
        · exact List.prefix_refl items
        · split
          · exact List.prefix_append _ _
          · exact List.prefix_refl items
  | cons r rest ih =>
    rw [runReads.eq_def]
    dsimp only
    split
    · exact List.prefix_refl items
    · split
      · exact List.prefix_refl items
      · split
        · exact List.prefix_append _ _
        · split
          · exact List.prefix_append _ _
          · rename_i data _
            have hfed := feedLines_extends ctl d (buf.push data).1 items
            split
            · exact hfed
            · exact hfed.trans (ih _ _ _ _)

/-- A prefix of length `n` is what `take n` keeps. -/
theorem take_eq_of_leading {α : Type} {p l : List α} {n : Nat} (hp : p <+: l) (hn : p.length = n) :
    l.take n = p := by
  rw [List.prefix_iff_eq_take.1 hp, hn]

section Deadline

/-! ### Reads that come before the deadline -/

/-- Lines fed for a caller that never cancels add what the decoder yields for them, and the usage
report after a line that finishes the answer. -/
theorem feedLines_uncancelled (hc : ∀ k, ctl.cancelled k = false) (d : σ) (lines : List String)
    (items : List StreamItem) :
    feedLines ctl d lines items =
      ((feed d lines).1,
        items ++ ((feed d lines).2.1 ++ if (feed d lines).2.2 then [usage (feed d lines).1] else
          []).map Except.ok,
        (feed d lines).2.2) := by
  induction lines generalizing d items with
  | nil => simp [feedLines]
  | cons line rest ih =>
    rcases hline : decodeLine d line with ⟨d', events, flow⟩
    cases flow with
    | «continue» =>
      rw [feedLines_cons_continue (hc _) hline, ih, feed_cons_continue rest hline]
      simp
    | finished =>
      rw [feedLines_cons_finished (hc _) hline, hc, feed_cons_finished rest hline]
      simp

/-- Lines fed for a caller that never cancels add an item when they stop the stream: the usage
report. -/
theorem feedLines_grows_of_stops (hc : ∀ k, ctl.cancelled k = false) (d : σ) (lines : List String)
    (items : List StreamItem) (h : (feedLines ctl d lines items).2.2 = true) :
    items.length < (feedLines ctl d lines items).2.1.length := by
  rw [feedLines_uncancelled hc] at h ⊢
  dsimp only at h
  simp [h]

/-- Reads for a caller that cancels neither after a number of items nor at a time add an item
whenever the stream stops: the usage report or an error. Only a stream that waits for ever ends
with no more items. -/
theorem runReads_grows_of_stops (hc : ∀ k, ctl.cancelled k = false)
    (ha : ctl.cancelAtMs = none) (finish : StreamEnd) (reads : List TimedRead) (d : σ)
    (buf : LineBuffer) (now : Nat) (items : List StreamItem)
    (h : (runReads ctl finish d buf now reads items).2.isSome = true) :
    items.length < (runReads ctl finish d buf now reads items).1.length := by
  have hs := DecodeControl.stopsBefore_of_cancelAtMs_none ha
  induction reads generalizing d buf now items with
  | nil =>
    cases finish with
    | eof => rw [runReads_eof (hc _)]; simp
    | pending =>
      cases hd : ctl.deadlineMs with
      | none => rw [runReads_pending_waits (hc _) (hs _) hd] at h; cases h
      | some ms => rw [runReads_pending_overdue (hc _) (hs _) hd]; simp
  | cons r rest ih =>
    cases hl : ctl.late (now + r.delayMs) with
    | true => rw [runReads_late (hc _) (hs _) hl]; simp
    | false =>
      cases hr : r.result with
      | failure msg => rw [runReads_failure (hc _) (hs _) hl hr]; simp
      | bytes data =>
        rw [runReads_bytes (hc _) (hs _) hl hr] at h ⊢
        dsimp only at h ⊢
        by_cases hstop : (feedLines ctl d (buf.push data).1 items).2.2 = true
        · rw [if_pos hstop]
          exact feedLines_grows_of_stops hc d _ items hstop
        · rw [if_neg hstop] at h ⊢
          calc items.length ≤ (feedLines ctl d (buf.push data).1 items).2.1.length :=
                (feedLines_extends ctl d _ items).length_le
            _ < _ := ih _ _ _ _ h

theorem late_of_le {t t' : Nat} (hl : ctl.late t = false) (ht : t' ≤ t) : ctl.late t' = false := by
  unfold DecodeControl.late at hl ⊢
  split at hl
  · simp_all
    omega
  · simp_all

open LineBuffer in
/-- Reads of bytes that all complete before the deadline, for a caller that never cancels, feed
the decoder the complete lines of the pending bytes and all the bytes read. The stream ends there
if one of them finishes the answer, and otherwise goes on to the next reads with the decoder and
the unfinished line they leave. -/
theorem runReads_chunks_append (hc : ∀ k, ctl.cancelled k = false)
    (hs : ∀ t, ctl.stopsBefore t = none) (finish : StreamEnd) (chunks : List (Nat × List UInt8))
    (tail : List TimedRead) (d : σ) (pending : List UInt8) (now : Nat) (items : List StreamItem)
    (hpend : 10 ∉ pending) (hon : ctl.late (now + ReadSchedule.chunksMs chunks) = false) :
    let split := splitLines [] (pending ++ (chunks.map Prod.snd).flatten)
    let fed := feed d (split.1.map finishLine)
    (runReads ctl finish d ⟨pending⟩ now ((ReadSchedule.ofChunks chunks).reads ++ tail) items).1 =
      if fed.2.2 then items ++ (fed.2.1 ++ [usage fed.1]).map Except.ok
      else (runReads ctl finish fed.1 ⟨split.2⟩ (now + ReadSchedule.chunksMs chunks) tail
        (items ++ fed.2.1.map Except.ok)).1 := by
  induction chunks generalizing d pending now items with
  | nil => simp [ReadSchedule.ofChunks, splitLines_of_lf_free _ _ hpend]
  | cons chunk rest ih =>
    obtain ⟨delay, bytes⟩ := chunk
    simp only [ReadSchedule.chunksMs_cons, List.map_cons, List.flatten_cons] at hon ⊢
    have hlate : ctl.late (now + delay) = false := late_of_le hon (by omega)
    -- the lines this read completes, and the unfinished line it leaves
    have hpush : LineBuffer.push ⟨pending⟩ bytes =
        ((splitLines [] (pending ++ bytes)).1.map finishLine,
          ⟨(splitLines [] (pending ++ bytes)).2⟩) := rfl
    have htail := lf_not_mem_splitLines_snd [] (pending ++ bytes) (by simp)
    have hall := splitLines_append [] (pending ++ bytes) ((rest.map Prod.snd).flatten)
    rw [splitLines_after_tail _ _ htail, List.append_assoc] at hall
    generalize splitLines [] (pending ++ bytes) = first at hpush htail hall
    obtain ⟨segments, unfinished⟩ := first
    have hreads : (ReadSchedule.ofChunks ((delay, bytes) :: rest)).reads ++ tail =
        ⟨delay, .bytes bytes⟩ :: ((ReadSchedule.ofChunks rest).reads ++ tail) := rfl
    rw [hreads, runReads_bytes (hc _) (hs _) hlate rfl, hpush, feedLines_uncancelled hc]
    dsimp only at hall ⊢
    rw [hall]
    simp only [List.map_append]
    rw [feed_append]
    cases hfin : (feed d (segments.map finishLine)).2.2
    · -- the answer goes on: the next reads start from the unfinished line
      have hrest := ih (feed d (segments.map finishLine)).1 unfinished (now + delay)
        (items ++ (feed d (segments.map finishLine)).2.1.map Except.ok) htail
        (by rw [Nat.add_assoc]; exact hon)
      simp only [Bool.false_eq_true, if_false, List.map_nil, List.append_nil] at hrest ⊢
      rw [hrest]
      simp only [List.map_append, List.append_assoc, Nat.add_assoc]
    · -- a line of this read finished the answer: nothing more is read
      simp [hfin]

end Deadline

section Cancel

/-! ### Cancelling after a number of items -/

variable (h1 : AtMostOneEvent σ) {n : Nat}
include h1

/-- Lines fed for a caller that cancels after `n` items, from no more items than that: the same
as for a caller that never cancels, or cut short with exactly `n` items, the first `n` of the
others. One event at most per line keeps the count from passing `n` between two checks. -/
theorem feedLines_cancelAfter {cut full : DecodeControl} (hcut : cut.cancelAfter = some n)
    (hfull : full.cancelAfter = none) (d : σ) (lines : List String) (items : List StreamItem)
    (h : items.length ≤ n) :
    (feedLines cut d lines items = feedLines full d lines items ∧
        (feedLines cut d lines items).2.1.length ≤ n) ∨
      ((feedLines cut d lines items).2.2 = true ∧ (feedLines cut d lines items).2.1.length = n ∧
        (feedLines cut d lines items).2.1 <+: (feedLines full d lines items).2.1 ∧
        ((feedLines full d lines items).2.2 = true →
          n < (feedLines full d lines items).2.1.length)) := by
  have hnever := DecodeControl.cancelled_of_cancelAfter_none hfull
  induction lines generalizing d items with
  | nil => exact .inl ⟨rfl, h⟩
  | cons line rest ih =>
    by_cases hc : n ≤ items.length
    · -- cancelled before the line: the run stops with the items it has
      have hstop : cut.cancelled items.length = true := by
        simp [DecodeControl.cancelled_of_cancelAfter_some hcut, hc]
      rw [feedLines_cons_stop hstop]
      refine .inr ⟨rfl, by simp; omega, feedLines_extends full d (line :: rest) items, fun hfull => ?_⟩
      have := feedLines_grows_of_stops hnever d (line :: rest) items hfull
      omega
    · have hgo : cut.cancelled items.length = false := by
        simp [DecodeControl.cancelled_of_cancelAfter_some hcut, hc]
      rcases hline : decodeLine d line with ⟨d', events, flow⟩
      have hone : events.length ≤ 1 := by simpa [hline] using h1 d line
      have hlen : (items ++ events.map Except.ok).length ≤ n := by simp; omega
      cases flow with
      | «continue» =>
        rw [feedLines_cons_continue hgo hline, feedLines_cons_continue (hnever _) hline]
        exact ih d' _ hlen
      | finished =>
        -- the usage report goes out unless the count has reached `n`
        rw [feedLines_cons_finished hgo hline, feedLines_cons_finished (hnever _) hline,
          hnever, DecodeControl.cancelled_of_cancelAfter_some hcut]
        by_cases hreach : n ≤ (items ++ events.map Except.ok).length
        · rw [if_pos (decide_eq_true hreach)]
          refine .inr ⟨rfl, by dsimp only; omega, List.prefix_append _ _, fun _ => ?_⟩
          simp at hreach ⊢
          omega
        · rw [if_neg (by simpa using hreach)]
          exact .inl ⟨rfl, by simp at hreach ⊢; omega⟩

omit h1 in
/-- A caller that has received its `n` items stops the stream before the next read, with the
first `n` items of the stream that never cancels. That stream, if it stops, gives more. -/
theorem runReads_cancelAfter_reached (deadline : Option Nat) (finish : StreamEnd)
    (reads : List TimedRead) (d : σ) (buf : LineBuffer) (now : Nat) (items : List StreamItem)
    (h : items.length = n) :
    let full := runReads ⟨deadline, none, none⟩ finish d buf now reads items
    (runReads ⟨deadline, some n, none⟩ finish d buf now reads items).1 = full.1.take n ∧
      n ≤ full.1.length ∧ (full.2.isSome → n < full.1.length) := by
  dsimp only
  have hstop : (⟨deadline, some n, none⟩ : DecodeControl).cancelled items.length = true := by
    simp [DecodeControl.cancelled, h]
  have hext := runReads_extends ⟨deadline, none, none⟩ finish reads d buf now items
  rw [runReads_stop hstop]
  refine ⟨(take_eq_of_leading hext h).symm, h ▸ hext.length_le, fun hs => ?_⟩
  have := runReads_grows_of_stops (fun _ => rfl) rfl finish reads d buf now items hs
  omega

/-- Reads for a caller that cancels after `n` items, from no more items than that, go exactly as
for a caller that never cancels when those give at most `n` items. Otherwise they give the first
`n` of them, and the stream that never cancels, if it stops, gives more than `n`. -/
theorem runReads_cancelAfter_cases (deadline : Option Nat) (finish : StreamEnd)
    (reads : List TimedRead) (d : σ) (buf : LineBuffer) (now : Nat) (items : List StreamItem)
    (h : items.length ≤ n) :
    let cut := runReads ⟨deadline, some n, none⟩ finish d buf now reads items
    let full := runReads ⟨deadline, none, none⟩ finish d buf now reads items
    (cut = full ∧ full.1.length ≤ n) ∨
      (cut.1 = full.1.take n ∧ n ≤ full.1.length ∧ (full.2.isSome → n < full.1.length)) := by
  have hnever : ∀ k, (⟨deadline, none, none⟩ : DecodeControl).cancelled k = false := fun _ => rfl
  induction reads generalizing d buf now items with
  | nil =>
    dsimp only
    rcases Nat.lt_or_eq_of_le h with hlt | heq
    · -- no cancellation: the end of the stream is the same for both callers
      have hgo : (⟨deadline, some n, none⟩ : DecodeControl).cancelled items.length = false := by
        simp [DecodeControl.cancelled]; omega
      cases finish with
      | eof =>
        rw [runReads_eof hgo, runReads_eof (hnever _)]
        exact .inl ⟨rfl, by simp; omega⟩
      | pending =>
        cases deadline with
        | none =>
          rw [runReads_pending_waits hgo rfl rfl, runReads_pending_waits (hnever _) rfl rfl]
          exact .inl ⟨rfl, h⟩
        | some ms =>
          rw [runReads_pending_overdue hgo rfl rfl, runReads_pending_overdue (hnever _) rfl rfl]
          exact .inl ⟨rfl, by simp; omega⟩
    · exact .inr (runReads_cancelAfter_reached deadline finish [] d buf now items heq)
  | cons r rest ih =>
    dsimp only
    rcases Nat.lt_or_eq_of_le h with hlt | heq
    · have hgo : (⟨deadline, some n, none⟩ : DecodeControl).cancelled items.length = false := by
        simp [DecodeControl.cancelled]; omega
      cases hl : (⟨deadline, none, none⟩ : DecodeControl).late (now + r.delayMs) with
      | true =>
        rw [runReads_late hgo rfl hl, runReads_late (hnever _) rfl hl]
        exact .inl ⟨rfl, by simp; omega⟩
      | false =>
        cases hr : r.result with
        | failure msg =>
          rw [runReads_failure hgo rfl hl hr, runReads_failure (hnever _) rfl hl hr]
          exact .inl ⟨rfl, by simp; omega⟩
        | bytes data =>
          rw [runReads_bytes hgo rfl hl hr, runReads_bytes (hnever _) rfl hl hr]
          dsimp only
          rcases @feedLines_cancelAfter σ _ h1 n ⟨deadline, some n, none⟩ ⟨deadline, none, none⟩
            rfl rfl d (buf.push data).1 items h with
            ⟨hsame, hlen⟩ | ⟨hstop, hlen, hpre, hgrow⟩
          · -- the lines went as for a caller that never cancels
            rw [hsame] at hlen ⊢
            split
            · exact .inl ⟨rfl, hlen⟩
            · exact ih _ _ _ _ hlen
          · -- the lines were cut at `n` items: nothing more is read
            rw [if_pos hstop]
            split
            · next hfull =>
              exact .inr ⟨(take_eq_of_leading hpre hlen).symm, hlen ▸ hpre.length_le,
                fun _ => hgrow hfull⟩
            · have hext := hpre.trans (runReads_extends ⟨deadline, none, none⟩ finish rest
                (feedLines ⟨deadline, none, none⟩ d (buf.push data).1 items).1
                (buf.push data).2 (now + r.delayMs) _)
              refine .inr ⟨(take_eq_of_leading hext hlen).symm, hlen ▸ hext.length_le,
                fun hs => ?_⟩
              have := runReads_grows_of_stops hnever rfl finish rest _ (buf.push data).2
                (now + r.delayMs) _ hs
              have := hpre.length_le
              omega
    · exact .inr (runReads_cancelAfter_reached deadline finish _ d buf now items heq)

/-- Reads for a caller that cancels after `n` items, from no more items than that, yield the
first `n` items of the reads for a caller that never cancels, under the same deadline. -/
theorem runReads_cancelAfter (deadline : Option Nat) (finish : StreamEnd)
    (reads : List TimedRead) (d : σ) (buf : LineBuffer) (now : Nat) (items : List StreamItem)
    (h : items.length ≤ n) :
    (runReads ⟨deadline, some n, none⟩ finish d buf now reads items).1 =
      (runReads ⟨deadline, none, none⟩ finish d buf now reads items).1.take n := by
  rcases runReads_cancelAfter_cases h1 deadline finish reads d buf now items h with
    ⟨hsame, hlen⟩ | ⟨htake, -, -⟩
  · rw [hsame]
    exact (List.take_of_length_le hlen).symm
  · exact htake

end Cancel

end Decoding

open Decoding in
/-- A stream decoded for a caller that cancels after `n` items goes exactly as for a caller that
never cancels when that stream gives at most `n` items. Otherwise it gives the first `n` of them,
and the stream that never cancels, if it stops, gives more than `n`. -/
theorem decodeFrom_cancelAfter {σ : Type} [LineDecoder σ] (h1 : AtMostOneEvent σ) (n start : Nat)
    (schedule : ReadSchedule) (deadline : Option Nat) :
    let cut := decodeFrom σ start schedule ⟨deadline, some n, none⟩
    let full := decodeFrom σ start schedule ⟨deadline, none, none⟩
    (cut = full ∧ full.1.length ≤ n) ∨
      (cut.1 = full.1.take n ∧ n ≤ full.1.length ∧ (full.2.isSome → n < full.1.length)) :=
  runReads_cancelAfter_cases h1 deadline schedule.finish schedule.reads _ _ start [] (Nat.zero_le n)

/-! ### The first read that fails under a deadline -/

/-- Why a stream read under a deadline stops early: a read that fails before the deadline, with
the failure's message, or the deadline, in milliseconds. -/
inductive ReadFault where
  | failedRead (message : String)
  | overdue (deadlineMs : Nat)
deriving Repr, DecidableEq

/-- The error a stream of `backend` reports for a fault. -/
def ReadFault.toError (backend : String) : ReadFault → DecodeError
  | .failedRead message => .transport backend message
  | .overdue ms => .timeout backend ms

/-- The first read of a schedule that fails under a deadline, on the stream's clock from `0`.
The reads before it deliver the bytes of `chunks` and all complete before the deadline. Then a
read fails before the deadline, or a read would complete after the deadline, or the stream stays
pending, so that only the deadline ends the wait. -/
inductive FirstFault (deadline : Option Nat) :
    ReadSchedule → List (Nat × List UInt8) → ReadFault → Prop
  | failedRead (chunks : List (Nat × List UInt8)) (delay : Nat) (message : String)
      (rest : List TimedRead) (finish : StreamEnd)
      (hbefore : ∀ ms, deadline = some ms → ReadSchedule.chunksMs chunks + delay < ms) :
      FirstFault deadline
        ⟨(ReadSchedule.ofChunks chunks).reads ++ ⟨delay, .failure message⟩ :: rest, finish⟩ chunks
        (.failedRead message)
  | lateRead (chunks : List (Nat × List UInt8)) (read : TimedRead) (rest : List TimedRead)
      (finish : StreamEnd) (ms : Nat) (hd : deadline = some ms)
      (hbefore : ReadSchedule.chunksMs chunks < ms)
      (hafter : ms < ReadSchedule.chunksMs chunks + read.delayMs) :
      FirstFault deadline ⟨(ReadSchedule.ofChunks chunks).reads ++ read :: rest, finish⟩ chunks
        (.overdue ms)
  | pending (chunks : List (Nat × List UInt8)) (ms : Nat) (hd : deadline = some ms)
      (hbefore : ReadSchedule.chunksMs chunks < ms) :
      FirstFault deadline ⟨(ReadSchedule.ofChunks chunks).reads, .pending⟩ chunks (.overdue ms)

open LineBuffer in
/-- What a decoder yields, with no cancellation, for a stream under a deadline whose first
failing read comes after the reads of `chunks`. When a complete line of those reads finishes the
answer, the items are those of the same bytes read to their end with no deadline, and the fault
never shows. Otherwise they are the events of those lines, then the fault's error alone. -/
def FaultDecoded (σ : Type) [LineDecoder σ] (deadline : Option Nat) (schedule : ReadSchedule)
    (chunks : List (Nat × List UInt8)) (fault : ReadFault) : Prop :=
  let fed := feed (fresh : σ) (completeLines (chunks.map Prod.snd).flatten)
  decodeStream σ schedule ⟨deadline, none, none⟩ =
    if fed.2.2 then decodeStream σ (.ofChunks chunks) .none
    else fed.2.1.map .ok ++ [.error (fault.toError (backend σ))]

open LineBuffer Decoding in
/-- Every decoder's stream under a deadline ends at its first failing read as `FaultDecoded`
says. -/
theorem faultDecoded_of_firstFault (σ : Type) [LineDecoder σ] {deadline : Option Nat}
    {schedule : ReadSchedule} {chunks : List (Nat × List UInt8)} {fault : ReadFault}
    (h : FirstFault deadline schedule chunks fault) :
    FaultDecoded σ deadline schedule chunks fault := by
  have hc : ∀ k, (⟨deadline, none, none⟩ : DecodeControl).cancelled k = false := fun _ => rfl
  have hs : ∀ t, (⟨deadline, none, none⟩ : DecodeControl).stopsBefore t = none := fun _ => rfl
  -- the reads of `chunks` read to their end with no deadline: the answer to their lines
  have hgraceful : decodeStream σ (.ofChunks chunks) .none =
      (answer (fresh : σ) (completeLines (chunks.map Prod.snd).flatten)).map .ok := by
    obtain ⟨stop, hrun⟩ := decodeFrom_ofChunks σ 0 chunks
    simp [decodeStream, hrun]
  unfold FaultDecoded
  rw [hgraceful, answer_eq_feed, completeLines_eq]
  cases h with
  | failedRead chunks delay message rest finish hbefore =>
    have hlate : ∀ t, t ≤ ReadSchedule.chunksMs chunks + delay →
        (⟨deadline, none, none⟩ : DecodeControl).late t = false := by
      intro t ht
      cases hd : deadline with
      | none => rfl
      | some ms => simpa [DecodeControl.late] using (by have := hbefore ms hd; omega)
    simp only [decodeStream, decodeFrom, LineBuffer.empty]
    rw [runReads_chunks_append hc hs finish chunks _ fresh [] 0 [] (by simp)
      (hlate _ (by omega))]
    cases hfin : (feed (fresh : σ) ((splitLines [] (chunks.map Prod.snd).flatten).1.map
      finishLine)).2.2
    · -- no line finished the answer: the failed read comes before the deadline
      simp only [hfin, Bool.false_eq_true, if_false, Nat.zero_add, List.nil_append]
      rw [runReads_failure rfl (hs _) (hlate _ (Nat.le_refl _)) rfl]
      simp [ReadFault.toError]
    · simp [hfin]
  | lateRead chunks read rest finish ms hd hbefore hafter =>
    subst hd
    simp only [decodeStream, decodeFrom, LineBuffer.empty]
    rw [runReads_chunks_append hc hs finish chunks _ fresh [] 0 [] (by simp)
      (by simp [DecodeControl.late]; omega)]
    cases hfin : (feed (fresh : σ) ((splitLines [] (chunks.map Prod.snd).flatten).1.map
      finishLine)).2.2
    · -- no line finished the answer: the next read would come after the deadline
      simp only [hfin, Bool.false_eq_true, if_false, Nat.zero_add, List.nil_append]
      rw [runReads_late rfl (hs _) (by simp [DecodeControl.late]; omega)]
      simp [ReadFault.toError]
    · simp [hfin]
  | pending chunks ms hd hbefore =>
    subst hd
    simp only [decodeStream, decodeFrom, LineBuffer.empty]
    rw [← List.append_nil (ReadSchedule.ofChunks chunks).reads,
      runReads_chunks_append hc hs .pending chunks [] fresh [] 0 [] (by simp)
        (by simp [DecodeControl.late]; omega)]
    cases hfin : (feed (fresh : σ) ((splitLines [] (chunks.map Prod.snd).flatten).1.map
      finishLine)).2.2
    · -- no line finished the answer: the stream waits until the deadline
      simp only [hfin, Bool.false_eq_true, if_false, List.nil_append]
      rw [runReads_pending_overdue rfl (hs _) rfl]
      simp [ReadFault.toError]
    · simp [hfin]

/-- Both decoders' streams under a deadline end at their first failing read: with the answer of
the bytes read before it, if one of their lines finished it, and otherwise with the events of
those lines and one error, a transport error for a read that failed before the deadline and a
timeout for the deadline. -/
theorem decodeStream_first_fault {deadline : Option Nat} {schedule : ReadSchedule}
    {chunks : List (Nat × List UInt8)} {fault : ReadFault}
    (h : FirstFault deadline schedule chunks fault) :
    FaultDecoded LocalDecoder deadline schedule chunks fault ∧
      FaultDecoded MeshDecoder deadline schedule chunks fault :=
  ⟨faultDecoded_of_firstFault LocalDecoder h, faultDecoded_of_firstFault MeshDecoder h⟩

/-- A line read at 10 ms, then a read that fails at 20 ms, under a deadline of 15 ms: the
failing read comes after the deadline. -/
theorem decodeStream_first_fault_late_reset :
    let chunks : List (Nat × List UInt8) := [(10, Utf8.encode "data: x\n")]
    let schedule : ReadSchedule :=
      ⟨(ReadSchedule.ofChunks chunks).reads ++ [⟨10, .failure "late reset"⟩], .eof⟩
    FirstFault (some 15) schedule chunks (.overdue 15) ∧
      FaultDecoded LocalDecoder (some 15) schedule chunks (.overdue 15) ∧
      FaultDecoded MeshDecoder (some 15) schedule chunks (.overdue 15) :=
  have h := FirstFault.lateRead [(10, Utf8.encode "data: x\n")] ⟨10, .failure "late reset"⟩ []
    .eof 15 rfl (by decide) (by decide)
  ⟨h, decodeStream_first_fault h⟩

/-- What a caller that cancels right after it has received `n` items gets from a decoded stream,
whatever the reads, their timing and the deadline: the first `n` items of what it gets when it
never cancels. So once cancelled, the stream yields neither a usage report nor an error, and a
stream cancelled before its first item yields nothing. -/
def CancelKeepsFirstItems (σ : Type) [LineDecoder σ] : Prop :=
  ∀ (schedule : ReadSchedule) (deadline : Option Nat) (n : Nat),
    decodeStream σ schedule ⟨deadline, some n, none⟩ =
      (decodeStream σ schedule ⟨deadline, none, none⟩).take n

theorem cancelKeepsFirstItems_of_atMostOneEvent {σ : Type} [LineDecoder σ] (h1 : AtMostOneEvent σ) :
    CancelKeepsFirstItems σ :=
  fun _ deadline n => Decoding.runReads_cancelAfter h1 deadline _ _ _ _ _ [] (Nat.zero_le n)

/-- Both decoders' streams, cancelled after any number of items, are the first items of the
streams not cancelled. -/
theorem decodeStream_cancel_keeps_first_items :
    CancelKeepsFirstItems LocalDecoder ∧ CancelKeepsFirstItems MeshDecoder :=
  ⟨cancelKeepsFirstItems_of_atMostOneEvent LocalDecoder.atMostOneEvent,
    cancelKeepsFirstItems_of_atMostOneEvent MeshDecoder.atMostOneEvent⟩

end InferRoute
