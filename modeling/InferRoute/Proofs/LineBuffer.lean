import InferRoute.Proofs.Utf8
import InferRoute.Proofs.Stream

/-! Pushing chunks into a line buffer. Whatever the cuts between the chunks, the lines that the
pushes return, taken together, are the complete lines of all the bytes pushed, and the buffer
then holds the bytes after the last line feed; so each push returns exactly the lines whose line
feed it brought. Since an ASCII octet never belongs to a longer UTF-8 sequence, reading each line
as text and reading the bytes up to the last line feed as one text agree: the lines are that
text split at line feeds, each piece without one trailing carriage return. -/

namespace InferRoute.LineBuffer

/-- Pushes chunks in order: for each push, the lines it returned and the number of bytes left
waiting after it. -/
def trace (buf : LineBuffer) : List (List UInt8) → List (List String × Nat)
  | [] => []
  | chunk :: rest =>
    ((buf.push chunk).1, (buf.push chunk).2.pendingLength) :: trace (buf.push chunk).2 rest

/-- The buffer after pushing chunks in order. -/
def after (buf : LineBuffer) (chunks : List (List UInt8)) : LineBuffer :=
  chunks.foldl (fun b chunk => (b.push chunk).2) buf

/-- The bytes after the last line feed, all of them when there is none. -/
def afterLastLF (bytes : List UInt8) : List UInt8 := (bytes.reverse.takeWhile (· != 10)).reverse

/-- The bytes up to and including the last line feed, none when there is none. -/
def throughLastLF (bytes : List UInt8) : List UInt8 := (bytes.reverse.dropWhile (· != 10)).reverse

/-- A text without one trailing carriage return. -/
def withoutCR (cs : List Char) : List Char := if cs.getLast? = some '\r' then cs.dropLast else cs

theorem ofNat_lf : Char.ofNat (10 : UInt8).toNat = '\n' := by decide

theorem ofNat_cr : Char.ofNat (13 : UInt8).toNat = '\r' := by decide

theorem push_eq (buf : LineBuffer) (chunk : List UInt8) :
    buf.push chunk = ((splitLines [] (buf.pending ++ chunk)).1.map finishLine,
      ⟨(splitLines [] (buf.pending ++ chunk)).2⟩) := rfl

/-! ### Segments and tail -/

/-- A segment holds no line feed. -/
theorem lf_not_mem_splitLines_fst (current bytes : List UInt8) (h : 10 ∉ current) :
    ∀ s ∈ (splitLines current bytes).1, 10 ∉ s := by
  induction bytes generalizing current with
  | nil => simp [splitLines_nil]
  | cons b rest ih =>
    by_cases hb : b = 10
    · subst hb
      rw [splitLines_lf]
      intro s hs
      rcases List.mem_cons.1 hs with rfl | hs
      · simpa using h
      · exact ih [] (by simp) s hs
    · rw [splitLines_other _ _ hb]
      exact ih _ (by simp [h, Ne.symm hb])

/-- Each line feed closes one segment. -/
theorem length_splitLines_fst (current bytes : List UInt8) :
    (splitLines current bytes).1.length = bytes.count 10 := by
  induction bytes generalizing current with
  | nil => rfl
  | cons b rest ih =>
    by_cases hb : b = 10
    · subst hb
      simp [splitLines_lf, ih]
    · rw [splitLines_other _ _ hb, ih, List.count_cons]
      simp [hb]

/-- The segments, each closed by its line feed, and then the tail give back the bytes. -/
theorem splitLines_flatMap (current bytes : List UInt8) :
    (splitLines current bytes).1.flatMap (· ++ [10]) ++ (splitLines current bytes).2 =
      current.reverse ++ bytes := by
  induction bytes generalizing current with
  | nil => simp [splitLines_nil]
  | cons b rest ih =>
    by_cases hb : b = 10
    · subst hb
      simp [splitLines_lf, ih]
    · rw [splitLines_other _ _ hb, ih]
      simp

/-- Splitting bytes with more after them: the segments of the bytes, then those of their tail
followed by what comes after. -/
theorem splitLines_snoc (bytes more : List UInt8) :
    splitLines [] (bytes ++ more) =
      ((splitLines [] bytes).1 ++ (splitLines [] ((splitLines [] bytes).2 ++ more)).1,
        (splitLines [] ((splitLines [] bytes).2 ++ more)).2) := by
  rw [splitLines_append, splitLines_after_tail _ _ (lf_not_mem_splitLines_snd [] bytes (by simp))]

/-- Read from the end, the bytes are their tail and then their segments with line feeds: the
first line feed from the end closes the tail. -/
theorem reverse_takeWhile_dropWhile (bytes : List UInt8) :
    bytes.reverse.takeWhile (· != 10) = (splitLines [] bytes).2.reverse ∧
      bytes.reverse.dropWhile (· != 10) =
        ((splitLines [] bytes).1.flatMap (· ++ [10])).reverse := by
  have hbytes := splitLines_flatMap [] bytes
  rw [List.reverse_nil, List.nil_append] at hbytes
  have htail := lf_not_mem_splitLines_snd [] bytes (by simp)
  generalize splitLines [] bytes = split at hbytes htail ⊢
  obtain ⟨segments, tail⟩ := split
  subst hbytes
  have hkeep : ∀ b ∈ tail.reverse, (b != 10) = true := by
    intro b hb
    have hne : b ≠ 10 := fun h => htail (h ▸ List.mem_reverse.1 hb)
    simpa using hne
  -- the segments with their line feeds are empty or end with a line feed
  have hstop : (segments.flatMap (· ++ [10])).reverse.takeWhile (· != 10) = [] ∧
      (segments.flatMap (· ++ [10])).reverse.dropWhile (· != 10) =
        (segments.flatMap (· ++ [10])).reverse := by
    rcases List.eq_nil_or_concat segments with rfl | ⟨init, last, rfl⟩ <;> simp
  simp only [List.reverse_append, List.takeWhile_append_of_pos hkeep,
    List.dropWhile_append_of_pos hkeep, hstop, List.append_nil, and_self]

theorem afterLastLF_eq (bytes : List UInt8) : afterLastLF bytes = (splitLines [] bytes).2 := by
  rw [afterLastLF, (reverse_takeWhile_dropWhile bytes).1, List.reverse_reverse]

theorem throughLastLF_eq (bytes : List UInt8) :
    throughLastLF bytes = (splitLines [] bytes).1.flatMap (· ++ [10]) := by
  rw [throughLastLF, (reverse_takeWhile_dropWhile bytes).2, List.reverse_reverse]

/-! ### The lines as one text -/

/-- The text of segments each closed by a line feed is their texts each closed by a line feed. -/
theorem decode_flatMap_lf (segments : List (List UInt8)) :
    Utf8.decode (segments.flatMap (· ++ [10])) =
      segments.flatMap fun s => Utf8.decode s ++ ['\n'] := by
  induction segments with
  | nil => simp [Utf8.decode]
  | cons s rest ih =>
    rw [List.flatMap_cons, List.append_assoc, List.singleton_append,
      Utf8.decode_append_of_ascii _ _ (by simp), Utf8.decode_cons_ascii (by decide), ofNat_lf, ih]
    simp

/-- Pieces without a line feed, each closed by one, split at line feeds into themselves and an
empty last piece. -/
theorem splitOn_flatMap_lf (pieces : List (List Char)) (h : ∀ p ∈ pieces, '\n' ∉ p) :
    (pieces.flatMap (· ++ ['\n'])).splitOn '\n' = pieces ++ [[]] := by
  induction pieces with
  | nil => rfl
  | cons p rest ih =>
    rw [List.flatMap_cons, List.append_assoc, List.singleton_append,
      List.splitOn_append_cons_self_of_not_mem (h p (by simp)),
      ih fun q hq => h q (List.mem_cons_of_mem _ hq)]
    rfl

/-- Dropping one trailing carriage return before reading the bytes, or after. -/
theorem withoutCR_decode (bytes : List UInt8) :
    withoutCR (Utf8.decode bytes) =
      Utf8.decode (if bytes.getLast? = some 13 then bytes.dropLast else bytes) := by
  by_cases hcr : bytes.getLast? = some 13
  · have hsplit : bytes = bytes.dropLast ++ [13] := (List.dropLast_append_getLast? 13 hcr).symm
    have htext : Utf8.decode bytes = Utf8.decode bytes.dropLast ++ ['\r'] := by
      conv_lhs => rw [hsplit]
      rw [Utf8.decode_append_of_ascii _ _ (by simp), Utf8.decode_cons_ascii (by decide), ofNat_cr]
      simp [Utf8.decode]
    rw [if_pos hcr, withoutCR, htext, if_pos (by simp), List.dropLast_concat]
  · rw [if_neg hcr, withoutCR, if_neg]
    intro htext
    exact hcr (Utf8.getLast_decode_ascii (a := 13) (by decide) (by decide) bytes htext)

/-- The complete lines of bytes are the text of the bytes up to the last line feed, split at
line feeds, each piece without one trailing carriage return. -/
theorem completeLines_eq_text (bytes : List UInt8) :
    completeLines bytes = ((Utf8.decode (throughLastLF bytes)).splitOn '\n').dropLast.map
      fun cs => String.ofList (withoutCR cs) := by
  have hfree := lf_not_mem_splitLines_fst [] bytes (by simp)
  have htext : ((splitLines [] bytes).1.flatMap fun s => Utf8.decode s ++ ['\n']) =
      ((splitLines [] bytes).1.map Utf8.decode).flatMap (· ++ ['\n']) := by
    simp [List.flatMap_map]
  rw [completeLines_eq, throughLastLF_eq, decode_flatMap_lf, htext, splitOn_flatMap_lf,
    List.dropLast_concat, List.map_map]
  · refine List.map_congr_left fun s _ => ?_
    simp only [Function.comp_apply, withoutCR_decode]
    rfl
  · -- a piece is the text of a segment, and a segment holds no line feed
    intro p hp
    obtain ⟨s, hs, rfl⟩ := List.mem_map.1 hp
    exact fun hlf => hfree s hs (Utf8.ascii_mem_decode (a := 10) (by decide) (by decide) s hlf)

/-! ### Runs of pushes -/

theorem trace_append (buf : LineBuffer) (xs ys : List (List UInt8)) :
    trace buf (xs ++ ys) = trace buf xs ++ trace (after buf xs) ys := by
  induction xs generalizing buf with
  | nil => rfl
  | cons chunk rest ih => simp [trace, after, ih]

theorem length_trace (buf : LineBuffer) (chunks : List (List UInt8)) :
    (trace buf chunks).length = chunks.length := by
  induction chunks generalizing buf with
  | nil => rfl
  | cons chunk rest ih => simp [trace, ih]

theorem trace_take (buf : LineBuffer) (chunks : List (List UInt8)) (i : Nat) :
    (trace buf chunks).take i = trace buf (chunks.take i) := by
  induction chunks generalizing buf i with
  | nil => simp [trace]
  | cons chunk rest ih =>
    cases i with
    | zero => rfl
    | succ i => simp [trace, ih]

/-- The buffer holds the tail of everything pushed into it. -/
theorem after_pending (tail : List UInt8) (h : 10 ∉ tail) (chunks : List (List UInt8)) :
    (after ⟨tail⟩ chunks).pending = (splitLines [] (tail ++ chunks.flatten)).2 := by
  induction chunks generalizing tail with
  | nil => simp [after, splitLines_of_lf_free _ _ h]
  | cons chunk rest ih =>
    have htail := lf_not_mem_splitLines_snd [] (tail ++ chunk) (by simp)
    rw [after, List.foldl_cons, ← after, push_eq, ih _ htail, List.flatten_cons,
      ← List.append_assoc, splitLines_snoc (tail ++ chunk)]

/-- The lines of a run of pushes, taken together, are the segments of everything pushed. -/
theorem trace_lines (tail : List UInt8) (h : 10 ∉ tail) (chunks : List (List UInt8)) :
    ((trace ⟨tail⟩ chunks).map Prod.fst).flatten =
      (splitLines [] (tail ++ chunks.flatten)).1.map finishLine := by
  induction chunks generalizing tail with
  | nil => simp [trace, splitLines_of_lf_free _ _ h]
  | cons chunk rest ih =>
    have htail := lf_not_mem_splitLines_snd [] (tail ++ chunk) (by simp)
    rw [trace, List.map_cons, List.flatten_cons, push_eq, ih _ htail, List.flatten_cons,
      ← List.append_assoc, splitLines_snoc (tail ++ chunk), List.map_append]

/-- A push after some bytes returns the lines of the bytes with the chunk that the bytes alone
did not have, one for each line feed of the chunk, and leaves the bytes after the last line feed
of both. -/
theorem push_after (bytes chunk : List UInt8) :
    (LineBuffer.push ⟨(splitLines [] bytes).2⟩ chunk).1 =
        (completeLines (bytes ++ chunk)).drop (completeLines bytes).length ∧
      (LineBuffer.push ⟨(splitLines [] bytes).2⟩ chunk).2.pendingLength =
        (afterLastLF (bytes ++ chunk)).length ∧
      ((completeLines (bytes ++ chunk)).drop (completeLines bytes).length).length =
        chunk.count 10 := by
  have htail := lf_not_mem_splitLines_snd [] bytes (by simp)
  have hlines : (completeLines (bytes ++ chunk)).drop (completeLines bytes).length =
      (splitLines [] ((splitLines [] bytes).2 ++ chunk)).1.map finishLine := by
    rw [completeLines_eq, completeLines_eq, splitLines_snoc, List.map_append,
      List.drop_left' (by simp)]
  refine ⟨by rw [hlines, push_eq], ?_, ?_⟩
  · rw [push_eq, afterLastLF_eq, splitLines_snoc bytes chunk]
    rfl
  · rw [hlines, List.length_map, length_splitLines_fst, List.count_append,
      List.count_eq_zero.2 htail, Nat.zero_add]

/-- Pushing chunks into an empty buffer, whatever the cuts between them. Take the first `i`
chunks, `P` their bytes. The lines that their pushes returned, taken together, are the complete
lines of `P`, which are also the text of `P` up to its last line feed split at line feeds, each
piece without one trailing carriage return. The next push, of `c`, returns the lines of `P ++ c`
beyond those of `P`, one for each line feed in `c`, and leaves waiting the bytes of `P ++ c`
after its last line feed. -/
theorem trace_by_complete_lines (chunks : List (List UInt8)) (i : Nat) :
    (((LineBuffer.empty.trace chunks).take i).map Prod.fst).flatten =
      completeLines (chunks.take i).flatten ∧
    let P := (chunks.take i).flatten
    let pushes := LineBuffer.empty.trace chunks
    completeLines P = ((Utf8.decode (throughLastLF P)).splitOn '\n').dropLast.map
      (fun cs => String.ofList (withoutCR cs)) ∧
    ∀ c ∈ chunks[i]?,
      pushes[i]? = some ((completeLines (P ++ c)).drop (completeLines P).length,
        (afterLastLF (P ++ c)).length) ∧
      ((completeLines (P ++ c)).drop (completeLines P).length).length = c.count 10 := by
  refine ⟨?_, ?_⟩
  · rw [trace_take, completeLines_eq]
    exact trace_lines [] (by simp) (chunks.take i)
  intro P pushes
  refine ⟨completeLines_eq_text P, fun c hc => ?_⟩
  · -- the chunks are the first `i`, then `c`, then the rest
    obtain ⟨hi, hget⟩ := List.getElem?_eq_some_iff.1 hc
    have hsplit : chunks = chunks.take i ++ c :: chunks.drop (i + 1) := by
      rw [← hget, List.getElem_cons_drop, List.take_append_drop]
    have hafter : after LineBuffer.empty (chunks.take i) = ⟨(splitLines [] P).2⟩ := by
      have hpending := after_pending [] (by simp) (chunks.take i)
      rw [List.nil_append] at hpending
      exact congrArg LineBuffer.mk hpending
    obtain ⟨hlines, hpending, hcount⟩ := push_after P c
    have hlen : (LineBuffer.empty.trace (chunks.take i)).length = i := by
      rw [length_trace, List.length_take, Nat.min_eq_left hi.le]
    refine ⟨?_, hcount⟩
    simp only [pushes]
    rw [hsplit, trace_append, hafter, List.getElem?_append_right hlen.le, hlen, Nat.sub_self,
      trace, List.getElem?_cons_zero, hlines, hpending]

/-- A carriage return cut from its line feed, and a two-octet character cut after its first
octet: the second push returns the line the line feed closes and keeps the lone octet. -/
theorem trace_by_complete_lines_crlf_cut :
    let chunks : List (List UInt8) := [[0x61, 13], [10, 0xC3]]
    let P := (chunks.take 1).flatten
    [10, 0xC3] ∈ chunks[1]? ∧
      (LineBuffer.empty.trace chunks)[1]? =
        some ((completeLines (P ++ [10, 0xC3])).drop (completeLines P).length,
          (afterLastLF (P ++ [10, 0xC3])).length) ∧
      ((completeLines (P ++ [10, 0xC3])).drop (completeLines P).length).length =
        List.count 10 [10, 0xC3] :=
  ⟨by simp, (trace_by_complete_lines [[0x61, 13], [10, 0xC3]] 1).2.2 [10, 0xC3] (by simp)⟩

end InferRoute.LineBuffer
