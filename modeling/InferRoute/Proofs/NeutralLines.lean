import InferRoute.Proofs.LineBuffer

/-! Lines a decoder passes over. The local server's decoder skips a line that is no data line,
that holds the end marker anywhere, whose payload is no chunk, or whose chunk has neither text
nor a positive token count. The mesh decoder skips a line that is no data line, or whose payload
is not exactly the end marker and is either no chunk or a chunk with no text that ends nothing.
From any state, such a neutral line yields nothing, lets the answer go on and changes no count
(`LocalDecoder.decodeLine_neutral`, `MeshDecoder.decodeLine_neutral`).

So a stream with one more line yields what it yielded without it, when the decoder passes over
that line: `decodeStream_insert_passed`, for any cuts into reads. The line the decoder gets is
the line as framed, with one trailing carriage return removed. It is that line which must be
neutral. `data: [DONE]` followed by a carriage return is a neutral line for the mesh, and
framed it is the end marker (`mesh_done_with_cr_ends_stream`). -/

namespace InferRoute

/-- A result with no value is an error. -/
theorem Except.error_of_toOption_eq_none {ε α : Type} {r : Except ε α} (h : r.toOption = none) :
    ∃ e, r = .error e := by
  cases r with
  | error e => exact ⟨e, rfl⟩
  | ok a => simp [Except.toOption] at h

namespace ChatChunk

/-- A chunk that tells the local decoder nothing: no new text, and no positive token count. -/
def Inert (c : ChatChunk) : Prop :=
  c.textDelta? = none ∧
    ∀ u ∈ c.usage, (∀ p ∈ u.promptTokens, p = 0) ∧ ∀ n ∈ u.completionTokens, n = 0

end ChatChunk

namespace MeshChunk

/-- A chunk that tells the mesh decoder nothing: no text, and it does not end the answer. -/
def Inert (c : MeshChunk) : Prop := c.text? = none ∧ c.isTerminal = false

end MeshChunk

namespace LocalDecoder

/-- The lines the local server's decoder passes over. -/
inductive Neutral : String → Prop
  /-- A line without the `data: ` prefix. -/
  | notData {line : String} : Search.dropPrefix? line dataPrefix = none → Neutral line
  /-- A line that holds the end marker anywhere. -/
  | mentionsDone {line : String} : Search.contains line doneMarker = true → Neutral line
  /-- A data line whose payload is no chunk. -/
  | malformed {line payload : String} : Search.dropPrefix? line dataPrefix = some payload →
      (ChatChunk.parse payload).toOption = none → Neutral line
  /-- A data line whose chunk has no text and no positive token count. -/
  | inert {line payload : String} {chunk : ChatChunk} :
      Search.dropPrefix? line dataPrefix = some payload → ChatChunk.parse payload = .ok chunk →
      chunk.Inert → Neutral line

/-- A report without a positive count keeps both counts. -/
theorem applyUsage_of_zero (d : LocalDecoder) {usage : Option ChatUsage}
    (h : ∀ u ∈ usage, (∀ p ∈ u.promptTokens, p = 0) ∧
      ∀ n ∈ u.completionTokens, n = 0) : d.applyUsage usage = d := by
  cases usage with
  | none => rfl
  | some u =>
    obtain ⟨hp, hc⟩ := h u rfl
    unfold applyUsage
    cases hpt : u.promptTokens <;> cases hct : u.completionTokens <;> simp_all

theorem applyChunk_inert (d : LocalDecoder) {chunk : ChatChunk} (h : chunk.Inert) :
    d.applyChunk chunk = (d, []) := by
  obtain ⟨htext, husage⟩ := h
  simp [applyChunk, htext, applyUsage_of_zero d husage]

theorem decodeLine_neutral (d : LocalDecoder) {line : String} (h : Neutral line) :
    d.decodeLine line = (d, [], .continue) := by
  unfold decodeLine
  cases h with
  | notData hp => rw [hp]
  | mentionsDone hd => split <;> simp [hd]
  | malformed hp hm =>
    obtain ⟨e, he⟩ := Except.error_of_toOption_eq_none hm
    rw [hp]
    dsimp only
    split
    · rfl
    · rw [he]
  | inert hp hc hi =>
    rw [hp]
    dsimp only
    split
    · rfl
    · simp only [hc, applyChunk_inert d hi]

end LocalDecoder

namespace MeshDecoder

/-- The lines the mesh decoder passes over. -/
inductive Neutral : String → Prop
  /-- A line without the `data: ` prefix. -/
  | notData {line : String} : Search.dropPrefix? line dataPrefix = none → Neutral line
  /-- A data line whose payload is not the end marker and is no chunk. -/
  | malformed {line payload : String} : Search.dropPrefix? line dataPrefix = some payload →
      payload ≠ doneMarker → (MeshChunk.parse payload).toOption = none → Neutral line
  /-- A data line whose payload is not the end marker and whose chunk has no text and ends
  nothing. -/
  | inert {line payload : String} {chunk : MeshChunk} :
      Search.dropPrefix? line dataPrefix = some payload → payload ≠ doneMarker →
      MeshChunk.parse payload = .ok chunk → chunk.Inert → Neutral line

theorem applyChunk_inert (d : MeshDecoder) {chunk : MeshChunk} (h : chunk.Inert) :
    d.applyChunk chunk = (d, [], .continue) := by
  obtain ⟨htext, hend⟩ := h
  simp [applyChunk, htext, hend]

theorem decodeLine_neutral (d : MeshDecoder) {line : String} (h : Neutral line) :
    d.decodeLine line = (d, [], .continue) := by
  unfold decodeLine
  cases h with
  | notData hp => rw [hp]
  | malformed hp hdone hm =>
    obtain ⟨e, he⟩ := Except.error_of_toOption_eq_none hm
    rw [hp]
    dsimp only
    rw [if_neg hdone, he]
  | inert hp hdone hc hi =>
    rw [hp]
    dsimp only
    rw [if_neg hdone, hc]
    exact applyChunk_inert d hi

end MeshDecoder

namespace LineDecoder

variable {σ : Type} [LineDecoder σ]

/-- A line that every state of the decoder passes over: it yields nothing, the answer goes on,
and the state stays as it was. -/
def PassesOver (σ : Type) [LineDecoder σ] (line : String) : Prop :=
  ∀ d : σ, decodeLine d line = (d, [], .continue)

/-- A line passed over drops out of the answer, wherever it stands among the lines. -/
theorem answer_insert_passed (d : σ) (before after : List String) {line : String}
    (h : PassesOver σ line) : answer d (before ++ line :: after) = answer d (before ++ after) := by
  induction before generalizing d with
  | nil => simp [answer, h d]
  | cons first rest ih =>
    simp only [List.cons_append, answer]
    rcases decodeLine d first with ⟨d', events, flow⟩
    -- a finishing line ends both answers alike; otherwise both go on from `d'`
    cases flow
    · simp only [ih d']
    · rfl

end LineDecoder

namespace LineBuffer

theorem completeLines_nil : completeLines [] = [] := rfl

/-- A line feed closes the pieces before it: the complete lines of the bytes are those pieces,
framed, and then the complete lines after the line feed. -/
theorem completeLines_append_lf (init after : List UInt8) :
    completeLines (init ++ 10 :: after) =
      (init.splitOn 10).map finishLine ++ completeLines after := by
  rw [completeLines, List.splitOn_append_cons_self,
    List.dropLast_append_of_ne_nil (List.splitOn_ne_nil _ _), List.map_append]
  rfl

/-- Bytes cut where a line starts have the complete lines of the two parts. -/
theorem completeLines_append_of_boundary {before : List UInt8}
    (h : ∀ b ∈ before.getLast?, b = 10) (after : List UInt8) :
    completeLines (before ++ after) = completeLines before ++ completeLines after := by
  rcases List.eq_nil_or_concat before with rfl | ⟨init, last, rfl⟩
  · rfl
  · obtain rfl : last = 10 := h last (by simp)
    have hclosed := completeLines_append_lf init []
    rw [List.concat_eq_append, List.append_assoc, List.singleton_append, completeLines_append_lf,
      hclosed, completeLines_nil, List.append_nil]

/-- A line feed after bytes without one makes one complete line of them. -/
theorem completeLines_line {line : List UInt8} (h : 10 ∉ line) (after : List UInt8) :
    completeLines (line ++ 10 :: after) = finishLine line :: completeLines after := by
  rw [completeLines_append_lf, List.splitOn_eq_singleton h]
  rfl

end LineBuffer

open LineDecoder LineBuffer

/-- A stream with one more line, put where a line starts and passed over by the decoder from any
state, yields what the stream without it yields: no deadline, no cancellation, and the two
streams cut into reads in any way. -/
theorem decodeStream_insert_passed {σ : Type} [LineDecoder σ]
    {chunks chunks' : List (Nat × List UInt8)} {before after line : List UInt8}
    (hb : ∀ b ∈ before.getLast?, b = 10) (hl : 10 ∉ line)
    (hpass : PassesOver σ (finishLine line))
    (h : (chunks.map Prod.snd).flatten = before ++ after)
    (h' : (chunks'.map Prod.snd).flatten = before ++ line ++ 10 :: after) :
    decodeStream σ (.ofChunks chunks') .none = decodeStream σ (.ofChunks chunks) .none := by
  obtain ⟨_, hrun⟩ := decodeFrom_ofChunks σ 0 chunks
  obtain ⟨_, hrun'⟩ := decodeFrom_ofChunks σ 0 chunks'
  have hlines : completeLines (before ++ line ++ 10 :: after) =
      completeLines before ++ finishLine line :: completeLines after := by
    rw [List.append_assoc, completeLines_append_of_boundary hb, completeLines_line hl]
  simp only [decodeStream, hrun, hrun', h, h', hlines, completeLines_append_of_boundary hb,
    answer_insert_passed _ _ _ hpass]

/-- That inserting a line which the framing makes into a neutral one changes nothing a stream
yields: the line goes, with its line feed, where a line of the stream starts, and either stream
may be cut into reads in any way. -/
def NeutralInsertionKeepsItems (σ : Type) [LineDecoder σ] (Neutral : String → Prop) : Prop :=
  ∀ (chunks chunks' : List (Nat × List UInt8)) (before after line : List UInt8),
    (∀ b ∈ before.getLast?, b = 10) → 10 ∉ line → Neutral (finishLine line) →
    (chunks.map Prod.snd).flatten = before ++ after →
    (chunks'.map Prod.snd).flatten = before ++ line ++ 10 :: after →
    decodeStream σ (.ofChunks chunks') .none = decodeStream σ (.ofChunks chunks) .none

/-- Neutral lines change nothing. From any state, each decoder passes over them: no events, the
answer goes on, the counts stay. And a stream with one more line, which framed is neutral, yields
what it yielded without it. -/
theorem neutral_lines_change_nothing :
    (∀ (d : LocalDecoder) (line : String), LocalDecoder.Neutral line →
      d.decodeLine line = (d, [], .continue)) ∧
    (∀ (d : MeshDecoder) (line : String), MeshDecoder.Neutral line →
      d.decodeLine line = (d, [], .continue)) ∧
    NeutralInsertionKeepsItems LocalDecoder LocalDecoder.Neutral ∧
    NeutralInsertionKeepsItems MeshDecoder MeshDecoder.Neutral :=
  ⟨fun d _ h => d.decodeLine_neutral h, fun d _ h => d.decodeLine_neutral h,
    fun _ _ _ _ _ hb hl hn => decodeStream_insert_passed hb hl fun d => d.decodeLine_neutral hn,
    fun _ _ _ _ _ hb hl hn => decodeStream_insert_passed hb hl fun d => d.decodeLine_neutral hn⟩

/-- The framing removes only one carriage return: `data: [DONE]` with two of them is still a
neutral line for the mesh once framed, and a stream that starts with it yields what the rest
yields. -/
theorem mesh_done_with_two_crs_changes_nothing :
    MeshDecoder.Neutral (finishLine (Utf8.encode "data: [DONE]\r\r")) ∧
    decodeStream MeshDecoder
        (.ofChunks [(0, Utf8.encode "data: [DONE]\r\r\ndata: \x7b\"content\":\"a\"\x7d\n")]) .none =
      decodeStream MeshDecoder (.ofChunks [(0, Utf8.encode "data: \x7b\"content\":\"a\"\x7d\n")])
        .none := by
  have hneutral : MeshDecoder.Neutral (finishLine (Utf8.encode "data: [DONE]\r\r")) :=
    @MeshDecoder.Neutral.malformed _ "[DONE]\r" (by decide +kernel) (by decide) (by decide +kernel)
  exact ⟨hneutral, neutral_lines_change_nothing.2.2.2 _ _ []
    (Utf8.encode "data: \x7b\"content\":\"a\"\x7d\n") (Utf8.encode "data: [DONE]\r\r") (by simp)
    (by decide +kernel) hneutral (by simp) (by decide +kernel)⟩

/-- `data: [DONE]` with a carriage return is a neutral line for the mesh, yet a stream that
starts with it and its line feed ends there: framed, it is the end marker. -/
theorem mesh_done_with_cr_ends_stream :
    MeshDecoder.Neutral "data: [DONE]\r" ∧
    decodeStream MeshDecoder
        (.ofChunks [(0, Utf8.encode "data: [DONE]\r\ndata: \x7b\"content\":\"a\"\x7d\n")]) .none ≠
      decodeStream MeshDecoder (.ofChunks [(0, Utf8.encode "data: \x7b\"content\":\"a\"\x7d\n")])
        .none :=
  ⟨@MeshDecoder.Neutral.malformed _ "[DONE]\r" (by decide) (by decide) (by decide +kernel),
    by decide +kernel⟩

end InferRoute
