import InferRoute.Json.Read

/-!
What the local inference server streams: chat completion chunks. A chunk's text is the first
choice's `content` when nonempty, else its `reasoning_content` when nonempty; a chunk may also
report token usage.
-/

namespace InferRoute

/-- Token counts reported by the server, each a 32-bit count. -/
structure ChatUsage where
  promptTokens : Option UInt32
  completionTokens : Option UInt32
deriving Repr, DecidableEq, Inhabited

/-- The new text of one choice. -/
structure ChatDelta where
  content : Option String
  reasoningContent : Option String
deriving Repr, DecidableEq, Inhabited

/-- One chunk of a streamed chat completion: the deltas of its choices and its usage. -/
structure ChatChunk where
  choices : Option (List (Option ChatDelta))
  usage : Option ChatUsage
deriving Repr, DecidableEq, Inhabited

namespace ChatChunk

/-- The shape of a usage report. -/
def usageSchema : Schema :=
  .record "CompletionUsage" [("prompt_tokens", .option .u32), ("completion_tokens", .option .u32)]

/-- The shape of a delta. -/
def deltaSchema : Schema :=
  .record "Delta" [("content", .option .string), ("reasoning_content", .option .string)]

/-- The shape of a chunk. -/
def schema : Schema :=
  .record "ChatCompletionChunk"
    [("choices", .option (.seq (.record "Choice" [("delta", .option deltaSchema)]))),
     ("usage", .option usageSchema)]

/-- The delta read from a value of `deltaSchema`'s shape. -/
def deltaOf (j : Json) : ChatDelta :=
  ⟨(j.field? "content").bind Json.asString?, (j.field? "reasoning_content").bind Json.asString?⟩

/-- The usage read from a value of `usageSchema`'s shape, whose counts fit in 32 bits. -/
def usageOf (j : Json) : ChatUsage :=
  ⟨((j.field? "prompt_tokens").bind Json.asNat?).map Nat.toUInt32,
    ((j.field? "completion_tokens").bind Json.asNat?).map Nat.toUInt32⟩

/-- The delta of a choice, if it has one. -/
def choiceDelta (j : Json) : Option ChatDelta :=
  match j.field? "delta" with
  | some (.object fields) => some (deltaOf (.object fields))
  | _ => none

/-- The chunk read from a value of `schema`'s shape. -/
def ofJson (j : Json) : ChatChunk :=
  let choices := match j.field? "choices" with
    | some (.array items) => some (items.map choiceDelta)
    | _ => none
  let usage := match j.field? "usage" with
    | some (.object fields) => some (usageOf (.object fields))
    | _ => none
  ⟨choices, usage⟩

/-- Reads a chunk from JSON text. -/
def parse (text : String) : Except JsonError ChatChunk := (schema.read text).map ofJson

/-- A text that is present and nonempty. -/
def nonempty? : Option String → Option String
  | some s => if s.isEmpty then none else some s
  | none => none

/-- The new text: the first choice's content, else its reasoning, when nonempty. -/
def textDelta? (c : ChatChunk) : Option String := do
  let choices ← c.choices
  let first ← choices.head?
  let delta ← first
  (nonempty? delta.content).or (nonempty? delta.reasoningContent)

end ChatChunk

end InferRoute
