import InferRoute.Stream.Event
import InferRoute.Wire.Chat
import InferRoute.Wire.Mesh
import InferRoute.Text.Search

/-!
Decoders of server-sent event lines, one per backend. A line matters only after a `data: `
prefix. The local server's decoder never ends the answer itself; it counts text deltas as output
tokens until the server reports usage, which then overrides the counts. The mesh decoder ends the
answer on `[DONE]` or on a chunk that is done or carries an error, and counts its text deltas.
A payload that is not a valid chunk is skipped.

The counts are 32-bit. An increment past the largest one wraps to zero, as a release build does;
a dev build panics there instead.
-/

namespace InferRoute

/-- Whether the answer goes on after a line. -/
inductive LineFlow where
  | continue
  | finished
deriving Repr, DecidableEq, Inhabited

/-- A decoder of event lines with state `σ`. -/
class LineDecoder (σ : Type) where
  /-- The backend's name in messages. -/
  backend : String
  /-- The state before any line. -/
  fresh : σ
  /-- One line: the new state, the events it yields, and whether the answer goes on. -/
  decodeLine : σ → String → σ × List StreamEvent × LineFlow
  /-- The usage report for the lines so far. -/
  usage : σ → StreamEvent

/-- The local server decoder's counts. -/
structure LocalDecoder where
  inputTokens : UInt32
  outputTokens : UInt32
deriving Repr, DecidableEq, Inhabited

/-- The mesh decoder's count of text deltas. -/
structure MeshDecoder where
  deltas : UInt32
deriving Repr, DecidableEq, Inhabited

/-- The prefix of a data line. -/
def dataPrefix : String := "data: "

/-- The marker of the end of an answer. -/
def doneMarker : String := "[DONE]"

namespace LocalDecoder

/-- The counts after a chunk's usage report: a positive count replaces the one held. -/
def applyUsage (d : LocalDecoder) : Option ChatUsage → LocalDecoder
  | none => d
  | some u =>
    let d := match u.promptTokens with
      | some p => if 0 < p then { d with inputTokens := p } else d
      | none => d
    match u.completionTokens with
    | some c => if 0 < c then { d with outputTokens := c } else d
    | none => d

/-- The state and events after a chunk. -/
def applyChunk (d : LocalDecoder) (chunk : ChatChunk) : LocalDecoder × List StreamEvent :=
  match chunk.textDelta? with
  | some t => (applyUsage { d with outputTokens := d.outputTokens + 1 } chunk.usage, [.textDelta t])
  | none => (applyUsage d chunk.usage, [])

/-- One line: a data line without `[DONE]` anywhere whose payload is a chunk. -/
def decodeLine (d : LocalDecoder) (line : String) : LocalDecoder × List StreamEvent × LineFlow :=
  match Search.dropPrefix? line dataPrefix with
  | none => (d, [], .continue)
  | some payload =>
    if Search.contains line doneMarker then (d, [], .continue)
    else
      match ChatChunk.parse payload with
      | .error _ => (d, [], .continue)
      | .ok chunk =>
        let (d', events) := d.applyChunk chunk
        (d', events, .continue)

end LocalDecoder

instance : LineDecoder LocalDecoder where
  backend := "local-server"
  fresh := ⟨0, 0⟩
  decodeLine := LocalDecoder.decodeLine
  usage d := .usage d.inputTokens.toNat d.outputTokens.toNat

namespace MeshDecoder

/-- The state, events and flow after a chunk. -/
def applyChunk (d : MeshDecoder) (chunk : MeshChunk) : MeshDecoder × List StreamEvent × LineFlow :=
  let (d', events) := match chunk.text? with
    | some t => ((⟨d.deltas + 1⟩ : MeshDecoder), [StreamEvent.textDelta t])
    | none => (d, [])
  (d', events, if chunk.isTerminal then .finished else .continue)

/-- One line: `data: [DONE]` ends the answer; a data line whose payload is a chunk is applied. -/
def decodeLine (d : MeshDecoder) (line : String) : MeshDecoder × List StreamEvent × LineFlow :=
  match Search.dropPrefix? line dataPrefix with
  | none => (d, [], .continue)
  | some payload =>
    if payload = doneMarker then (d, [], .finished)
    else
      match MeshChunk.parse payload with
      | .error _ => (d, [], .continue)
      | .ok chunk => d.applyChunk chunk

end MeshDecoder

instance : LineDecoder MeshDecoder where
  backend := "mesh"
  fresh := ⟨0⟩
  decodeLine := MeshDecoder.decodeLine
  usage d := .usage 0 d.deltas.toNat

end InferRoute
