import InferRoute.Json.Read

/-!
What the mesh sends: its status report and the chunks of a streamed answer.

A status counts peers under either spelling, `peerCount` first; the mesh is available when it
reports running with at least one peer. A chunk's `done` and `error` count when truthy: not
`null`, `false`, a zero or NaN number, or the empty string.
-/

namespace InferRoute

/-- The mesh's status report. -/
structure MeshStatus where
  running : Option Bool
  peerCountCamel : Option Nat
  peerCountSnake : Option Nat
deriving Repr, DecidableEq, Inhabited

namespace MeshStatus

/-- The shape of a status report. -/
def schema : Schema :=
  .record "MeshStatus" [("running", .option .bool), ("peerCount", .option .u64),
    ("peer_count", .option .u64)]

/-- The status read from a value of `schema`'s shape. -/
def ofJson (j : Json) : MeshStatus :=
  ⟨(j.field? "running").bind Json.asBool?, (j.field? "peerCount").bind Json.asNat?,
    (j.field? "peer_count").bind Json.asNat?⟩

/-- Reads a status report from the bytes of JSON text. -/
def parseBytes (bytes : List UInt8) : Except JsonError MeshStatus :=
  (schema.readBytes bytes).map ofJson

/-- Reads a status report from JSON text. -/
def parse (text : String) : Except JsonError MeshStatus := (schema.read text).map ofJson

/-- The number of peers: `peerCount` if given, else `peer_count`, else zero. -/
def peerCount (s : MeshStatus) : Nat := (s.peerCountCamel.or s.peerCountSnake).getD 0

/-- Whether the mesh reports that it runs. -/
def isRunning (s : MeshStatus) : Bool := s.running.getD false

/-- Whether the mesh can take a query: running, with a peer. -/
def isAvailable (s : MeshStatus) : Bool := s.isRunning && decide (0 < s.peerCount)

end MeshStatus

namespace Json

/-- Whether a value counts as set: `true`, a nonzero number, a nonempty string, any array or
object. -/
def isTruthy : Json → Bool
  | .null => false
  | .bool b => b
  | .number n =>
    match n.toBinary with
    | .finite _ m _ => m != 0
    | .inf _ => true
    | .nan => false
  | .string s => !s.isEmpty
  | .array _ => true
  | .object _ => true

end Json

/-- One chunk of a streamed mesh answer. -/
structure MeshChunk where
  content : Option Json
  done : Option Json
  error : Option Json
deriving Repr, Inhabited

namespace MeshChunk

/-- The shape of a chunk. -/
def schema : Schema :=
  .record "MeshChunk" [("content", .option .value), ("done", .option .value),
    ("error", .option .value)]

/-- A member that is present and not `null`. -/
def present (j : Json) (name : String) : Option Json :=
  match j.field? name with
  | some .null => none
  | other => other

/-- The chunk read from a value of `schema`'s shape. -/
def ofJson (j : Json) : MeshChunk := ⟨present j "content", present j "done", present j "error"⟩

/-- Reads a chunk from JSON text. -/
def parse (text : String) : Except JsonError MeshChunk := (schema.read text).map ofJson

/-- The text of the chunk: its content when that is a nonempty string. -/
def text? (c : MeshChunk) : Option String :=
  match c.content with
  | some (.string s) => if s.isEmpty then none else some s
  | _ => none

/-- Whether the chunk ends the answer by a truthy `done`. -/
def isDone (c : MeshChunk) : Bool := (c.done.map Json.isTruthy).getD false

/-- The chunk's error, when truthy. -/
def error? (c : MeshChunk) : Option Json := c.error.filter Json.isTruthy

/-- Whether the chunk ends the answer, by `done` or by an error. -/
def isTerminal (c : MeshChunk) : Bool := c.isDone || c.error?.isSome

end MeshChunk

end InferRoute
