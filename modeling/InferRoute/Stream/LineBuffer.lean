import InferRoute.Text.Utf8

/-!
Line framing of a byte stream. Bytes are buffered until a line feed; each completed line loses
its line feed and at most one carriage return before it, and is read as UTF-8 with ill-formed
parts replaced. The buffer holds exactly the bytes after the last line feed, so the lines do not
depend on how the stream was cut into chunks.
-/

namespace InferRoute

/-- The bytes of an unfinished line. -/
structure LineBuffer where
  pending : List UInt8
deriving Repr, DecidableEq, Inhabited

namespace LineBuffer

/-- An empty buffer. -/
def empty : LineBuffer := ⟨[]⟩

/-- A completed line's bytes without one trailing carriage return, read as text. -/
def finishLine (bytes : List UInt8) : String :=
  Utf8.decodeLossy (if bytes.getLast? = some 13 then bytes.dropLast else bytes)

/-- Splits bytes at line feeds: the completed segments (line feed removed) and the bytes after
the last line feed. `current` holds the bytes of the segment being read, reversed. -/
def splitLines (current : List UInt8) : List UInt8 → List (List UInt8) × List UInt8
  | [] => ([], current.reverse)
  | b :: rest =>
    if b = 10 then
      let (lines, tail) := splitLines [] rest
      (current.reverse :: lines, tail)
    else splitLines (b :: current) rest

/-- Adds a chunk: the lines it completes, and the buffer after it. -/
def push (buf : LineBuffer) (chunk : List UInt8) : List String × LineBuffer :=
  let (segments, tail) := splitLines [] (buf.pending ++ chunk)
  (segments.map finishLine, ⟨tail⟩)

/-- The number of bytes waiting for a line feed. -/
def pendingLength (buf : LineBuffer) : Nat := buf.pending.length

end LineBuffer

end InferRoute
