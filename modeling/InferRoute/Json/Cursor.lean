import InferRoute.Json.Error

/-!
A place in JSON text being read, and the reading monad over it. The cursor holds the bytes not
yet read and the line and column of the next one. An error keeps the cursor where it arose, so
that a reader can still finish a container after an error inside it, as the order of the
messages requires.
-/

namespace InferRoute

/-- The unread bytes of a text, with the line (from 1) and byte column of the first of them. -/
structure Cursor where
  rest : List UInt8
  line : Nat
  column : Nat
deriving Repr, Inhabited

namespace Cursor

/-- A cursor at the start of a text. -/
def start (bytes : List UInt8) : Cursor := ⟨bytes, 1, 0⟩

/-- The cursor past one byte: a newline starts the next line. -/
def advance (c : Cursor) : Cursor :=
  match c.rest with
  | [] => c
  | b :: r => if b = 10 then ⟨r, c.line + 1, 0⟩ else ⟨r, c.line, c.column + 1⟩

/-- The cursor past `n` bytes, or past all when fewer remain. -/
def advanceBy : Nat → Cursor → Cursor
  | 0, c => c
  | n + 1, c => advanceBy n c.advance

/-- The place of the next byte. -/
def place (c : Cursor) : TextPlace := ⟨c.line, c.column⟩

/-- The place just past the next byte, or the place of the end at the end. -/
def placeAhead (c : Cursor) : TextPlace :=
  match c.rest with
  | [] => c.place
  | b :: _ => if b = 10 then ⟨c.line + 1, 0⟩ else ⟨c.line, c.column + 1⟩

/-- JSON's blanks: space, tab, newline and carriage return. -/
def isBlank (b : UInt8) : Bool := b = 32 || b = 9 || b = 10 || b = 13

/-- The cursor past every blank at the front. -/
def skipBlanksFrom : List UInt8 → Nat → Nat → Cursor
  | [], line, column => ⟨[], line, column⟩
  | b :: r, line, column =>
    if b = 10 then skipBlanksFrom r (line + 1) 0
    else if isBlank b then skipBlanksFrom r line (column + 1)
    else ⟨b :: r, line, column⟩

/-- The cursor past every blank at the front. -/
def skipBlanks (c : Cursor) : Cursor := skipBlanksFrom c.rest c.line c.column

end Cursor

/-- Reading JSON text: fails with a `JsonError` and keeps the cursor in either case. -/
abbrev JsonReader := ExceptT JsonError (StateM Cursor)

namespace JsonReader

variable {α : Type}

/-- The next byte, not consumed. -/
def peek : JsonReader (Option UInt8) := do
  return (← get).rest.head?

/-- Consumes one byte. -/
def bump : JsonReader Unit := modify Cursor.advance

/-- The next byte, consumed. -/
def next : JsonReader (Option UInt8) := do
  let b ← peek
  bump
  return b

/-- Skips blanks and shows the byte after them. -/
def peekAfterBlanks : JsonReader (Option UInt8) := do
  modify Cursor.skipBlanks
  peek

/-- Fails with a syntax fault at the cursor. -/
def failHere (f : SyntaxFault) : JsonReader α := do
  throw ⟨.malformed f, some (← get).place⟩

/-- Fails with a syntax fault just past the next byte. -/
def failAhead (f : SyntaxFault) : JsonReader α := do
  throw ⟨.malformed f, some (← get).placeAhead⟩

/-- Fails with a mismatch that has no place yet. -/
def mismatch (m : Mismatch) : JsonReader α := throw (JsonError.ofMismatch m)

/-- Runs `x` and returns its outcome, keeping the cursor where `x` left it. -/
def attempt (x : JsonReader α) : JsonReader (Except JsonError α) :=
  ExceptT.mk (do let r ← ExceptT.run x; pure (Except.ok r))

/-- Runs `x`; an error without a place gets the place where the cursor then stands. -/
def placed (x : JsonReader α) : JsonReader α :=
  tryCatch x fun e => do throw (e.placeAt (← get).place)

/-- Runs `body`, then `finish` whatever the outcome; the first error wins. -/
def thenFinish (body : JsonReader α) (finish : JsonReader Unit) : JsonReader α := do
  let r ← attempt body
  let f ← attempt finish
  match r, f with
  | .ok v, .ok () => pure v
  | .error e, _ => throw e
  | .ok _, .error e => throw e

/-- Reads the rest of a literal word (after its first letter): the end of the text is
`eofInValue`, another byte `expectedIdent` after it. -/
def word : List UInt8 → JsonReader Unit
  | [] => pure ()
  | b :: rest => do
    match ← next with
    | none => failHere .eofInValue
    | some c => if c = b then word rest else failHere .expectedIdent

/-- The letters of `null`, `true` and `false` after the first. -/
def ull : List UInt8 := [117, 108, 108]
def rue : List UInt8 := [114, 117, 101]
def alse : List UInt8 := [97, 108, 115, 101]

/-- Runs a reader over the bytes of a text. -/
def run (x : JsonReader α) (bytes : List UInt8) : Except JsonError α × Cursor :=
  (ExceptT.run x).run (Cursor.start bytes)

end JsonReader

end InferRoute
