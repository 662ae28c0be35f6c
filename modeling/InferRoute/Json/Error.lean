import InferRoute.Data.Mismatch

/-!
Errors of reading JSON text: a fault of the syntax, or a value that does not fit the wanted
shape, with the place where reading stopped. A place is a line (from 1) and a column counted in
bytes from the start of the line; a mismatch found away from text has no place.
-/

namespace InferRoute

/-- Faults of JSON syntax. -/
inductive SyntaxFault where
  | eofInList
  | eofInObject
  | eofInString
  | eofInValue
  | expectedColon
  | expectedListCommaOrEnd
  | expectedObjectCommaOrEnd
  | expectedIdent
  | expectedValue
  | invalidEscape
  | invalidNumber
  | numberOutOfRange
  | controlCharacter
  | keyMustBeString
  | loneLeadingSurrogate
  | trailingComma
  | trailingCharacters
  | unexpectedEndOfHexEscape
  | recursionLimit
  | invalidCodePoint
deriving Repr, DecidableEq, Inhabited

namespace SyntaxFault

/-- The message of a syntax fault. -/
def message : SyntaxFault → String
  | .eofInList => "EOF while parsing a list"
  | .eofInObject => "EOF while parsing an object"
  | .eofInString => "EOF while parsing a string"
  | .eofInValue => "EOF while parsing a value"
  | .expectedColon => "expected `:`"
  | .expectedListCommaOrEnd => "expected `,` or `]`"
  | .expectedObjectCommaOrEnd => "expected `,` or `\x7d`"
  | .expectedIdent => "expected ident"
  | .expectedValue => "expected value"
  | .invalidEscape => "invalid escape"
  | .invalidNumber => "invalid number"
  | .numberOutOfRange => "number out of range"
  | .controlCharacter => "control character (\\u0000-\\u001F) found while parsing a string"
  | .keyMustBeString => "key must be a string"
  | .loneLeadingSurrogate => "lone leading surrogate in hex escape"
  | .trailingComma => "trailing comma"
  | .trailingCharacters => "trailing characters"
  | .unexpectedEndOfHexEscape => "unexpected end of hex escape"
  | .recursionLimit => "recursion limit exceeded"
  | .invalidCodePoint => "invalid unicode code point"

end SyntaxFault

/-- A place in a text: the line from 1, the column in bytes from the line's start. -/
structure TextPlace where
  line : Nat
  column : Nat
deriving Repr, DecidableEq, Inhabited

/-- What went wrong while reading JSON. -/
inductive JsonFault where
  | malformed (fault : SyntaxFault)
  | mismatch (m : Mismatch)
deriving Repr, Inhabited

/-- A JSON reading error and, when it arose in text, its place. -/
structure JsonError where
  fault : JsonFault
  place : Option TextPlace
deriving Repr, Inhabited

namespace JsonError

/-- A mismatch with no place yet. -/
def ofMismatch (m : Mismatch) : JsonError := ⟨.mismatch m, none⟩

/-- The error placed at `p`, unless it has a place already. -/
def placeAt (e : JsonError) (p : TextPlace) : JsonError :=
  match e.place with
  | some _ => e
  | none => { e with place := some p }

/-- The message: the fault, then " at line L column C" when placed. -/
def message (e : JsonError) : String :=
  let text := match e.fault with
    | .malformed f => f.message
    | .mismatch m => m.message Describe.json
  match e.place with
  | some p => text ++ " at line " ++ toString p.line ++ " column " ++ toString p.column
  | none => text

end JsonError

end InferRoute
