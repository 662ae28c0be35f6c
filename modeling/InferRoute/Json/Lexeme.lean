import InferRoute.Json.Cursor
import InferRoute.Json.Value
import InferRoute.Text.Utf8

/-!
The leaves of JSON text: numbers and strings, read or skipped.

A number without fraction or exponent that fits is an integer: unsigned below `2^64`, negative
down to `-2^63`. Any other number becomes a binary64 value computed from at most 64 bits of
significand `s` and a decimal exponent `e`: `s` is rounded to binary64, then multiplied by the
rounded power `10^e` (or divided by `10^-e`), each step rounded; below `10^-308` it divides by
`10^308` first, and a result that overflows is `numberOutOfRange`. Digits past the 64 bits only
move the exponent. A string is read with its escapes; a lone surrogate escape is refused.
-/

namespace InferRoute.JsonReader

/-- Whether a byte is a decimal digit. -/
def isDigit (b : UInt8) : Bool := 48 ≤ b && b ≤ 57

/-- The values of the decimal digits at the front of a byte list. -/
def leadingDigits : List UInt8 → List Nat
  | [] => []
  | b :: r => if isDigit b then (b.toNat - 48) :: leadingDigits r else []

/-- The digits ahead of the cursor, not consumed. -/
def digitsAhead : JsonReader (List Nat) := do
  return leadingDigits (← get).rest

/-- Consumes `n` bytes. -/
def skip (n : Nat) : JsonReader Unit := modify (Cursor.advanceBy n)

/-- Appends digits to `acc` while the number stays at most `limit`: the number, how many digits
were taken, and whether a digit was refused. -/
def accumulate (limit acc : Nat) : List Nat → Nat × Nat × Bool
  | [] => (acc, 0, false)
  | d :: ds =>
    if acc * 10 + d > limit then (acc, 0, true)
    else
      let (a, k, refused) := accumulate limit (acc * 10 + d) ds
      (a, k + 1, refused)

/-- The largest unsigned 64-bit integer. -/
def u64Max : Nat := Nat.pow 2 64 - 1

/-- The largest signed 32-bit integer, the bound of a decimal exponent. -/
def i32Max : Nat := Nat.pow 2 31 - 1

/-- An exponent kept within the signed 32-bit range. -/
def saturate (e : Int) : Int :=
  max (-((Nat.pow 2 31 : Nat) : Int)) (min (((Nat.pow 2 31 : Nat) : Int) - 1) e)

/-- The binary64 value nearest to `10^k`. -/
def pow10 (k : Nat) : BinaryFloat := FloatFormat.binary64.ofDecimal false 1 k

/-- Scales `f` by `10^e` in rounded steps of at most `10^308`. -/
def scale : Nat → BinaryFloat → Int → JsonReader BinaryFloat
  | 0, f, _ => pure f
  | fuel + 1, f, e =>
    if e.natAbs ≤ 308 then
      if 0 ≤ e then
        let g := FloatFormat.binary64.mul f (pow10 e.toNat)
        if g.isInfinite then failHere .numberOutOfRange else pure g
      else pure (FloatFormat.binary64.div f (pow10 e.natAbs))
    else if f.isZero then pure f
    else if 0 ≤ e then failHere .numberOutOfRange
    else scale fuel (FloatFormat.binary64.div f (pow10 308)) (e + 308)

/-- The value of significand `sig` and decimal exponent `e`, with the sign. -/
def fromParts (positive : Bool) (sig : Nat) (e : Int) : JsonReader BinaryFloat := do
  let f ← scale (e.natAbs / 308 + 2) (FloatFormat.binary64.ofNat sig) e
  return if positive then f else f.negate

/-- Zero with the sign. -/
def signedZero (positive : Bool) : BinaryFloat :=
  .finite (!positive) 0 FloatFormat.binary64.quantum

/-- Whether a byte starts an exponent. -/
def isExponentMark (b : UInt8) : Bool := b = 101 || b = 69

/-- An exponent part, from its `e`, applied to `sig · 10^start`. -/
def exponentPart (positive : Bool) (sig : Nat) (start : Int) : JsonReader BinaryFloat := do
  bump
  let positiveExp ← do
    match ← peek with
    | some 43 => bump; pure true
    | some 45 => bump; pure false
    | _ => pure true
  match ← next with
  | none => failHere .eofInValue
  | some b =>
    if !isDigit b then failHere .invalidNumber
    else
      let (exp, k, refused) := accumulate i32Max (b.toNat - 48) (← digitsAhead)
      skip k
      if refused then
        if sig ≠ 0 ∧ positiveExp then failHere .numberOutOfRange
        else
          skip (← digitsAhead).length
          return signedZero positive
      else
        let e := saturate (if positiveExp then start + exp else start - exp)
        fromParts positive sig e

/-- A fraction, from its `.`, applied to `sig · 10^before`; digits past 64 bits are skipped. -/
def fraction (positive : Bool) (sig : Nat) (before : Int) : JsonReader BinaryFloat := do
  bump
  let (sig', k, refused) := accumulate u64Max sig (← digitsAhead)
  skip k
  if refused then skip (← digitsAhead).length
  if k = 0 ∧ !refused then
    match ← peek with
    | some _ => failAhead .invalidNumber
    | none => failAhead .eofInValue
  else
    let e := before - k
    match ← peek with
    | some b => if isExponentMark b then exponentPart positive sig' e else fromParts positive sig' e
    | none => fromParts positive sig' e

/-- The rest of an integer part too long for 64 bits: each further digit raises the exponent. -/
def longInteger (positive : Bool) (sig : Nat) : JsonReader BinaryFloat := do
  let more ← digitsAhead
  skip more.length
  match ← peek with
  | some 46 => fraction positive sig more.length
  | some b =>
    if isExponentMark b then exponentPart positive sig more.length
    else fromParts positive sig more.length
  | none => fromParts positive sig more.length

/-- What follows the integer part `sig`: a fraction, an exponent, or nothing. -/
def afterInteger (positive : Bool) (sig : Nat) : JsonReader JsonNumber := do
  match ← peek with
  | some 46 => return .float (← fraction positive sig 0)
  | some b =>
    if isExponentMark b then return .float (← exponentPart positive sig 0)
    else pure (integerValue positive sig)
  | none => pure (integerValue positive sig)
where
  /-- An integer without fraction or exponent; `-0` and those below `-2^63` are floats. -/
  integerValue (positive : Bool) (sig : Nat) : JsonNumber :=
    if positive then .nat sig
    else if sig = 0 ∨ sig > Nat.pow 2 63 then .float (FloatFormat.binary64.round true sig 1 0)
    else .neg sig

/-- A number after its sign: one leading `0` or digits from `1`, then fraction and exponent. -/
def number (positive : Bool) : JsonReader JsonNumber := do
  match ← next with
  | none => failHere .eofInValue
  | some b =>
    if b = 48 then
      match ← peek with
      | some d => if isDigit d then failAhead .invalidNumber else afterInteger positive 0
      | none => afterInteger positive 0
    else if isDigit b then
      let (sig, k, refused) := accumulate u64Max (b.toNat - 48) (← digitsAhead)
      skip k
      if refused then return .float (← longInteger positive sig)
      else afterInteger positive sig
    else failHere .invalidNumber

/-- Bytes that need no attention inside a string: not a quote, a backslash or a control byte. -/
def plainRun : List UInt8 → List UInt8
  | [] => []
  | b :: r => if b = 34 || b = 92 || b < 32 then [] else b :: plainRun r

/-- The value of a hexadecimal digit. -/
def hexValue (b : UInt8) : Option Nat :=
  if 48 ≤ b ∧ b ≤ 57 then some (b.toNat - 48)
  else if 97 ≤ b ∧ b ≤ 102 then some (b.toNat - 87)
  else if 65 ≤ b ∧ b ≤ 70 then some (b.toNat - 55)
  else none

/-- The four hexadecimal digits of `\u`: four bytes are consumed (all, when fewer remain). -/
def hexEscape : JsonReader Nat := do
  match (← get).rest with
  | a :: b :: c :: d :: _ =>
    skip 4
    match hexValue a, hexValue b, hexValue c, hexValue d with
    | some w, some x, some y, some z => pure (((w * 16 + x) * 16 + y) * 16 + z)
    | _, _, _, _ => failHere .invalidEscape
  | rest =>
    skip rest.length
    failHere .eofInString

/-- The UTF-8 bytes of a code point that is a character. -/
def codePointBytes (n : Nat) : List UInt8 := String.utf8EncodeChar (Char.ofNat n)

/-- A `\u` escape after its `u`: a character of the basic plane, or a surrogate pair. -/
def unicodeEscape (buf : Array UInt8) : JsonReader (Array UInt8) := do
  let n ← hexEscape
  if 0xDC00 ≤ n ∧ n ≤ 0xDFFF then failHere .loneLeadingSurrogate
  else if n < 0xD800 ∨ n > 0xDBFF then pure (buf ++ codePointBytes n)
  else
    match ← next with
    | none => failHere .eofInString
    | some 92 =>
      match ← next with
      | none => failHere .eofInString
      | some 117 =>
        let low ← hexEscape
        if low < 0xDC00 ∨ low > 0xDFFF then failHere .loneLeadingSurrogate
        else pure (buf ++ codePointBytes (0x10000 + (n - 0xD800) * 1024 + (low - 0xDC00)))
      | some _ => failHere .unexpectedEndOfHexEscape
    | some _ => failHere .unexpectedEndOfHexEscape

/-- An escape after its backslash, its bytes appended to `buf`. -/
def escape (buf : Array UInt8) : JsonReader (Array UInt8) := do
  match ← next with
  | none => failHere .eofInString
  | some b =>
    match b with
    | 34 => pure (buf.push 34)
    | 92 => pure (buf.push 92)
    | 47 => pure (buf.push 47)
    | 98 => pure (buf.push 8)
    | 102 => pure (buf.push 12)
    | 110 => pure (buf.push 10)
    | 114 => pure (buf.push 13)
    | 116 => pure (buf.push 9)
    | 117 => unicodeEscape buf
    | _ => failHere .invalidEscape

/-- The bytes of a string up to its closing quote, which is consumed. -/
def stringBytes : Nat → Array UInt8 → JsonReader (Array UInt8)
  | 0, _ => failHere .eofInString
  | fuel + 1, buf => do
    let run := plainRun (← get).rest
    skip run.length
    let buf := buf ++ run
    match ← peek with
    | none => failHere .eofInString
    | some 34 => bump; pure buf
    | some 92 => bump; stringBytes fuel (← escape buf)
    | some _ => bump; failHere .controlCharacter

/-- A string after its opening quote. -/
def string : JsonReader String := do
  let bytes ← stringBytes ((← get).rest.length + 1) #[]
  match String.fromUTF8? (ByteArray.mk bytes) with
  | some s => pure s
  | none => failHere .invalidCodePoint

/-- Skips an escape after its backslash; a `\u` needs four hexadecimal digits and nothing more. -/
def skipEscape : JsonReader Unit := do
  match ← next with
  | none => failHere .eofInString
  | some b =>
    if b = 34 || b = 92 || b = 47 || b = 98 || b = 102 || b = 110 || b = 114 || b = 116 then
      pure ()
    else if b = 117 then discard hexEscape
    else failHere .invalidEscape

/-- Skips a string after its opening quote; a control byte is refused where it stands. -/
def skipStringLoop : Nat → JsonReader Unit
  | 0 => failHere .eofInString
  | fuel + 1 => do
    skip (plainRun (← get).rest).length
    match ← peek with
    | none => failHere .eofInString
    | some 34 => bump
    | some 92 => bump; skipEscape; skipStringLoop fuel
    | some _ => failHere .controlCharacter

/-- Skips a string after its opening quote. -/
def skipString : JsonReader Unit := do
  skipStringLoop ((← get).rest.length + 1)

/-- Skips an exponent part from its `e`. -/
def skipExponent : JsonReader Unit := do
  bump
  match ← peek with
  | some 43 => bump
  | some 45 => bump
  | _ => pure ()
  match ← next with
  | some b => if isDigit b then skip (← digitsAhead).length else failHere .invalidNumber
  | none => failHere .invalidNumber

/-- Skips what follows an integer part: a fraction with at least one digit, an exponent. -/
def skipAfterInteger : JsonReader Unit := do
  match ← peek with
  | some 46 =>
    bump
    let ds ← digitsAhead
    skip ds.length
    if ds.isEmpty then failAhead .invalidNumber
    else
      match ← peek with
      | some b => if isExponentMark b then skipExponent else pure ()
      | none => pure ()
  | some b => if isExponentMark b then skipExponent else pure ()
  | none => pure ()

/-- Skips a number after its sign, checking its form but not its size. -/
def skipNumber : JsonReader Unit := do
  match ← next with
  | none => failHere .invalidNumber
  | some b =>
    if b = 48 then
      match ← peek with
      | some d => if isDigit d then failAhead .invalidNumber else skipAfterInteger
      | none => skipAfterInteger
    else if isDigit b then
      skip (← digitsAhead).length
      skipAfterInteger
    else failHere .invalidNumber

end InferRoute.JsonReader
