import InferRoute.Toml.Scan
import InferRoute.Toml.Value

/-!
The small pieces of TOML text: blanks, comments and line ends; keys; the four kinds of string;
integers in four bases, floats and booleans; and date-times. Each reader fails where TOML says
the text is wrong, with the labels and expectations that the messages show.
-/

namespace InferRoute

namespace Toml

open TomlScan

/-- Space and tab. -/
def isWsChar (b : UInt8) : Bool := b == 32 || b == 9

/-- Bytes a comment may hold: tab, printable ASCII and every byte of a non-ASCII character. -/
def isNonEol (b : UInt8) : Bool := b == 9 || (0x20 ≤ b && b ≤ 0x7E) || 0x80 ≤ b

/-- ASCII digits. -/
def isDigit (b : UInt8) : Bool := 48 ≤ b && b ≤ 57

/-- ASCII hexadecimal digits of either case. -/
def isHexDigit (b : UInt8) : Bool :=
  isDigit b || (65 ≤ b && b ≤ 70) || (97 ≤ b && b ≤ 102)

/-- Bytes of a bare key: ASCII letters and digits, `-` and `_`. -/
def isBareKeyChar (b : UInt8) : Bool :=
  (65 ≤ b && b ≤ 90) || (97 ≤ b && b ≤ 122) || isDigit b || b == 45 || b == 95

/-- Bytes a basic string holds as written: blanks, printable ASCII other than `"` and `\`,
and non-ASCII. -/
def isBasicChar (b : UInt8) : Bool :=
  isWsChar b || b == 0x21 || (0x23 ≤ b && b ≤ 0x5B) || (0x5D ≤ b && b ≤ 0x7E) || 0x80 ≤ b

/-- Bytes a literal string holds: tab, printable ASCII other than the apostrophe, and
non-ASCII. -/
def isLiteralChar (b : UInt8) : Bool :=
  b == 9 || (0x20 ≤ b && b ≤ 0x26) || (0x28 ≤ b && b ≤ 0x7E) || 0x80 ≤ b

/-- The bytes of an ASCII word. -/
def word (s : String) : List UInt8 := s.toUTF8.toList

/-! ### Blanks, comments and line ends -/

/-- Spaces and tabs. -/
def ws : TomlScan Unit := scanWhile isWsChar

/-- A comment, from `#` to the end of the line. -/
def comment : TomlScan Unit := do
  let _ ← byteIf (· == 35)
  scanWhile isNonEol

/-- A line feed, or a carriage return and a line feed. -/
def newline : TomlScan Unit := do
  let b ← anyByte
  if b == 10 then pure ()
  else if b == 13 then do let _ ← byteIf (· == 10); pure ()
  else stop

/-- A line break or the end of the text. -/
def lineEnding : TomlScan Unit := orElse newline atEnd

/-- Blanks, an optional comment, and the end of the line. -/
def lineTrailing : TomlScan Unit := do
  ws
  let _ ← optional comment
  lineEnding

/-- Blanks and line breaks. -/
def wsNewline : TomlScan Unit := do
  let _ ← many (orElse newline (scanWhile1 isWsChar))

/-- A line break, then blanks and line breaks. -/
def wsNewlines : TomlScan Unit := do
  newline
  wsNewline

/-- Blanks, line breaks and whole comment lines, as between the items of an array. -/
def wsCommentNewlineFrom : Nat → TomlScan Unit
  | 0 => pure ()
  | fuel + 1 => do
    let before ← here
    ws
    match ← peek with
    | some 35 => do comment; newline
    | some 10 => newline
    | some 13 => newline
    | _ => return
    if (← here) = before then return
    wsCommentNewlineFrom fuel

/-- Blanks, line breaks and whole comment lines. -/
def wsCommentNewline : TomlScan Unit := do
  wsCommentNewlineFrom ((← read).size - (← here) + 1)

/-! ### Strings -/

/-- Adds notes in order to every failure of `p`. -/
def withNotes {α : Type} (ns : List TomlNote) (p : TomlScan α) : TomlScan α :=
  tryCatch p fun e => throw { e with notes := e.notes ++ ns }

/-- Exactly `n` hexadecimal digits naming a character. -/
def hexEscape (n : Nat) : TomlScan Char := do
  let start ← here
  let text ← taken (scanCount isHexDigit 0 n)
  if text.length ≠ n then throw ⟨start, false, [], none⟩
  let value := text.foldl (fun acc c =>
    acc * 16 + (if c.isDigit then c.toNat - 48 else if c ≤ 'F' then c.toNat - 55 else c.toNat - 87)) 0
  if value.isValidChar then pure (Char.ofNat value)
  else reject start TomlConflict.outOfRange.message

/-- The character an escape names, after its backslash. -/
def escapeSeq : TomlScan Char := do
  let b ← anyByte
  match b with
  | 98 => pure '\x08'
  | 102 => pure '\x0c'
  | 110 => pure '\n'
  | 114 => pure '\r'
  | 116 => pure '\t'
  | 117 => commit (labelled "unicode 4-digit hex code" (hexEscape 4))
  | 85 => commit (labelled "unicode 8-digit hex code" (hexEscape 8))
  | 92 => pure '\\'
  | 34 => pure '"'
  | _ =>
    withNotes (.label "escape sequence" ::
      ['b', 'f', 'n', 'r', 't', 'u', 'U', '\\', '"'].map (fun c => .expected (.char c)))
      (commit stop)

/-- A backslash escape. -/
def escaped : TomlScan Char := do
  let _ ← byteIf (· == 92)
  escapeSeq

/-- A run of plain characters or one escape of a basic string. -/
def basicChars : TomlScan String :=
  orElse (taken (scanWhile1 isBasicChar)) (do return String.singleton (← escaped))

/-- A basic string in double quotes. -/
def basicString : TomlScan String := do
  let _ ← byteIf (· == 34)
  let parts ← many basicChars
  let _ ← commit (labelled "basic string" (byteIf (· == 34)))
  pure (String.join parts)

/-- One or two quote bytes `q` followed by what `next` sees (which is not consumed). -/
def quotesThen (q : UInt8) (next : TomlScan Unit) : TomlScan String :=
  let qs := String.singleton (Char.ofNat q.toNat)
  orElse (do literal [q, q]; lookAhead next; pure (qs ++ qs))
    (do literal [q]; lookAhead next; pure qs)

/-- A byte other than `q`, not consumed by `quotesThen`. -/
def notByte (q : UInt8) : TomlScan Unit := do
  let _ ← byteIf (· != q)

/-- A backslash at the end of a line: it and the blanks and line breaks after it vanish. -/
def escapedNewline : TomlScan Unit := do
  let _ ← many1 (do let _ ← byteIf (· == 92); ws; wsNewlines)

/-- A piece of a multi-line basic string: plain characters, a line-ending backslash, an
escape, or a line break (read as a line feed). -/
def mlbContent : TomlScan String :=
  orElse (taken (scanWhile1 isBasicChar))
    (orElse (do escapedNewline; pure "")
      (orElse (do return String.singleton (← escaped)) (do newline; pure "\n")))

/-- The rest of a multi-line basic body: quotes followed by more content, repeated. Quotes
that no content follows end the body and are dropped. -/
def mlBasicMore : Nat → String → TomlScan String
  | 0, acc => pure acc
  | fuel + 1, acc => do
    match ← optional (quotesThen 34 (notByte 34)) with
    | none => pure acc
    | some q =>
      match ← optional mlbContent with
      | none => pure acc
      | some c =>
        let more ← many mlbContent
        mlBasicMore fuel (acc ++ q ++ c ++ String.join more)

/-- The body of a multi-line basic string, including up to two quotes before its end. -/
def mlBasicBody : TomlScan String := do
  let first ← many mlbContent
  let acc ← mlBasicMore ((← read).size - (← here) + 1) (String.join first)
  match ← optional (quotesThen 34 (literal (word "\"\"\""))) with
  | some q => pure (acc ++ q)
  | none => pure acc

/-- A multi-line basic string in triple double quotes; a line break right after the opening
quotes is dropped. -/
def mlBasicString : TomlScan String :=
  labelled "multiline basic string" do
    literal (word "\"\"\"")
    let _ ← optional newline
    let body ← commit mlBasicBody
    commit (literal (word "\"\"\""))
    pure body

/-- A literal string in apostrophes. -/
def literalString : TomlScan String :=
  labelled "literal string" do
    let _ ← byteIf (· == 39)
    let s ← commit (taken (scanWhile isLiteralChar))
    let _ ← commit (byteIf (· == 39))
    pure s

/-- A piece of a multi-line literal string: a character or a line break. -/
def mllContent : TomlScan Unit :=
  orElse (do let _ ← byteIf isLiteralChar) newline

/-- Three apostrophes. -/
def tripleApostrophe : List UInt8 := [39, 39, 39]

/-- The body of a multi-line literal string, as written. -/
def mlLiteralBody : TomlScan String :=
  taken do
    let _ ← many mllContent
    let _ ← many (do let _ ← quotesThen 39 (notByte 39); let _ ← many1 mllContent)
    let _ ← optional (quotesThen 39 (literal tripleApostrophe))

/-- A multi-line literal string in triple apostrophes, its line breaks read as line feeds; a
line break right after the opening apostrophes is dropped. -/
def mlLiteralString : TomlScan String :=
  labelled "multiline literal string" do
    literal tripleApostrophe
    let _ ← optional newline
    let body ← commit mlLiteralBody
    commit (literal tripleApostrophe)
    pure (body.replace "\r\n" "\n")

/-- Any of the four kinds of string. -/
def string : TomlScan String :=
  orElse mlBasicString (orElse basicString (orElse mlLiteralString literalString))

/-! ### Keys -/

/-- A key of one part: a basic or literal string, or a bare key. -/
def simpleKey : TomlScan String := do
  match ← peek with
  | some 34 => basicString
  | some 39 => literalString
  | _ => taken (scanWhile1 isBareKeyChar)

/-- The deepest dotted key accepted. -/
def keyDepthLimit : Nat := 80

/-- A key: simple keys joined by dots, blanks allowed around each. -/
def key : TomlScan (List TomlKey) := do
  let start ← here
  let parts ← labelled "key" (sepBy1
    (do ws; let (k, s, e) ← spanned simpleKey; ws; pure (TomlKey.mk k s e))
    (do let _ ← byteIf (· == 46)))
  if parts.length ≥ keyDepthLimit then reject start TomlConflict.recursionLimit.message
  pure parts

/-! ### Numbers and booleans -/

/-- One byte satisfying `ok`. -/
def oneOf (ok : UInt8 → Bool) : TomlScan Unit := do
  let _ ← byteIf ok

/-- More digits, each possibly after one underscore. -/
def digitRun (ok : UInt8 → Bool) : TomlScan Unit := do
  let _ ← many (orElse (oneOf ok)
    (do oneOf (· == 95); note (.expected (.description "digit")) (commit (oneOf ok))))

/-- A sign. -/
def isSign (b : UInt8) : Bool := b == 43 || b == 45

/-- A decimal integer: an optional sign, then `0` or digits not starting with `0`. -/
def decInt : TomlScan String :=
  labelled "integer" <| taken do
    let _ ← optional (byteIf isSign)
    orElse (do oneOf (fun b => 49 ≤ b && b ≤ 57); digitRun isDigit) (oneOf isDigit)

/-- Digits that may start with zero. -/
def zeroPrefixableInt : TomlScan Unit := do
  oneOf isDigit
  digitRun isDigit

/-- A fractional part. -/
def fraction : TomlScan Unit := do
  oneOf (· == 46)
  note (.expected (.description "digit")) (commit zeroPrefixableInt)

/-- An exponent part. -/
def exponent : TomlScan Unit := do
  oneOf (fun b => b == 101 || b == 69)
  let _ ← optional (byteIf isSign)
  commit zeroPrefixableInt

/-- The text of a decimal float: an integer part, then an exponent, or a fraction and an
optional exponent. -/
def floatText : TomlScan String :=
  taken do
    let _ ← decInt
    orElse exponent (do fraction; let _ ← optional exponent)

/-- The text without its underscores. -/
def dropUnderscores (s : String) : String := String.ofList (s.toList.filter (· ≠ '_'))

/-- The sign, digits and exponent of the decimal text of a float. -/
def decimalParts (s : String) : Bool × Nat × Int :=
  let cs := s.toList
  let (neg, cs) := match cs with
    | '-' :: r => (true, r)
    | '+' :: r => (false, r)
    | r => (false, r)
  let mantissa := cs.takeWhile (fun c => c ≠ 'e' && c ≠ 'E')
  let expText := (cs.drop mantissa.length).drop 1
  let intPart := mantissa.takeWhile (· ≠ '.')
  let fracPart := (mantissa.drop intPart.length).drop 1
  let digits := (intPart ++ fracPart).foldl (fun acc c => acc * 10 + (c.toNat - 48)) 0
  let expValue : Int := match expText with
    | '-' :: r => -((String.ofList r).toNat?.getD 0 : Int)
    | '+' :: r => ((String.ofList r).toNat?.getD 0 : Int)
    | r => ((String.ofList r).toNat?.getD 0 : Int)
  (neg, digits, expValue - fracPart.length)

/-- The float nearest to decimal digits times a power of ten; powers far beyond the range of
the format give zero or infinity directly. -/
def nearestFloat (neg : Bool) (digits : Nat) (exp10 : Int) : BinaryFloat :=
  let magnitude := (toString digits).length + exp10
  if digits = 0 || magnitude < -400 then .finite neg 0 FloatFormat.binary64.quantum
  else if magnitude > 400 then .inf neg
  else FloatFormat.binary64.ofDecimal neg digits exp10

/-- The special floats: `inf` and `nan`, with an optional sign. -/
def specialFloat : TomlScan BinaryFloat := do
  let sign ← optional (byteIf isSign)
  let v ← orElse (do literal (word "inf"); pure (BinaryFloat.inf false))
    (do literal (word "nan"); pure BinaryFloat.nan)
  pure (if sign == some 45 then v.negate else v)

/-- A float. A decimal float whose value is positive infinity is refused. -/
def float : TomlScan BinaryFloat :=
  labelled "floating-point number" <| orElse
    (do
      let start ← here
      let text ← floatText
      let (neg, digits, exp10) := decimalParts (dropUnderscores text)
      let x := nearestFloat neg digits exp10
      if x = .inf false then throw ⟨start, true, [], none⟩ else pure x)
    specialFloat

/-- The smallest and largest 64-bit integers. -/
def int64Min : Int := -((Nat.pow 2 63 : Nat) : Int)
def int64Max : Int := ((Nat.pow 2 63 : Nat) : Int) - 1

/-- An integer with a base prefix: the prefix, then digits of the base with single
underscores between them; the value must fit 64 bits. -/
def prefixedInt (radix : Nat) (what : String) (ok : UInt8 → Bool) : TomlScan Int := do
  let start ← here
  let text ← commit <| labelled what do
    skip 2
    commit (taken (do oneOf ok; digitRun ok))
  let value := (dropUnderscores text).foldl (fun acc c =>
    acc * radix + (if c.isDigit then c.toNat - 48 else if c ≤ 'F' then c.toNat - 55
      else c.toNat - 87)) 0
  if (value : Int) > int64Max then throw ⟨start, true, [], some TomlConflict.tooLarge.message⟩
  pure value

/-- An integer: hexadecimal after `0x`, octal after `0o`, binary after `0b`, otherwise
decimal; the value must fit 64 bits. -/
def integer : TomlScan Int := do
  match ← peek, ← peekAt 1 with
  | some 48, some 120 => prefixedInt 16 "hexadecimal integer" isHexDigit
  | some 48, some 111 => prefixedInt 8 "octal integer" (fun b => 48 ≤ b && b ≤ 55)
  | some 48, some 98 => prefixedInt 2 "binary integer" (fun b => b == 48 || b == 49)
  | _, _ => do
    let start ← here
    let text ← decInt
    let cs := (dropUnderscores text).toList
    let (neg, ds) := match cs with
      | '-' :: r => (true, r)
      | '+' :: r => (false, r)
      | r => (false, r)
    let magnitude : Int := (ds.foldl (fun acc c => acc * 10 + (c.toNat - 48)) 0 : Nat)
    let value := if neg then -magnitude else magnitude
    if value > int64Max then throw ⟨start, true, [], some TomlConflict.tooLarge.message⟩
    if value < int64Min then throw ⟨start, true, [], some TomlConflict.tooSmall.message⟩
    pure value

/-! ### Date-times -/

/-- Two digits whose value lies in `[lo, hi]`. -/
def twoDigits (lo hi : Nat) : TomlScan Nat := do
  let start ← here
  let text ← taken (scanCount isDigit 2 2)
  let v := text.toNat?.getD 0
  if lo ≤ v ∧ v ≤ hi then pure v else reject start TomlConflict.outOfRange.message

/-- A date `YYYY-MM-DD` whose day exists in its month. -/
def fullDate : TomlScan Unit := do
  let year := (← taken (scanCount isDigit 4 4)).toNat?.getD 0
  oneOf (· == 45)
  let month ← commit (twoDigits 1 12)
  commit (oneOf (· == 45))
  let dayStart ← here
  let day ← commit (twoDigits 1 31)
  let leap := year % 4 = 0 ∧ (year % 100 ≠ 0 ∨ year % 400 = 0)
  let longest := if month = 2 then (if leap then 29 else 28)
    else if month = 4 ∨ month = 6 ∨ month = 9 ∨ month = 11 then 30 else 31
  if longest < day then throw ⟨dayStart, true, [], some TomlConflict.outOfRange.message⟩

/-- A time `HH:MM:SS` with an optional fraction of a second. -/
def partialTime : TomlScan Unit := do
  let _ ← twoDigits 0 23
  oneOf (· == 58)
  commit do
    let _ ← twoDigits 0 59
    oneOf (· == 58)
    let _ ← twoDigits 0 60
    let _ ← optional (do oneOf (· == 46); scanCount isDigit 1 (← read).size)

/-- A time offset: `Z`, or a sign, hours and minutes. -/
def timeOffset : TomlScan Unit :=
  labelled "time offset" <| orElse (oneOf (fun b => b == 90 || b == 122))
    (do
      oneOf isSign
      commit (do let _ ← twoDigits 0 23; oneOf (· == 58); let _ ← twoDigits 0 59))

/-- A date-time, a date or a time, as its text. -/
def dateTime : TomlScan String :=
  taken <| orElse
    (labelled "date-time" do
      fullDate
      let _ ← optional do
        oneOf (fun b => b == 84 || b == 116 || b == 32)
        partialTime
        let _ ← optional timeOffset)
    (labelled "time" partialTime)

end Toml

end InferRoute
