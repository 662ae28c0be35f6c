/-!
Percent-encoding of web addresses. Each part of an address has a set of ASCII characters that
must be written as `%XX` escapes of their byte; every character outside ASCII is always
written as the escapes of its UTF-8 bytes. Decoding turns each `%` followed by two hexadecimal
digits back into its byte and keeps everything else.
-/

namespace InferRoute

/-- The ASCII characters that a part of an address writes as escapes. -/
structure PercentSet where
  escapes : Char → Bool

namespace PercentSet

/-- Control characters: below the space, and delete. -/
def controls : PercentSet := ⟨fun c => c.val < 0x20 || c.val = 0x7F⟩

/-- The set with some more characters escaped. -/
def add (s : PercentSet) (extra : List Char) : PercentSet :=
  ⟨fun c => s.escapes c || extra.contains c⟩

/-- Fragments: controls, space, `"`, `<`, `>` and the backquote. -/
def fragment : PercentSet := controls.add [' ', '"', '<', '>', '\x60']

/-- Path segments: the fragment set with `#`, `?` and both braces. -/
def path : PercentSet := fragment.add ['#', '?', '\x7b', '\x7d']

/-- User names and passwords: the path set with the delimiters of an authority. -/
def userinfo : PercentSet := path.add ['/', ':', ';', '=', '@', '[', '\\', ']', '^', '|']

/-- Queries: controls, space, `"`, `#`, `<` and `>`. -/
def query : PercentSet := controls.add [' ', '"', '#', '<', '>']

/-- Queries of the well-known schemes also escape the apostrophe. -/
def specialQuery : PercentSet := query.add [Char.ofNat 39]

end PercentSet

namespace Percent

/-- The upper-case hexadecimal digit of a value below 16. -/
def hexDigit (n : Nat) : Char :=
  if n < 10 then Char.ofNat (48 + n) else Char.ofNat (55 + n)

/-- The escape `%XX` of a byte. -/
def escapeByte (b : UInt8) : String :=
  String.ofList ['%', hexDigit (b.toNat / 16), hexDigit (b.toNat % 16)]

/-- A character as written in a part with escape set `s`. -/
def encodeChar (s : PercentSet) (c : Char) : String :=
  if c.val < 128 && !s.escapes c then String.singleton c
  else String.join ((String.singleton c).toUTF8.toList.map escapeByte)

/-- Characters as written in a part with escape set `s`. -/
def encode (s : PercentSet) (cs : List Char) : String :=
  String.join (cs.map (encodeChar s))

/-- The value of a hexadecimal digit, of either case. -/
def hexValue? (b : UInt8) : Option Nat :=
  if 48 ≤ b && b ≤ 57 then some (b.toNat - 48)
  else if 65 ≤ b && b ≤ 70 then some (b.toNat - 55)
  else if 97 ≤ b && b ≤ 102 then some (b.toNat - 87)
  else none

/-- Bytes with every `%` and two hexadecimal digits replaced by the byte they name. -/
def decode : List UInt8 → List UInt8
  | [] => []
  | 37 :: h :: l :: rest =>
    match hexValue? h, hexValue? l with
    | some a, some b => (a * 16 + b).toUInt8 :: decode rest
    | _, _ => 37 :: decode (h :: l :: rest)
  | b :: rest => b :: decode rest

end Percent

end InferRoute
