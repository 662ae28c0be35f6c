import InferRoute.Text.Printable

/-!
Quoted text for messages that show a string to a person: in double quotes, with `\"`, `\\`,
`\0`, `\t`, `\r` and `\n` escaped, and every character that would not show on its own (controls,
format characters, separators other than the space, private use, noncharacters, and combining
marks that would join the quote) written as `\u{hex}`.
-/

namespace InferRoute.Quoted

/-- Whether a character other than the six with short escapes is written as `\u{hex}`. -/
def needsEscape (c : Char) : Bool := Printable.escaped c

/-- Lowercase hexadecimal digits of `n`, without leading zeros. -/
def hexDigits (n : Nat) : String :=
  String.ofList ((Nat.toDigits 16 n).map fun d => if d.isUpper then d.toLower else d)

/-- One character inside the quotes. -/
def escapeChar (c : Char) : String :=
  if c = '\x00' then "\\0"
  else if c = '\t' then "\\t"
  else if c = '\r' then "\\r"
  else if c = '\n' then "\\n"
  else if c = '\\' then "\\\\"
  else if c = '"' then "\\\""
  else if needsEscape c then "\\u\x7b" ++ hexDigits c.toNat ++ "\x7d"
  else String.singleton c

/-- A string in double quotes, escaped for display. -/
def quote (s : String) : String :=
  "\"" ++ String.join (s.toList.map escapeChar) ++ "\""

/-- A list of strings in brackets, each quoted, separated by a comma and a space. -/
def list (items : List String) : String :=
  "[" ++ ", ".intercalate (items.map quote) ++ "]"

end InferRoute.Quoted
