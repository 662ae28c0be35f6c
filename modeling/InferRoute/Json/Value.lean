import InferRoute.Number.Decimal

/-!
JSON values as this library reads and writes them. A number remembers how it was read: an
unsigned integer below 2^64, a negative integer down to -2^63, or a finite binary64 value, and
the three are distinct values (`1` is not `1.0`). An object keeps its members sorted by key,
each key once; inserting a key that is present replaces its value.
-/

namespace InferRoute

/-- A JSON number: an unsigned integer below `2^64`, the negative integer `-n` for
`0 < n ≤ 2^63`, or a finite binary64 value. -/
inductive JsonNumber where
  | nat (n : Nat)
  | neg (n : Nat)
  | float (x : BinaryFloat)
deriving Repr, DecidableEq, Inhabited

/-- A JSON value. -/
inductive Json where
  | null
  | bool (b : Bool)
  | number (n : JsonNumber)
  | string (s : String)
  | array (items : List Json)
  | object (fields : List (String × Json))
deriving Repr, Inhabited

namespace JsonNumber

/-- The text of a number: integers in plain digits, floats with the fewest digits that read
back, positional from `1e-5` to below `1e16` and with an exponent elsewhere. -/
def render : JsonNumber → String
  | .nat n => toString n
  | .neg n => "-" ++ toString n
  | .float x => FloatLayout.compact.format FloatFormat.binary64 x

/-- The number as a binary64 value, integers rounded to nearest. -/
def toBinary : JsonNumber → BinaryFloat
  | .nat n => FloatFormat.binary64.ofNat n
  | .neg n => FloatFormat.binary64.round true n 1 0
  | .float x => x

end JsonNumber

namespace Json

/-- Members sorted by key with `key` set to `value`: a present key has its value replaced. -/
def setField (key : String) (value : Json) : List (String × Json) → List (String × Json)
  | [] => [(key, value)]
  | (k, v) :: rest =>
    if key < k then (key, value) :: (k, v) :: rest
    else if key = k then (key, value) :: rest
    else (k, v) :: setField key value rest

/-- An object from members in any order, the last of equal keys winning. -/
def ofFields (fields : List (String × Json)) : Json :=
  .object (fields.foldl (fun acc (k, v) => setField k v acc) [])

/-- The value of a member, if the value is an object that has it. -/
def field? (j : Json) (key : String) : Option Json :=
  match j with
  | .object fields => fields.lookup key
  | _ => none

/-- Four lowercase hexadecimal digits. -/
def hex4 (n : Nat) : String :=
  let digit (d : Nat) : Char := if d < 10 then Char.ofNat (48 + d) else Char.ofNat (87 + d)
  String.ofList [digit (n / 4096 % 16), digit (n / 256 % 16), digit (n / 16 % 16), digit (n % 16)]

/-- A character inside a quoted string: quote and backslash escaped, the control characters
below U+0020 as `\b`, `\t`, `\n`, `\f`, `\r` or `\u00XX`, all else as itself. -/
def escapeChar (c : Char) : String :=
  if c = '"' then "\\\""
  else if c = '\\' then "\\\\"
  else if c.toNat < 0x20 then
    if c = '\x08' then "\\b"
    else if c = '\t' then "\\t"
    else if c = '\n' then "\\n"
    else if c = '\x0c' then "\\f"
    else if c = '\r' then "\\r"
    else "\\u" ++ hex4 c.toNat
  else String.singleton c

/-- A string in quotes, escaped. -/
def quote (s : String) : String :=
  "\"" ++ String.join (s.toList.map escapeChar) ++ "\""

mutual

/-- The compact text of a value: no blanks, members in the object's order. -/
def render : Json → String
  | .null => "null"
  | .bool b => if b then "true" else "false"
  | .number n => n.render
  | .string s => quote s
  | .array items => "[" ++ renderItems items ++ "]"
  | .object fields => "\x7b" ++ renderFields fields ++ "\x7d"

/-- The items of an array, comma separated. -/
def renderItems : List Json → String
  | [] => ""
  | [j] => render j
  | j :: rest => render j ++ "," ++ renderItems rest

/-- The members of an object, comma separated. -/
def renderFields : List (String × Json) → String
  | [] => ""
  | [(k, v)] => quote k ++ ":" ++ render v
  | (k, v) :: rest => quote k ++ ":" ++ render v ++ "," ++ renderFields rest

end

/-- A string value, or nothing. -/
def asString? : Json → Option String
  | .string s => some s
  | _ => none

/-- A boolean value, or nothing. -/
def asBool? : Json → Option Bool
  | .bool b => some b
  | _ => none

/-- An unsigned integer value, or nothing. -/
def asNat? : Json → Option Nat
  | .number (.nat n) => some n
  | _ => none

/-- Whether the value is `null`. -/
def isNull : Json → Bool
  | .null => true
  | _ => false

end Json

end InferRoute
