import InferRoute.Number.Binary

/-!
TOML values and documents. A value is a string, a 64-bit integer, a 64-bit float, a boolean, a
date-time (kept as its text), an array or an inline table. A document is a tree of tables:
every entry of a table is a value with the span of its text, a table, or an array of tables.
Tables remember whether they were only implied by a longer header or a dotted key, and whether
dotted keys made them, because TOML forbids defining a table twice in either way.
-/

namespace InferRoute

/-- A TOML value. An inline table is `dotted` when dotted keys inside braces made it rather
than braces of its own. -/
inductive TomlValue where
  | string (s : String)
  | integer (n : Int)
  | float (x : BinaryFloat)
  | boolean (b : Bool)
  | datetime (text : String)
  | array (items : List TomlValue)
  | table (entries : List (String × TomlValue)) (dotted : Bool)
deriving Repr, Inhabited

/-- The name of the kind of a value, as messages use it. -/
def TomlValue.typeName : TomlValue → String
  | .string _ => "string"
  | .integer _ => "integer"
  | .float _ => "float"
  | .boolean _ => "boolean"
  | .datetime _ => "datetime"
  | .array _ => "array"
  | .table .. => "inline table"

/-- A node of a document: a value with the byte span of its text, a table, or an array of
tables. A table is `implicit` when only a longer header or a dotted key implied it. The span of
a table runs from its header to the end of its last value; an implicit table has the span of
the key that created it. -/
inductive TomlNode where
  | value (v : TomlValue) (start stop : Nat)
  | table (entries : List (String × TomlNode)) (implicit dotted : Bool)
      (span : Option (Nat × Nat))
  | tables (items : List TomlNode) (span : Option (Nat × Nat))
deriving Repr, Inhabited

/-- One part of a key as written: its name and the byte span of its text. -/
structure TomlKey where
  name : String
  start : Nat
  stop : Nat
deriving Repr, DecidableEq, Inhabited

/-- Why a well-formed text is still no TOML document, or a number no value. -/
inductive TomlConflict where
  | duplicateKey (key : String) (table : Option (List String))
  | extendsValue (path : List String) (typeName : String)
  | recursionLimit
  | outOfRange
  | tooLarge
  | tooSmall
deriving Repr, DecidableEq

/-- The text of each conflict. -/
def TomlConflict.message : TomlConflict → String
  | .duplicateKey key none => "duplicate key \x60" ++ key ++ "\x60"
  | .duplicateKey key (some []) => "duplicate key \x60" ++ key ++ "\x60 in document root"
  | .duplicateKey key (some path) =>
    "duplicate key \x60" ++ key ++ "\x60 in table \x60" ++ ".".intercalate path ++ "\x60"
  | .extendsValue path t =>
    "dotted key \x60" ++ ".".intercalate path ++ "\x60 attempted to extend non-table type (" ++
      t ++ ")"
  | .recursionLimit => "recursion limit exceeded"
  | .outOfRange => "value is out of range"
  | .tooLarge => "number too large to fit in target type"
  | .tooSmall => "number too small to fit in target type"

/-- Whether a key can be written bare: ASCII letters and digits, `-` and `_`, at least one. -/
def isBareKey (name : String) : Bool :=
  !name.isEmpty && name.all fun c => c.isAlphanum || c = '-' || c = '_'

/-- Whether a key is written as a literal string when it cannot be bare: it holds a backslash,
no control character but tabs and line breaks, no three apostrophes in a row, and does not end
in an apostrophe. -/
def prefersLiteral (name : String) : Bool :=
  let cs := name.toList
  cs.contains '\\' &&
    cs.all (fun c => c = '\t' || c = '\n' || c.val > 0x1F) &&
    !(String.ofList cs).contains "\x27\x27\x27" && cs.getLast? != some (Char.ofNat 39)

/-- A character of a basic string as written: the short escapes, `\uXXXX` for other controls,
and itself otherwise. -/
def basicEscape (c : Char) : String :=
  if c = '\x08' then "\\b"
  else if c = '\t' then "\\t"
  else if c = '\n' then "\\n"
  else if c = '\x0c' then "\\f"
  else if c = '\r' then "\\r"
  else if c = '"' then "\\\""
  else if c = '\\' then "\\\\"
  else if c.val ≤ 0x1F || c.val = 0x7F then
    let hex := String.ofList (Nat.toDigits 16 c.toNat) |>.map Char.toUpper
    "\\u" ++ String.ofList (List.replicate (4 - hex.length) '0') ++ hex
  else String.singleton c

/-- The text of a key as a document would write it afresh: bare when it can be, else quoted. -/
def keyText (name : String) : String :=
  if isBareKey name then name
  else if prefersLiteral name then "\x27" ++ name ++ "\x27"
  else "\"" ++ String.join (name.toList.map basicEscape) ++ "\""

namespace TomlNode

/-- The entry under `key` in a list of entries. -/
def lookup (key : String) (entries : List (String × TomlNode)) : Option TomlNode :=
  (entries.find? (·.1 == key)).map (·.2)

/-- The entries with the one under `key` replaced. -/
def replace (key : String) (node : TomlNode) (entries : List (String × TomlNode)) :
    List (String × TomlNode) :=
  entries.map fun (k, n) => if k == key then (k, node) else (k, n)

/-- The entries without the one under `key`. -/
def remove (key : String) (entries : List (String × TomlNode)) : List (String × TomlNode) :=
  entries.filter (·.1 != key)

/-- Runs `k` on the table at `path` below the table `t`, creating missing tables as implicit
ones of the given dottedness, and puts the result back. An implicit table is placed at the key
that created it. An array of tables is entered through its last table; a value on the way is a
conflict naming the path up to it, and so is, for a dotted key, a table that a header or braces
defined. `full` is the whole path, for messages. -/
def descend {β : Type} (full : List TomlKey) (dotted : Bool)
    (k : TomlNode → Except TomlConflict (TomlNode × β)) :
    TomlNode → List TomlKey → Except TomlConflict (TomlNode × β)
  | t, [] => k t
  | .table entries imp dot span, key :: rest => do
    let depth := full.length - rest.length
    match lookup key.name entries with
    | none =>
      let (child, b) ← descend full dotted k
        (.table [] true dotted (some (key.start, key.stop))) rest
      pure (.table (entries ++ [(key.name, child)]) imp dot span, b)
    | some (.value v _ _) =>
      throw (.extendsValue ((full.take depth).map (·.name)) v.typeName)
    | some (.tables items aspan) =>
      match items.getLast? with
      | some last =>
        let (child, b) ← descend full dotted k last rest
        pure (.table (replace key.name (.tables (items.dropLast ++ [child]) aspan) entries)
          imp dot span, b)
      | none => throw (.duplicateKey key.name none)
    | some child@(.table _ childImplicit _ _) =>
      if dotted && !childImplicit then throw (.duplicateKey key.name none)
      let (child, b) ← descend full dotted k child rest
      pure (.table (replace key.name child entries) imp dot span, b)
  | _, key :: _ => throw (.duplicateKey key.name none)

end TomlNode

end InferRoute
