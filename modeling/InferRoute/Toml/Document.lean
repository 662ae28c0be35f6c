import InferRoute.Toml.Lexeme

/-!
Reading a whole TOML document. Values nest through arrays and inline tables up to a fixed
depth. A document is a sequence of lines: blank lines, comments, key-value pairs and table
headers. The pairs go into the table of the last header, or into the root before the first
header; a table is finished when the next header or the end comes, and only then put into its
parent, so a table's entries come in the order of the text and tables follow the root's pairs.
-/

namespace InferRoute

namespace Toml

open TomlScan

/-- A value with the span of its text. -/
abbrev Located := TomlValue × Nat × Nat

/-- The deepest nesting of arrays and inline tables accepted. -/
def nestingLimit : Nat := 80

/-- Adds the notes of a place where a string was expected. -/
def asString {α : Type} (p : TomlScan α) : TomlScan α :=
  withNotes [.label "string", .expected (.char '"'), .expected (.char (Char.ofNat 39))] p

/-- The path and leaf of a key. -/
def splitKey (parts : List TomlKey) : List TomlKey × TomlKey :=
  (parts.dropLast, parts.getLastD default)

/-- Puts `v` under `key` at `path` below the entries of an inline table. Dotted keys create
dotted tables; extending a value, or extending a table written in braces, is a conflict naming
the key that reaches it, and so is a key given twice. `full` is the whole path, for messages. -/
def putInline (full : List String) (key : String) (v : TomlValue) :
    List String → List (String × TomlValue) → Bool → Except TomlConflict (List (String × TomlValue))
  | [], entries, dotted =>
    if dotted == full.isEmpty then throw (.duplicateKey key none)
    else if entries.any (·.1 == key) then throw (.duplicateKey key none)
    else pure (entries ++ [(key, v)])
  | k :: rest, entries, _ =>
    match (entries.find? (·.1 == k)).map (·.2) with
    | none => do
      let sub ← putInline full key v rest [] true
      pure (entries ++ [(k, .table sub true)])
    | some (.table sub d) => do
      if !d then throw (.duplicateKey k none)
      let sub ← putInline full key v rest sub d
      pure (entries.map fun (k', x) => if k' == k then (k', .table sub d) else (k', x))
    | some other => throw (.extendsValue (full.take (full.length - rest.length)) other.typeName)

/-- An inline table from its pairs, in order. -/
def tableOfPairs (pairs : List (List TomlKey × TomlValue)) : Except TomlConflict TomlValue := do
  let entries ← pairs.foldlM (fun entries (parts, v) =>
    let (path, leaf) := splitKey parts
    let names := path.map (·.name)
    putInline names leaf.name v names entries false) []
  pure (.table entries false)

/-- An array, its items read by `item`. -/
def arrayOf (item : TomlScan Located) : TomlScan TomlValue := do
  oneOf (· == 91)
  let items ← commit do
    if (← peek) == some 93 then pure []
    else
      let items ← sepBy (do wsCommentNewline; let (v, _) ← item; wsCommentNewline; pure v)
        (oneOf (· == 44))
      if !items.isEmpty then
        let _ ← optional (byteIf (· == 44))
      wsCommentNewline
      pure items
  expectChar ']' (labelled "array" (commit (oneOf (· == 93))))
  pure (.array items)

/-- A pair inside an inline table, its value read by `item`. -/
def inlinePair (item : TomlScan Located) : TomlScan (List TomlKey × TomlValue) := do
  let parts ← key
  commit do
    expectChar '=' (expectChar '.' (oneOf (· == 61)))
    ws
    let (v, _) ← item
    ws
    pure (parts, v)

/-- An inline table, its values read by `item`. -/
def inlineTableOf (item : TomlScan Located) : TomlScan TomlValue := do
  oneOf (· == 123)
  let start ← here
  let pairs ← commit do
    let pairs ← sepBy (inlinePair item) (oneOf (· == 44))
    ws
    pure pairs
  let t ← match tableOfPairs pairs with
    | .ok t => pure t
    | .error c => throw ⟨start, true, [], some c.message⟩
  expectChar '}' (labelled "inline table" (commit (oneOf (· == 125))))
  pure t

/-- A value, nested values read by `deeper`; without `deeper` an array or inline table is
one level too deep. -/
def valueWith (deeper : Option (TomlScan Located)) : TomlScan TomlValue := do
  let nested := fun (read : TomlScan Located → TomlScan TomlValue) => match deeper with
    | some item => read item
    | none => do throw ⟨← here, true, [], some TomlConflict.recursionLimit.message⟩
  match ← peek with
  | none => stop
  | some b =>
    if b == 34 || b == 39 then return .string (← string)
    else if b == 91 then nested arrayOf
    else if b == 123 then nested inlineTableOf
    else if isSign b || isDigit b then
      orElse (return .datetime (← dateTime))
        (orElse (return .float (← float)) (return .integer (← integer)))
    else if b == 95 then
      note (.expected (.description "leading digit")) (return .integer (← integer))
    else if b == 46 then
      note (.expected (.description "leading digit")) (return .float (← float))
    else if b == 116 then asString do commit (literal (word "true")); pure (.boolean true)
    else if b == 102 then asString do commit (literal (word "false")); pure (.boolean false)
    else if b == 105 then asString do literal (word "inf"); pure (.float (.inf false))
    else if b == 110 then asString do literal (word "nan"); pure (.float .nan)
    else asString stop

/-- A value with `room` more levels of nesting allowed below it. -/
def valueAt : Nat → TomlScan Located
  | 0 => spanned (valueWith none)
  | room + 1 => spanned (valueWith (some (valueAt room)))

/-- A value at the top of a pair. -/
def value : TomlScan Located := valueAt (nestingLimit - 1)

/-- The state of a document being read: its root, the table the last header opened (the root's
own pairs before any header), its path, and whether that header was of an array of tables. -/
structure TomlBuilder where
  root : TomlNode
  current : TomlNode
  currentPath : List TomlKey
  currentIsArray : Bool
deriving Inhabited

namespace TomlBuilder

/-- An empty table. -/
def emptyTable : TomlNode := .table [] false false none

/-- A document with nothing read yet. -/
def start : TomlBuilder := ⟨emptyTable, .table [] false false (some (0, 0)), [], false⟩

/-- Adds a pair to the current table; the table's span grows to the end of the value. -/
def addPair (b : TomlBuilder) (path : List TomlKey) (leaf : String) (v : TomlValue)
    (s e : Nat) : Except TomlConflict TomlBuilder := do
  let current : TomlNode := match b.current with
    | .table entries imp dot (some (s0, _)) => .table entries imp dot (some (s0, e))
    | other => other
  let place : TomlNode → Except TomlConflict (TomlNode × Unit) := fun t => match t with
    | .table entries imp dot span =>
      if dot == path.isEmpty then throw (.duplicateKey leaf none)
      else if entries.any (·.1 == leaf) then
        throw (.duplicateKey leaf (some (b.currentPath.map (·.name))))
      else pure (.table (entries ++ [(leaf, .value v s e)]) imp dot span, ())
    | _ => throw (.duplicateKey leaf none)
  let (current, ()) ← current.descend path true place path
  pure { b with current }

/-- The span from the first to the last of a list of tables. -/
def tablesSpan (items : List TomlNode) : Option (Nat × Nat) :=
  let spanOf := fun (n : TomlNode) => match n with
    | .table _ _ _ span => span
    | _ => none
  match items.head?.bind spanOf, items.getLast?.bind spanOf with
  | some (s, _), some (_, e) => some (s, e)
  | _, _ => none

/-- Puts the current table into the document: the root's pairs become the root, a table goes
under its name, the table of an array header is appended to its array. -/
def finish (b : TomlBuilder) : Except TomlConflict TomlBuilder := do
  let path := b.currentPath
  let reset := { b with current := emptyTable, currentPath := [] }
  if path.isEmpty then return { reset with root := b.current }
  let (parentPath, leafKey) := splitKey path
  let leaf := leafKey.name
  let duplicate : TomlConflict := .duplicateKey (keyText leaf) (some (parentPath.map (·.name)))
  let (root, ()) ← b.root.descend parentPath false (fun parent => match parent with
    | .table entries imp dot span =>
      match TomlNode.lookup leaf entries, b.currentIsArray with
      | none, true =>
        pure (.table (entries ++ [(leaf, .tables [b.current] (tablesSpan [b.current]))]) imp dot span, ())
      | some (.tables items _), true =>
        let items := items ++ [b.current]
        pure (.table (TomlNode.replace leaf (.tables items (tablesSpan items)) entries) imp dot span, ())
      | none, false => pure (.table (entries ++ [(leaf, b.current)]) imp dot span, ())
      | some (.table _ true _ _), false =>
        pure (.table (TomlNode.replace leaf b.current entries) imp dot span, ())
      | _, _ => throw duplicate
    | _ => throw duplicate) parentPath
  pure { reset with root }

/-- Opens the table of a header `[path]`. A table that only longer headers implied is taken
over with its entries; any other entry under that name is a conflict. -/
def openTable (b : TomlBuilder) (path : List TomlKey) (s e : Nat) :
    Except TomlConflict TomlBuilder := do
  let (parentPath, leafKey) := splitKey path
  let leaf := leafKey.name
  let duplicate : TomlConflict := .duplicateKey (keyText leaf) (some (parentPath.map (·.name)))
  let (root, found) ← b.root.descend parentPath false (fun parent => match parent with
    | .table entries imp dot span =>
      pure (.table (TomlNode.remove leaf entries) imp dot span, TomlNode.lookup leaf entries)
    | _ => throw duplicate) parentPath
  let entries ← match found with
    | none => pure []
    | some (.table entries true false _) => pure entries
    | some _ => throw duplicate
  pure ⟨root, .table entries false false (some (s, e)), path, false⟩

/-- Opens a new table of an array header `[[path]]`; the name must be free or an array of
tables. -/
def openArrayTable (b : TomlBuilder) (path : List TomlKey) (s e : Nat) :
    Except TomlConflict TomlBuilder := do
  let (parentPath, leafKey) := splitKey path
  let leaf := leafKey.name
  let duplicate : TomlConflict := .duplicateKey (keyText leaf) (some (parentPath.map (·.name)))
  let (root, ()) ← b.root.descend parentPath false (fun parent => match parent with
    | .table entries imp dot span =>
      match TomlNode.lookup leaf entries with
      | none => pure (.table (entries ++ [(leaf, .tables [] none)]) imp dot span, ())
      | some (.tables ..) => pure (parent, ())
      | some _ => throw duplicate
    | _ => throw duplicate) parentPath
  pure ⟨root, .table [] false false (some (s, e)), path, true⟩

end TomlBuilder

/-- A key-value line, added to the current table. A conflict is reported at the key. -/
def pairLine (b : TomlBuilder) : TomlScan TomlBuilder := do
  let start ← here
  let parts ← key
  let (v, s, e) ← commit do
    expectChar '=' (expectChar '.' (oneOf (· == 61)))
    ws
    let located ← value
    expectChar '#' (expectChar '\n' lineTrailing)
    pure located
  let (path, leaf) := splitKey parts
  match b.addPair path leaf.name v s e with
  | .ok b => pure b
  | .error c => reject start c.message

/-- A table header line `[key]` or `[[key]]`, which finishes the current table and opens the
named one. A conflict is reported at the header. -/
def headerLine (b : TomlBuilder) : TomlScan TomlBuilder :=
  labelled "table header" do
    let start ← here
    match ← peek, ← peekAt 1 with
    | some 91, some 91 =>
      let (parts, s, e) ← spanned do
        literal [91, 91]
        let parts ← commit key
        note (.expected (.literal "]]")) (expectChar '.' (commit (literal [93, 93])))
        pure parts
      expectChar '#' (expectChar '\n' (commit lineTrailing))
      match b.finish >>= (·.openArrayTable parts s e) with
      | .ok b => pure b
      | .error c => reject start c.message
    | some _, some _ =>
      let (parts, s, e) ← spanned do
        oneOf (· == 91)
        let parts ← commit key
        expectChar ']' (expectChar '.' (commit (oneOf (· == 93))))
        pure parts
      expectChar '#' (expectChar '\n' (commit lineTrailing))
      match b.finish >>= (·.openTable parts s e) with
      | .ok b => pure b
      | .error c => reject start c.message
    | _, _ => stop

/-- The lines of a document from the current offset, each followed by blanks. A line break
that is not one (a lone carriage return) ends the lines. -/
def linesFrom : Nat → TomlBuilder → TomlScan TomlBuilder
  | 0, b => pure b
  | fuel + 1, b => do
    match ← peek with
    | none => pure b
    | some 35 =>
      commit (do comment; lineEnding)
      ws
      linesFrom fuel b
    | some 91 =>
      let b ← commit (headerLine b)
      ws
      linesFrom fuel b
    | some 10 | some 13 =>
      match ← optional newline with
      | none => pure b
      | some () =>
        ws
        linesFrom fuel b
    | some _ =>
      let b ← commit (pairLine b)
      ws
      linesFrom fuel b

/-- A document: an optional byte order mark, then lines up to the end of the text. -/
def document : TomlScan TomlBuilder := do
  let _ ← optional (literal [0xEF, 0xBB, 0xBF])
  ws
  let b ← linesFrom ((← read).size + 1) TomlBuilder.start
  atEnd
  pure b

end Toml

/-- A failure to read a TOML document: its message and, when it has one, the byte span of the
text it concerns. -/
structure TomlError where
  message : String
  span : Option (Nat × Nat)
deriving Repr

namespace TomlError

/-- The line (from 0) and column (from 0) of a byte offset. The column counts characters
from the start of the line to the byte at the offset, that byte included; when that byte is not
the end of a character it counts bytes instead. An offset past the end counts on from the last
byte. -/
def position (raw : ByteArray) (index : Nat) : Nat × Nat :=
  if raw.size = 0 then (0, index)
  else
    let safe := min index (raw.size - 1)
    let before := (raw.extract 0 safe).toList
    let lineStart := match (before.zipIdx.filter (·.1 == 10)).getLast? with
      | some (_, i) => i + 1
      | none => 0
    let line := ((raw.extract 0 lineStart).toList.filter (· == 10)).length
    let column := match String.fromUTF8? (raw.extract lineStart (safe + 1)) with
      | some s => s.length - 1
      | none => safe - lineStart
    (line, column + (index - safe))

/-- `n` spaces. -/
def spaces (n : Nat) : String := String.ofList (List.replicate n ' ')

/-- The text of an error about a document `raw`: the line and column, the line itself with a
caret row under the span (at least one caret, at most to the end of the line), and the
message. -/
def render (e : TomlError) (raw : String) : String :=
  match e.span with
  | none => e.message ++ "\n"
  | some (s, t) =>
    let (line, column) := position raw.toUTF8 s
    let number := toString (line + 1)
    let gutter := number.length
    let content := (raw.splitOn "\n").getD line ""
    let carets := min (t - s) (content.utf8ByteSize - column)
    "TOML parse error at line " ++ number ++ ", column " ++ toString (column + 1) ++ "\n" ++
      spaces (gutter + 1) ++ "|\n" ++
      number ++ " | " ++ content ++ "\n" ++
      spaces (gutter + 1) ++ "|" ++ spaces (column + 1) ++ "^" ++
      String.ofList (List.replicate (carets - 1) '^') ++ "\n" ++
      e.message ++ "\n"

end TomlError

namespace Toml

/-- The number of bytes of the character that starts with byte `b`; none at the end. -/
def charWidth : Option UInt8 → Nat
  | none => 0
  | some b => if b < 0xC0 then 1 else if b < 0xE0 then 2 else if b < 0xF0 then 3 else 4

/-- Reads a TOML document into its root table. A failure of the text is placed at the character
where reading stopped (an empty span at the end); a conflict found when the last table is put in
place has no place. -/
def parse (text : String) : Except TomlError TomlNode :=
  let bytes := text.toUTF8
  match TomlScan.runAt document bytes 0 with
  | .error f =>
    let span := (f.offset, f.offset + charWidth bytes[f.offset]?)
    .error ⟨f.message, some span⟩
  | .ok (b, _) =>
    match b.finish with
    | .ok b => .ok b.root
    | .error c => .error ⟨c.message, none⟩

end Toml

end InferRoute
