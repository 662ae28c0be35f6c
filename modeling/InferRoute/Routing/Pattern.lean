/-!
Text patterns in a small regular-expression language: alternatives separated by `|`, each a
sequence of literal characters, classes `[...]`, `.` (any character but a line feed) and `.*`
(any run of such characters). A leading `(?i)` makes letters match in either case. A pattern
matches a text when some alternative matches some run of consecutive characters of it.
-/

namespace InferRoute

/-- One element of an alternative. -/
inductive Piece where
  | char (c : Char)
  | oneOf (cs : List Char)
  | any
  | anyRun
deriving Repr, DecidableEq, Inhabited

/-- A compiled pattern: its source text, whether case is ignored, and its alternatives. -/
structure Pattern where
  source : String
  ignoreCase : Bool
  alternatives : List (List Piece)
deriving Repr, Inhabited

namespace Pattern

mutual

/-- The pieces of one alternative's text, or nothing for a text outside the language. -/
def pieces : List Char → Option (List Piece)
  | [] => some []
  | '.' :: '*' :: rest => (pieces rest).map (.anyRun :: ·)
  | '.' :: rest => (pieces rest).map (.any :: ·)
  | '[' :: rest => classThen [] rest
  | c :: rest =>
    if c = '*' ∨ c = '(' ∨ c = ')' ∨ c = ']' ∨ c = '\\' ∨ c = '+' ∨ c = '?' then none
    else (pieces rest).map (.char c :: ·)

/-- The members of a class up to its `]` (gathered in `acc`, reversed), then the pieces after
it. -/
def classThen (acc : List Char) : List Char → Option (List Piece)
  | [] => none
  | ']' :: more => if acc.isEmpty then none else (pieces more).map (.oneOf acc.reverse :: ·)
  | c :: more => classThen (c :: acc) more

end

/-- Splits a text at `|`. -/
def splitBars (cs : List Char) : List (List Char) :=
  (cs.splitOn '|')

/-- The pattern of a source text, or nothing for a text outside the language. -/
def compile (source : String) : Option Pattern :=
  let cs := source.toList
  let (ignoreCase, body) :=
    if "(?i)".toList.isPrefixOf cs then (true, cs.drop 4) else (false, cs)
  match (splitBars body).mapM pieces with
  | some alts => some ⟨source, ignoreCase, alts⟩
  | none => none

/-- The character that stands for `c` when case is ignored: ASCII letters in lower case, and
the Kelvin sign and the long s as the ASCII letters they fold to. -/
def fold (c : Char) : Char :=
  if c = 'K' then 'k' else if c = 'ſ' then 's' else c.toLower

/-- Whether two characters are the same, up to case when `ignoreCase`. -/
def same (ignoreCase : Bool) (x c : Char) : Bool :=
  if ignoreCase then fold x = fold c else x = c

/-- Whether the pieces match a prefix of the text. -/
def matchesPrefix (ignoreCase : Bool) : List Piece → List Char → Bool
  | [], _ => true
  | .anyRun :: ps, xs =>
    matchesPrefix ignoreCase ps xs ||
      match xs with
      | x :: rest => x != '\n' && matchesPrefix ignoreCase (.anyRun :: ps) rest
      | [] => false
  | _ :: _, [] => false
  | .char c :: ps, x :: rest => same ignoreCase x c && matchesPrefix ignoreCase ps rest
  | .oneOf cs :: ps, x :: rest => cs.any (same ignoreCase x) && matchesPrefix ignoreCase ps rest
  | .any :: ps, x :: rest => x != '\n' && matchesPrefix ignoreCase ps rest
termination_by ps xs => ps.length + xs.length

/-- Whether some alternative matches a run of consecutive characters starting in `xs`. -/
def matchesSomewhere (p : Pattern) : List Char → Bool
  | [] => p.alternatives.any (matchesPrefix p.ignoreCase · [])
  | x :: rest =>
    p.alternatives.any (matchesPrefix p.ignoreCase · (x :: rest)) || matchesSomewhere p rest

/-- Whether the pattern matches the text. -/
def test (p : Pattern) (text : String) : Bool := p.matchesSomewhere text.toList

end Pattern

end InferRoute
