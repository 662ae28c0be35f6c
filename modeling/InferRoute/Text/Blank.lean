/-!
The characters with the Unicode White_Space property, and the words of a text: its maximal runs
of other characters.
-/

namespace InferRoute.Blank

/-- Whether a character has the White_Space property. -/
def isBlank (c : Char) : Bool :=
  let n := c.toNat
  (0x09 ≤ n && n ≤ 0x0D) || n = 0x20 || n = 0x85 || n = 0xA0 || n = 0x1680 ||
    (0x2000 ≤ n && n ≤ 0x200A) || n = 0x2028 || n = 0x2029 || n = 0x202F || n = 0x205F ||
    n = 0x3000

/-- The number of words of `cs` when the character before it, if any, was a blank (`atGap`). -/
def countWords (atGap : Bool) : List Char → Nat
  | [] => 0
  | c :: rest =>
    if isBlank c then countWords true rest
    else (if atGap then 1 else 0) + countWords false rest

/-- The number of words of a text. -/
def wordCount (s : String) : Nat := countWords true s.toList

/-- The text without blanks at its end. -/
def trimEnd (s : String) : String :=
  String.ofList (s.toList.reverse.dropWhile isBlank).reverse

/-- The text without blanks at either end. -/
def trim (s : String) : String :=
  String.ofList ((s.toList.dropWhile isBlank).reverse.dropWhile isBlank).reverse

end InferRoute.Blank
