/-!
Finding one text inside another.
-/

namespace InferRoute.Search

/-- Whether `pat` occurs in `s` as a contiguous run of characters. -/
def hasInfix (pat : List Char) : List Char → Bool
  | [] => pat.isEmpty
  | c :: rest => pat.isPrefixOf (c :: rest) || hasInfix pat rest

/-- Whether `pat` occurs in `s`. -/
def contains (s pat : String) : Bool := hasInfix pat.toList s.toList

/-- The text after `pre`, when `s` starts with it. -/
def dropPrefix? (s pre : String) : Option String :=
  if pre.toList.isPrefixOf s.toList then some (String.ofList (s.toList.drop pre.length)) else none

end InferRoute.Search
