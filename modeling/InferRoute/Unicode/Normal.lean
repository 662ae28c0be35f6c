import InferRoute.Unicode.CombiningClass
import InferRoute.Unicode.Composition

/-!
Normalization Form C. A text is first decomposed: every character is replaced by its full
canonical decomposition, and each run of marks (characters of nonzero combining class) is sorted
by class, stably, so that marks of one class keep their order. Canonical composition then walks
the text: a character joins the last starter when the two have a primary composite and nothing
between them blocks it, that is when the character just before it is the starter itself or a
mark of a lower class.
-/

namespace InferRoute.Unicode

/-- Puts a mark into a run sorted by class, after every mark of its own class or a lower one. -/
def insertMark (c : Char) : List Char → List Char
  | [] => [c]
  | d :: rest =>
    if combiningClass c < combiningClass d then c :: d :: rest else d :: insertMark c rest

/-- The text with each run of marks sorted by combining class, stably. -/
def canonicalOrder (cs : List Char) : List Char :=
  let (done, run) := cs.foldl (fun (done, run) c =>
    if combiningClass c = 0 then (done ++ run ++ [c], []) else (done, insertMark c run)) ([], [])
  done ++ run

/-- The canonical decomposition of a text, in canonical order (Normalization Form D). -/
def nfd (cs : List Char) : List Char := canonicalOrder (cs.flatMap decompose)

/-- Canonical composition in progress: the finished text before the last starter, reversed;
the last starter; and the characters after it that did not join it, reversed. -/
structure Composing where
  before : List Char
  starter : Option Char
  after : List Char

namespace Composing

/-- The state after one more character. It joins the starter when they have a composite and
it is not blocked: the starter is right before it, or the mark right before it has a lower
class. Otherwise a starter starts a new run, and a mark stays after the last starter. -/
def push (s : Composing) (c : Char) : Composing :=
  let k := combiningClass c
  let unblocked := match s.after with
    | [] => true
    | d :: _ => decide (combiningClass d < k)
  match s.starter with
  | none => if k = 0 then ⟨s.before, some c, []⟩ else ⟨c :: s.before, none, []⟩
  | some first =>
    match (if unblocked then compose? first c else none) with
    | some joined => ⟨s.before, some joined, s.after⟩
    | none =>
      if k = 0 then ⟨s.after ++ first :: s.before, some c, []⟩
      else ⟨s.before, some first, c :: s.after⟩

/-- The text composed so far. -/
def text (s : Composing) : List Char :=
  (s.after ++ s.starter.toList ++ s.before).reverse

end Composing

/-- Canonical composition of a text in canonical order. -/
def compose (cs : List Char) : List Char :=
  (cs.foldl Composing.push ⟨[], none, []⟩).text

/-- The Normalization Form C of a text: canonical decomposition, then canonical composition. -/
def nfc (cs : List Char) : List Char := compose (nfd cs)

/-- Whether a text is in Normalization Form C. -/
def isNfc (cs : List Char) : Bool := nfc cs == cs

end InferRoute.Unicode
