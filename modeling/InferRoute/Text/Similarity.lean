import InferRoute.Number.Binary

/-!
How alike two texts are, by the Jaro measure. A character of the first text matches the first
free equal character of the second that stands at most `max(|a|, |b|) / 2 - 1` places away; the
matched characters of both texts, read in order, disagree at some places, and half of those
count as transpositions. The measure is the mean of the shares of matched characters in each
text and of the share of matches in order: `1` for equal texts, `0` with no match. It is computed
in binary64, each quotient and sum rounded, as deployed tools compute it.
-/

namespace InferRoute.Similarity

/-- The first free position of `c` in `b` from `lo` to below `hi`. -/
def freeMatch (b : Array Char) (taken : Array Bool) (c : Char) (lo hi : Nat) : Option Nat :=
  ((List.range hi).drop lo).find? fun j => b[j]? == some c && !(taken[j]?.getD true)

/-- The matches of the characters of `a` from place `i` on, within `reach` places: whether
each is matched, and which characters of `b` are taken. -/
def matchFrom (b : Array Char) (reach : Nat) :
    List Char → Nat → Array Bool → List Bool × Array Bool
  | [], _, taken => ([], taken)
  | c :: rest, i, taken =>
    match freeMatch b taken c (i - reach) (min b.size (i + reach + 1)) with
    | some j =>
      let (flags, taken) := matchFrom b reach rest (i + 1) (taken.set! j true)
      (true :: flags, taken)
    | none =>
      let (flags, taken) := matchFrom b reach rest (i + 1) taken
      (false :: flags, taken)

/-- The characters whose flag is set, in order. -/
def flagged (cs : List Char) (flags : List Bool) : List Char :=
  (cs.zip flags).filterMap fun (c, f) => if f then some c else none

/-- The number of places at which two lists differ. -/
def differences : List Char → List Char → Nat
  | x :: xs, y :: ys => (if x = y then 0 else 1) + differences xs ys
  | _, _ => 0

/-- The Jaro similarity of two texts, in binary64. -/
def jaro (s t : String) : BinaryFloat :=
  let f := FloatFormat.binary64
  let a := s.toList
  let b := t.toList
  if a.isEmpty && b.isEmpty then f.ofNat 1
  else if a.isEmpty || b.isEmpty then f.ofNat 0
  else
    let reach := max a.length b.length / 2 - 1
    let (flags, taken) := matchFrom b.toArray reach a 0 (Array.replicate b.length false)
    let ma := flagged a flags
    let mb := flagged b taken.toList
    let m := ma.length
    if m = 0 then f.ofNat 0
    else
      let t := differences ma mb / 2
      let share := fun (x y : Nat) => f.div (f.ofNat x) (f.ofNat y)
      f.div (f.add (f.add (share m a.length) (share m b.length)) (share (m - t) m)) (f.ofNat 3)

end InferRoute.Similarity
