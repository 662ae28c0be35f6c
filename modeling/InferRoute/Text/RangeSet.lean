/-!
Sets of code points, step functions over them and finite maps from them, as the tables of a
character property are given: sorted, disjoint inclusive ranges; sorted starting points, each with
the value that holds up to the next one; or sorted code points, each with its own value. All are
looked up by halving the table, so a lookup takes a number of steps logarithmic in its size.
-/

namespace InferRoute

/-- The index of the last entry with index in `[lo, hi)` whose key is at most `n`, or `best`
when there is none; the keys are sorted. -/
def lastAtOrBefore {α : Type} (entries : Array (Nat × α)) (n : Nat) (lo hi best : Nat) : Nat :=
  if lo < hi then
    let mid := (lo + hi) / 2
    match entries[mid]? with
    | some (key, _) =>
      if n < key then lastAtOrBefore entries n lo mid best
      else lastAtOrBefore entries n (mid + 1) hi mid
    | none => best
  else best
termination_by hi - lo

/-- A set of code points as inclusive ranges, sorted and disjoint. -/
structure RangeSet where
  ranges : Array (Nat × Nat)

namespace RangeSet

/-- Whether `n` belongs to the set: it lies in the last range starting at or before it. -/
def contains (s : RangeSet) (n : Nat) : Bool :=
  match s.ranges[lastAtOrBefore s.ranges n 0 s.ranges.size 0]? with
  | some (lo, hi) => lo ≤ n && n ≤ hi
  | none => false

/-- Whether the character belongs to the set. -/
def has (s : RangeSet) (c : Char) : Bool := s.contains c.toNat

end RangeSet

/-- A function on code points that is constant between its steps: each entry gives the first
code point of a step and the value from there up to the next entry. -/
structure StepTable (α : Type) where
  steps : Array (Nat × α)
  fallback : α

namespace StepTable

variable {α : Type}

/-- The value at `n`: that of the last step starting at or before `n`, and the fallback below
the first step. -/
def get (t : StepTable α) (n : Nat) : α :=
  match t.steps[lastAtOrBefore t.steps n 0 t.steps.size 0]? with
  | some (start, v) => if start ≤ n then v else t.fallback
  | none => t.fallback

end StepTable

/-- A finite map from code points, its entries sorted by code point. -/
structure PointMap (α : Type) where
  entries : Array (Nat × α)

namespace PointMap

variable {α : Type}

/-- The value stored for `n`, if any. -/
def find? (m : PointMap α) (n : Nat) : Option α :=
  match m.entries[lastAtOrBefore m.entries n 0 m.entries.size 0]? with
  | some (key, v) => if key = n then some v else none
  | none => none

end PointMap

end InferRoute
