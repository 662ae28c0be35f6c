import InferRoute.Json.Value

/-!
Shapes that a reader asks JSON to have. A record's members are all optional: a missing member
reads as `null`, members it does not name are skipped, and a member named twice is an error.
Reading against a shape yields a `Json` of that shape: integers as numbers, an absent optional as
`null`, a record as an object with every member it names.
-/

namespace InferRoute

/-- The shape a reader asks for. -/
inductive Schema where
  | bool
  | u64
  | u32
  | string
  /-- Any JSON value, kept as it is. -/
  | value
  /-- `null`, or a value of the inner shape. -/
  | option (inner : Schema)
  | seq (item : Schema)
  /-- A record with optional members; `name` is used in messages. -/
  | record (name : String) (members : List (String × Schema))
deriving Repr, Inhabited

namespace Schema

/-- The shape in words, as messages name what they expected. -/
def wanted : Schema → String
  | .bool => "a boolean"
  | .u64 => "u64"
  | .u32 => "u32"
  | .string => "a string"
  | .value => "any valid JSON value"
  | .option _ => "option"
  | .seq _ => "a sequence"
  | .record name _ => "struct " ++ name

/-- The largest value of an unsigned integer shape. -/
def maxNat : Schema → Nat
  | .u32 => Nat.pow 2 32 - 1
  | _ => Nat.pow 2 64 - 1

end Schema

end InferRoute
