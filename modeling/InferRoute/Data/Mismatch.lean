import InferRoute.Number.Decimal
import InferRoute.Text.Quoted

/-!
Why a value does not fit the shape a reader asked for: it has the wrong kind, a value outside
the range, the wrong number of items, an unknown variant name, or a member missing or given
twice. The wording follows one pattern, "invalid type: {found}, expected {wanted}"; how a found
value is described (a float's digits, the word for null) is a `Describe` record, as JSON and
TOML readers describe them differently.
-/

namespace InferRoute

/-- The value a reader found where it wanted something else. -/
inductive Unexpected where
  | bool (b : Bool)
  | unsigned (n : Nat)
  | signed (n : Int)
  | float (x : BinaryFloat)
  | str (s : String)
  | unit
  | seq
  | map
deriving Repr, Inhabited

/-- How found values are described: the layout of a float's digits and the word for a unit. -/
structure Describe where
  floatLayout : FloatLayout
  unitWord : String

namespace Describe

/-- JSON readers: floats as in JSON text (`1e300`), a unit as `null`. -/
def json : Describe := ⟨FloatLayout.compact, "null"⟩

/-- Other readers: floats positionally with `.0` for integers, a unit as `unit value`. -/
def plain : Describe := ⟨FloatLayout.positional, "unit value"⟩

end Describe

namespace Unexpected

/-- A found value in words. -/
def describe (d : Describe) : Unexpected → String
  | .bool b => "boolean `" ++ (if b then "true" else "false") ++ "`"
  | .unsigned n => "integer `" ++ toString n ++ "`"
  | .signed n => "integer `" ++ toString n ++ "`"
  | .float x => "floating point `" ++ d.floatLayout.format FloatFormat.binary64 x ++ "`"
  | .str s => "string " ++ Quoted.quote s
  | .unit => d.unitWord
  | .seq => "sequence"
  | .map => "map"

end Unexpected

/-- A value that does not fit the wanted shape. `wanted` is the shape in words (`a boolean`,
`u64`, `struct MeshStatus`). -/
inductive Mismatch where
  | invalidType (found : Unexpected) (wanted : String)
  | invalidValue (found : Unexpected) (wanted : String)
  | invalidLength (length : Nat) (wanted : String)
  | unknownVariant (name : String) (variants : List String)
  | missingField (name : String)
  | duplicateField (name : String)
  | noVariantMatched (enumName : String)
deriving Repr, Inhabited

namespace Mismatch

/-- Names in backquotes: "`a`", "`a` or `b`", "one of `a`, `b`, `c`". -/
def oneOf (names : List String) : String :=
  let ticked := names.map fun n => "`" ++ n ++ "`"
  match ticked with
  | [a] => a
  | [a, b] => a ++ " or " ++ b
  | _ => "one of " ++ ", ".intercalate ticked

/-- The message of a mismatch. -/
def message (d : Describe) : Mismatch → String
  | .invalidType found wanted => "invalid type: " ++ found.describe d ++ ", expected " ++ wanted
  | .invalidValue found wanted => "invalid value: " ++ found.describe d ++ ", expected " ++ wanted
  | .invalidLength n wanted => "invalid length " ++ toString n ++ ", expected " ++ wanted
  | .unknownVariant name [] => "unknown variant `" ++ name ++ "`, there are no variants"
  | .unknownVariant name variants => "unknown variant `" ++ name ++ "`, expected " ++ oneOf variants
  | .missingField name => "missing field `" ++ name ++ "`"
  | .duplicateField name => "duplicate field `" ++ name ++ "`"
  | .noVariantMatched enumName => "data did not match any variant of untagged enum " ++ enumName

end Mismatch

end InferRoute
