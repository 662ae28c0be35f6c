import InferRoute.Json.Schema
import InferRoute.Data.Mismatch

/-!
Reading a JSON value that is already in memory against a `Schema`. There is no text, so errors
have no place. An object's members are read in key order; a record may also be given as an
array, its members by position, and then no more items than members.
-/

namespace InferRoute

namespace Json

/-- A value as a found value in messages. -/
def unexpected : Json → Unexpected
  | .null => .unit
  | .bool b => .bool b
  | .number (.nat n) => .unsigned n
  | .number (.neg n) => .signed (-(n : Int))
  | .number (.float x) => .float x
  | .string s => .str s
  | .array _ => .seq
  | .object _ => .map

end Json

namespace Schema

/-- The shape under any `option` wrappers, and whether there was one. -/
def core : Schema → Bool × Schema
  | .option inner => (true, (core inner).2)
  | s => (false, s)

/-- A number for an unsigned integer shape. -/
def naturalOf (s : Schema) : JsonNumber → Except Mismatch Json
  | .nat k => if k ≤ s.maxNat then .ok (.number (.nat k)) else .error (.invalidValue (.unsigned k) s.wanted)
  | .neg k => .error (.invalidValue (.signed (-(k : Int))) s.wanted)
  | .float x => .error (.invalidType (.float x) s.wanted)

mutual

/-- A value against a shape. -/
def decode (s : Schema) (j : Json) : Except Mismatch Json :=
  let (optional, c) := s.core
  if optional ∧ j matches .null then .ok .null else decodeCore c j

/-- A value against a shape that is not `option`. -/
def decodeCore (s : Schema) : Json → Except Mismatch Json
  | .array items =>
    match s with
    | .value => .ok (.array items)
    | .seq item => return .array (← decodeItems item items)
    | .record _ members => do
      let read ← decodePositional members items
      if items.length > members.length then
        .error (.invalidLength items.length "fewer elements in array")
      else .ok (Json.ofFields read)
    | _ => .error (.invalidType .seq s.wanted)
  | .object fields =>
    match s with
    | .value => .ok (.object fields)
    | .record _ members => return Json.ofFields (← decodeMembers members fields)
    | _ => .error (.invalidType .map s.wanted)
  | j =>
    match s, j with
    | .value, _ => .ok j
    | .bool, .bool b => .ok (.bool b)
    | .u64, .number n => naturalOf .u64 n
    | .u32, .number n => naturalOf .u32 n
    | .string, .string t => .ok (.string t)
    | _, _ => .error (.invalidType j.unexpected s.wanted)

/-- The items of an array against one shape. -/
def decodeItems (s : Schema) : List Json → Except Mismatch (List Json)
  | [] => .ok []
  | j :: rest => return (← decode s j) :: (← decodeItems s rest)

/-- A record's members from array items by position; `null` for missing items. -/
def decodePositional : List (String × Schema) → List Json → Except Mismatch (List (String × Json))
  | [], _ => .ok []
  | (name, _) :: ms, [] => return (name, .null) :: (← decodePositional ms [])
  | (name, s) :: ms, j :: rest => return (name, ← decode s j) :: (← decodePositional ms rest)

/-- A record's members from an object, in key order; members it does not name are skipped and
missing ones are `null`. -/
def decodeMembers (members : List (String × Schema)) :
    List (String × Json) → Except Mismatch (List (String × Json))
  | [] => .ok (members.map fun (name, _) => (name, .null))
  | (k, v) :: rest => do
    match members.lookup k with
    | some s =>
      let dv ← decode s v
      let others ← decodeMembers members rest
      return (others.filter (·.1 != k)) ++ [(k, dv)]
    | none => decodeMembers members rest

end

end Schema

end InferRoute
