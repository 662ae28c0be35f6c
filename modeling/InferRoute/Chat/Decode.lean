import InferRoute.Chat.Message
import InferRoute.Json.Decode

/-!
Reading messages and turns from JSON values.

A role is its name, or an object with the name as its single key and `null` as its value. A
record (message or turn) is an object, read in key order, or an array `[role, content]`. A
turn's content is a string, or an array of parts; anything else matches neither. A part is an
object tagged by `type` or an array whose first item is the tag: `text` (or `0`) needs a string
`text`, `image` (or `1`) takes an optional `source`, and any other name or number is a part of
another kind. One part that cannot be read makes the whole content unreadable.
-/

namespace InferRoute

namespace Role

/-- The names of the roles, as messages list them. -/
def names : List String := all.map name

/-- The role of a name, or an unknown variant. -/
def ofNameE (s : String) : Except Mismatch Role :=
  match ofName? s with
  | some r => .ok r
  | none => .error (.unknownVariant s names)

/-- A role from JSON: its name, or an object with one key, the name, whose value is `null`. -/
def decode : Json → Except Mismatch Role
  | .string s => ofNameE s
  | .object [(k, v)] => do
    let r ← ofNameE k
    match v with
    | .null => pure r
    | other => .error (.invalidType other.unexpected "unit")
  | .object _ => .error (.invalidValue .map "map with a single key")
  | j => .error (.invalidType j.unexpected "string or map")

end Role

/-- A string from JSON. -/
def decodeString : Json → Except Mismatch String
  | .string s => .ok s
  | j => .error (.invalidType j.unexpected "a string")

/-- A record with members `first` and `second`, from an object in key order or from a
two-item array. -/
def decodePair {α β : Type} (name first second : String) (decA : Json → Except Mismatch α)
    (decB : Json → Except Mismatch β) : Json → Except Mismatch (α × β)
  | .object fields => do
    let step := fun (acc : Option α × Option β) (kv : String × Json) => do
      if kv.1 = first then return (some (← decA kv.2), acc.2)
      else if kv.1 = second then return (acc.1, some (← decB kv.2))
      else return acc
    let (a, b) ← fields.foldlM step (none, none)
    match a, b with
    | none, _ => .error (.missingField first)
    | _, none => .error (.missingField second)
    | some a, some b => .ok (a, b)
  | .array items => do
    let wanted := "struct " ++ name ++ " with 2 elements"
    let a ← match items with
      | x :: _ => decA x
      | [] => .error (.invalidLength 0 wanted)
    let b ← match items with
      | _ :: y :: _ => decB y
      | _ => .error (.invalidLength 1 wanted)
    if items.length > 2 then .error (.invalidLength items.length "fewer elements in array")
    else .ok (a, b)
  | j => .error (.invalidType j.unexpected ("struct " ++ name))

namespace Message

/-- A message from JSON. -/
def decode (j : Json) : Except Mismatch Message := do
  let (r, c) ← decodePair "Message" "role" "content" Role.decode decodeString j
  return ⟨r, c⟩

end Message

namespace ContentPart

/-- The kind a part's tag names. -/
inductive Tag where
  | text
  | image
  | other

/-- A tag: a name (an unknown one names another kind) or a variant number. -/
def tagOf? : Json → Option Tag
  | .string "text" => some .text
  | .string "image" => some .image
  | .string _ => some .other
  | .number (.nat 0) => some .text
  | .number (.nat 1) => some .image
  | .number (.nat _) => some .other
  | _ => none

/-- An optional string: `null` is none. -/
def optStringOf? : Json → Option (Option String)
  | .null => some none
  | .string s => some (some s)
  | _ => none

/-- An optional member of an object that must be an optional string. -/
def optMember? (fields : List (String × Json)) (k : String) : Option (Option String) :=
  match fields.lookup k with
  | none => some none
  | some v => optStringOf? v

/-- An image source: an object, or an array of at most three items, by position. -/
def sourceOf? : Json → Option ImageSource
  | .object fields => do
    return ⟨← optMember? fields "type", ← optMember? fields "media_type", ← optMember? fields "data"⟩
  | .array items =>
    if items.length > 3 then none
    else do
      let at? (i : Nat) : Option (Option String) :=
        match items[i]? with
        | some v => optStringOf? v
        | none => some none
      return ⟨← at? 0, ← at? 1, ← at? 2⟩
  | _ => none

/-- An image's optional source: absent or `null` is none. -/
def imageOf? : Option Json → Option ContentPart
  | none => some (.image none)
  | some .null => some (.image none)
  | some src => (sourceOf? src).map fun s => .image (some s)

/-- A part from JSON, or nothing when it cannot be read. -/
def decode? : Json → Option ContentPart
  | .object fields => do
    match ← tagOf? (← fields.lookup "type") with
    | .text =>
      match fields.lookup "text" with
      | some (.string s) => some (.text s)
      | _ => none
    | .image => imageOf? (fields.lookup "source")
    | .other => some .other
  | .array (t :: rest) => do
    match ← tagOf? t with
    | .text =>
      match rest with
      | [.string s] => some (.text s)
      | _ => none
    | .image =>
      match rest with
      | [] => imageOf? none
      | [src] => imageOf? (some src)
      | _ => none
    | .other => if rest.isEmpty then some .other else none
  | _ => none

end ContentPart

namespace MessageContent

/-- A content from JSON: a string, or an array of readable parts. -/
def decode : Json → Except Mismatch MessageContent
  | .string s => .ok (.text s)
  | .array items =>
    match items.mapM ContentPart.decode? with
    | some ps => .ok (.parts ps)
    | none => .error (.noVariantMatched "MessageContent")
  | _ => .error (.noVariantMatched "MessageContent")

end MessageContent

namespace Turn

/-- A turn from JSON. -/
def decode (j : Json) : Except Mismatch Turn := do
  let (r, c) ← decodePair "ConversationTurn" "role" "content" Role.decode MessageContent.decode j
  return ⟨r, c⟩

end Turn

end InferRoute
