import InferRoute.Json.Lexeme
import InferRoute.Json.Schema

/-!
Reading JSON text, as a value of any shape or against a `Schema`, with every error at the place
where reading stopped.

The order of work decides which of two faults is reported: a container's items are read in
order, and after an error inside a container its end is still looked for, so that the place of
an error without one (a mismatch) is where that search stopped. Containers nest at most 127
deep. Members that a record does not name are skipped without building them: skipping checks
the syntax but neither the size of numbers nor the nesting depth.
-/

namespace InferRoute.JsonReader

variable {α : Type}

/-- A number as a found value. -/
def numberFound : JsonNumber → Unexpected
  | .nat n => .unsigned n
  | .neg n => .signed (-(n : Int))
  | .float x => .float x

/-- Fails because the value ahead is not of the wanted shape; scalars are read first, so the
error stands after them. -/
def refuse (wanted : String) : JsonReader α := placed do
  match ← peek with
  | none => failAhead .expectedValue
  | some b =>
    if b = 110 then do bump; word ull; mismatch (.invalidType .unit wanted)
    else if b = 116 then do bump; word rue; mismatch (.invalidType (.bool true) wanted)
    else if b = 102 then do bump; word alse; mismatch (.invalidType (.bool false) wanted)
    else if b = 45 then do bump; let n ← number false; mismatch (.invalidType (numberFound n) wanted)
    else if isDigit b then do let n ← number true; mismatch (.invalidType (numberFound n) wanted)
    else if b = 34 then do bump; let s ← string; mismatch (.invalidType (.str s) wanted)
    else if b = 91 then mismatch (.invalidType .seq wanted)
    else if b = 123 then mismatch (.invalidType .map wanted)
    else failAhead .expectedValue

/-- A number read for an unsigned integer shape. -/
def naturalOf (s : Schema) : JsonNumber → JsonReader Json
  | .nat k =>
    if k ≤ s.maxNat then pure (.number (.nat k)) else mismatch (.invalidValue (.unsigned k) s.wanted)
  | .neg k => mismatch (.invalidValue (.signed (-(k : Int))) s.wanted)
  | .float x => mismatch (.invalidType (.float x) s.wanted)

/-- Whether another item follows in a list; `first` when none has been read. -/
def nextItem (first : Bool) : JsonReader Bool := do
  match ← peekAfterBlanks with
  | none => failAhead .eofInList
  | some b =>
    if b = 93 then pure false
    else if first then pure true
    else if b = 44 then do
      bump
      match ← peekAfterBlanks with
      | some 93 => failAhead .trailingComma
      | some _ => pure true
      | none => failAhead .eofInValue
    else failAhead .expectedListCommaOrEnd

/-- Whether another member follows in an object; `first` when none has been read. -/
def nextMember (first : Bool) : JsonReader Bool := do
  match ← peekAfterBlanks with
  | none => failAhead .eofInObject
  | some b =>
    if b = 125 then pure false
    else if first then (if b = 34 then pure true else failAhead .keyMustBeString)
    else if b = 44 then do
      bump
      match ← peekAfterBlanks with
      | some 34 => pure true
      | some 125 => failAhead .trailingComma
      | some _ => failAhead .keyMustBeString
      | none => failAhead .eofInValue
    else failAhead .expectedObjectCommaOrEnd

/-- A member's key, from its opening quote. -/
def key : JsonReader String := do
  bump
  string

/-- The colon after a key. -/
def colon : JsonReader Unit := do
  match ← peekAfterBlanks with
  | some 58 => bump
  | some _ => failAhead .expectedColon
  | none => failAhead .eofInObject

/-- The end of a list whose items were read. -/
def endList : JsonReader Unit := do
  match ← peekAfterBlanks with
  | some 93 => bump
  | some 44 => do
    bump
    match ← peekAfterBlanks with
    | some 93 => failAhead .trailingComma
    | _ => failAhead .trailingCharacters
  | some _ => failAhead .trailingCharacters
  | none => failAhead .eofInList

/-- The end of an object whose members were read. -/
def endObject : JsonReader Unit := do
  match ← peekAfterBlanks with
  | some 125 => bump
  | some 44 => failAhead .trailingComma
  | some _ => failAhead .trailingCharacters
  | none => failAhead .eofInObject

/-- Enters a container at its opening bracket: one level of the remaining depth is used, and
none may be left at zero. -/
def enter (depth : Nat) : JsonReader Nat := do
  if depth ≤ 1 then failAhead .recursionLimit
  else
    bump
    pure (depth - 1)

/-- The containers that a skip is inside, innermost first. -/
inductive Frame where
  | list
  | object
deriving DecidableEq, Repr

mutual

/-- Skips a value inside the frames of `stack`, and then the rest of those frames. -/
def skipValue : Nat → List Frame → JsonReader Unit
  | 0, _ => failHere .recursionLimit
  | fuel + 1, stack => do
    match ← peekAfterBlanks with
    | none => failAhead .eofInValue
    | some b =>
      if b = 91 then do bump; skipInside fuel false .list stack
      else if b = 123 then do bump; skipInside fuel false .object stack
      else do
        if b = 110 then do bump; word ull
        else if b = 116 then do bump; word rue
        else if b = 102 then do bump; word alse
        else if b = 45 then do bump; skipNumber
        else if isDigit b then skipNumber
        else if b = 34 then do bump; skipString
        else failAhead .expectedValue
        match stack with
        | [] => pure ()
        | frame :: outer => skipInside fuel true frame outer

/-- Inside `frame`, after an item when `afterItem`, or after the opening bracket. -/
def skipInside : Nat → Bool → Frame → List Frame → JsonReader Unit
  | 0, _, _, _ => failHere .recursionLimit
  | fuel + 1, afterItem, frame, outer => do
    match ← peekAfterBlanks with
    | none => failAhead (if frame = .list then .eofInList else .eofInObject)
    | some b =>
      if b = 44 ∧ afterItem then do bump; skipMember fuel frame outer
      else if (b = 93 ∧ frame = .list) ∨ (b = 125 ∧ frame = .object) then do
        bump
        match outer with
        | [] => pure ()
        | up :: rest => skipInside fuel true up rest
      else if afterItem then
        failAhead (if frame = .list then .expectedListCommaOrEnd else .expectedObjectCommaOrEnd)
      else skipMember fuel frame outer

/-- Skips one item of a list, or one member of an object with its key and colon. -/
def skipMember : Nat → Frame → List Frame → JsonReader Unit
  | 0, _, _ => failHere .recursionLimit
  | fuel + 1, frame, outer => do
    if frame = .object then
      match ← peekAfterBlanks with
      | some 34 => do bump; skipString
      | some _ => failAhead .keyMustBeString
      | none => failAhead .eofInObject
      match ← peekAfterBlanks with
      | some 58 => bump
      | some _ => failAhead .expectedColon
      | none => failAhead .eofInObject
    skipValue fuel (frame :: outer)

end

mutual

/-- A value of any shape; `depth` is the nesting still allowed. -/
def anyValue : Nat → Nat → JsonReader Json
  | 0, _ => failHere .recursionLimit
  | fuel + 1, depth => placed do
    match ← peekAfterBlanks with
    | none => failAhead .eofInValue
    | some b =>
      if b = 110 then do bump; word ull; pure .null
      else if b = 116 then do bump; word rue; pure (.bool true)
      else if b = 102 then do bump; word alse; pure (.bool false)
      else if b = 45 then do bump; return .number (← number false)
      else if isDigit b then return .number (← number true)
      else if b = 34 then do bump; return .string (← string)
      else if b = 91 then do
        let inner ← enter depth
        thenFinish (anyItems fuel inner true []) endList
      else if b = 123 then do
        let inner ← enter depth
        thenFinish (anyMembers fuel inner true []) endObject
      else failAhead .expectedValue

/-- The items of a list of any values, onto `acc` in reverse. -/
def anyItems : Nat → Nat → Bool → List Json → JsonReader Json
  | 0, _, _, _ => failHere .recursionLimit
  | fuel + 1, depth, first, acc => do
    if ← nextItem first then
      let v ← anyValue fuel depth
      anyItems fuel depth false (v :: acc)
    else pure (.array acc.reverse)

/-- The members of an object of any values; a repeated key keeps its last value. -/
def anyMembers : Nat → Nat → Bool → List (String × Json) → JsonReader Json
  | 0, _, _, _ => failHere .recursionLimit
  | fuel + 1, depth, first, acc => do
    if ← nextMember first then
      let k ← key
      colon
      let v ← anyValue fuel depth
      anyMembers fuel depth false (Json.setField k v acc)
    else pure (.object acc)

end

/-- A record's members from what was read, `null` for those not read. -/
def fillRecord (members : List (String × Schema)) (read : List (String × Json)) : Json :=
  Json.ofFields (members.map fun (name, _) => (name, (read.lookup name).getD .null))

mutual

/-- A value of shape `s`; `depth` is the nesting still allowed. -/
def typed : Nat → Nat → Schema → JsonReader Json
  | 0, _, _ => failHere .recursionLimit
  | fuel + 1, depth, s =>
    match s with
    | .value => anyValue fuel depth
    | .option inner => do
      match ← peekAfterBlanks with
      | some 110 => do bump; word ull; pure .null
      | _ => typed fuel depth inner
    | .bool => placed do
      match ← peekAfterBlanks with
      | none => failAhead .eofInValue
      | some 116 => do bump; word rue; pure (.bool true)
      | some 102 => do bump; word alse; pure (.bool false)
      | some _ => refuse s.wanted
    | .u64 | .u32 => placed do
      match ← peekAfterBlanks with
      | none => failAhead .eofInValue
      | some b =>
        if b = 45 then do bump; naturalOf s (← number false)
        else if isDigit b then do naturalOf s (← number true)
        else refuse s.wanted
    | .string => placed do
      match ← peekAfterBlanks with
      | none => failAhead .eofInValue
      | some 34 => do bump; return .string (← string)
      | some _ => refuse s.wanted
    | .seq item => placed do
      match ← peekAfterBlanks with
      | none => failAhead .eofInValue
      | some 91 => do
        let inner ← enter depth
        thenFinish (typedItems fuel inner item true []) endList
      | some _ => refuse s.wanted
    | .record _ members => placed do
      match ← peekAfterBlanks with
      | none => failAhead .eofInValue
      | some 91 => do
        let inner ← enter depth
        return fillRecord members (← thenFinish (recordItems fuel inner members true []) endList)
      | some 123 => do
        let inner ← enter depth
        return fillRecord members (← thenFinish (recordMembers fuel inner members true []) endObject)
      | some _ => refuse s.wanted

/-- The items of a list of shape `item`, onto `acc` in reverse. -/
def typedItems : Nat → Nat → Schema → Bool → List Json → JsonReader Json
  | 0, _, _, _, _ => failHere .recursionLimit
  | fuel + 1, depth, item, first, acc => do
    if ← nextItem first then
      let v ← typed fuel depth item
      typedItems fuel depth item false (v :: acc)
    else pure (.array acc.reverse)

/-- A record written as a list: its members in order, `null` once the list has ended. -/
def recordItems : Nat → Nat → List (String × Schema) → Bool → List (String × Json) →
    JsonReader (List (String × Json))
  | 0, _, _, _, _ => failHere .recursionLimit
  | _, _, [], _, acc => pure acc
  | fuel + 1, depth, (name, s) :: rest, first, acc => do
    if ← nextItem first then
      let v ← typed fuel depth s
      recordItems fuel depth rest false (acc ++ [(name, v)])
    else recordItems fuel depth rest first (acc ++ [(name, .null)])

/-- A record written as an object: members it names are read once each, others skipped. -/
def recordMembers : Nat → Nat → List (String × Schema) → Bool → List (String × Json) →
    JsonReader (List (String × Json))
  | 0, _, _, _, _ => failHere .recursionLimit
  | fuel + 1, depth, members, first, seen => do
    if ← nextMember first then
      let k ← key
      match members.lookup k with
      | some s =>
        if (seen.lookup k).isSome then mismatch (.duplicateField k)
        else
          colon
          let v ← typed fuel depth s
          recordMembers fuel depth members false (seen ++ [(k, v)])
      | none =>
        colon
        skipValue fuel []
        recordMembers fuel depth members false seen
    else pure seen

end

/-- The end of a text: only blanks may follow the value. -/
def endOfText : JsonReader Unit := do
  match ← peekAfterBlanks with
  | some _ => failAhead .trailingCharacters
  | none => pure ()

/-- Enough steps for any reading of `bytes`: every step reads a byte or a level of shape. -/
def fuelFor (bytes : List UInt8) : Nat := 4 * bytes.length + 64

/-- Nesting allowed at the top of a text. -/
def maxDepth : Nat := 128

end InferRoute.JsonReader

namespace InferRoute.Json

/-- Reads a whole JSON text as a value of any shape. -/
def parseBytes (bytes : List UInt8) : Except JsonError Json :=
  (JsonReader.run (do
    let v ← JsonReader.anyValue (JsonReader.fuelFor bytes) JsonReader.maxDepth
    JsonReader.endOfText
    pure v) bytes).1

/-- Reads a whole JSON text as a value of any shape. -/
def parse (text : String) : Except JsonError Json := parseBytes (Utf8.encode text)

end InferRoute.Json

namespace InferRoute.Schema

/-- Reads a whole JSON text against the shape. -/
def readBytes (s : Schema) (bytes : List UInt8) : Except JsonError Json :=
  (JsonReader.run (do
    let v ← JsonReader.typed (JsonReader.fuelFor bytes) JsonReader.maxDepth s
    JsonReader.endOfText
    pure v) bytes).1

/-- Reads a whole JSON text against the shape. -/
def read (s : Schema) (text : String) : Except JsonError Json := s.readBytes (Utf8.encode text)

end InferRoute.Schema
