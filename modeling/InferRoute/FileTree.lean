/-!
Files as the program sees them: reading a file gives its bytes or one of a few faults, each
with the text and number the operating system gives it. `FileTree` is a directory tree held in
memory, in which every path names a file, a directory, or nothing.
-/

namespace InferRoute

/-- Why a file could not be read. -/
inductive FileFault where
  | missing
  | directory
  | notDirectory
  | notUtf8
  | other (text : String)
deriving Repr, DecidableEq

/-- The text of each fault, with its system error number. -/
def FileFault.message : FileFault → String
  | .missing => "No such file or directory (os error 2)"
  | .directory => "Is a directory (os error 21)"
  | .notDirectory => "Not a directory (os error 20)"
  | .notUtf8 => "stream did not contain valid UTF-8"
  | .other text => text

/-- What reading settings needs from the world: whether a path names a file, and the bytes of
a file. -/
class FileSource (m : Type → Type) where
  isFile : String → m Bool
  readFile : String → m (Except FileFault ByteArray)

/-- A directory tree in memory: each entry is an absolute path with the bytes of a file, or
`none` for a directory. Every ancestor of an entry is a directory, and so is the root. -/
structure FileTree where
  entries : List (String × Option ByteArray)
deriving Inhabited

namespace FileTree

/-- The components of a path, empty components and `.` dropped. -/
def components (path : String) : List String :=
  (path.splitOn "/").filter fun c => c ≠ "" && c ≠ "."

/-- What a path names: a file with its bytes, a directory, or nothing. -/
def find? (t : FileTree) (comps : List String) : Option (Option ByteArray) :=
  match t.entries.find? (fun (p, _) => components p == comps) with
  | some (_, e) => some e
  | none =>
    if comps.isEmpty || t.entries.any (fun (p, _) => comps.isPrefixOf (components p)) then
      some none
    else none

/-- Whether a path names a file. -/
def isFile (t : FileTree) (path : String) : Bool :=
  match t.find? (components path) with
  | some (some _) => true
  | _ => false

/-- The bytes of a file: a file on the way is not a directory, a directory is not a file, and
a path that names nothing is missing. -/
def read (t : FileTree) (path : String) : Except FileFault ByteArray :=
  let comps := components path
  let through := (List.range comps.length).any fun n =>
    n > 0 && match t.find? (comps.take n) with
      | some (some _) => true
      | _ => false
  if through then .error .notDirectory
  else match t.find? comps with
    | some (some bytes) => .ok bytes
    | some none => .error .directory
    | none => .error .missing

end FileTree

/-- A tree in memory answers what it holds. -/
instance : FileSource (ReaderM FileTree) where
  isFile path := do return (← read).isFile path
  readFile path := do return (← read).read path

end InferRoute
