import InferRoute.Config.Basic
import InferRoute.Data.Mismatch
import InferRoute.FileTree
import InferRoute.Log
import InferRoute.Toml.Document

/-!
Settings from a TOML file. The file's root table may set any of the six settings under their
camel-case names; other keys and tables are ignored, and a setting not given keeps its
standard value. A value of the wrong kind is reported at its text. The settings file lives at
`tarx/config.toml` in the user's configuration directory, which is `$XDG_CONFIG_HOME` when that
is an absolute path and `$HOME/.config` otherwise.
-/

namespace InferRoute

namespace ClientConfig

/-- A TOML node as a found value in messages: tables and date-times are maps, arrays are
sequences. -/
def foundOf : TomlNode → Unexpected
  | .value v _ _ =>
    match v with
    | .string s => .str s
    | .integer n => .signed n
    | .float x => .float x
    | .boolean b => .bool b
    | .datetime _ => .map
    | .array _ => .seq
    | .table .. => .map
  | .table .. => .map
  | .tables .. => .seq

/-- The span of a node's text, if it has one. -/
def spanOf : TomlNode → Option (Nat × Nat)
  | .value _ s e => some (s, e)
  | .table _ _ _ span => span
  | .tables _ span => span

/-- A string setting. -/
def textSetting : TomlNode → Except Mismatch String
  | .value (.string s) _ _ => pure s
  | n => throw (.invalidType (foundOf n) "a string")

/-- A yes-or-no setting. -/
def flagSetting : TomlNode → Except Mismatch Bool
  | .value (.boolean b) _ _ => pure b
  | n => throw (.invalidType (foundOf n) "a boolean")

/-- An unsigned 64-bit setting: a negative integer is a value out of range. -/
def countSetting : TomlNode → Except Mismatch Nat
  | .value (.integer i) _ _ =>
    if i < 0 then throw (.invalidValue (.signed i) "u64") else pure i.toNat
  | n => throw (.invalidType (foundOf n) "u64")

/-- The settings after one entry of the root table. -/
def applyEntry (c : ClientConfig) (key : String) (n : TomlNode) :
    Except TomlError ClientConfig :=
  let placed := fun {α : Type} (r : Except Mismatch α) (k : α → ClientConfig) =>
    match r with
    | .ok v => Except.ok (k v)
    | .error m => Except.error (TomlError.mk (m.message Describe.plain) (spanOf n))
  match key with
  | "localServerUrl" => placed (textSetting n) fun v => { c with localServerUrl := v }
  | "meshApiUrl" => placed (textSetting n) fun v => { c with meshApiUrl := v }
  | "enableMeshRouting" => placed (flagSetting n) fun v => { c with enableMeshRouting := v }
  | "enableCloudFallback" => placed (flagSetting n) fun v => { c with enableCloudFallback := v }
  | "model" => placed (textSetting n) fun v => { c with model := v }
  | "requestTimeoutMs" => placed (countSetting n) fun v => { c with requestTimeoutMs := v }
  | _ => pure c

/-- The settings a TOML text gives, entries taken in the order of the root table. -/
def ofTomlText (text : String) : Except TomlError ClientConfig := do
  match ← Toml.parse text with
  | .table entries _ _ _ => entries.foldlM (fun c (k, n) => applyEntry c k n) standard
  | _ => pure standard

/-- The settings of a TOML text, a failure being a configuration error that shows the text. -/
def ofToml (text : String) : Except InferError ClientConfig :=
  match ofTomlText text with
  | .ok c => .ok c
  | .error e => .error (.config ("invalid config file: " ++ e.render text))

/-- The settings of a file, given what reading it gave. -/
def ofFile (contents : Except FileFault ByteArray) : Except InferError ClientConfig :=
  match contents with
  | .error f => .error (.io f.message)
  | .ok bytes =>
    match String.fromUTF8? bytes with
    | none => .error (.io FileFault.notUtf8.message)
    | some text => ofToml text

/-- A path with a component appended, a slash between them unless the path ends in one. -/
def joinPath (dir name : String) : String :=
  if dir.endsWith "/" then dir ++ name else dir ++ "/" ++ name

/-- The user's configuration directory: an absolute `XDG_CONFIG_HOME`, else `.config` in a
nonempty `HOME`. -/
def configDir (env : String → Option String) : Option String :=
  match env "XDG_CONFIG_HOME" with
  | some x => if x.startsWith "/" then some x else home
  | none => home
where
  home := match env "HOME" with
    | some h => if h.isEmpty then none else some (joinPath h ".config")
    | none => none

/-- Where the settings file is looked for. -/
def defaultPath (env : String → Option String) : Option String :=
  (configDir env).map fun dir => joinPath (joinPath dir "tarx") "config.toml"

/-- The note that settings were read from the file at `path`. -/
def loadedNote (path : String) : LogRecord :=
  ⟨.debug, LogTarget.config, "Loaded client config: path=" ++ path⟩

/-- The settings of the file at `path`, and the note that they were read. -/
def load {m : Type → Type} [Monad m] [FileSource m] (path : String) :
    m (Except InferError ClientConfig × List LogRecord) := do
  match ofFile (← FileSource.readFile path) with
  | .ok c => return (.ok c, [loadedNote path])
  | .error e => return (.error e, [])

/-- The settings of the file at the default path when a file is there, else the standard
settings. -/
def loadDefault {m : Type → Type} [Monad m] [FileSource m] (env : String → Option String) :
    m (Except InferError ClientConfig × List LogRecord) := do
  match defaultPath env with
  | some path => if ← FileSource.isFile path then load path else return (.ok standard, [])
  | none => return (.ok standard, [])

end ClientConfig

end InferRoute
