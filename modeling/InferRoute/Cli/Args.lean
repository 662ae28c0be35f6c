import InferRoute.Text.Similarity

/-!
The command line of the `tarx` program: an optional prompt and a fixed set of options, read
the way the usual derive-style argument reader reads them.

Arguments are read from left to right. `--name` and `--name=value` are long options, `-abc` a
cluster of short ones in which an option that takes a value takes the rest of the cluster (an
`=` before it dropped) or else the next argument; after `--` every argument is the prompt. A
value is only checked when the reader moves on past it, so an unknown argument is reported
before a bad value given in the arguments before it, while a missing, repeated or unreadable
value is reported when the next option or the prompt comes, or at the end. `--help` and
`--version` stop the reading where they stand. A missing `--config` is taken from `TARX_CONFIG`.

An unknown long option is answered with the most similar known one when their Jaro similarity is
above 0.7; the usage line of that answer names the arguments used so far.
-/

namespace InferRoute

namespace Cli

/-- The program's name. -/
def programName : String := "tarx"

/-- The program's version. -/
def programVersion : String := "0.1.0"

/-- What the program does, as its help says. -/
def about : String := "Stream a completion from the local TARX server or mesh"

/-- The variable that gives the settings file when `--config` does not. -/
def configVariable : String := "TARX_CONFIG"

/-- The parameters of the command line: the prompt and the options. -/
inductive Param where
  | prompt
  | system
  | config
  | localUrl
  | meshUrl
  | model
  | noMesh
  | attempts
  | status
  | logLevel
  | verbose
  | help
  | version
deriving Repr, DecidableEq, Inhabited

namespace Param

/-- The options, in the order of the help. -/
def options : List Param :=
  [.system, .config, .localUrl, .meshUrl, .model, .noMesh, .attempts, .status, .logLevel,
    .verbose, .help, .version]

/-- The long name of an option (the prompt has none). -/
def long : Param → String
  | .prompt => ""
  | .system => "system"
  | .config => "config"
  | .localUrl => "local-url"
  | .meshUrl => "mesh-url"
  | .model => "model"
  | .noMesh => "no-mesh"
  | .attempts => "attempts"
  | .status => "status"
  | .logLevel => "log-level"
  | .verbose => "verbose"
  | .help => "help"
  | .version => "version"

/-- The short name of an option, if it has one. -/
def short : Param → Option Char
  | .system => some 's'
  | .config => some 'c'
  | .model => some 'm'
  | .verbose => some 'v'
  | .help => some 'h'
  | .version => some 'V'
  | _ => none

/-- The name of the value a parameter takes, if it takes one. -/
def valueName : Param → Option String
  | .prompt => some "PROMPT"
  | .system => some "SYSTEM"
  | .config => some "CONFIG"
  | .localUrl => some "LOCAL_URL"
  | .meshUrl => some "MESH_URL"
  | .model => some "MODEL"
  | .attempts => some "ATTEMPTS"
  | .logLevel => some "LOG_LEVEL"
  | _ => none

/-- What a parameter is for, as the help says. -/
def explanation : Param → String
  | .prompt => "Prompt to send; read from stdin when omitted"
  | .system => "System prompt placed before the conversation"
  | .config => "Config file (TOML); defaults to <config dir>/tarx/config.toml"
  | .localUrl => "Local inference server base URL"
  | .meshUrl => "Mesh API base URL"
  | .model => "Model identifier"
  | .noMesh => "Never route to the mesh"
  | .attempts => "Total attempts for errors raised before any output"
  | .status => "Print connectivity of both backends and exit"
  | .logLevel => "Log level (trace, debug, info, warn, error, off)"
  | .verbose => "Shorthand for debug logging"
  | .help => "Print help"
  | .version => "Print version"

/-- Whether a parameter takes a value. -/
def takesValue (p : Param) : Bool := p.valueName.isSome

/-- How a parameter is named in messages: `--long <VALUE>`, or `[PROMPT]`. -/
def display (p : Param) : String :=
  match p with
  | .prompt => "[PROMPT]"
  | _ => "--" ++ p.long ++ (match p.valueName with
    | some v => " <" ++ v ++ ">"
    | none => "")

/-- How a parameter that was given stands in a usage line. -/
def usageForm (p : Param) : String :=
  match p with
  | .prompt => "<PROMPT>"
  | _ => p.display

/-- The option with a long name. -/
def ofLong (name : String) : Option Param := options.find? (·.long == name)

/-- The option with a short name. -/
def ofShort (c : Char) : Option Param := options.find? (·.short == some c)

end Param

/-- The largest unsigned 32-bit number. -/
def u32Max : Nat := Nat.pow 2 32 - 1

/-- The bounds of a signed 64-bit number. -/
def i64Max : Nat := Nat.pow 2 63 - 1

/-- Reads decimal digits after the sign, stopping at the first fault: a character that is not a
digit, or a magnitude beyond the bound of the sign. -/
def readDigits (negative : Bool) : List Char → Nat → Except String Nat
  | [], acc => .ok acc
  | c :: rest, acc =>
    if c.isDigit then
      let acc := acc * 10 + (c.toNat - 48)
      if negative && acc > i64Max + 1 then .error "number too small to fit in target type"
      else if !negative && acc > i64Max then .error "number too large to fit in target type"
      else readDigits negative rest acc
    else .error "invalid digit found in string"

/-- A signed 64-bit decimal number with an optional sign, or why it cannot be read. -/
def readInt64 (s : String) : Except String Int :=
  match s.toList with
  | [] => .error "cannot parse integer from empty string"
  | ['+'] | ['-'] => .error "invalid digit found in string"
  | '+' :: rest => (readDigits false rest 0).map Int.ofNat
  | '-' :: rest => (readDigits true rest 0).map fun n => -(n : Int)
  | cs => (readDigits false cs 0).map Int.ofNat

/-- An attempt count: a signed 64-bit number from 0 to `u32Max`. -/
def readCount (s : String) : Except String Nat := do
  let v ← readInt64 s
  if 0 ≤ v && v ≤ (u32Max : Int) then pure v.toNat
  else throw (toString v ++ " is not in 0..=" ++ toString u32Max)

/-- Why a value given to a parameter is refused. -/
inductive ValueFault where
  | missing
  | invalid (reason : String)
deriving Repr, DecidableEq

/-- Whether a parameter refuses a value: a settings path must not be empty, and an attempt count
must be a number in range. -/
def Param.refuses (p : Param) (v : String) : Option ValueFault :=
  match p with
  | .config => if v.isEmpty then some .missing else none
  | .attempts =>
    match readCount v with
    | .ok _ => none
    | .error reason => some (.invalid reason)
  | _ => none

/-- Why the command line cannot be read. -/
inductive ArgsError where
  /-- An argument that is no parameter, with a similar option, whether to hint at `--`, and
  the usage line. -/
  | unknown (arg : String) (similar : Option String) (escapeHint : Bool) (usage : String)
  | invalidValue (param value reason : String)
  | missingValue (param : String)
  | repeated (param : String) (usage : String)
  /-- A value attached to an option that takes none. -/
  | surplusValue (value param : String) (usage : String)
deriving Repr, DecidableEq

/-- The usage line of the help. -/
def helpUsage : String := programName ++ " [OPTIONS] [PROMPT]"

/-- The usage line naming the parameters used: the options in the order first given, then the
prompt. -/
def usedUsage (used : List Param) : String :=
  let options := (used.eraseDups.filter (· != .prompt)).map (" " ++ ·.usageForm)
  programName ++ String.join options ++ " " ++
    (if used.contains .prompt then Param.prompt.usageForm else Param.prompt.display)

/-- The pointer to the help that ends every error. -/
def moreInformation : String := "For more information, try '--help'."

namespace ArgsError

/-- The lines of the error's message. -/
def lines : ArgsError → List String
  | .unknown arg similar hint usage =>
    let tips := (match similar with
      | some s => ["", "  tip: a similar argument exists: '" ++ s ++ "'"]
      | none => []) ++
      (if hint then
        (if similar.isSome then [] else [""]) ++
          ["  tip: to pass '" ++ arg ++ "' as a value, use '-- " ++ arg ++ "'"]
      else [])
    ["error: unexpected argument '" ++ arg ++ "' found"] ++ tips ++
      ["", "Usage: " ++ usage, "", moreInformation]
  | .invalidValue param value reason =>
    ["error: invalid value '" ++ value ++ "' for '" ++ param ++ "': " ++ reason, "",
      moreInformation]
  | .missingValue param =>
    ["error: a value is required for '" ++ param ++ "' but none was supplied", "", moreInformation]
  | .repeated param usage =>
    ["error: the argument '" ++ param ++ "' cannot be used multiple times", "",
      "Usage: " ++ usage, "", moreInformation]
  | .surplusValue value param usage =>
    ["error: unexpected value '" ++ value ++ "' for '" ++ param ++ "' found; no more were expected",
      "", "Usage: " ++ usage, "", moreInformation]

end ArgsError

/-- Why reading stopped before the end: help or version was asked for, or an error. -/
inductive ArgsStop where
  | help
  | version
  | failed (error : ArgsError)
deriving Repr, DecidableEq

/-- The reader's state: the parameters given so far with their values (empty for a flag), an
argument whose values are still being gathered, whether the next argument is that option's
value, whether the prompt was given, and whether `--` was seen. -/
structure ReadState where
  given : List (Param × String)
  pending : Option (Param × List String)
  awaiting : Bool
  promptSeen : Bool
  escaped : Bool
deriving Repr, Inhabited

namespace ReadState

/-- The state before any argument. -/
def start : ReadState := ⟨[], none, false, false, false⟩

/-- The parameters given so far, in order. -/
def used (s : ReadState) : List Param := s.given.map (·.1)

/-- Takes a parameter with the values gathered for it: a value-taking parameter given on the
command line needs its value, no parameter may come twice, and the value must be acceptable;
help and version stop the reading. -/
def accept (s : ReadState) (p : Param) (values : List String) (fromLine : Bool) :
    Except ArgsStop ReadState :=
  match p with
  | .help => .error .help
  | .version => .error .version
  | _ =>
    if p.takesValue && fromLine && values.isEmpty then .error (.failed (.missingValue p.display))
    else if s.used.contains p then .error (.failed (.repeated p.display helpUsage))
    else
      let v := values.headD ""
      match (if p.takesValue then p.refuses v else none) with
      | some .missing => .error (.failed (.missingValue p.display))
      | some (.invalid reason) => .error (.failed (.invalidValue p.display v reason))
      | none => .ok { s with given := s.given ++ [(p, v)] }

/-- Takes the argument whose values were being gathered, if any. -/
def resolve (s : ReadState) : Except ArgsStop ReadState :=
  match s.pending with
  | none => .ok s
  | some (p, vs) => accept { s with pending := none, awaiting := false } p vs true

/-- Takes the pending argument as far as it can be taken, before an error is reported: an option
without a value is dropped, a repeated one is forgotten altogether, and one whose value is refused
still counts as given. -/
def resolveQuietly (s : ReadState) : ReadState :=
  match s.pending with
  | none => s
  | some (p, vs) =>
    let s0 := { s with pending := none, awaiting := false }
    match s0.accept p vs true with
    | .ok s' => s'
    | .error (.failed (.missingValue _)) =>
      if vs.isEmpty then s0 else { s0 with given := s0.given ++ [(p, vs.headD "")] }
    | .error (.failed (.repeated _ _)) => { s0 with given := s0.given.filter (·.1 != p) }
    | .error _ => { s0 with given := s0.given ++ [(p, vs.headD "")] }

/-- Takes a parameter given now, after the pending one. -/
def react (s : ReadState) (p : Param) (values : List String) : Except ArgsStop ReadState := do
  let s ← s.resolve
  s.accept p values true

/-- Starts gathering the value of an option. -/
def await (s : ReadState) (p : Param) : Except ArgsStop ReadState := do
  let s ← s.resolve
  pure { s with pending := some (p, []), awaiting := true }

/-- The most similar long option to `name`, if one is similar enough: the highest Jaro
similarity above 0.7, the later option winning a tie. -/
def similarOption (name : String) : Option Param :=
  let threshold := FloatFormat.binary64.ofDecimal false 7 (-1)
  let best := Param.options.foldl (fun (best : Option (Param × BinaryFloat)) p =>
    let score := Similarity.jaro name p.long
    if threshold.lt score then
      match best with
      | some (_, top) => if score.lt top then best else some (p, score)
      | none => some (p, score)
    else best) none
  best.map (·.1)

/-- Stops at an unknown long option. -/
def unknownLong (s : ReadState) (name : String) : Except ArgsStop ReadState :=
  let s := s.resolveQuietly
  let similar := similarOption name
  let used := match similar with
    | some p => if s.used.contains p then s.used else s.used ++ [p]
    | none => s.used
  let usage := if used.isEmpty then helpUsage else usedUsage used
  .error (.failed (.unknown ("--" ++ name) (similar.map ("--" ++ ·.long)) similar.isNone usage))

/-- Stops at an unknown short option. -/
def unknownShort (c : Char) : Except ArgsStop ReadState :=
  let arg := "-" ++ String.singleton c
  .error (.failed (.unknown arg none true helpUsage))

/-- Takes the prompt, or stops at an argument that has no place. -/
def positional (s : ReadState) (v : String) : Except ArgsStop ReadState :=
  if s.promptSeen then .error (.failed (.unknown v none false helpUsage))
  else do
    let s ← s.resolve
    pure { s with pending := some (.prompt, [v]), promptSeen := true, awaiting := false }

/-- A long option, `--name` or `--name=value`, given the text after the dashes. -/
def longOption (s : ReadState) (body : String) : Except ArgsStop ReadState :=
  let (name, attached) := match body.splitOn "=" with
    | name :: rest@(_ :: _) => (name, some ("=".intercalate rest))
    | _ => (body, none)
  match Param.ofLong name with
  | none => s.unknownLong name
  | some p =>
    if p.takesValue then
      match attached with
      | some v => s.react p [v]
      | none => s.await p
    else
      match attached with
      | some v => .error (.failed (.surplusValue v p.display (usedUsage (s.used ++ [p]))))
      | none => s.react p []

/-- A cluster of short options, given its characters after the dash. -/
def shortOptions (s : ReadState) : List Char → Except ArgsStop ReadState
  | [] => .ok s
  | c :: rest =>
    match Param.ofShort c with
    | none => unknownShort c
    | some p =>
      if p.takesValue then
        match rest with
        | [] => s.await p
        | '=' :: value => s.react p [String.ofList value]
        | value => s.react p [String.ofList value]
      else do
        let s ← s.react p []
        shortOptions s rest

/-- One argument. -/
def step (s : ReadState) (arg : String) : Except ArgsStop ReadState :=
  if s.escaped then s.positional arg
  else if arg == "--" then .ok { s with escaped := true }
  else if arg.startsWith "--" then s.longOption (String.ofList (arg.toList.drop 2))
  else if arg.startsWith "-" && arg.length > 1 then s.shortOptions (arg.toList.drop 1)
  else if s.awaiting then
    match s.pending with
    | some (p, vs) => .ok { s with pending := some (p, vs ++ [arg]), awaiting := false }
    | none => s.positional arg
  else s.positional arg

end ReadState

/-- The command line as the program uses it. -/
structure CliArgs where
  prompt : Option String
  system : String
  config : Option String
  localUrl : Option String
  meshUrl : Option String
  model : Option String
  noMesh : Bool
  attempts : Nat
  status : Bool
  logLevel : Option String
  verbose : Bool
deriving Repr, Inhabited

namespace CliArgs

/-- The arguments from the parameters given; an option not given takes its default. -/
def ofGiven (given : List (Param × String)) : CliArgs :=
  let value := fun (p : Param) => given.lookup p
  { prompt := value .prompt
    system := (value .system).getD ""
    config := value .config
    localUrl := value .localUrl
    meshUrl := value .meshUrl
    model := value .model
    noMesh := (value .noMesh).isSome
    attempts := match value .attempts with
      | some v => (readCount v).toOption.getD 1
      | none => 1
    status := (value .status).isSome
    logLevel := value .logLevel
    verbose := (value .verbose).isSome }

/-- Reads a command line; `env` gives the settings file when `--config` is missing. -/
def read (args : List String) (env : String → Option String) : Except ArgsStop CliArgs := do
  let s ← args.foldlM ReadState.step ReadState.start
  let s ← s.resolve
  let s ← if s.used.contains .config then pure s
    else match env configVariable with
      | some path => s.accept .config [path] false
      | none => pure s
  pure (ofGiven s.given)

end CliArgs

/-- The help text: what the program does, its usage, its argument and its options, each with
its help in a column after the longest option; `env` gives the settings file variable's value
shown with `--config`. -/
def helpText (env : String → Option String) : String :=
  let spec := fun (p : Param) =>
    (match p.short with
      | some c => "-" ++ String.singleton c ++ ", "
      | none => "    ") ++ p.display
  let notes := fun (p : Param) =>
    match p with
    | .system => " [default: \"\"]"
    | .config => " [env: " ++ configVariable ++ "=" ++ (env configVariable).getD "" ++ "]"
    | .attempts => " [default: 1]"
    | _ => ""
  let width := Param.options.foldl (fun w p => max w (spec p).length) 0
  let pad := fun (s : String) (n : Nat) => s ++ String.ofList (List.replicate (n - s.length) ' ')
  let optionLines := Param.options.map fun p =>
    "  " ++ pad (spec p) width ++ "  " ++ p.explanation ++ notes p
  about ++ "\n\nUsage: " ++ helpUsage ++ "\n\nArguments:\n  " ++ Param.prompt.display ++ "  " ++
    Param.prompt.explanation ++ "\n\nOptions:\n" ++ "\n".intercalate optionLines ++ "\n"

/-- The version text. -/
def versionText : String := programName ++ " " ++ programVersion ++ "\n"

end Cli

end InferRoute
