import InferRoute.Cli.Args
import InferRoute.Cli.Logging
import InferRoute.Config.File
import InferRoute.Config.Env
import InferRoute.Client.Call

/-!
The `tarx` program: one completion streamed to the standard output, or the health of both
backends with `--status`.

After reading its command line the program picks its log level, loads its settings (the file
given by `--config` or `TARX_CONFIG`, else the default file when there is one), applies the
`TARX_*` variables and then the command line's options, and checks the result. The prompt is the
argument, or else the standard input without blanks at its end; an empty prompt is an error.
The completion is attempted as often as `--attempts` says while it fails before any output.
Text is printed as it comes; the usage report or an error ends the line.

Errors end the program with status 1 and a report on the error stream: `Error: ` and the error,
then, when it has causes, `Caused by:` and the causes, indented, numbered when there are several.
A command line that cannot be read ends it with status 2.
-/

namespace InferRoute

namespace Cli

/-- What the program printed on its two streams, and its exit status. -/
structure CliOutcome where
  exit : Nat
  stdout : String
  stderr : List String
deriving Repr, DecidableEq, Inhabited

/-- A natural number right-aligned in five places. -/
def rightAligned (n : Nat) : String :=
  let s := toString n
  String.ofList (List.replicate (5 - s.length) ' ') ++ s

/-- The lines of an error report: `Error: ` and the error, then its causes after `Caused by:`,
every line of a cause indented, and the causes numbered from 0 when there are several. -/
def errorReport (head : String) (causes : List String) : List String :=
  let headLines := ("Error: " ++ head).splitOn "\n"
  if causes.isEmpty then headLines
  else
    let several := causes.length > 1
    let causeLines := fun (i : Nat) (c : String) =>
      match c.splitOn "\n" with
      | first :: rest =>
        ((if several then rightAligned i ++ ": " else "    ") ++ first) ::
          rest.map ((if several then "       " else "    ") ++ ·)
      | [] => []
    headLines ++ ["", "Caused by:"] ++
      ((List.range causes.length).zip causes).flatMap fun (i, c) => causeLines i c

/-- The report of an error of the client. -/
def reportOf (e : InferError) : List String := errorReport e.message e.sources

/-- The report of an error met while doing `what`: the error becomes the first cause. -/
def reportWhile (what : String) (e : InferError) : List String :=
  errorReport what (e.message :: e.sources)

namespace CliArgs

/-- The settings with the command line's options applied. -/
def applyTo (a : CliArgs) (c : ClientConfig) : ClientConfig :=
  { c with
    localServerUrl := a.localUrl.getD c.localServerUrl
    meshApiUrl := a.meshUrl.getD c.meshApiUrl
    model := a.model.getD c.model
    enableMeshRouting := c.enableMeshRouting && !a.noMesh }

end CliArgs

/-- The note on a finished completion. -/
def completionNote (inputTokens outputTokens : Nat) : LogRecord :=
  ⟨.info, LogTarget.program, "Completion finished: input_tokens=" ++ toString inputTokens ++
    ", output_tokens=" ++ toString outputTokens⟩

/-- What a completion's items print: the text, a line end after the usage report or before an
error; the notes it leaves; and the error that ends it. -/
def printItems : List ClientItem → String × List LogRecord × Option InferError
  | [] => ("", [], none)
  | .ok (.textDelta t) :: rest =>
    let (out, notes, failure) := printItems rest
    (t ++ out, notes, failure)
  | .ok (.usage i o) :: rest =>
    let (out, notes, failure) := printItems rest
    ("\n" ++ out, completionNote i o :: notes, failure)
  | .error e :: _ => ("\n", [], some e)

/-- The health of both backends, asked at the same time: each check starts now, the clock ends
at the later one, and the notes come in the order the checks ended (the local server's first on
a tie). -/
def healthOfBoth {σ : Type} : ClientM σ (Connectivity × Connectivity) := do
  let start ← ClientM.now
  let before := (← get).notes
  modify fun s => { s with notes := [] }
  let localHealth ← ClientM.checkLocalHealth
  let localEnd ← ClientM.now
  let localNotes := (← get).notes
  modify fun s => { s with now := start, notes := [] }
  let meshHealth ← ClientM.meshConnectivity
  let meshEnd ← ClientM.now
  let meshNotes := (← get).notes
  let notes := if meshEnd < localEnd then meshNotes ++ localNotes else localNotes ++ meshNotes
  modify fun s => { s with now := max localEnd meshEnd, notes := before ++ notes }
  return (localHealth, meshHealth)

/-- The status report: both backends' summaries and the model with its context window. -/
def statusText (localHealth meshHealth : Connectivity) (model : ModelDescriptor) : String :=
  "Local server: " ++ localHealth.summary ++ "\n" ++
  "Mesh:         " ++ meshHealth.summary ++ "\n" ++
  "Model:        " ++ model.id ++ " (context " ++ toString model.info.contextWindow ++ " tokens)\n"

/-- The settings: the file's (or the standard ones), then the variables, then the command
line; or the report of why the file could not be loaded. Also the notes of loading. -/
def settingsOf {m : Type → Type} [Monad m] [FileSource m] (a : CliArgs)
    (env : String → Option String) : m (Except (List String) ClientConfig × List LogRecord) := do
  let (loaded, notes) ← match a.config with
    | some path => do
      let (r, notes) ← ClientConfig.load path
      pure (r.mapError (reportWhile ("failed to load config from " ++ path)), notes)
    | none => do
      let (r, notes) ← ClientConfig.loadDefault env
      pure (r.mapError (reportWhile "failed to load default config"), notes)
  match loaded with
  | .error report => return (.error report, notes)
  | .ok c =>
    let (c, envNotes) := c.withOverrides env
    return (.ok (a.applyTo c), notes ++ envNotes)

/-- The prompt: the argument, or else the standard input without blanks at its end. -/
def promptOf {m : Type → Type} [Monad m] (a : CliArgs) (input : m ByteArray) :
    m (Except (List String) String) := do
  match a.prompt with
  | some p => return .ok p
  | none =>
    match String.fromUTF8? (← input) with
    | some text => return .ok (Blank.trimEnd text)
    | none =>
      return .error (errorReport "failed to read prompt from stdin" [FileFault.notUtf8.message])

/-- The program run with a command line that was read: `env` is its environment, `input` its
standard input, and `network` the network it reaches from state `link`. -/
def runWith {m : Type → Type} [Monad m] [FileSource m] {σ : Type} (a : CliArgs)
    (env : String → Option String) (input : m ByteArray) (network : Network σ) (link : σ) :
    m CliOutcome := do
  let (filter, warning) := LevelFilter.resolve a.logLevel a.verbose env
  let shown := fun (notes : List LogRecord) =>
    (notes.filter filter.shows).flatMap fun r => r.render.splitOn "\n"
  let early := warning.toList
  let (settings, notes) ← settingsOf a env
  match settings with
  | .error report => return ⟨1, "", early ++ shown notes ++ report⟩
  | .ok c =>
    match c.validate with
    | .error e => return ⟨1, "", early ++ shown notes ++ reportOf e⟩
    | .ok () =>
      let setup : ClientSetup σ := ⟨c, network⟩
      -- the command line's policy does not jitter, so its session never draws a random value
      let session : Session σ :=
        ⟨Breaker.new BreakerConfig.standard, 0, link, notes,
          fun _ _ => FloatFormat.binary32.ofNat 0⟩
      if a.status then
        let ((localHealth, meshHealth), s) := (healthOfBoth.run setup).run session
        return ⟨0, statusText localHealth meshHealth (ModelDescriptor.served c.model),
          early ++ shown s.notes⟩
      match ← promptOf a input with
      | .error report => return ⟨1, "", early ++ shown notes ++ report⟩
      | .ok p =>
        if p.isEmpty then return ⟨1, "", early ++ shown notes ++ errorReport "empty prompt" []⟩
        let policy := { RetryPolicy.standard with maxAttempts := max a.attempts 1 }
        let call := ClientM.createMessageWithRetry policy InferError.retryable a.system
          [⟨.user, .text p⟩] Abort.never
        let (items, s) := (call.run setup).run session
        let (out, printNotes, failure) := printItems items
        let stderr := early ++ shown (s.notes ++ printNotes)
        match failure with
        | some e => return ⟨1, out, stderr ++ reportOf e⟩
        | none => return ⟨0, out, stderr⟩

/-- The variables of the environment the program reads: the settings file, the log level, the
settings' overrides, and where the default settings file lies. -/
def readVariables : List String :=
  [configVariable, levelVariable, ClientConfig.envLocalServerUrl, ClientConfig.envMeshApiUrl,
    ClientConfig.envEnableMeshRouting, ClientConfig.envEnableCloudFallback, ClientConfig.envModel,
    ClientConfig.envRequestTimeoutMs, "XDG_CONFIG_HOME", "HOME"]

/-- The program: reads its command line (printing help, version or the reading error), then
runs. -/
def run {m : Type → Type} [Monad m] [FileSource m] {σ : Type} (args : List String)
    (env : String → Option String) (input : m ByteArray) (network : Network σ) (link : σ) :
    m CliOutcome :=
  match CliArgs.read args env with
  | .error .help => return ⟨0, helpText env, []⟩
  | .error .version => return ⟨0, versionText, []⟩
  | .error (.failed e) => return ⟨2, "", e.lines⟩
  | .ok a => runWith a env input network link

end Cli

end InferRoute
