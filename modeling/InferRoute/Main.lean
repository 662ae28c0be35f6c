import InferRoute.Cli.Run

/-!
The executable of `tarx`: the command line, the variables the program reads, its standard input
and the file system come from the operating system; the outcome is printed on the two streams and
becomes the exit status.

This build reaches no network: every exchange fails at once, as when neither the local server nor
the mesh is up. The local server is then reported down, and a completion fails after its attempts.
-/

namespace InferRoute.Cli

/-- The fault of a failed read, with the text the operating system gives it. -/
def faultOf : IO.Error → FileFault
  | .noFileOrDirectory .. => .missing
  | .inappropriateType _ 21 _ => .directory
  | .inappropriateType _ 20 _ => .notDirectory
  | .permissionDenied _ code _ => .other ("Permission denied (os error " ++ toString code ++ ")")
  | e => .other (toString e)

/-- Files as the operating system gives them; a path is a file when it can be read as one. -/
instance : FileSource IO where
  isFile path := do
    match ← (IO.FS.readBinFile path).toBaseIO with
    | .ok _ => return true
    | .error _ => return false
  readFile path := do
    match ← (IO.FS.readBinFile path).toBaseIO with
    | .ok bytes => return .ok bytes
    | .error e => return .error (faultOf e)

/-- The values of the variables the program reads. -/
def environment : IO (List (String × String)) :=
  readVariables.filterMapM fun name => do
    return (← IO.getEnv name).map fun value => (name, value)

end InferRoute.Cli

open InferRoute in
/-- Runs the program once and exits with its status. -/
def main (args : List String) : IO UInt32 := do
  let vars ← Cli.environment
  let env := fun name => (vars.find? (·.1 == name)).map (·.2)
  let input : IO ByteArray := do (← IO.getStdin).readBinToEnd
  let outcome ← Cli.run args env input Network.unreachable ()
  let out ← IO.getStdout
  out.putStr outcome.stdout
  out.flush
  let err ← IO.getStderr
  outcome.stderr.forM fun line => err.putStrLn line
  err.flush
  return outcome.exit.toUInt32
