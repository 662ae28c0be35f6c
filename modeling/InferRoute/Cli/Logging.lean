import InferRoute.Log
import InferRoute.Text.Blank

/-!
Which diagnostic records the command line shows on its error stream. The level comes from
`--log-level`, else from `TARX_LOG_LEVEL`, else it is `warn` (`debug` with `--verbose`); a value
that cannot be read falls back to that default with a warning. A level is read after trimming
blanks and ignoring the case of letters. Records are shown at the chosen level and the more severe
ones, and only from the libraries' components: targets under `tarx_core`, `tarx_ai_adapters` and
`tarx_cli`.
-/

namespace InferRoute

namespace Cli

/-- The variable that gives the level when `--log-level` does not. -/
def levelVariable : String := "TARX_LOG_LEVEL"

/-- Which records are shown: none, or those of a level and the more severe ones. -/
inductive LevelFilter where
  | off
  | upTo (level : LogLevel)
deriving Repr, DecidableEq, Inhabited

namespace LevelFilter

/-- A level's name, blanks at either end and the case of letters ignored. -/
def parse? (raw : String) : Option LevelFilter :=
  match (Blank.trim raw).map Char.toLower with
  | "trace" => some (.upTo .trace)
  | "debug" => some (.upTo .debug)
  | "info" => some (.upTo .info)
  | "warn" => some (.upTo .warn)
  | "error" => some (.upTo .error)
  | "off" => some .off
  | _ => none

/-- The prefixes of the targets whose records are shown. -/
def shownTargets : List String := ["tarx_core", "tarx_ai_adapters", "tarx_cli"]

/-- Whether a record is shown. -/
def shows (f : LevelFilter) (r : LogRecord) : Bool :=
  match f with
  | .off => false
  | .upTo level => decide (r.level.rank ≤ level.rank) && shownTargets.any (r.target.startsWith ·)

/-- The filter chosen by `--log-level`, else by `TARX_LOG_LEVEL`, else the default; with the
warning printed when the chosen value cannot be read. -/
def resolve (given : Option String) (verbose : Bool) (env : String → Option String) :
    LevelFilter × Option String :=
  let fallback : LevelFilter := .upTo (if verbose then .debug else .warn)
  let chosen := match given with
    | some v => some ("--log-level", v)
    | none => (env levelVariable).map fun v => (levelVariable, v)
  match chosen with
  | none => (fallback, none)
  | some (source, v) =>
    match parse? v with
    | some f => (f, none)
    | none =>
      (fallback, some ("Warning: Invalid " ++ source ++ " '" ++ v ++ "', falling back to default"))

end LevelFilter

end Cli

end InferRoute
