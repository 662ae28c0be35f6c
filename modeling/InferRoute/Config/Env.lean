import InferRoute.Config.Basic
import InferRoute.Log

/-!
Settings from environment variables. Each `TARX_*` variable that is set replaces one setting:
addresses and the model are taken as written, yes-or-no settings and the time limit are read
after trimming blanks, and a value that cannot be read is ignored with a warning.
-/

namespace InferRoute

namespace ClientConfig

/-- The variables that override the settings. -/
def envLocalServerUrl : String := "TARX_LOCAL_SERVER_URL"
def envMeshApiUrl : String := "TARX_MESH_API_URL"
def envEnableMeshRouting : String := "TARX_ENABLE_MESH_ROUTING"
def envEnableCloudFallback : String := "TARX_ENABLE_CLOUD_FALLBACK"
def envModel : String := "TARX_MODEL"
def envRequestTimeoutMs : String := "TARX_REQUEST_TIMEOUT_MS"

/-- A yes-or-no value: after trimming blanks and lower-casing ASCII letters, `1`, `true`, `yes`
and `on` are yes, `0`, `false`, `no` and `off` are no. -/
def parseFlag (raw : String) : Option Bool :=
  match (Blank.trim raw).map Char.toLower with
  | "1" | "true" | "yes" | "on" => some true
  | "0" | "false" | "no" | "off" => some false
  | _ => none

/-- The largest unsigned 64-bit value. -/
def u64Max : Nat := Nat.pow 2 64 - 1

/-- An unsigned 64-bit decimal number, after trimming blanks: ASCII digits after an optional
`+`, at most `2^64 - 1`. -/
def parseCount (raw : String) : Option Nat :=
  let digits := match (Blank.trim raw).toList with
    | '+' :: rest => rest
    | cs => cs
  if digits.isEmpty || !digits.all Char.isDigit then none
  else
    let v := digits.foldl (fun acc c => acc * 10 + (c.toNat - 48)) 0
    if v ≤ u64Max then some v else none

/-- The warning for a value that cannot be read. -/
def ignored (name raw : String) : LogRecord :=
  ⟨.warn, LogTarget.config, "Ignoring invalid " ++ name ++ ": " ++ raw⟩

/-- The settings with the overrides that `lookup` finds applied, in the order of the settings,
and the warnings for the values that were ignored. -/
def withOverrides (c : ClientConfig) (lookup : String → Option String) :
    ClientConfig × List LogRecord :=
  let c := match lookup envLocalServerUrl with
    | some url => { c with localServerUrl := url }
    | none => c
  let c := match lookup envMeshApiUrl with
    | some url => { c with meshApiUrl := url }
    | none => c
  let (c, w1) := match lookup envEnableMeshRouting with
    | some raw => match parseFlag raw with
      | some b => ({ c with enableMeshRouting := b }, [])
      | none => (c, [ignored envEnableMeshRouting raw])
    | none => (c, [])
  let (c, w2) := match lookup envEnableCloudFallback with
    | some raw => match parseFlag raw with
      | some b => ({ c with enableCloudFallback := b }, [])
      | none => (c, [ignored envEnableCloudFallback raw])
    | none => (c, [])
  let c := match lookup envModel with
    | some m => { c with model := m }
    | none => c
  let (c, w3) := match lookup envRequestTimeoutMs with
    | some raw => match parseCount raw with
      | some ms => ({ c with requestTimeoutMs := ms }, [])
      | none => (c, [ignored envRequestTimeoutMs raw])
    | none => (c, [])
  (c, w1 ++ w2 ++ w3)

end ClientConfig

end InferRoute
