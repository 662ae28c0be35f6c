import InferRoute.Error
import InferRoute.Json.Value
import InferRoute.Text.Blank
import InferRoute.Url.Read

/-!
The settings of the inference client: where the local server and the mesh listen, whether the
mesh may be used, whether a cloud fallback is allowed, the model, and how long a request may
take. Settings are checked before use: both addresses must be web addresses of the `http` or
`https` scheme, the model must not be blank, and the time limit must be positive.
-/

namespace InferRoute

/-- The settings of the inference client. -/
structure ClientConfig where
  localServerUrl : String
  meshApiUrl : String
  enableMeshRouting : Bool
  enableCloudFallback : Bool
  model : String
  requestTimeoutMs : Nat
deriving Repr, DecidableEq, Inhabited

namespace ClientConfig

/-- The settings when nothing else is said: both servers on this machine, the mesh allowed,
no cloud fallback, the 16 GB model and two minutes per request. -/
def standard : ClientConfig where
  localServerUrl := "http://localhost:11435"
  meshApiUrl := "http://localhost:11436"
  enableMeshRouting := true
  enableCloudFallback := false
  model := "tx-16g"
  requestTimeoutMs := 120000

/-- The settings as a JSON object with camel-case keys. -/
def toJson (c : ClientConfig) : Json :=
  Json.ofFields [
    ("enableCloudFallback", .bool c.enableCloudFallback),
    ("enableMeshRouting", .bool c.enableMeshRouting),
    ("localServerUrl", .string c.localServerUrl),
    ("meshApiUrl", .string c.meshApiUrl),
    ("model", .string c.model),
    ("requestTimeoutMs", .number (.nat c.requestTimeoutMs))]

/-- An address under a base: the base without trailing slashes, one slash, and the path
without leading slashes. -/
def joinUrl (base path : String) : String :=
  String.ofList (base.toList.reverse.dropWhile (· = '/')).reverse ++ "/" ++
    String.ofList (path.toList.dropWhile (· = '/'))

/-- The address of `path` on the local server. -/
def localEndpoint (c : ClientConfig) (path : String) : String := joinUrl c.localServerUrl path

/-- The address of `path` on the mesh. -/
def meshEndpoint (c : ClientConfig) (path : String) : String := joinUrl c.meshApiUrl path

/-- Checks that `value`, the setting `field`, is an `http` or `https` address. -/
def checkUrl (field value : String) : Except InferError Unit :=
  match Url.parse value with
  | .error e =>
    throw (.config (field ++ " is not a valid URL (" ++ value ++ "): " ++ e.message))
  | .ok u =>
    if u.scheme = "http" || u.scheme = "https" then pure ()
    else throw (.config (field ++ " must use http or https, got " ++ u.scheme))

/-- Checks the settings, the first fault found in this order: the local address, the mesh
address, the model, the time limit. -/
def validate (c : ClientConfig) : Except InferError Unit := do
  checkUrl "localServerUrl" c.localServerUrl
  checkUrl "meshApiUrl" c.meshApiUrl
  if (Blank.trim c.model).isEmpty then throw (.config "model must not be empty")
  if c.requestTimeoutMs = 0 then throw (.config "requestTimeoutMs must be greater than 0")

end ClientConfig

end InferRoute
