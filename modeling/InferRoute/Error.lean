import InferRoute.Json.Error
import InferRoute.Stream.Event

/-!
Errors of the inference client, each with its kind. Transport, protocol and timeout errors are
worth another attempt; a policy refusal and a configuration error are not.
-/

namespace InferRoute

/-- The broad class of an error. -/
inductive ErrorKind where
  | transport
  | protocol
  | timeout
  | policy
  | config
deriving Repr, DecidableEq, Inhabited

namespace ErrorKind

/-- The kind's name. -/
def name : ErrorKind → String
  | .transport => "Transport"
  | .protocol => "Protocol"
  | .timeout => "Timeout"
  | .policy => "Policy"
  | .config => "Config"

end ErrorKind

/-- An error of the inference client. -/
inductive InferError where
  /-- A request or a read failed below HTTP. -/
  | transport (backend : String) (message : String)
  /-- The server answered with a status that is not success. -/
  | http (backend : String) (status : Nat) (body : String)
  /-- The server's answer had no body. -/
  | missingBody (backend : String)
  /-- The request or its answer took longer than allowed. -/
  | timeout (backend : String) (ms : Nat)
  /-- The local server is down and the policy forbids any other. -/
  | localUnavailable
  | config (message : String)
  | io (message : String)
  /-- JSON that could not be read. -/
  | serialization (error : JsonError)
deriving Repr, Inhabited

namespace InferError

/-- The kind of an error. -/
def kind : InferError → ErrorKind
  | .transport .. | .io _ => .transport
  | .http .. | .missingBody _ | .serialization _ => .protocol
  | .timeout .. => .timeout
  | .localUnavailable => .policy
  | .config _ => .config

/-- The name of the error's case. -/
def caseName : InferError → String
  | .transport .. => "Transport"
  | .http .. => "Http"
  | .missingBody _ => "MissingBody"
  | .timeout .. => "Timeout"
  | .localUnavailable => "LocalInferenceUnavailable"
  | .config _ => "Config"
  | .io _ => "Io"
  | .serialization _ => "Serialization"

/-- The message of an error. -/
def message : InferError → String
  | .transport backend msg => backend ++ " transport error: " ++ msg
  | .http backend status body => backend ++ " error: " ++ toString status ++ " " ++ body
  | .missingBody backend => "No response body from " ++ backend
  | .timeout backend ms => backend ++ " request timed out after " ++ toString ms ++ "ms"
  | .localUnavailable => "Local inference unavailable. Cloud fallback disabled by policy."
  | .config msg => "Configuration error: " ++ msg
  | .io msg => "IO error: " ++ msg
  | .serialization e => "Serialization error: " ++ e.message

/-- The errors underneath an error, outermost first: a failed read carries the system's error,
unreadable JSON the reader's error. -/
def sources : InferError → List String
  | .io msg => [msg]
  | .serialization e => [e.message]
  | _ => []

/-- A decode error as a client error of the same backend. -/
def ofDecode : DecodeError → InferError
  | .transport backend msg => .transport backend msg
  | .timeout backend ms => .timeout backend ms

/-- Whether an error is worth another attempt by default: transport, protocol and timeout
errors are. -/
def retryable (e : InferError) : Bool :=
  match e.kind with
  | .transport | .protocol | .timeout => true
  | .policy | .config => false

end InferError

end InferRoute
