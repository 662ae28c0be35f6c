import InferRoute.Client.Transport
import InferRoute.Retry.Policy
import InferRoute.Text.Quoted
import InferRoute.Model

/-!
The calls of the inference client. A completion call goes to the mesh when routing allows it
(mesh routing on, the breaker permitting, the mesh up with peers, the prompt complex); a mesh
attempt that fails to open, or whose stream breaks, falls back to the local server after the
events it already gave. Only the local server's outcome reaches the breaker: a completed local
stream is a success, a failed one a failure, and then, with the breaker open and no cloud
fallback allowed, the caller sees "local inference unavailable" instead of the error. So a call
that runs to its end yields text events followed by exactly one usage report or one error.

An aborted call yields nothing more and has no further effect. A retrying call repeats the whole
call while its first item is an error that the predicate accepts, pausing between attempts.
-/

namespace InferRoute

/-- An item of a call: an event, or the error that ends the call. -/
abbrev ClientItem := Except InferError StreamEvent

/-- How the mesh part of a call ended: the call is over with these items, or it goes on to the
local server after them, or the mesh never answers further and the call waits for ever after
them. -/
inductive MeshLeg where
  | finished (items : List ClientItem)
  | fallBack (items : List ClientItem)
  | stalled (items : List ClientItem)

namespace MeshLeg

/-- Whether the call waits for ever in its mesh part. -/
def waits : MeshLeg → Bool
  | .stalled _ => true
  | _ => false

/-- Whether the mesh served the call. -/
def served : MeshLeg → Bool
  | .finished _ => true
  | _ => false

end MeshLeg

/-- The events of a decoded stream, and the error that ended it if one did. -/
def splitDecoded : List StreamItem → List StreamEvent × Option DecodeError
  | [] => ([], none)
  | .ok e :: rest => let (es, failure) := splitDecoded rest; (e :: es, failure)
  | .error d :: _ => ([], some d)

namespace MeshVerdict

/-- What the router notes about its decision. -/
def note : MeshVerdict → String
  | .breakerOpen => "Circuit breaker open, skipping mesh probe"
  | .unavailable s =>
    "Mesh unavailable: running=" ++ toString s.isRunning ++ ", peers=" ++ toString s.peerCount
  | .probeFailed e => "Mesh status probe failed: " ++ e.message
  | .probeTimedOut => "Mesh status probe timed out after " ++ toString probeTimeoutMs ++ "ms"
  | .decided c =>
    "Routing decision: mesh=" ++ toString c.isComplex ++ ", words=" ++ toString c.wordCount ++
      ", chars=" ++ toString c.charCount ++ ", patterns=" ++ Quoted.list c.matchedPatterns

end MeshVerdict

namespace ClientM

variable {σ : Type}

/-- Whether messages go to the mesh: the breaker must permit an attempt, and then the probe's
answer and the prompt decide. -/
def shouldUseMesh (ms : List Message) : ClientM σ Bool := do
  if !(← permits) then
    note .debug LogTarget.routing MeshVerdict.breakerOpen.note
    return false
  let start ← now
  let (verdict, spent) := judgeProbe (← probeMesh) ms
  advanceTo (start + spent)
  note .debug LogTarget.routing verdict.note
  return verdict.useMesh

/-- A local failure: noted and counted by the breaker; with the breaker open and no cloud
fallback the caller is told that local inference is unavailable. -/
def localFailure (e : InferError) : ClientM σ InferError := do
  note .error LogTarget.client ("Local inference failed: " ++ e.message)
  recordFailure
  if !(← config).enableCloudFallback && (← breaker).state = .opened then
    return .localUnavailable
  return e

/-- Opens the mesh's stream for messages: the query goes to the mesh with the last message as
its prompt, and the headers are awaited with no deadline. -/
def openMesh (ms : List Message) (abort : Abort) : ClientM σ Opening := do
  let c ← config
  let address := c.meshEndpoint "/mesh/query/stream"
  note .debug LogTarget.transport ("Opening mesh stream: url=" ++ address ++ ", model=" ++ c.model)
  openStream meshBackend address (some eventStreamType) (meshQueryBody c.model ms c.requestTimeoutMs)
    abort none

/-- The mesh part of a call. -/
def tryMesh (ms : List Message) (abort : Abort) : ClientM σ MeshLeg := do
  if ← aborted abort 0 then return .finished []
  let start ← now
  match ← openMesh ms abort with
  | .aborted => return .finished []
  | .stalled => return .stalled []
  | .failed e =>
    note .warn LogTarget.client ("Mesh query failed, falling back to local server: " ++ e.message)
    return .fallBack []
  | .opened body headers =>
    let (items, stop) := decodeFrom MeshDecoder (headers - start) body (abort.control 0 start none)
    if let some t := stop then advanceTo (start + t)
    match splitDecoded items with
    | (events, some e) =>
      note .warn LogTarget.client
        ("Mesh stream failed, falling back to local server: " ++ (InferError.ofDecode e).message)
      return .fallBack (events.map .ok)
    | (events, none) =>
      return if stop.isSome then .finished (events.map .ok) else .stalled (events.map .ok)

/-- Opens the local server's stream for messages, under the request's deadline, which covers the
wait for the headers as well as every read. -/
def openLocal (ms : List Message) (abort : Abort) : ClientM σ Opening := do
  let c ← config
  let address := c.localEndpoint "/v1/chat/completions"
  note .debug LogTarget.transport ("Opening local stream: url=" ++ address ++ ", model=" ++
    c.model ++ ", messages=" ++ toString ms.length)
  openStream localBackend address none (completionBody c.model ms) abort (some c.requestTimeoutMs)

/-- The local part of a call, after `received` items. -/
def tryLocal (ms : List Message) (abort : Abort) (received : Nat) :
    ClientM σ (List ClientItem) := do
  if ← aborted abort received then return []
  let start ← now
  let budget := (← config).requestTimeoutMs
  let (events, failure) ← match ← openLocal ms abort with
    | .aborted | .stalled => return []
    | .failed e => pure ([], some e)
    | .opened body headers =>
      let (items, stop) := decodeFrom LocalDecoder (headers - start) body
        (abort.control received start (some budget))
      if let some t := stop then advanceTo (start + t)
      let (events, failure) := splitDecoded items
      pure (events, failure.map InferError.ofDecode)
  let delivered : List ClientItem := events.map .ok
  match failure with
  | some e => return delivered ++ [.error (← localFailure e)]
  | none =>
    if ← aborted abort (received + events.length) then
      note .debug LogTarget.client "Local stream aborted"
    else recordSuccess
    return delivered

/-- The routing and the mesh part of a call: where the mesh is not to be used, the call goes on
to the local server with nothing yet. -/
def routeMesh (ms : List Message) (abort : Abort) : ClientM σ MeshLeg := do
  if (← config).enableMeshRouting then
    if ← shouldUseMesh ms then tryMesh ms abort else pure (.fallBack [])
  else pure (.fallBack [])

/-- All items of a completion call for `ms`. A call that waits for ever yields the items of its
mesh part and nothing more. -/
def streamMessages (ms : List Message) (abort : Abort) : ClientM σ (List ClientItem) := do
  if ← aborted abort 0 then return []
  match ← routeMesh ms abort with
  | .finished items | .stalled items => return items
  | .fallBack items =>
    if ← aborted abort items.length then return items
    return items ++ (← tryLocal ms abort items.length)

/-- A completion of `history` behind `systemPrompt`. -/
def createMessage (systemPrompt : String) (history : List Turn) (abort : Abort) :
    ClientM σ (List ClientItem) :=
  streamMessages (Message.build systemPrompt history) abort

/-- One attempt of a retrying call: its error when its first item is one, else its items; no
result when it was aborted before it gave anything. -/
def attemptOnce (ms : List Message) (abort : Abort) (attempt : Nat) :
    OptionT (ClientM σ) (Except InferError (List ClientItem)) := do
  if attempt > 0 then
    OptionT.lift <|
      note .debug LogTarget.client ("Starting inference attempt " ++ toString (attempt + 1))
  match ← OptionT.lift (streamMessages ms abort) with
  | [] => if ← OptionT.lift (aborted abort 0) then failure else pure (.ok [])
  | .error e :: _ => pure (.error e)
  | items => pure (.ok items)

/-- The pause before another attempt, which an abort during it cuts short. -/
def pauseUnlessAborted (abort : Abort) (ms : Nat) : OptionT (ClientM σ) Unit := do
  let resume := (← OptionT.lift now) + ms
  match abort.atMs with
  | some at_ =>
    if at_ ≤ resume then
      OptionT.lift (advanceTo at_)
      failure
    else OptionT.lift (advanceTo resume)
  | none => OptionT.lift (advanceTo resume)

/-- A completion that is attempted again, by `policy`, while its first item is an error that
`shouldRetry` accepts. -/
def createMessageWithRetry (policy : RetryPolicy) (shouldRetry : InferError → Bool)
    (systemPrompt : String) (history : List Turn) (abort : Abort) :
    ClientM σ (List ClientItem) := do
  let ms := Message.build systemPrompt history
  let outcome ← if ← aborted abort 0 then pure none
    else (policy.execute shouldRetry InferError.message (fun b => OptionT.lift (draw b))
      (pauseUnlessAborted abort)
      (fun r => OptionT.lift (note r.level r.target r.message)) (attemptOnce ms abort)).run
  match outcome with
  | none =>
    note .debug LogTarget.client "Retrying request aborted"
    return []
  | some (.error e) => return [.error e]
  | some (.ok items) => return items

/-- The local server's health, noted. -/
def checkLocalHealth : ClientM σ Connectivity := do
  match ← probeLocal with
  | .ok () =>
    note .info LogTarget.health "Local inference server healthy"
    return Connectivity.ofLocal true
  | .error e =>
    note .warn LogTarget.health ("Local inference server health check failed: " ++ e.message)
    return Connectivity.ofLocal false

/-- The mesh's health from its status, asked with a time limit of two seconds. -/
def meshConnectivity : ClientM σ Connectivity := do
  let start ← now
  let reply ← probeMesh
  let result := if reply.delayMs ≤ probeTimeoutMs then reply.result
    else .error (.timeout meshBackend probeTimeoutMs)
  advanceTo (start + min reply.delayMs probeTimeoutMs)
  match result with
  | .ok s =>
    if !s.isRunning then note .debug LogTarget.health "Mesh reported not running"
  | .error e => note .debug LogTarget.health ("Mesh status unavailable: " ++ e.message)
  return Connectivity.ofProbe result

/-- The served model. -/
def model : ClientM σ ModelDescriptor := return ModelDescriptor.served (← config).model

end ClientM

end InferRoute
