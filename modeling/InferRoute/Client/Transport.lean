import InferRoute.Client.Session
import InferRoute.Chat.History
import InferRoute.Routing.Decision

/-!
The client's four requests: the local server's completion stream and health check, and the
mesh's query stream and status. A stream opens when its headers come with a success status that
carries a body; another status fails with the status and the body's text, and 204 or 205 with
"no body". Waiting for the headers (and for an error's body) races against the caller's abort
and, for the local server, the request's deadline: the abort wins a tie, then the deadline. The
health check waits at most three seconds for its headers, and the status probe two seconds for
its whole answer.
-/

namespace InferRoute

/-- The local server's name in messages. -/
def localBackend : String := "local-server"

/-- The mesh's name in messages. -/
def meshBackend : String := "mesh"

/-- How long the health check waits for the local server. -/
def healthTimeoutMs : Nat := 3000

/-- The most tokens a completion of the local server may have. -/
def completionMaxTokens : Nat := 4096

/-- The media type of event streams. -/
def eventStreamType : String := "text/event-stream"

/-- Whether `t` comes no later than `limit`, where `none` is a time that never comes. -/
def noLaterThan (t : Nat) : Option Nat → Bool
  | some limit => decide (t ≤ limit)
  | none => true

/-- How a wait ends: the caller aborted it, its deadline passed, what it waited for came, or
nothing ever happens. -/
inductive WaitEnd (α : Type) where
  | aborted (atMs : Nat)
  | overdue (atMs : Nat)
  | came (value : α) (atMs : Nat)
  | never
deriving Repr

namespace WaitEnd

/-- The end of a wait for `value`, which comes at `done` (`none`: never), against an abort at
`abortAt` and a deadline: the abort wins a tie, then the deadline. -/
def race {α : Type} (abortAt deadline : Option Nat) (value : α) (done : Option Nat) :
    WaitEnd α :=
  match abortAt with
  | some c =>
    if noLaterThan c done && noLaterThan c deadline then .aborted c else noAbort
  | none => noAbort
where
  /-- The end of the wait when the abort does not come first. -/
  noAbort : WaitEnd α :=
    match deadline with
    | some d => if noLaterThan d done then .overdue d else byValue
    | none => byValue
  /-- The end of the wait when only the value can end it. -/
  byValue : WaitEnd α :=
    match done with
    | some t => .came value t
    | none => .never

end WaitEnd

/-- The body of a completion request: the model, the messages, streaming on, and the token
limit. -/
def completionBody (model : String) (ms : List Message) : Json :=
  Json.ofFields [("model", .string model), ("messages", .array (ms.map Message.toJson)),
    ("stream", .bool true), ("max_tokens", .number (.nat completionMaxTokens))]

/-- The body of a mesh query: the model, the last message's text as the prompt, the system
prompt when there is one, streaming on, and the time limit. -/
def meshQueryBody (model : String) (ms : List Message) (timeoutMs : Nat) : Json :=
  Json.ofFields ([("model", .string model),
    ("prompt", .string ((ms.getLast?.map (·.content)).getD "")),
    ("stream", .bool true), ("timeout", .number (.nat timeoutMs))] ++
    match Message.systemPrompt? ms with
    | some p => [("systemPrompt", .string p)]
    | none => [])

/-- How opening a stream ended. -/
inductive Opening where
  /-- The caller aborted while the answer was awaited. -/
  | aborted
  /-- The answer never comes, and nothing ends the wait. -/
  | stalled
  | failed (error : InferError)
  /-- The headers came at `atMs` with a body to stream. -/
  | opened (body : ReadSchedule) (atMs : Nat)
deriving Inhabited

namespace ClientM

variable {σ : Type}

/-- What an answer to a stream request means, and when it is complete (`none`: never), for a
request sent at `start`. -/
def streamAnswer (backend : String) (url : Url) (start : Nat) :
    Exchange → Except InferError (ReadSchedule × Nat) × Option Nat
  | .failed after =>
    (.error (.transport backend (HttpFault.unsent url).message), some (start + after))
  | .replied r =>
    let headers := start + r.afterMs
    if r.succeeded then
      if r.bodiless then (.error (.missingBody backend), some headers)
      else (.ok (r.body, headers), some headers)
    else
      match r.body.collect with
      | .complete bytes after =>
        (.error (.http backend r.status (bodyText bytes)), some (headers + after))
      | .broken _ after => (.error (.http backend r.status ""), some (headers + after))
      | .endless => (.error (.http backend r.status ""), none)

/-- Sends `body` by POST to `address`, if the HTTP client takes the address, at `start`: what the
answer means and when it is complete. -/
def requestStream (backend address : String) (accept : Option String) (body : Json)
    (start : Nat) : ClientM σ (Except InferError (ReadSchedule × Nat) × Option Nat) :=
  match HttpRequest.target address with
  | .error f => pure (.error (.transport backend f.message), some start)
  | .ok url => return streamAnswer backend url start (← send ⟨"POST", url, accept, some body⟩)

/-- How the wait for a stream ended, as the opening of the stream; the clock moves to the end of
the wait. -/
def settleOpening (backend : String) (budget : Option Nat) :
    WaitEnd (Except InferError (ReadSchedule × Nat)) → ClientM σ Opening
  | .aborted t => do advanceTo t; return .aborted
  | .overdue t => do advanceTo t; return .failed (.timeout backend (budget.getD 0))
  | .came (.error e) t => do advanceTo t; return .failed e
  | .came (.ok (schedule, headers)) t => do advanceTo t; return .opened schedule headers
  | .never => return .stalled

/-- Sends `body` by POST to `address` and waits for a stream, under the caller's abort and, with
a budget, a deadline that many milliseconds from now. -/
def openStream (backend address : String) (accept : Option String) (body : Json) (abort : Abort)
    (budget : Option Nat) : ClientM σ Opening := do
  let start ← now
  let (answer, done) ← requestStream backend address accept body start
  settleOpening backend budget (WaitEnd.race abort.atMs (budget.map (start + ·)) answer done)

/-- What the mesh's status answer means, and how long it took (`none`: never). -/
def statusAnswer (url : Url) : Exchange → Except InferError MeshStatus × Option Nat
  | .failed after => (.error (.transport meshBackend (HttpFault.unsent url).message), some after)
  | .replied r =>
    if r.succeeded then
      match r.body.collect with
      | .complete bytes after =>
        (match MeshStatus.parseBytes bytes with
          | .ok s => .ok s
          | .error e => .error (.serialization e), some (r.afterMs + after))
      | .broken msg after => (.error (.transport meshBackend msg), some (r.afterMs + after))
      | .endless => (.error (.timeout meshBackend probeTimeoutMs), none)
    else (.error (.http meshBackend r.status ""), some r.afterMs)

/-- Asks the mesh for its status; the answer and the milliseconds it took, an answer that never
comes counting as one later than the probe's limit. The clock does not move: the caller decides
how long it waits. -/
def probeMesh : ClientM σ ProbeReply := do
  let address := (← config).meshEndpoint "/mesh/status"
  match HttpRequest.target address with
  | .error f => return ⟨0, .error (.transport meshBackend f.message)⟩
  | .ok url =>
    let (result, took) := statusAnswer url (← send ⟨"GET", url, none, none⟩)
    return ⟨took.getD (probeTimeoutMs + 1), result⟩

/-- Asks the local server whether it is healthy: GET `/health`, whose headers must come within
three seconds with a success status. The clock moves to the answer, or to the time limit. -/
def probeLocal : ClientM σ (Except InferError Unit) := do
  let start ← now
  let address := (← config).localEndpoint "/health"
  match HttpRequest.target address with
  | .error f => return .error (.transport localBackend f.message)
  | .ok url =>
    let answer : Except InferError Unit × Nat := match ← send ⟨"GET", url, none, none⟩ with
      | .failed after => (.error (.transport localBackend (HttpFault.unsent url).message), after)
      | .replied r =>
        (if r.succeeded then .ok () else .error (.http localBackend r.status ""), r.afterMs)
    let (result, took) := answer
    if took ≤ healthTimeoutMs then
      advanceTo (start + took)
      return result
    else
      advanceTo (start + healthTimeoutMs)
      return .error (.timeout localBackend healthTimeoutMs)

end ClientM

end InferRoute
