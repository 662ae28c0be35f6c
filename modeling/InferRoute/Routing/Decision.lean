import InferRoute.Routing.Context
import InferRoute.Breaker
import InferRoute.Health

/-!
Whether a request goes to the mesh. The breaker must permit an attempt; then the mesh is probed
once, and must answer within two seconds that it runs with at least one peer; then the request
goes to the mesh exactly when its last user message is complex. A refused, failed, late or
negative probe keeps the request local.
-/

namespace InferRoute

/-- How long the router waits for the mesh's status. -/
def probeTimeoutMs : Nat := 2000

/-- One answer of the mesh status probe: the milliseconds it takes, and a status or an error. -/
structure ProbeReply where
  delayMs : Nat
  result : Except InferError MeshStatus
deriving Inhabited

/-- Why the router decided as it did. -/
inductive MeshVerdict where
  /-- The breaker refused an attempt; the mesh was not probed. -/
  | breakerOpen
  /-- The mesh does not run or has no peer. -/
  | unavailable (status : MeshStatus)
  | probeFailed (error : InferError)
  | probeTimedOut
  /-- The mesh is available; the prompt's context decides. -/
  | decided (context : RoutingContext)
deriving Inhabited

namespace MeshVerdict

/-- Whether the request goes to the mesh. -/
def useMesh : MeshVerdict → Bool
  | .decided c => c.isComplex
  | _ => false

/-- Whether the mesh was probed. -/
def probed : MeshVerdict → Bool
  | .breakerOpen => false
  | _ => true

end MeshVerdict

/-- A probe answer as the router sees it, with the milliseconds it waited: a reply later than
the timeout is cut off at the timeout. -/
def ProbeReply.within (r : ProbeReply) : Option (Except InferError MeshStatus) × Nat :=
  if r.delayMs ≤ probeTimeoutMs then (some r.result, r.delayMs) else (none, probeTimeoutMs)

/-- The verdict on messages once the breaker has allowed an attempt, from the probe's answer, and
the milliseconds spent waiting for it. -/
def judgeProbe (reply : ProbeReply) (ms : List Message) : MeshVerdict × Nat :=
  let (answer, spent) := reply.within
  let verdict := match answer with
    | none => .probeTimedOut
    | some (.error e) => .probeFailed e
    | some (.ok s) => if s.isAvailable then .decided (RoutingContext.ofMessages ms) else .unavailable s
  (verdict, spent)

/-- The verdict on messages at `now`, the breaker after asking it, and the milliseconds spent;
`reply` is the probe's answer if the mesh is probed. -/
def routeMessages (b : Breaker) (now : Nat) (reply : ProbeReply) (ms : List Message) :
    MeshVerdict × Breaker × Nat :=
  let (permitted, b') := b.permits now
  if !permitted then (.breakerOpen, b', 0)
  else
    let (verdict, spent) := judgeProbe reply ms
    (verdict, b', spent)

end InferRoute
