import InferRoute.Config.Basic
import InferRoute.Breaker
import InferRoute.Log
import InferRoute.Http.Exchange

/-!
A client session: the world the inference client's calls run in. The settings and the network
are fixed for the session; the breaker, the clock, the network's state, the log notes and the
random generator change as calls run. The clock counts milliseconds and only moves forward, by
the waits that the network answers and the client's pauses take. The random generator is the
thread's, outside the client: the session holds the values it will give, in order, and a draw
takes the next one.

A caller may abort a call after it has received some number of items (none: before it starts) or
at a time; `Abort` says when.
-/

namespace InferRoute

/-- What a session keeps fixed: the settings and the network. -/
structure ClientSetup (σ : Type) where
  config : ClientConfig
  network : Network σ

/-- What a session changes: the breaker, the clock, the network's state, the notes logged so
far, oldest first, and the random generator: `draws k b` is the value in `[-b, b]` that the `k`-th
draw from now on gives when asked for that range. -/
structure Session (σ : Type) where
  breaker : Breaker
  now : Nat
  link : σ
  notes : List LogRecord
  draws : Nat → BinaryFloat → BinaryFloat

/-- The session after one draw from its random generator. -/
def Session.drawn {σ : Type} (s : Session σ) : Session σ :=
  { s with draws := fun k => s.draws (k + 1) }

/-- A computation of the client in a session. -/
abbrev ClientM (σ : Type) := ReaderT (ClientSetup σ) (StateM (Session σ))

/-- When the caller aborts a call: once it has received `afterItems` items (`0`: before the call
starts), or at the time `atMs`, whichever comes first. -/
structure Abort where
  afterItems : Option Nat
  atMs : Option Nat
deriving Repr, DecidableEq, Inhabited

namespace Abort

/-- A call that is never aborted. -/
def never : Abort := ⟨none, none⟩

/-- Whether the call has been aborted once `received` items were received, at time `now`. -/
def fired (a : Abort) (received now : Nat) : Bool :=
  (match a.afterItems with
    | some n => decide (n ≤ received)
    | none => false) ||
  (match a.atMs with
    | some t => decide (t ≤ now)
    | none => false)

/-- The decoding limits of a stream that starts after `received` items, on a clock whose zero is
`origin`: the abort in the stream's own terms, and the deadline. -/
def control (a : Abort) (received origin : Nat) (deadline : Option Nat) : DecodeControl :=
  ⟨deadline, a.afterItems.map (· - received), a.atMs.map (· - origin)⟩

end Abort

namespace ClientM

variable {σ : Type}

/-- The settings. -/
def config : ClientM σ ClientConfig := return (← read).config

/-- The time now. -/
def now : ClientM σ Nat := return (← get).now

/-- Moves the clock to `t`, unless it is already later. -/
def advanceTo (t : Nat) : ClientM σ Unit :=
  modify fun s => { s with now := max s.now t }

/-- Logs a note. -/
def note (level : LogLevel) (target message : String) : ClientM σ Unit :=
  modify fun s => { s with notes := s.notes ++ [⟨level, target, message⟩] }

/-- Sends a request into the network and returns what became of it. -/
def send (req : HttpRequest) : ClientM σ Exchange := do
  let setup ← read
  let s ← get
  let (x, link) := setup.network.exchange s.link req
  set { s with link }
  return x

/-- The breaker. -/
def breaker : ClientM σ Breaker := return (← get).breaker

/-- Replaces the breaker, noting a change of state. -/
def setBreaker (b : Breaker) : ClientM σ Unit := do
  let before := (← breaker).state
  if before ≠ b.state then
    note .info LogTarget.breaker
      ("Circuit breaker state transition: " ++ before.name ++ " -> " ++ b.state.name)
  modify fun s => { s with breaker := b }

/-- Asks the breaker whether an attempt may go ahead now. -/
def permits : ClientM σ Bool := do
  let b ← breaker
  let (ok, b') := b.permits (← now)
  setBreaker b'
  if !ok then
    note .debug LogTarget.breaker
      ("Circuit breaker open, " ++ toString b.failures ++ " consecutive failures")
  return ok

/-- Records a failure now. -/
def recordFailure : ClientM σ Unit := do
  setBreaker ((← breaker).recordFailure (← now))

/-- Records a success. -/
def recordSuccess : ClientM σ Unit := do
  setBreaker (← breaker).recordSuccess

/-- Whether the call has been aborted once `received` items were received. -/
def aborted (a : Abort) (received : Nat) : ClientM σ Bool :=
  return a.fired received (← now)

/-- Draws a value in `[-bound, bound]` from the random generator. -/
def draw (bound : BinaryFloat) : ClientM σ BinaryFloat :=
  modifyGet fun s => (s.draws 0 bound, s.drawn)

end ClientM

end InferRoute
