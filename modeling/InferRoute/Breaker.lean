/-!
The circuit breaker in front of the local server. It counts consecutive failures: at the
threshold a closed breaker opens; an open breaker refuses attempts until the cooldown has passed
since the last failure, then lets one through half-open; a success half-open closes it and clears
the count, a failure half-open opens it again. Times are milliseconds on the caller's clock, given
with each operation, so the breaker holds no clock.
-/

namespace InferRoute

/-- The state of a breaker. -/
inductive BreakerState where
  | closed
  | opened
  | halfOpen
deriving Repr, DecidableEq, Inhabited

namespace BreakerState

/-- The state's name. -/
def name : BreakerState → String
  | .closed => "closed"
  | .opened => "open"
  | .halfOpen => "half-open"

end BreakerState

/-- How many consecutive failures open the breaker, and how long it stays open. -/
structure BreakerConfig where
  threshold : Nat
  cooldownMs : Nat
deriving Repr, DecidableEq, Inhabited

namespace BreakerConfig

/-- Five failures, one minute. -/
def standard : BreakerConfig := ⟨5, 60000⟩

end BreakerConfig

/-- The largest failure count; the count stops there. -/
def failureCountMax : Nat := Nat.pow 2 32 - 1

/-- A circuit breaker: its configuration, state, consecutive failures and the time of the last
failure. -/
structure Breaker where
  config : BreakerConfig
  state : BreakerState
  failures : Nat
  lastFailure : Option Nat
deriving Repr, DecidableEq, Inhabited

namespace Breaker

/-- A closed breaker with no failures. -/
def new (config : BreakerConfig) : Breaker := ⟨config, .closed, 0, none⟩

/-- Whether the cooldown has passed at `now` since the last failure (at once without one). -/
def cooled (b : Breaker) (now : Nat) : Bool :=
  match b.lastFailure with
  | none => true
  | some at_ => decide (b.config.cooldownMs ≤ now - at_)

/-- Whether an attempt may go ahead at `now`; an open breaker whose cooldown has passed turns
half-open and allows it. -/
def permits (b : Breaker) (now : Nat) : Bool × Breaker :=
  match b.state with
  | .closed | .halfOpen => (true, b)
  | .opened => if b.cooled now then (true, { b with state := .halfOpen }) else (false, b)

/-- A failure at `now`: the count goes up (stopping at its largest value); a closed breaker
opens at the threshold, a half-open one opens at once. -/
def recordFailure (b : Breaker) (now : Nat) : Breaker :=
  let failures := min (b.failures + 1) failureCountMax
  let state := match b.state with
    | .closed => if b.config.threshold ≤ failures then .opened else .closed
    | .halfOpen => .opened
    | .opened => .opened
  { b with failures, lastFailure := some now, state }

/-- A success: a half-open breaker closes and forgets its failures; otherwise nothing changes. -/
def recordSuccess (b : Breaker) : Breaker :=
  match b.state with
  | .halfOpen => { b with state := .closed, failures := 0 }
  | _ => b

end Breaker

end InferRoute
