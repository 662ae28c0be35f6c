import InferRoute.Number.Binary
import InferRoute.Log
import InferRoute.Error

/-!
Retrying an operation. Attempt `a` (from 0) is followed, if it fails with an error worth
retrying and fewer than `maxAttempts` attempts have been made (at least one always is), by a
pause of `initial · multiplier^a` milliseconds, at most `maxMs`. The pause is computed in 32-bit
floating point as a deployed client computes it: the power by repeated squaring with the attempt
taken as a signed 32-bit number, the product rounded, and the conversion to whole milliseconds
truncating and saturating.

A policy with a positive jitter factor (clamped to `[0, 1]`) moves each pause by a random share
of itself: a scale drawn from the random generator in `[-factor, factor]`, times the pause in
32-bit floating point, rounded half away from zero to a signed 64-bit number of milliseconds and
added to the pause, at least zero. The generator is a parameter of the loop; a policy without
jitter never asks it. The addition wraps in 64 bits, as a release build does; a dev build stops
with a panic where it would wrap.
-/

namespace InferRoute

/-- How often and how patiently to retry. `multiplier` and `jitter` are 32-bit floats. -/
structure RetryPolicy where
  maxAttempts : Nat
  initialMs : Nat
  maxMs : Nat
  multiplier : BinaryFloat
  jitter : BinaryFloat
deriving Repr, Inhabited

/-- An operation that retries itself: the operation, its policy, and the predicate that picks
the errors worth retrying. -/
structure Retrying (m : Type → Type) (ε α : Type) where
  policy : RetryPolicy
  operation : Nat → m (Except ε α)
  shouldRetry : ε → Bool

namespace RetryPolicy

/-- Three attempts, one second doubling up to ten seconds, no jitter. -/
def standard : RetryPolicy :=
  ⟨3, 1000, 10000, FloatFormat.binary32.ofNat 2, FloatFormat.binary32.ofNat 0⟩

/-- The largest unsigned 64-bit integer, where a pause saturates. -/
def u64Max : Nat := Nat.pow 2 64 - 1

/-- The two's complement value of the lowest `width` bits of `n`. -/
def asSigned (width : Nat) (n : Int) : Int := n.bmod (Nat.pow 2 width)

/-- The pause in milliseconds after failed attempt `attempt`, before any jitter. -/
def delayMs (p : RetryPolicy) (attempt : Nat) : Nat :=
  let f32 := FloatFormat.binary32
  let pow := f32.powInt p.multiplier (asSigned 32 attempt)
  let delay := (f32.mul (f32.ofNat p.initialMs) pow).toNatSat u64Max
  min delay p.maxMs

/-- The jitter factor held within `[0, 1]`. -/
def jitterFactor (p : RetryPolicy) : BinaryFloat :=
  p.jitter.clamp (FloatFormat.binary32.ofNat 0) (FloatFormat.binary32.ofNat 1)

/-- Whether the pauses are jittered: the factor is above zero. -/
def jittered (p : RetryPolicy) : Bool := p.jitterFactor.isPositive

/-- A pause of `delay` milliseconds moved by the drawn `scale`: the delay times the scale in
32-bit floating point, rounded half away from zero to a signed 64-bit number, added to the delay
read as a signed 64-bit number, the sum wrapping in 64 bits and taken as at least zero. -/
def jitteredMs (delay : Nat) (scale : BinaryFloat) : Nat :=
  let f32 := FloatFormat.binary32
  let shift := (f32.roundToIntegral (f32.mul (f32.ofNat delay) scale)).toIntSat
    (-((Nat.pow 2 63 : Nat) : Int)) ((Nat.pow 2 63 - 1 : Nat) : Int)
  (max (asSigned 64 (asSigned 64 delay + shift)) 0).toNat

/-- The pause after failed attempt `attempt` when the generator draws `scale`: jittered by it when
the policy jitters, else the plain delay. -/
def backoffMs (p : RetryPolicy) (attempt : Nat) (scale : BinaryFloat) : Nat :=
  if p.jittered then jitteredMs (p.delayMs attempt) scale else p.delayMs attempt

/-- The pause after failed attempt `attempt`, asking `draw` for a scale in `[-bound, bound]` only
when the policy jitters. -/
def backoff {m : Type → Type} [Monad m] (p : RetryPolicy) (draw : BinaryFloat → m BinaryFloat)
    (attempt : Nat) : m Nat :=
  if p.jittered then p.backoffMs attempt <$> draw p.jitterFactor else pure (p.delayMs attempt)

/-- The number of attempts allowed: `maxAttempts`, but at least one. -/
def attemptLimit (p : RetryPolicy) : Nat := max p.maxAttempts 1

/-- Whether a failure of attempt `attempt` is followed by another attempt. -/
def allowsRetry (p : RetryPolicy) (attempt : Nat) (retryable : Bool) : Bool :=
  decide (attempt + 1 < p.attemptLimit) && retryable

section Execute

variable {m : Type → Type} [Monad m] {ε α : Type}

/-- The retry loop from attempt `attempt`, with `left` more attempts allowed after it. Each
retried failure is followed by its backoff, drawn by `draw` when the policy jitters, noted as a
warning, and then a pause; a final failure after earlier attempts is noted at debug level. -/
def executeFrom (p : RetryPolicy) (shouldRetry : ε → Bool) (describe : ε → String)
    (draw : BinaryFloat → m BinaryFloat) (pause : Nat → m Unit) (note : LogRecord → m Unit)
    (op : Nat → m (Except ε α)) : Nat → Nat → m (Except ε α)
  | left, attempt => do
    match ← op attempt with
    | .ok v => pure (.ok v)
    | .error e =>
      match left with
      | 0 => giveUp e attempt
      | left + 1 =>
        if shouldRetry e then
          let d ← p.backoff draw attempt
          note ⟨.warn, LogTarget.retry, "Attempt " ++ toString (attempt + 1) ++
            " failed, retrying in " ++ toString d ++ "ms: " ++ describe e⟩
          pause d
          executeFrom p shouldRetry describe draw pause note op left (attempt + 1)
        else giveUp e attempt
where
  /-- Returns the failure, noting it when it ends more than one attempt. -/
  giveUp (e : ε) (attempt : Nat) : m (Except ε α) := do
    if attempt > 0 then
      note ⟨.debug, LogTarget.retry, "Giving up after " ++ toString (attempt + 1) ++
        " attempts: " ++ describe e⟩
    pure (.error e)

/-- Runs `op` with attempts `0, 1, …` until it succeeds, fails with an error not worth retrying,
or the attempts allowed are used up; pauses by `pause` between attempts, for a backoff whose
jitter `draw` draws. -/
def execute (p : RetryPolicy) (shouldRetry : ε → Bool) (describe : ε → String)
    (draw : BinaryFloat → m BinaryFloat) (pause : Nat → m Unit) (note : LogRecord → m Unit)
    (op : Nat → m (Except ε α)) : m (Except ε α) :=
  executeFrom p shouldRetry describe draw pause note op (p.attemptLimit - 1) 0

end Execute

/-- Bundles an operation with the policy and the predicate that picks the errors worth
retrying. -/
def wrap {m : Type → Type} {ε α : Type} (p : RetryPolicy) (operation : Nat → m (Except ε α))
    (shouldRetry : ε → Bool) : Retrying m ε α :=
  ⟨p, operation, shouldRetry⟩

end RetryPolicy

namespace Retrying

variable {m : Type → Type} [Monad m] {ε α : Type}

/-- One call: the policy's loop over the operation, from attempt `0`. Whatever the operation
and the random generator keep from one call to the next lives in the monad. -/
def call (r : Retrying m ε α) (describe : ε → String) (draw : BinaryFloat → m BinaryFloat)
    (pause : Nat → m Unit) (note : LogRecord → m Unit) : m (Except ε α) :=
  r.policy.execute r.shouldRetry describe draw pause note r.operation

end Retrying

end InferRoute
