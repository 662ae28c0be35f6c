import InferRoute.Retry.Policy

/-! What the retry loop does, seen from outside: which attempts it makes, where it pauses and for
how long, and what it returns. The operation is scripted: its `i`-th call returns the `i`-th of
a sequence of outcomes, and each call and each pause is noted in order. So is the random
generator: its `k`-th draw gives `rng k b` for the range `[-b, b]`. The loop's last attempt is the
first that succeeds, fails with an error the predicate refuses, or is the last one the policy
allows. The attempts are numbered from `0` to that one, each but the last followed by the
policy's backoff for it, jittered by the next draw when the policy jitters, and the loop returns
the last outcome as it came (`execute_attempts_and_pauses`). Every call of a wrapped operation
runs that loop afresh from attempt `0`, while the operation's count of calls and the generator go
on from where the last call left them.

The proof follows the loop: `executeFrom_stop` and `executeFrom_retry` say what one attempt does,
and `executeFrom_scripted` follows the attempts by induction on those still allowed. -/

namespace InferRoute

/-- A step of the retry loop that shows from outside: an attempt, with the number it is given, or
a pause of some milliseconds. -/
inductive RetryStep where
  | attempt (n : Nat)
  | pause (ms : Nat)
deriving Repr, DecidableEq

/-- The world of a scripted operation: how many times it has been called, how many values the
random generator has given, and the steps the loop has taken. -/
structure Script where
  calls : Nat
  drawn : Nat
  steps : List RetryStep
deriving Repr, DecidableEq

namespace Script

variable {ε α : Type}

/-- The operation whose `i`-th call overall (from `0`) returns `outcomes i`; each call is noted
with the attempt number it was given. -/
def operation (outcomes : Nat → Except ε α) (attempt : Nat) : StateM Script (Except ε α) :=
  modifyGet fun s =>
    (outcomes s.calls, { s with calls := s.calls + 1, steps := s.steps ++ [.attempt attempt] })

/-- The random generator whose `k`-th draw overall (from `0`) gives `rng k b` in `[-b, b]`. -/
def draw (rng : Nat → BinaryFloat → BinaryFloat) (bound : BinaryFloat) :
    StateM Script BinaryFloat :=
  modifyGet fun s => (rng s.drawn bound, { s with drawn := s.drawn + 1 })

/-- A pause, noted. -/
def pause (ms : Nat) : StateM Script Unit :=
  modify fun s => { s with steps := s.steps ++ [.pause ms] }

/-- Log records are not kept. -/
def ignore (_ : LogRecord) : StateM Script Unit := pure ()

@[simp] theorem run_operation (outcomes : Nat → Except ε α) (attempt : Nat) (s : Script) :
    (operation outcomes attempt).run s =
      pure (outcomes s.calls, ⟨s.calls + 1, s.drawn, s.steps ++ [.attempt attempt]⟩) := rfl

@[simp] theorem run_draw (rng : Nat → BinaryFloat → BinaryFloat) (bound : BinaryFloat)
    (s : Script) :
    (draw rng bound).run s = pure (rng s.drawn bound, { s with drawn := s.drawn + 1 }) := rfl

@[simp] theorem run_pause (ms : Nat) (s : Script) :
    (pause ms).run s = pure ((), { s with steps := s.steps ++ [.pause ms] }) := rfl

@[simp] theorem run_ignore (r : LogRecord) (s : Script) : (ignore r).run s = pure ((), s) := rfl

end Script

namespace RetryPolicy

variable {ε α : Type} (p : RetryPolicy) (shouldRetry : ε → Bool)

/-- Without jitter the drawn scale plays no part in the backoff. -/
theorem backoffMs_of_not_jittered (h : p.jittered = false) (attempt : Nat) (scale : BinaryFloat) :
    p.backoffMs attempt scale = p.delayMs attempt := by
  simp [backoffMs, h]

/-- The values the loop draws for `n` pauses: one each when the policy jitters, else none. -/
def drawsFor (n : Nat) : Nat := if p.jittered then n else 0

/-- Whether the loop stops after attempt `i` with outcome `o`: the attempt succeeded, its error is
not worth retrying, or it was the last attempt the policy allows. -/
def stopsAfter (i : Nat) : Except ε α → Bool
  | .ok _ => true
  | .error e => !shouldRetry e || decide (i + 1 = p.attemptLimit)

/-- The steps of a loop from attempt `a` through attempt `a + n`, the pause after attempt `i`
jittered by `scale i`: attempt `a`, and after it, for each attempt `i` that is not the last, the
pause for `i` and then attempt `i + 1`. -/
def stepsFrom (scale : Nat → BinaryFloat) (a n : Nat) : List RetryStep :=
  .attempt a :: (List.range' a n).flatMap fun i =>
    [.pause (p.backoffMs i (scale i)), .attempt (i + 1)]

theorem stepsFrom_succ (scale : Nat → BinaryFloat) (a n : Nat) :
    p.stepsFrom scale a (n + 1) =
      .attempt a :: .pause (p.backoffMs a (scale a)) :: p.stepsFrom scale (a + 1) n := by
  simp [stepsFrom, List.range'_succ]

theorem stopsAfter_of_last {i : Nat} (h : i + 1 = p.attemptLimit) (o : Except ε α) :
    p.stopsAfter shouldRetry i o = true := by
  cases o <;> simp [stopsAfter, h]

/-- The backoff draws once from the scripted generator when the policy jitters, and not at all
otherwise. -/
theorem run_backoff (rng : Nat → BinaryFloat → BinaryFloat) (attempt : Nat) (s : Script) :
    (p.backoff (Script.draw rng) attempt).run s =
      pure (p.backoffMs attempt (rng s.drawn p.jitterFactor),
        { s with drawn := s.drawn + p.drawsFor 1 }) := by
  unfold backoff drawsFor
  cases hjitter : p.jittered with
  | false => simp [backoffMs_of_not_jittered p hjitter]
  | true =>
    simp only [if_true, Functor.map]
    rfl

variable {shouldRetry} (describe : ε → String) (outcomes : Nat → Except ε α)
  (rng : Nat → BinaryFloat → BinaryFloat)

theorem run_giveUp (e : ε) (attempt : Nat) (s : Script) :
    (executeFrom.giveUp describe Script.ignore e attempt : StateM Script (Except ε α)).run s =
      pure (.error e, s) := by
  unfold executeFrom.giveUp
  split <;> rfl

/-- An attempt after which the loop stops: it is noted, and its outcome returned. -/
theorem executeFrom_stop {left a c d : Nat} (steps : List RetryStep)
    (hleft : a + left + 1 = p.attemptLimit)
    (hstop : p.stopsAfter shouldRetry a (outcomes (c + a)) = true) :
    (p.executeFrom shouldRetry describe (Script.draw rng) Script.pause Script.ignore
        (Script.operation outcomes) left a).run ⟨c + a, d, steps⟩ =
      (outcomes (c + a), ⟨c + a + 1, d, steps ++ [.attempt a]⟩) := by
  rw [executeFrom]
  simp only [StateT.run_bind, Script.run_operation, pure_bind]
  cases hout : outcomes (c + a) with
  | ok v => rfl
  | error e =>
    rw [hout] at hstop
    cases left with
    | zero => exact run_giveUp describe e a _
    | succ left =>
      -- an attempt is left, so the predicate refused the error
      have hrefused : shouldRetry e = false := by
        simpa [stopsAfter, show a + 1 ≠ p.attemptLimit by omega] using hstop
      simp only [hrefused, Bool.false_eq_true, if_false]
      exact run_giveUp describe e a _

/-- An attempt after which the loop goes on: it is noted, the loop draws its backoff and pauses
for it, and the next attempt follows with one attempt fewer left. -/
theorem executeFrom_retry {left a c d : Nat} (steps : List RetryStep)
    (hgo : p.stopsAfter shouldRetry a (outcomes (c + a)) = false) :
    (p.executeFrom shouldRetry describe (Script.draw rng) Script.pause Script.ignore
        (Script.operation outcomes) (left + 1) a).run ⟨c + a, d, steps⟩ =
      (p.executeFrom shouldRetry describe (Script.draw rng) Script.pause Script.ignore
        (Script.operation outcomes) left (a + 1)).run
          ⟨c + (a + 1), d + p.drawsFor 1,
            steps ++ [.attempt a, .pause (p.backoffMs a (rng d p.jitterFactor))]⟩ := by
  rw [executeFrom]
  simp only [StateT.run_bind, Script.run_operation, pure_bind]
  cases hout : outcomes (c + a) with
  | ok v => simp [hout, stopsAfter] at hgo
  | error e =>
    rw [hout] at hgo
    have hretry : shouldRetry e = true := by simp_all [stopsAfter]
    simp only [hretry, if_true, StateT.run_bind, run_backoff, Script.run_ignore, Script.run_pause,
      pure_bind]
    rw [Nat.add_assoc, List.append_assoc]
    rfl

/-- The draws for `n + 1` pauses are those for one and then for `n`. -/
theorem drawsFor_succ (n : Nat) : p.drawsFor (n + 1) = p.drawsFor 1 + p.drawsFor n := by
  unfold drawsFor
  split <;> omega

/-- The pause after attempt `a` uses the draw made for it: the `a`-th from the loop's start when the
policy jitters; without jitter no value counts. -/
theorem backoffMs_drawsFor (e a : Nat) :
    p.backoffMs a (rng (e + p.drawsFor a) p.jitterFactor) =
      p.backoffMs a (rng (e + a) p.jitterFactor) := by
  cases hjitter : p.jittered with
  | false => simp only [backoffMs_of_not_jittered p hjitter]
  | true => simp [drawsFor, hjitter]

/-- The loop from attempt `a`, with `left` attempts allowed after it, makes attempts `a` to
`a + n`, where `a + n` is the first after which it stops; it pauses between them as the policy
says, jittered by the draws after the `e` made before attempt `0`, and returns the outcome of the
last. `c` is the number of calls the operation had before attempt `0`. -/
theorem executeFrom_scripted (left a c e : Nat) (steps : List RetryStep)
    (hleft : a + left + 1 = p.attemptLimit) :
    ∃ n ≤ left, p.stopsAfter shouldRetry (a + n) (outcomes (c + (a + n))) = true ∧
      (∀ i < n, p.stopsAfter shouldRetry (a + i) (outcomes (c + (a + i))) = false) ∧
      (p.executeFrom shouldRetry describe (Script.draw rng) Script.pause Script.ignore
          (Script.operation outcomes) left a).run ⟨c + a, e + p.drawsFor a, steps⟩ =
        (outcomes (c + (a + n)), ⟨c + (a + n) + 1, e + p.drawsFor (a + n),
          steps ++ p.stepsFrom (fun i => rng (e + i) p.jitterFactor) a n⟩) := by
  induction left generalizing a steps with
  | zero =>
    -- the last attempt allowed always stops the loop
    have hstop := p.stopsAfter_of_last shouldRetry (i := a) (by omega) (outcomes (c + a))
    exact ⟨0, Nat.le_refl _, hstop, fun _ h => absurd h (Nat.not_lt_zero _),
      p.executeFrom_stop describe outcomes rng steps hleft hstop⟩
  | succ left ih =>
    cases hs : p.stopsAfter shouldRetry a (outcomes (c + a)) with
    | true =>
      exact ⟨0, Nat.zero_le _, hs, fun _ h => absurd h (Nat.not_lt_zero _),
        p.executeFrom_stop describe outcomes rng steps hleft hs⟩
    | false =>
      have hpause : p.backoffMs a (rng (e + p.drawsFor a) p.jitterFactor) =
          p.backoffMs a (rng (e + a) p.jitterFactor) := p.backoffMs_drawsFor rng e a
      have hdrawn : e + p.drawsFor a + p.drawsFor 1 = e + p.drawsFor (a + 1) := by
        rw [p.drawsFor_succ a]
        omega
      obtain ⟨n, hn, hstop, hgo, hrun⟩ :=
        ih (a + 1) (steps ++ [.attempt a, .pause (p.backoffMs a (rng (e + a) p.jitterFactor))])
          (by omega)
      have hshift : a + (n + 1) = a + 1 + n := by omega
      refine ⟨n + 1, by omega, by rw [hshift]; exact hstop, fun i hi => ?_, ?_⟩
      · -- attempt `a` itself went on; the later ones went on by the induction
        cases i with
        | zero => exact hs
        | succ i =>
          rw [show a + (i + 1) = a + 1 + i by omega]
          exact hgo i (by omega)
      · rw [p.executeFrom_retry describe outcomes rng steps hs, hpause, hdrawn, hrun, hshift,
          p.stepsFrom_succ]
        simp

end RetryPolicy

/-- The retry loop on an operation whose `i`-th call returns `outcomes i`, with a random generator
whose `k`-th draw gives `rng k`, from any world `s` of the operation. Its last attempt is the
first, `last`, that succeeds, fails with an error the predicate refuses, or is the last one the
policy allows. It calls the operation with `0` to `last` and no other number, pauses between
attempts `i` and `i + 1` for the policy's backoff of attempt `i` and nowhere else, that backoff
jittered by the `i`-th value drawn from `s` on when the policy jitters (and drawing nothing
otherwise), and returns the outcome of attempt `last` as it came. A call of the wrapped operation
does the same, again from attempt `0`; the operation's count of calls and the generator go on
from what they were. -/
theorem execute_attempts_and_pauses {ε α : Type} (p : RetryPolicy) (shouldRetry : ε → Bool)
    (describe : ε → String) (outcomes : Nat → Except ε α) (rng : Nat → BinaryFloat → BinaryFloat)
    (s : Script) :
    ∃ last < p.attemptLimit,
      p.stopsAfter shouldRetry last (outcomes (s.calls + last)) = true ∧
      (∀ i < last, p.stopsAfter shouldRetry i (outcomes (s.calls + i)) = false) ∧
      (p.execute shouldRetry describe (Script.draw rng) Script.pause Script.ignore
          (Script.operation outcomes)).run s =
        (outcomes (s.calls + last), ⟨s.calls + last + 1, s.drawn + p.drawsFor last,
          s.steps ++ p.stepsFrom (fun i => rng (s.drawn + i) p.jitterFactor) 0 last⟩) ∧
      ((p.wrap (Script.operation outcomes) shouldRetry).call describe (Script.draw rng)
          Script.pause Script.ignore).run s =
        (outcomes (s.calls + last), ⟨s.calls + last + 1, s.drawn + p.drawsFor last,
          s.steps ++ p.stepsFrom (fun i => rng (s.drawn + i) p.jitterFactor) 0 last⟩) := by
  have hlimit : 0 + (p.attemptLimit - 1) + 1 = p.attemptLimit := by
    unfold RetryPolicy.attemptLimit
    omega
  obtain ⟨last, hlast, hstop, hgo, hrun⟩ :=
    p.executeFrom_scripted describe outcomes rng (p.attemptLimit - 1) 0 s.calls s.drawn s.steps
      hlimit
  simp only [Nat.zero_add, Nat.add_zero] at hstop hgo hrun
  have hstart : p.drawsFor 0 = 0 := by simp [RetryPolicy.drawsFor]
  rw [hstart, Nat.add_zero] at hrun
  have hexec : (p.execute shouldRetry describe (Script.draw rng) Script.pause Script.ignore
      (Script.operation outcomes)).run s =
        (outcomes (s.calls + last), ⟨s.calls + last + 1, s.drawn + p.drawsFor last,
          s.steps ++ p.stepsFrom (fun i => rng (s.drawn + i) p.jitterFactor) 0 last⟩) := hrun
  -- a call is the policy's loop over the wrapped operation
  exact ⟨last, by omega, hstop, hgo, hexec, hexec⟩

/-- Two refusals and then a success under the standard policy, which does not jitter: three
attempts, with pauses of one and two seconds between them, and no value drawn. -/
example : (Id.run ((RetryPolicy.standard.execute (fun _ : String => true) id
    (Script.draw fun _ b => b) Script.pause Script.ignore
    (Script.operation fun i => if i < 2 then .error "refused" else .ok 7)).run
      ⟨0, 0, []⟩)).2 = ⟨3, 0, [.attempt 0, .pause 1000, .attempt 1, .pause 2000, .attempt 2]⟩ := by
  decide +kernel

end InferRoute
