import InferRoute.Breaker
import Mathlib.Data.List.Induction

/-! Runs of a circuit breaker. A run is a list of operations, each with the time on the caller's
clock at which it happens where it reads the clock: asking whether an attempt may go ahead,
recording a failure, recording a success. The bookkeeping of a breaker after any run from a new
breaker is read off the run itself: the failure count is the number of failures since the last
success that found the breaker half-open, capped at the largest count; the last failure is the
time of the latest one; the breaker is closed exactly while the count is below the threshold (at
least one); it is half-open exactly when an attempt was allowed after the cooldown since the
latest failure; and it refuses an attempt exactly when it is open and the cooldown has not
passed. -/

namespace InferRoute

namespace Breaker

/-- An operation on a breaker: asking whether an attempt may go ahead at `now`, recording a
failure at `now`, or recording a success. -/
inductive Op where
  | permit (now : Nat)
  | failure (now : Nat)
  | success
deriving Repr, DecidableEq

namespace Op

/-- The time of a failure. -/
def failureTime? : Op → Option Nat
  | .failure now => some now
  | _ => none

/-- Whether an operation, finding the breaker in `found`, closes it: a success that finds it
half-open. -/
def closes (op : Op) (found : BreakerState) : Bool :=
  op == .success && found == .halfOpen

end Op

/-- A breaker after one operation. -/
def apply (b : Breaker) : Op → Breaker
  | .permit now => (b.permits now).2
  | .failure now => b.recordFailure now
  | .success => b.recordSuccess

/-- A breaker after operations, in order. -/
def run (b : Breaker) (ops : List Op) : Breaker := ops.foldl apply b

/-- Each operation of a run with the state in which it found the breaker. -/
def trace (b : Breaker) : List Op → List (Op × BreakerState)
  | [] => []
  | op :: rest => (op, b.state) :: trace (b.apply op) rest

/-- The number of failures in a traced run since the last operation that closed the breaker. -/
def failuresSinceClose (t : List (Op × BreakerState)) : Nat :=
  (t.reverse.takeWhile fun e => !e.1.closes e.2).countP fun e => e.1.failureTime?.isSome

/-- The operations of a run after its latest failure, latest first. -/
def sinceLastFailure (ops : List Op) : List Op :=
  ops.reverse.takeWhile fun op => op.failureTime?.isNone

/-- The time of the latest failure of a run. -/
def lastFailureTime (ops : List Op) : Option Nat :=
  (ops.filterMap Op.failureTime?).getLast?

/-- Whether an attempt was allowed after the cooldown since the latest failure, at `lastFailure`:
some attempt asked after the latest failure, with at least the cooldown elapsed. -/
def probedAfterCooldown (cfg : BreakerConfig) (ops : List Op) (lastFailure : Option Nat) : Prop :=
  ∃ t at_, Op.permit t ∈ sinceLastFailure ops ∧ lastFailure = some at_ ∧ cfg.cooldownMs ≤ t - at_

@[simp] theorem run_nil (b : Breaker) : b.run [] = b := rfl

@[simp] theorem run_append_singleton (b : Breaker) (ops : List Op) (op : Op) :
    b.run (ops ++ [op]) = (b.run ops).apply op := by
  simp [run]

theorem trace_append_singleton (b : Breaker) (ops : List Op) (op : Op) :
    b.trace (ops ++ [op]) = b.trace ops ++ [(op, (b.run ops).state)] := by
  induction ops generalizing b with
  | nil => rfl
  | cons op' ops ih => simp [trace, ih, run]

@[simp] theorem sinceLastFailure_failure (ops : List Op) (now : Nat) :
    sinceLastFailure (ops ++ [.failure now]) = [] := by
  simp [sinceLastFailure, Op.failureTime?]

@[simp] theorem sinceLastFailure_permit (ops : List Op) (now : Nat) :
    sinceLastFailure (ops ++ [.permit now]) = .permit now :: sinceLastFailure ops := by
  simp [sinceLastFailure, Op.failureTime?]

@[simp] theorem sinceLastFailure_success (ops : List Op) :
    sinceLastFailure (ops ++ [.success]) = .success :: sinceLastFailure ops := by
  simp [sinceLastFailure, Op.failureTime?]

theorem probedAfterCooldown_permit (cfg : BreakerConfig) (ops : List Op) (now : Nat)
    (last : Option Nat) :
    probedAfterCooldown cfg (ops ++ [.permit now]) last ↔
      (∃ at_, last = some at_ ∧ cfg.cooldownMs ≤ now - at_) ∨ probedAfterCooldown cfg ops last := by
  simp only [probedAfterCooldown, sinceLastFailure_permit, List.mem_cons, Op.permit.injEq]
  constructor
  · rintro ⟨t, at_, rfl | hmem, hl, hc⟩
    · exact .inl ⟨at_, hl, hc⟩
    · exact .inr ⟨t, at_, hmem, hl, hc⟩
  · rintro (⟨at_, hl, hc⟩ | ⟨t, at_, hmem, hl, hc⟩)
    · exact ⟨now, at_, .inl rfl, hl, hc⟩
    · exact ⟨t, at_, .inr hmem, hl, hc⟩

@[simp] theorem probedAfterCooldown_failure (cfg : BreakerConfig) (ops : List Op) (now : Nat)
    (last : Option Nat) : ¬ probedAfterCooldown cfg (ops ++ [.failure now]) last := by
  simp [probedAfterCooldown]

@[simp] theorem probedAfterCooldown_success (cfg : BreakerConfig) (ops : List Op)
    (last : Option Nat) :
    probedAfterCooldown cfg (ops ++ [.success]) last ↔ probedAfterCooldown cfg ops last := by
  simp [probedAfterCooldown]

/-! ### One operation -/

@[simp] theorem apply_config (b : Breaker) (op : Op) : (b.apply op).config = b.config := by
  cases op with
  | permit now => simp only [apply, permits]; split <;> (try split) <;> rfl
  | failure now => rfl
  | success => simp only [apply, recordSuccess]; split <;> rfl

theorem failureCountMax_pos : 0 < failureCountMax := by decide

/-- Asking for an attempt changes at most the state, and only of an open breaker whose cooldown
has passed. -/
theorem permits_snd (b : Breaker) (now : Nat) :
    (b.permits now).2 =
      if b.state = .opened ∧ b.cooled now then { b with state := .halfOpen } else b := by
  unfold permits
  cases b.state <;> simp only [reduceCtorEq, false_and, if_false, true_and]
  split <;> simp_all

/-- An attempt is refused exactly when the breaker is open and less than the cooldown has
elapsed since the last failure. Without a recorded failure the cooldown counts as passed. -/
theorem permits_eq_false_iff (b : Breaker) (now : Nat) :
    (b.permits now).1 = false ↔
      b.state = .opened ∧ ∃ at_, b.lastFailure = some at_ ∧ now - at_ < b.config.cooldownMs := by
  unfold permits cooled
  cases hs : b.state <;> cases hl : b.lastFailure <;> simp only [reduceCtorEq, false_and]
  case opened.none => simp
  case opened.some at_ =>
    by_cases hc : b.config.cooldownMs ≤ now - at_
    · simp [hc]
    · simp [hc]
      omega

/-! ### Along a run -/

@[simp] theorem run_config (b : Breaker) (ops : List Op) : (b.run ops).config = b.config := by
  induction ops using List.reverseRecOn with
  | nil => rfl
  | append_singleton ops op ih => simp [ih]

/-- The failure count is the number of failures since the breaker last closed, capped. -/
theorem run_failures (cfg : BreakerConfig) (ops : List Op) :
    ((new cfg).run ops).failures =
      min failureCountMax (failuresSinceClose ((new cfg).trace ops)) := by
  induction ops using List.reverseRecOn with
  | nil => rfl
  | append_singleton ops op ih =>
    rw [trace_append_singleton, run_append_singleton]
    have hmax := failureCountMax_pos
    cases op with
    | permit now =>
      rw [apply, permits_snd]
      split <;> simpa [failuresSinceClose, Op.closes, Op.failureTime?] using ih
    | failure now =>
      simp only [apply, recordFailure, failuresSinceClose, Op.closes, Op.failureTime?] at ih ⊢
      simp [ih]
      omega
    | success =>
      simp only [apply, recordSuccess, failuresSinceClose, Op.closes, Op.failureTime?] at ih ⊢
      cases ((new cfg).run ops).state <;> simp [ih]

/-- The last failure is the time of the latest failure of the run. -/
theorem run_lastFailure (b : Breaker) (ops : List Op) (h : b.lastFailure = none) :
    (b.run ops).lastFailure = lastFailureTime ops := by
  induction ops using List.reverseRecOn with
  | nil => simpa [lastFailureTime] using h
  | append_singleton ops op ih =>
    rw [run_append_singleton]
    cases op with
    | permit now =>
      rw [apply, permits_snd]
      split <;> simpa [lastFailureTime, Op.failureTime?] using ih
    | failure now => simp [apply, recordFailure, lastFailureTime, Op.failureTime?]
    | success =>
      simp only [apply, recordSuccess]
      split <;> simpa [lastFailureTime, Op.failureTime?] using ih

/-- The breaker is closed exactly while the failure count is below the threshold, or below one
for a threshold of zero. -/
theorem run_closed_iff (cfg : BreakerConfig) (ops : List Op) :
    ((new cfg).run ops).state = .closed ↔ ((new cfg).run ops).failures < max cfg.threshold 1 := by
  induction ops using List.reverseRecOn with
  | nil => simp only [new, run_nil, true_iff]; omega
  | append_singleton ops op ih =>
    rw [run_append_singleton]
    -- the count never passes its largest value, and the threshold is the configured one
    have hle : ((new cfg).run ops).failures ≤ failureCountMax := by
      rw [run_failures]; exact Nat.min_le_left _ _
    have hcfg : ((new cfg).run ops).config = cfg := run_config _ _
    have hmax := failureCountMax_pos
    generalize (new cfg).run ops = b at ih hle hcfg
    subst hcfg
    cases op with
    | permit now =>
      rw [apply, permits_snd]
      split
      · next h => simp [h.1] at ih; simpa using ih
      · exact ih
    | failure now =>
      simp only [apply, recordFailure]
      cases hs : b.state <;> simp only [hs, reduceCtorEq, false_iff, true_iff] at ih ⊢
      · split <;> simp <;> omega
      · omega
      · omega
    | success =>
      simp only [apply, recordSuccess]
      split
      · simp only [true_iff]; omega
      · exact ih

/-- Once the breaker has left the closed state it has a recorded failure. -/
theorem run_lastFailure_isSome (cfg : BreakerConfig) (ops : List Op)
    (h : ((new cfg).run ops).state ≠ .closed) : ((new cfg).run ops).lastFailure.isSome := by
  induction ops using List.reverseRecOn with
  | nil => simp [new] at h
  | append_singleton ops op ih =>
    rw [run_append_singleton] at h ⊢
    generalize (new cfg).run ops = b at ih h
    cases op with
    | permit now =>
      rw [apply, permits_snd] at h ⊢
      split
      · next hc => exact ih (by simp [hc.1])
      · next hc => rw [if_neg hc] at h; exact ih h
    | failure now => simp [apply, recordFailure]
    | success =>
      simp only [apply, recordSuccess] at h ⊢
      cases hs : b.state <;> simp_all

/-- Of the two states other than closed, the breaker is half-open exactly when an attempt was
allowed after the cooldown since the latest failure, and open otherwise. -/
theorem run_halfOpen_iff (cfg : BreakerConfig) (ops : List Op)
    (h : ((new cfg).run ops).state ≠ .closed) :
    ((new cfg).run ops).state = .halfOpen ↔
      probedAfterCooldown cfg ops ((new cfg).run ops).lastFailure := by
  induction ops using List.reverseRecOn with
  | nil => simp [new] at h
  | append_singleton ops op ih =>
    have hsome := run_lastFailure_isSome cfg ops
    have hcfg : ((new cfg).run ops).config = cfg := run_config _ _
    rw [run_append_singleton] at h ⊢
    generalize (new cfg).run ops = b at ih h hsome hcfg
    subst hcfg
    cases op with
    | permit now =>
      rw [apply, permits_snd] at h ⊢
      rw [probedAfterCooldown_permit]
      cases hs : b.state
      case closed => simp [hs] at h
      case halfOpen => simp [hs] at ih ⊢; exact .inr ih
      case opened =>
        -- an open breaker turns half-open exactly when this attempt comes after the cooldown
        obtain ⟨at_, hat⟩ := Option.isSome_iff_exists.1 (hsome (by simp [hs]))
        have hold : ¬ probedAfterCooldown b.config ops b.lastFailure := by
          simpa [hs] using ih
        by_cases hc : b.config.cooldownMs ≤ now - at_
        · have hcool : b.cooled now = true := by simp [cooled, hat, hc]
          simp only [hcool, and_self, if_true, true_iff]
          exact .inl ⟨at_, hat, hc⟩
        · have hcool : b.cooled now = false := by simp [cooled, hat, hc]
          simpa [hs, hcool, hat, hc] using hold
    | failure now =>
      simp only [apply, recordFailure, probedAfterCooldown_failure, iff_false]
      cases b.state <;> simp only [reduceCtorEq, not_false_eq_true]
      split <;> simp
    | success =>
      simp only [apply, recordSuccess, probedAfterCooldown_success] at h ⊢
      cases hs : b.state <;> simp_all

/-- A failure on a breaker reached from a new one opens it exactly when the count reaches the
threshold, for a threshold the count can reach: a breaker that is not closed has reached it. -/
theorem recordFailure_opened_iff {cfg : BreakerConfig} (ops : List Op) (now : Nat)
    (hthreshold : cfg.threshold ≤ failureCountMax) :
    (((new cfg).run ops).recordFailure now).state = .opened ↔
      cfg.threshold ≤ ((new cfg).run ops).failures + 1 := by
  have hclosed := run_closed_iff cfg ops
  have hconfig : ((new cfg).run ops).config = cfg := run_config _ ops
  unfold recordFailure
  cases hs : ((new cfg).run ops).state with
  | closed =>
    simp only [hconfig]
    -- the count is capped, but the threshold is within the cap
    split
    · simp only [true_iff]
      omega
    · simp only [reduceCtorEq, false_iff]
      omega
  | opened | halfOpen =>
    -- a breaker that is not closed has counted at least the threshold
    have : ¬ ((new cfg).run ops).failures < max cfg.threshold 1 := fun h => by
      cases hs.symm.trans (hclosed.2 h)
    simp only [true_iff]
    omega

/-- The bookkeeping of a breaker after any run from a new breaker, read off the run: the count of
failures since it last closed, capped; the time of the latest failure; closed exactly below the
threshold (at least one); half-open exactly after an attempt allowed past the cooldown since the
latest failure; refusing exactly while open within the cooldown. -/
theorem run_new_bookkeeping (cfg : BreakerConfig) (ops : List Op) :
    let b := (new cfg).run ops
    b.failures = min failureCountMax (failuresSinceClose ((new cfg).trace ops)) ∧
    b.lastFailure = lastFailureTime ops ∧
    (b.state = .closed ↔ b.failures < max cfg.threshold 1) ∧
    (b.state ≠ .closed → (b.state = .halfOpen ↔ probedAfterCooldown cfg ops b.lastFailure)) ∧
    ∀ now, (b.permits now).1 = false ↔
      b.state = .opened ∧ ∃ at_, b.lastFailure = some at_ ∧ now - at_ < cfg.cooldownMs := by
  refine ⟨run_failures cfg ops, run_lastFailure _ ops rfl, run_closed_iff cfg ops,
    run_halfOpen_iff cfg ops, fun now => ?_⟩
  rw [permits_eq_false_iff, run_config]
  rfl

end Breaker

end InferRoute
