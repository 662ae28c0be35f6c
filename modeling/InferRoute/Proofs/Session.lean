import InferRoute.Client.Call

/-! Running the client's computations. Each step of a session is executed by a `@[simp]` equation
that says what it returns and which fields of the session it changes, so that a call can be
followed line by line. On top of these: opening a stream changes only the network's state and
the clock, fails only with an error of its own backend, is cut short only by an abort at a time,
and waits for ever only without a deadline; the routing decision changes the breaker exactly as
one query of the breaker does. -/

namespace InferRoute

/-- The backend an error is about: the one whose request or stream failed. -/
def InferError.backend? : InferError → Option String
  | .transport backend _ | .http backend _ _ | .missingBody backend | .timeout backend _ => backend
  | .localUnavailable | .config _ | .io _ | .serialization _ => none

/-- An error about a backend is worth retrying. -/
theorem InferError.retryable_of_backend {e : InferError} {backend : String}
    (h : e.backend? = some backend) : e.retryable = true := by
  cases e with
  | transport | http | missingBody | timeout => rfl
  | localUnavailable | config | io | serialization => cases h

namespace Abort

@[simp] theorem fired_never (received now : Nat) : Abort.never.fired received now = false := rfl

@[simp] theorem never_atMs : Abort.never.atMs = none := rfl

@[simp] theorem control_never (received origin deadline : Nat) :
    Abort.never.control received origin (some deadline) = ⟨some deadline, none, none⟩ := rfl

@[simp] theorem control_never_none (received origin : Nat) :
    Abort.never.control received origin none = .none := rfl

end Abort

namespace WaitEnd

variable {α : Type}

/-- A wait that only its value can end gets the value when it comes, and never ends otherwise. -/
theorem byValue_cases (value : α) (done : Option Nat) :
    (∃ t, done = some t ∧ race.byValue value done = .came value t) ∨
      (done = none ∧ race.byValue value done = .never) := by
  cases done with
  | some t => exact .inl ⟨t, rfl, rfl⟩
  | none => exact .inr ⟨rfl, rfl⟩

/-- A wait that no abort cuts short ends by its deadline, by its value, or, with neither of them,
never. -/
theorem noAbort_cases (deadline : Option Nat) (value : α) (done : Option Nat) :
    (∃ d, deadline = some d ∧ race.noAbort deadline value done = .overdue d) ∨
      (∃ t, done = some t ∧ race.noAbort deadline value done = .came value t) ∨
      (deadline = none ∧ done = none ∧ race.noAbort deadline value done = .never) := by
  cases deadline with
  | some d =>
    by_cases hd : noLaterThan d done = true
    · exact .inl ⟨d, rfl, by simp [race.noAbort, hd]⟩
    · -- the value comes before the deadline, so it comes
      obtain ⟨t, rfl⟩ : ∃ t, done = some t := by cases done <;> simp_all [noLaterThan]
      exact .inr (.inl ⟨t, rfl, by simp [race.noAbort, race.byValue, hd]⟩)
  | none =>
    rcases byValue_cases value done with ⟨t, rfl, h⟩ | ⟨rfl, h⟩
    · exact .inr (.inl ⟨t, rfl, h⟩)
    · exact .inr (.inr ⟨rfl, rfl, h⟩)

/-- How a wait ends: by the abort, by the deadline, by the value, or, with none of them, never. -/
theorem race_cases (abortAt deadline : Option Nat) (value : α) (done : Option Nat) :
    (∃ c, abortAt = some c ∧ race abortAt deadline value done = .aborted c) ∨
      (∃ d, deadline = some d ∧ race abortAt deadline value done = .overdue d) ∨
      (∃ t, done = some t ∧ race abortAt deadline value done = .came value t) ∨
      (deadline = none ∧ done = none ∧ race abortAt deadline value done = .never) := by
  cases abortAt with
  | some c =>
    by_cases hc : (noLaterThan c done && noLaterThan c deadline) = true
    · exact .inl ⟨c, rfl, by simp [race, hc]⟩
    · have hrace : race (some c) deadline value done = race.noAbort deadline value done := by
        simp [race, hc]
      rw [hrace]
      exact .inr (noAbort_cases deadline value done)
  | none => exact .inr (noAbort_cases deadline value done)

variable {abortAt deadline done : Option Nat} {value : α}

/-- Only an abort at a time cuts a wait short. -/
theorem race_aborted {t : Nat} (h : race abortAt deadline value done = .aborted t) :
    abortAt = some t := by
  rcases race_cases abortAt deadline value done with
    ⟨c, hc, hw⟩ | ⟨_, _, hw⟩ | ⟨_, _, hw⟩ | ⟨_, _, hw⟩ <;> rw [hw] at h <;> cases h
  exact hc

/-- A wait with a deadline always ends. -/
theorem race_ne_never (hd : deadline.isSome) : race abortAt deadline value done ≠ .never := by
  intro h
  rcases race_cases abortAt deadline value done with
    ⟨_, _, hw⟩ | ⟨_, _, hw⟩ | ⟨_, _, hw⟩ | ⟨hnone, -, -⟩
  · exact nomatch hw.symm.trans h
  · exact nomatch hw.symm.trans h
  · exact nomatch hw.symm.trans h
  · simp [hnone] at hd

/-- What a wait receives is the value waited for. -/
theorem race_came {v : α} {t : Nat} (h : race abortAt deadline value done = .came v t) :
    v = value := by
  rcases race_cases abortAt deadline value done with
    ⟨_, _, hw⟩ | ⟨_, _, hw⟩ | ⟨_, _, hw⟩ | ⟨_, _, hw⟩ <;> rw [hw] at h <;> cases h
  rfl

/-- What a wait with a deadline receives came before the deadline. -/
theorem race_came_before {d t : Nat} {v : α} (h : race abortAt (some d) value done = .came v t) :
    done = some t ∧ t < d := by
  have hno : race.noAbort (some d) value done = .came v t := by
    unfold race at h
    split at h
    · split at h
      · cases h
      · exact h
    · exact h
  cases done with
  | none => simp [race.noAbort, noLaterThan] at hno
  | some t' =>
    by_cases hd : d ≤ t'
    · simp [race.noAbort, noLaterThan, hd] at hno
    · simp [race.noAbort, race.byValue, noLaterThan, hd] at hno
      exact ⟨congrArg some hno.2, by omega⟩

end WaitEnd

namespace ClientM

variable {σ α β : Type} (setup : ClientSetup σ) (s : Session σ)

-- The equations are proved `by rfl` rather than by the term `rfl`: `simp` then rewrites with
-- them as ordinary equations, so the conditions of the `if`s that follow keep well-typed
-- `Decidable` instances.

@[simp] theorem run_pure (a : α) : ((pure a : ClientM σ α).run setup).run s = (a, s) := by rfl

@[simp] theorem run_bind (x : ClientM σ α) (f : α → ClientM σ β) :
    ((x >>= f).run setup).run s =
      ((f ((x.run setup).run s).1).run setup).run ((x.run setup).run s).2 := by rfl

@[simp] theorem run_config : ((config : ClientM σ ClientConfig).run setup).run s =
    (setup.config, s) := by rfl

@[simp] theorem run_now : ((now : ClientM σ Nat).run setup).run s = (s.now, s) := by rfl

@[simp] theorem run_advanceTo (t : Nat) :
    ((advanceTo t : ClientM σ Unit).run setup).run s = ((), { s with now := max s.now t }) := by rfl

@[simp] theorem run_note (level : LogLevel) (target message : String) :
    ((note level target message : ClientM σ Unit).run setup).run s =
      ((), { s with notes := s.notes ++ [⟨level, target, message⟩] }) := by rfl

@[simp] theorem run_send (req : HttpRequest) :
    ((send req : ClientM σ Exchange).run setup).run s =
      ((setup.network.exchange s.link req).1,
        { s with link := (setup.network.exchange s.link req).2 }) := by rfl

@[simp] theorem run_aborted (abort : Abort) (received : Nat) :
    ((aborted abort received : ClientM σ Bool).run setup).run s =
      (abort.fired received s.now, s) := by rfl

@[simp] theorem run_breaker : ((breaker : ClientM σ Breaker).run setup).run s = (s.breaker, s) := by
  rfl

/-- Replacing the breaker changes nothing else but the notes. -/
theorem run_setBreaker (b : Breaker) :
    ∃ notes, ((setBreaker b : ClientM σ Unit).run setup).run s = ((), { s with breaker := b, notes }) := by
  simp only [setBreaker, run_bind, run_breaker]
  split
  · exact ⟨_, rfl⟩
  · exact ⟨_, rfl⟩

/-- Asking the breaker answers as the breaker does at the session's time, and leaves the breaker
as that answer does. -/
theorem run_permits :
    ∃ notes, ((permits : ClientM σ Bool).run setup).run s =
      ((s.breaker.permits s.now).1, { s with breaker := (s.breaker.permits s.now).2, notes }) := by
  obtain ⟨notes, h⟩ := run_setBreaker setup s (s.breaker.permits s.now).2
  simp only [permits, run_bind, run_breaker, run_now, h]
  cases (s.breaker.permits s.now).1
  · exact ⟨_, rfl⟩
  · exact ⟨_, rfl⟩

theorem run_recordFailure :
    ∃ notes, ((recordFailure : ClientM σ Unit).run setup).run s =
      ((), { s with breaker := s.breaker.recordFailure s.now, notes }) := by
  obtain ⟨notes, h⟩ := run_setBreaker setup s (s.breaker.recordFailure s.now)
  exact ⟨notes, h⟩

theorem run_recordSuccess :
    ∃ notes, ((recordSuccess : ClientM σ Unit).run setup).run s =
      ((), { s with breaker := s.breaker.recordSuccess, notes }) := by
  obtain ⟨notes, h⟩ := run_setBreaker setup s s.breaker.recordSuccess
  exact ⟨notes, h⟩

/-- An answer to a stream request that is an error is an error of the request's backend. -/
theorem streamAnswer_backend (backend : String) (url : Url) (start : Nat) (x : Exchange)
    {e : InferError} (h : (streamAnswer backend url start x).1 = .error e) :
    e.backend? = some backend := by
  unfold streamAnswer at h
  split at h
  · cases h; rfl
  · split at h
    · split at h
      · cases h; rfl
      · cases h
    · split at h <;> cases h <;> rfl

/-- Sending a stream request changes only the network's state, and an answer that is an error
is an error of the request's backend. -/
theorem requestStream_spec (backend address : String) (accept : Option String) (body : Json)
    (start : Nat) :
    let r := ((requestStream backend address accept body start : ClientM σ _).run setup).run s
    (∃ link, r.2 = { s with link }) ∧ ∀ e, r.1.1 = .error e → e.backend? = some backend := by
  unfold requestStream
  split
  · exact ⟨⟨s.link, rfl⟩, fun e he => by cases he; rfl⟩
  · simp only [run_bind, run_send, run_pure]
    exact ⟨⟨_, rfl⟩, fun e he => streamAnswer_backend backend _ start _ he⟩

/-- Settling a wait moves only the clock. The opening is aborted, waits for ever or fails only
when the wait did: aborted, never ending, overdue, or receiving an error. -/
theorem settleOpening_spec (backend : String) (budget : Option Nat)
    (w : WaitEnd (Except InferError (ReadSchedule × Nat))) :
    let r := ((settleOpening backend budget w : ClientM σ Opening).run setup).run s
    (∃ now, r.2 = { s with now }) ∧ (r.1 = .aborted → ∃ t, w = .aborted t) ∧
      (r.1 = .stalled → w = .never) ∧
      (∀ e, r.1 = .failed e →
        (∃ t, w = .overdue t ∧ e = .timeout backend (budget.getD 0)) ∨ ∃ t, w = .came (.error e) t) := by
  cases w with
  | aborted t => simp only [settleOpening, run_bind, run_advanceTo, run_pure]; simp
  | overdue t => simp only [settleOpening, run_bind, run_advanceTo, run_pure]; simp
  | came answer t =>
    cases answer with
    | error e => simp only [settleOpening, run_bind, run_advanceTo, run_pure]; simp
    | ok opened =>
      obtain ⟨schedule, headers⟩ := opened
      simp only [settleOpening, run_bind, run_advanceTo, run_pure]; simp
  | never => exact ⟨⟨s.now, rfl⟩, by simp [settleOpening]⟩

/-- Opening a stream changes only the network's state and the clock. It is cut short only by
an abort at a time, waits for ever only without a deadline, and fails only with an error of its
own backend. -/
theorem openStream_spec (backend address : String) (accept : Option String) (body : Json)
    (abort : Abort) (budget : Option Nat) :
    let r := ((openStream backend address accept body abort budget : ClientM σ Opening).run
      setup).run s
    (∃ link now, r.2 = { s with link, now }) ∧ (r.1 = .aborted → abort.atMs.isSome) ∧
      (r.1 = .stalled → budget = none) ∧ (∀ e, r.1 = .failed e → e.backend? = some backend) := by
  simp only [openStream, run_bind, run_now]
  obtain ⟨⟨link, hlink⟩, hanswer⟩ := requestStream_spec setup s backend address accept body s.now
  generalize ((requestStream backend address accept body s.now : ClientM σ _).run setup).run s = req
    at hlink hanswer ⊢
  obtain ⟨⟨answer, done⟩, s'⟩ := req
  subst hlink
  obtain ⟨⟨now, hnow⟩, haborted, hstalled, hfailed⟩ :=
    settleOpening_spec setup { s with link } backend budget
      (WaitEnd.race abort.atMs (budget.map (s.now + ·)) answer done)
  refine ⟨⟨link, now, hnow⟩, fun h => ?_, fun h => ?_, fun e h => ?_⟩
  · obtain ⟨t, ht⟩ := haborted h
    simp [WaitEnd.race_aborted ht]
  · cases budget with
    | none => rfl
    | some b => exact absurd (hstalled h) (WaitEnd.race_ne_never (by simp))
  · rcases hfailed e h with ⟨t, -, rfl⟩ | ⟨t, ht⟩
    · rfl
    · cases WaitEnd.race_came ht
      exact hanswer e rfl

/-- Probing the mesh changes only the network's state. -/
theorem probeMesh_frame :
    ∃ link, (((probeMesh : ClientM σ ProbeReply).run setup).run s).2 = { s with link } := by
  simp only [probeMesh, run_bind, run_config]
  split
  · exact ⟨s.link, rfl⟩
  · simp only [run_bind, run_send, run_pure]
    exact ⟨_, rfl⟩

/-- Deciding whether messages go to the mesh asks the breaker once, at the session's time, and
changes the breaker only as that question does. -/
theorem shouldUseMesh_frame (ms : List Message) :
    ∃ link now notes, (((shouldUseMesh ms : ClientM σ Bool).run setup).run s).2 =
      { s with breaker := (s.breaker.permits s.now).2, link, now, notes } := by
  obtain ⟨notes, hpermits⟩ := run_permits setup s
  simp only [shouldUseMesh, run_bind, hpermits]
  cases (s.breaker.permits s.now).1
  · simp only [Bool.not_false, if_true, run_bind, run_note, run_pure]
    exact ⟨_, _, _, rfl⟩
  · obtain ⟨link, hprobe⟩ := probeMesh_frame setup
      { s with breaker := (s.breaker.permits s.now).2, notes }
    simp only [Bool.not_true, Bool.false_eq_true, if_false, run_bind, run_now, hprobe,
      run_advanceTo, run_note, run_pure]
    exact ⟨_, _, _, rfl⟩

end ClientM

end InferRoute
