import InferRoute.Proofs.Call

/-! Retrying a completion call. A retrying call runs whole calls on the same messages, under the
caller's abort, one after another. It starts another only when the last one's first item is an
error that the predicate accepts and the policy allows one more attempt, and only after the pause
the policy gives for that attempt (`pauseAfter`): the backoff, moved by the session generator's
next value when the policy jitters, which then moves the generator on (`afterBackoff`). An abort
during that pause ends the call there. It yields every
item of the first attempt whose first item is not an error, an error that comes later included,
or else the error of the last attempt alone. `RetryRun` states this on its own terms,
`run_createMessageWithRetry` shows the retrying call satisfies it, and
`createMessageWithRetry_attempts` is the case of a call that is never aborted. -/

namespace InferRoute

namespace ClientM

variable {σ α β : Type} (setup : ClientSetup σ) (s : Session σ)

/-! ### Running computations that may be cut short -/

@[simp] theorem runOpt_pure (a : α) :
    (((pure a : OptionT (ClientM σ) α).run).run setup).run s = (some a, s) := by rfl

@[simp] theorem runOpt_failure :
    (((failure : OptionT (ClientM σ) α).run).run setup).run s = (none, s) := by rfl

@[simp] theorem runOpt_lift (x : ClientM σ α) :
    (((OptionT.lift x : OptionT (ClientM σ) α).run).run setup).run s =
      (some ((x.run setup).run s).1, ((x.run setup).run s).2) := by rfl

theorem runOpt_bind (x : OptionT (ClientM σ) α) (f : α → OptionT (ClientM σ) β) :
    (((x >>= f).run).run setup).run s =
      match ((x.run).run setup).run s with
      | (some a, s') => (((f a).run).run setup).run s'
      | (none, s') => (none, s') := by
  rw [OptionT.run_bind]
  simp only [Option.elimM, run_bind]
  rcases ((x.run).run setup).run s with ⟨_ | a, s'⟩ <;> rfl

/-! ### The parts of a retrying call -/

/-- What an attempt hands the retry loop: the error its first item is, or all its items. -/
def attemptOutcome : List ClientItem → Except InferError (List ClientItem)
  | .error e :: _ => .error e
  | items => .ok items

/-- The items a retrying call yields for the outcome of its loop: none when the loop was cut short
by the abort. -/
def outcomeItems : Option (Except InferError (List ClientItem)) → List ClientItem
  | some (.ok items) => items
  | some (.error e) => [.error e]
  | none => []

variable {setup s}

/-- An attempt is the whole call, run from the session with the attempt's note logged. It hands
the loop nothing when the call yielded nothing because of the abort. -/
theorem run_attemptOnce (abort : Abort) (ms : List Message) (attempt : Nat) :
    ∃ notes, let call := ((streamMessages ms abort).run setup).run { s with notes }
    (((attemptOnce ms abort attempt : OptionT (ClientM σ) _).run).run setup).run s =
      (if call.1.isEmpty && abort.fired 0 call.2.now then none else some (attemptOutcome call.1),
        call.2) := by
  unfold attemptOnce
  split
  · -- a later attempt notes that it starts, then runs the call
    refine ⟨s.notes ++ [⟨.debug, LogTarget.client, "Starting inference attempt " ++
      toString (attempt + 1)⟩], ?_⟩
    simp only [runOpt_bind, runOpt_lift, run_note]
    rcases ((streamMessages ms abort : ClientM σ _).run setup).run
      { s with notes := s.notes ++ _ } with ⟨_ | ⟨_ | _, _⟩, s1⟩
    · -- nothing came: the loop is handed nothing exactly when the abort has fired
      simp only [runOpt_bind, runOpt_lift, run_aborted]
      cases abort.fired 0 s1.now <;> rfl
    all_goals rfl
  · -- the first attempt runs the call at once
    refine ⟨s.notes, ?_⟩
    simp only [runOpt_bind, runOpt_lift]
    rcases ((streamMessages ms abort : ClientM σ _).run setup).run s with
      ⟨_ | ⟨_ | _, _⟩, s1⟩
    · simp only [runOpt_bind, runOpt_lift, run_aborted]
      cases abort.fired 0 s1.now <;> rfl
    all_goals rfl

/-- The pause a retrying call takes after failed attempt `attempt` in session `s`: the policy's
backoff, jittered by the generator's next value when the policy jitters. -/
def pauseAfter (policy : RetryPolicy) (attempt : Nat) (s : Session σ) : Nat :=
  policy.backoffMs attempt (s.draws 0 policy.jitterFactor)

/-- The session once that pause is drawn: the generator moves on only when the policy
jitters. -/
def afterBackoff (policy : RetryPolicy) (s : Session σ) : Session σ :=
  { s with draws := if policy.jittered then s.drawn.draws else s.draws }

/-- A retrying call's backoff draws from the session's generator exactly when the policy
jitters. -/
theorem runOpt_backoff (policy : RetryPolicy) (attempt : Nat) :
    (((policy.backoff (fun b => OptionT.lift (draw b)) attempt : OptionT (ClientM σ) Nat).run).run
      setup).run s = (some (pauseAfter policy attempt s), afterBackoff policy s) := by
  unfold RetryPolicy.backoff pauseAfter afterBackoff
  cases hjitter : policy.jittered with
  | false =>
    -- nothing is drawn, and the generator's next value plays no part
    simp only [Bool.false_eq_true, if_false, runOpt_pure, RetryPolicy.backoffMs, hjitter]
  | true =>
    simp only [if_true]
    rfl

/-- A pause that ends before the abort moves the clock on by its length. -/
theorem run_pauseUnlessAborted_done {abort : Abort} (ms : Nat)
    (h : ∀ c, abort.atMs = some c → s.now + ms < c) :
    (((pauseUnlessAborted abort ms : OptionT (ClientM σ) Unit).run).run setup).run s =
      (some (), { s with now := s.now + ms }) := by
  unfold pauseUnlessAborted
  cases hc : abort.atMs with
  | none =>
    simp only [runOpt_bind, runOpt_lift, run_now, run_advanceTo, Nat.le_add_right,
      Nat.max_eq_right]
  | some c =>
    have hlate := h c hc
    simp only [runOpt_bind, runOpt_lift, run_now, run_advanceTo, Nat.le_add_right,
      Nat.max_eq_right, show ¬c ≤ s.now + ms by omega, if_false]

/-- An abort during a pause ends it there, and the loop with it. -/
theorem run_pauseUnlessAborted_cut {abort : Abort} (ms : Nat) {c : Nat} (hc : abort.atMs = some c)
    (h : c ≤ s.now + ms) :
    (((pauseUnlessAborted abort ms : OptionT (ClientM σ) Unit).run).run setup).run s =
      (none, { s with now := max s.now c }) := by
  unfold pauseUnlessAborted
  simp only [runOpt_bind, runOpt_lift, run_now, hc, h, if_true, run_advanceTo]
  rfl

variable (setup) (policy : RetryPolicy) (shouldRetry : InferError → Bool) (ms : List Message)
  (abort : Abort)

/-- How a retrying call goes on from its attempt `attempt` (counted from `0`), in session `s`,
under the caller's `abort`: the items it yields and the session it leaves, its notes aside. Each
attempt is the whole call on the messages `ms` under the same abort, run from the session with
the notes logged so far. Between two attempts only the pause changes the session. -/
inductive RetryRun : Nat → Session σ → List ClientItem → Session σ → Prop
  /-- The attempt's first item is not an error, or it has none: the call yields all its items. -/
  | delivered {attempt : Nat} {s s' : Session σ} {items : List ClientItem}
      (notes notes' : List LogRecord)
      (hrun : ((streamMessages ms abort).run setup).run { s with notes } = (items, s'))
      (hfirst : ∀ e, items.head? ≠ some (.error e)) :
      RetryRun attempt s items { s' with notes := notes' }
  /-- The attempt fails on its first item, and no attempt follows: the predicate refuses the
  error, or this was the last attempt allowed. The call yields that error alone. -/
  | gaveUp {attempt : Nat} {s s' : Session σ} {e : InferError} {rest : List ClientItem}
      (notes notes' : List LogRecord)
      (hrun : ((streamMessages ms abort).run setup).run { s with notes } = (.error e :: rest, s'))
      (hlast : shouldRetry e = false ∨ policy.attemptLimit ≤ attempt + 1) :
      RetryRun attempt s [.error e] { s' with notes := notes' }
  /-- The attempt fails on its first item with an error the predicate accepts, another attempt is
  allowed, and the abort does not come during the pause: the pause for this attempt, its backoff
  jittered by the generator's next value when the policy jitters, then the next attempt. -/
  | retried {attempt : Nat} {s s' s'' : Session σ} {e : InferError} {rest items : List ClientItem}
      (notes notes' : List LogRecord)
      (hrun : ((streamMessages ms abort).run setup).run { s with notes } = (.error e :: rest, s'))
      (hretry : shouldRetry e = true) (hleft : attempt + 1 < policy.attemptLimit)
      (hpause : ∀ c, abort.atMs = some c → s'.now + pauseAfter policy attempt s' < c)
      (hnext : RetryRun (attempt + 1)
        { afterBackoff policy s' with
          now := s'.now + pauseAfter policy attempt s', notes := notes' } items s'') :
      RetryRun attempt s items s''
  /-- As for `retried`, but the abort comes at `c`, before the pause is over: the call ends there,
  with nothing more. -/
  | abortedInPause {attempt : Nat} {s s' : Session σ} {e : InferError} {rest : List ClientItem}
      (notes notes' : List LogRecord)
      (hrun : ((streamMessages ms abort).run setup).run { s with notes } = (.error e :: rest, s'))
      (hretry : shouldRetry e = true) (hleft : attempt + 1 < policy.attemptLimit) (c : Nat)
      (hc : abort.atMs = some c) (hcut : c ≤ s'.now + pauseAfter policy attempt s') :
      RetryRun attempt s [] { afterBackoff policy s' with now := max s'.now c, notes := notes' }

variable {setup}

/-- Giving up returns the error, with at most a note. -/
theorem run_giveUp (e : InferError) (attempt : Nat) :
    ∃ notes, (((RetryPolicy.executeFrom.giveUp InferError.message
        (fun r => OptionT.lift (note r.level r.target r.message)) e attempt :
          OptionT (ClientM σ) (Except InferError (List ClientItem))).run).run setup).run s =
      (some (.error e), { s with notes }) := by
  unfold RetryPolicy.executeFrom.giveUp
  split
  · exact ⟨_, rfl⟩
  · exact ⟨s.notes, rfl⟩

/-- The retry loop from attempt `attempt`, with `left` more attempts allowed after it, goes as
`RetryRun` says, whatever notes the session ends with. The proof follows the loop: it recurses
where the loop makes its next attempt, on the attempts left. -/
theorem run_executeFrom (left attempt : Nat) (hleft : attempt + left + 1 = policy.attemptLimit)
    (s : Session σ) :
    let r := (((policy.executeFrom shouldRetry InferError.message (fun b => OptionT.lift (draw b))
      (pauseUnlessAborted abort) (fun r => OptionT.lift (note r.level r.target r.message))
        (attemptOnce ms abort) left attempt).run).run setup).run s
    ∀ notes, RetryRun setup policy shouldRetry ms abort attempt s (outcomeItems r.1)
      { r.2 with notes } := by
  intro r notes'
  obtain ⟨notes, hatt⟩ := @run_attemptOnce σ setup s abort ms attempt
  rcases hcall : ((streamMessages ms abort : ClientM σ _).run setup).run { s with notes } with
    ⟨items, s1⟩
  rw [hcall] at hatt
  dsimp only [r]
  rw [RetryPolicy.executeFrom, runOpt_bind, hatt]
  match items, hcall with
  | [], hcall =>
    -- an empty call is delivered as it is, whether or not the abort cut it
    have hnil : RetryRun setup policy shouldRetry ms abort attempt s [] { s1 with notes := notes' } :=
      .delivered notes notes' hcall (by simp)
    cases abort.fired 0 s1.now <;> exact hnil
  | .ok ev :: rest, hcall =>
    have hok : RetryRun setup policy shouldRetry ms abort attempt s (.ok ev :: rest)
        { s1 with notes := notes' } :=
      .delivered notes notes' hcall (by simp)
    exact hok
  | .error e :: rest, hcall =>
    simp only [attemptOutcome, List.isEmpty_cons, Bool.false_and, Bool.false_eq_true, if_false]
    match left, hleft with
    | 0, hleft =>
      -- no attempt is left: the loop gives up
      obtain ⟨notes1, hgive⟩ := @run_giveUp σ setup s1 e attempt
      have hlast : RetryRun setup policy shouldRetry ms abort attempt s [.error e]
          { s1 with notes := notes' } :=
        .gaveUp notes notes' hcall (.inr (by omega))
      rw [hgive]
      exact hlast
    | left + 1, hleft =>
      cases hretry : shouldRetry e with
      | false =>
        obtain ⟨notes1, hgive⟩ := @run_giveUp σ setup s1 e attempt
        have hlast : RetryRun setup policy shouldRetry ms abort attempt s [.error e]
            { s1 with notes := notes' } :=
          .gaveUp notes notes' hcall (.inl hretry)
        simp only [Bool.false_eq_true, if_false, hgive]
        exact hlast
      | true =>
        simp only [if_true, runOpt_bind, runOpt_backoff, runOpt_lift, run_note]
        -- the pause ends the loop exactly when the abort comes before it is over
        by_cases hcut : ∃ c, abort.atMs = some c ∧ c ≤ s1.now + pauseAfter policy attempt s1
        · obtain ⟨c, hc, hle⟩ := hcut
          have hend : RetryRun setup policy shouldRetry ms abort attempt s []
              { afterBackoff policy s1 with now := max s1.now c, notes := notes' } :=
            .abortedInPause notes notes' hcall hretry (by omega) c hc hle
          rw [run_pauseUnlessAborted_cut _ hc]
          · exact hend
          · exact hle
        · have hpause : ∀ c, abort.atMs = some c → s1.now + pauseAfter policy attempt s1 < c := by
            intro c hc
            exact Nat.lt_of_not_le fun hle => hcut ⟨c, hc, hle⟩
          rw [run_pauseUnlessAborted_done]
          · exact .retried notes _ hcall hretry (by omega) hpause
              (run_executeFrom left (attempt + 1) (by omega) _ notes')
          · exact hpause

variable (s)

/-- A retrying call whose abort has not fired when it starts goes as `RetryRun` says from its
first attempt. -/
theorem run_createMessageWithRetry (systemPrompt : String) (history : List Turn)
    (h : abort.fired 0 s.now = false) :
    let r := ((createMessageWithRetry policy shouldRetry systemPrompt history abort :
      ClientM σ _).run setup).run s
    RetryRun setup policy shouldRetry (Message.build systemPrompt history) abort 0 s r.1 r.2 := by
  intro r
  have hlimit : 0 + (policy.attemptLimit - 1) + 1 = policy.attemptLimit := by
    unfold RetryPolicy.attemptLimit
    omega
  have hloop := @run_executeFrom σ setup policy shouldRetry (Message.build systemPrompt history)
    abort _ 0 hlimit s
  dsimp only [r]
  simp only [createMessageWithRetry, run_bind, run_aborted, h, Bool.false_eq_true, if_false,
    RetryPolicy.execute]
  generalize (((policy.executeFrom shouldRetry InferError.message (fun b => OptionT.lift (draw b))
      (pauseUnlessAborted abort) (fun r => OptionT.lift (note r.level r.target r.message))
        (attemptOnce (Message.build systemPrompt history) abort) (policy.attemptLimit - 1)
          0).run).run setup).run s = loop at hloop ⊢
  obtain ⟨outcome, s'⟩ := loop
  cases outcome with
  | none => exact hloop _
  | some outcome =>
    cases outcome with
    | error e => exact hloop s'.notes
    | ok items => exact hloop s'.notes

/-- A retrying call whose abort has fired when it starts makes no attempt: it yields nothing and
changes nothing but the notes. -/
theorem run_createMessageWithRetry_fired (systemPrompt : String) (history : List Turn)
    (h : abort.fired 0 s.now = true) :
    ∃ notes, ((createMessageWithRetry policy shouldRetry systemPrompt history abort :
      ClientM σ _).run setup).run s = ([], { s with notes }) := by
  simp only [createMessageWithRetry, run_bind, run_aborted, h, if_true]
  exact ⟨_, rfl⟩

/-- A retrying call that is never aborted goes as `RetryRun` says from its first attempt. -/
theorem createMessageWithRetry_attempts (systemPrompt : String) (history : List Turn) :
    let r := ((createMessageWithRetry policy shouldRetry systemPrompt history .never :
      ClientM σ _).run setup).run s
    RetryRun setup policy shouldRetry (Message.build systemPrompt history) .never 0 s r.1 r.2 :=
  run_createMessageWithRetry s policy shouldRetry .never systemPrompt history
    (Abort.fired_never 0 s.now)

end ClientM

end InferRoute
