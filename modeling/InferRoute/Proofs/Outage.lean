import InferRoute.Proofs.Retry
import InferRoute.Proofs.Breaker
import Mathlib.Logic.Function.Iterate

/-! A retrying call while the local server is down. With mesh routing and cloud fallback off,
every attempt goes to the local server. When each request to it fails before any of its body is
read (no answer, a status other than success, a success without a body, or headers no sooner than
the deadline), each attempt counts one failure on the breaker. The attempt whose failure opens the
breaker ends with the error that local inference is unavailable, which is not retried. So a
breaker reached from a new one, with `c` consecutive failures and threshold `n`, sees
`min M (max 1 (n - c))` requests, `M` being the attempts the policy allows. The call yields the
unavailability error when the threshold is reached within them, and otherwise the error the local
server gave last. -/

namespace InferRoute

namespace Exchange

/-- Whether an answer fails a stream request with a deadline of `budgetMs` before any of its body
is read: no answer, a status other than success, a success without a body, or headers that come no
sooner than the deadline. -/
def failsOpening (budgetMs : Nat) : Exchange → Bool
  | .failed _ => true
  | .replied r => !r.succeeded || r.bodiless || decide (budgetMs ≤ r.afterMs)

end Exchange

/-- The request that opens the local server's stream for messages `ms`, sent to `url`. -/
def localStreamRequest (c : ClientConfig) (url : Url) (ms : List Message) : HttpRequest :=
  ⟨"POST", url, none, some (completionBody c.model ms)⟩

namespace ClientM

variable {σ : Type} (setup : ClientSetup σ) (s : Session σ)

/-- An answer that opens a stream is a success with a body, complete when its headers come. -/
theorem streamAnswer_ok {backend : String} {url : Url} {start : Nat} {x : Exchange}
    {v : ReadSchedule × Nat} (h : (streamAnswer backend url start x).1 = .ok v) :
    ∃ r, x = .replied r ∧ r.succeeded = true ∧ r.bodiless = false ∧
      (streamAnswer backend url start x).2 = some (start + r.afterMs) := by
  cases x with
  | failed after => cases h
  | replied r =>
    refine ⟨r, rfl, ?_⟩
    unfold streamAnswer at h ⊢
    by_cases hsucceeded : r.succeeded = true
    · by_cases hbodiless : r.bodiless = true
      · simp [hsucceeded, hbodiless] at h
      · simp [hsucceeded, hbodiless]
    · simp only [hsucceeded, Bool.false_eq_true, if_false] at h
      split at h <;> cases h

/-- Settling a wait opens the stream only with the headers that came. -/
theorem settleOpening_opened {backend : String} {budget : Option Nat}
    {w : WaitEnd (Except InferError (ReadSchedule × Nat))} {schedule : ReadSchedule}
    {headers : Nat} {s' : Session σ}
    (h : ((settleOpening backend budget w : ClientM σ Opening).run setup).run s =
      (.opened schedule headers, s')) :
    ∃ t, w = .came (.ok (schedule, headers)) t := by
  cases w with
  | came answer t =>
    cases answer with
    | error e =>
      simp only [settleOpening, run_bind, run_advanceTo, run_pure] at h
      cases h
    | ok opened =>
      obtain ⟨schedule', headers'⟩ := opened
      simp only [settleOpening, run_bind, run_advanceTo, run_pure] at h
      cases h
      exact ⟨t, rfl⟩
  | aborted t =>
    simp only [settleOpening, run_bind, run_advanceTo, run_pure] at h
    cases h
  | overdue t =>
    simp only [settleOpening, run_bind, run_advanceTo, run_pure] at h
    cases h
  | never =>
    simp only [settleOpening, run_pure] at h
    cases h

/-- A stream request with a deadline and no abort, whose answer fails it before any of its body
is read, does not open the stream, and moves the network on by that one request. -/
theorem openStream_of_failsOpening (backend address : String) (accept : Option String)
    (body : Json) (budget : Nat) {url : Url} (hurl : HttpRequest.target address = .ok url)
    (hfails : (setup.network.exchange s.link ⟨"POST", url, accept, some body⟩).1.failsOpening
      budget = true) :
    let r := ((openStream backend address accept body .never (some budget) : ClientM σ Opening).run
      setup).run s
    (∀ schedule headers, r.1 ≠ .opened schedule headers) ∧
      r.2.link = (setup.network.exchange s.link ⟨"POST", url, accept, some body⟩).2 := by
  simp only [openStream, run_bind, run_now, requestStream, hurl, run_send, run_pure, Option.map_some]
  generalize hx : setup.network.exchange s.link ⟨"POST", url, accept, some body⟩ = x at hfails ⊢
  obtain ⟨x, link⟩ := x
  dsimp only at hfails ⊢
  obtain ⟨⟨now, hnow⟩, -, -, -⟩ := settleOpening_spec setup { s with link } backend (some budget)
    (WaitEnd.race Abort.never.atMs (some (s.now + budget)) (streamAnswer backend url s.now x).1
      (streamAnswer backend url s.now x).2)
  refine ⟨fun schedule headers hopen => ?_, by rw [hnow]⟩
  -- an opened stream had its headers before the deadline, which the failing answer rules out
  obtain ⟨t, hw⟩ := settleOpening_opened setup { s with link } (Prod.ext hopen rfl)
  obtain ⟨hdone, hbefore⟩ := WaitEnd.race_came_before hw
  obtain ⟨r, rfl, hsucceeded, hbodiless, hheaders⟩ := streamAnswer_ok (WaitEnd.race_came hw).symm
  rw [hheaders, Option.some.injEq] at hdone
  simp [Exchange.failsOpening, hsucceeded, hbodiless] at hfails
  omega

section Outage

variable {setup} {ms : List Message} {url : Url}
  (hrouting : setup.config.enableMeshRouting = false)
  (hfallback : setup.config.enableCloudFallback = false)
  (hurl : HttpRequest.target (setup.config.localEndpoint "/v1/chat/completions") = .ok url)
  (hdown : ∀ l, (setup.network.exchange l (localStreamRequest setup.config url ms)).1.failsOpening
    setup.config.requestTimeoutMs = true)

include hurl hdown in
/-- Opening the local stream fails, with a local error, after sending the request once. -/
theorem openLocal_of_outage (s : Session σ) :
    ∃ e now notes, ((openLocal ms .never : ClientM σ Opening).run setup).run s =
        (.failed e, { s with link := (setup.network.exchange s.link
          (localStreamRequest setup.config url ms)).2, now, notes }) ∧
      e.backend? = some localBackend := by
  obtain ⟨⟨link, now, notes, hs⟩, habort, hstall, hbackend⟩ := openLocal_spec setup s ms
  have ⟨hopened, hlink⟩ : (∀ schedule headers, (((openLocal ms .never : ClientM σ Opening).run
      setup).run s).1 ≠ .opened schedule headers) ∧
      (((openLocal ms .never : ClientM σ Opening).run setup).run s).2.link =
        (setup.network.exchange s.link (localStreamRequest setup.config url ms)).2 := by
    simp only [openLocal, run_bind, run_config, run_note]
    exact openStream_of_failsOpening setup _ localBackend _ none _ _ hurl (hdown s.link)
  rcases hr : ((openLocal ms .never : ClientM σ Opening).run setup).run s with ⟨opening, s2⟩
  rw [hr] at hs habort hstall hbackend hopened hlink
  dsimp only at hs habort hstall hbackend hopened hlink
  subst hs
  subst hlink
  cases opening with
  | failed e => exact ⟨e, now, notes, rfl, hbackend e rfl⟩
  | aborted => exact absurd rfl habort
  | stalled => exact absurd rfl hstall
  | opened schedule headers => exact absurd rfl (hopened schedule headers)

include hrouting hfallback hurl hdown in
/-- One call while the local server is down: the local stream cannot be opened, the breaker
counts the failure, and the call yields one error, that local inference is unavailable if the
breaker is now open, else the local server's error. -/
theorem streamMessages_of_outage (s : Session σ) :
    ∃ e now notes,
      ((streamMessages ms .never : ClientM σ _).run setup).run s =
        ([.error (if (s.breaker.recordFailure now).state = .opened then .localUnavailable else e)],
          { s with
            breaker := s.breaker.recordFailure now
            link := (setup.network.exchange s.link (localStreamRequest setup.config url ms)).2
            now := now
            notes := notes }) ∧
      e.backend? = some localBackend ∧
      (((openLocal ms .never : ClientM σ Opening).run setup).run s).1 = .failed e := by
  obtain ⟨e, now, notes, hopen, hbackend⟩ := openLocal_of_outage hurl hdown s
  obtain ⟨notes', hfailure⟩ := localFailure_spec setup
    { s with
      link := (setup.network.exchange s.link (localStreamRequest setup.config url ms)).2
      now := now
      notes := notes } e
  have hroute : ((routeMesh ms .never : ClientM σ MeshLeg).run setup).run s = (.fallBack [], s) := by
    simp only [routeMesh, run_bind, run_config, hrouting, Bool.false_eq_true, if_false, run_pure]
  refine ⟨e, now, notes', ?_, hbackend, by rw [hopen]⟩
  rw [streamMessages_of_fallBack hroute, tryLocal_of_failed (Abort.fired_never 0 s.now) hopen,
    hfailure]
  simp [hfallback]

end Outage

/-- How a retrying call on messages `ms` ends from session `s`, with `left` attempts allowed,
when the local server fails every request `req` and the breaker's threshold is `threshold`. With
`c` the failures the breaker has counted, the request is sent exactly
`min left (max 1 (threshold - c))` times, each one counted as a failure; the call yields one
error: that local inference is unavailable exactly when the threshold is reached within the
attempts allowed, and otherwise the error of the last opening of the local stream. -/
def OutageEnd (setup : ClientSetup σ) (req : HttpRequest) (threshold : Nat) (ms : List Message)
    (left : Nat) (s : Session σ) (items : List ClientItem) (s' : Session σ) : Prop :=
  let c := s.breaker.failures
  let tries := min left (max 1 (threshold - c))
  let send := fun l => (setup.network.exchange l req).2
  s'.link = send^[tries] s.link ∧ s'.breaker.failures = min failureCountMax (c + tries) ∧
  ∃ e, items = [.error e] ∧ (e = .localUnavailable ↔ threshold - c ≤ left) ∧
    (left < threshold - c → ∃ last : Session σ, last.link = send^[tries - 1] s.link ∧
      (((openLocal ms .never : ClientM σ Opening).run setup).run last).1 = .failed e)

section Outage

variable {setup : ClientSetup σ} {ms : List Message} {url : Url} {cfg : BreakerConfig}
  {policy : RetryPolicy}
  (hrouting : setup.config.enableMeshRouting = false)
  (hfallback : setup.config.enableCloudFallback = false)
  (hurl : HttpRequest.target (setup.config.localEndpoint "/v1/chat/completions") = .ok url)
  (hdown : ∀ l, (setup.network.exchange l (localStreamRequest setup.config url ms)).1.failsOpening
    setup.config.requestTimeoutMs = true)
  (hthreshold : cfg.threshold ≤ failureCountMax)

include hrouting hfallback hurl hdown hthreshold in
/-- A retrying run while the local server is down ends as `OutageEnd` says, from any attempt the
policy allows and any breaker reached from a new one. The induction follows the run: each attempt
sends the request once and counts one failure; the breaker either opens, ending the run with the
error that local inference is unavailable, or stays closed one failure nearer its threshold. -/
theorem retryRun_outage {attempt : Nat} {s s' : Session σ} {items : List ClientItem}
    (hrun : RetryRun setup policy InferError.retryable ms .never attempt s items s') :
    ∀ ops, s.breaker = (Breaker.new cfg).run ops → attempt < policy.attemptLimit →
      OutageEnd setup (localStreamRequest setup.config url ms) cfg.threshold ms
        (policy.attemptLimit - attempt) s items s' := by
  induction hrun with
  | @delivered attempt s s' items notes notes' hcall hfirst =>
    intro ops hbreaker hleft
    obtain ⟨e, now, notes1, hattempt, -⟩ :=
      streamMessages_of_outage hrouting hfallback hurl hdown { s with notes }
    rw [hattempt] at hcall
    cases hcall
    exact absurd rfl (hfirst _)
  | @gaveUp attempt s s' e rest notes notes' hcall hlast =>
    intro ops hbreaker hleft
    obtain ⟨e', now, notes1, hattempt, hbackend, hopen⟩ :=
      streamMessages_of_outage hrouting hfallback hurl hdown { s with notes }
    rw [hattempt] at hcall
    cases hcall
    have hopened := Breaker.recordFailure_opened_iff ops now hthreshold
    rw [← hbreaker] at hopened
    dsimp only at hlast hopen
    have hfailures : (s.breaker.recordFailure now).failures =
        min failureCountMax (s.breaker.failures + 1) := Nat.min_comm _ _
    by_cases hopen' : (s.breaker.recordFailure now).state = .opened
    · -- the failure opens the breaker: local inference is unavailable, with one request sent
      have hreached := hopened.1 hopen'
      have htries : min (policy.attemptLimit - attempt)
          (max 1 (cfg.threshold - s.breaker.failures)) = 1 := by omega
      simp only [OutageEnd, hopen', if_true, htries]
      exact ⟨rfl, hfailures, _, rfl, by simp only [true_iff]; omega, fun h => by omega⟩
    · -- the breaker stays closed, so the local error was not retried for want of attempts
      have hretryable := InferError.retryable_of_backend hbackend
      rw [if_neg hopen', hretryable] at hlast
      have hnoneLeft : policy.attemptLimit ≤ attempt + 1 := hlast.resolve_left Bool.noConfusion
      have hshort : ¬ cfg.threshold ≤ s.breaker.failures + 1 := fun h => hopen' (hopened.2 h)
      have htries : min (policy.attemptLimit - attempt)
          (max 1 (cfg.threshold - s.breaker.failures)) = 1 := by omega
      simp only [OutageEnd, hopen', if_false, htries]
      refine ⟨rfl, hfailures, e', rfl, ⟨fun h => ?_, fun h => by omega⟩,
        fun _ => ⟨{ s with notes }, rfl, hopen⟩⟩
      rw [h] at hbackend
      cases hbackend
  | @retried attempt s s' s'' e rest items notes notes' hcall hretry hleft hpause hnext ih =>
    intro ops hbreaker _
    obtain ⟨e', now, notes1, hattempt, -, -⟩ :=
      streamMessages_of_outage hrouting hfallback hurl hdown { s with notes }
    rw [hattempt] at hcall
    cases hcall
    have hopened := Breaker.recordFailure_opened_iff ops now hthreshold
    rw [← hbreaker] at hopened
    dsimp only [afterBackoff] at hretry ih
    -- a retried error is the local server's own, so the breaker stayed closed
    have hopen' : (s.breaker.recordFailure now).state ≠ .opened := fun h => by
      rw [if_pos h] at hretry
      cases hretry
    have hshort : ¬ cfg.threshold ≤ s.breaker.failures + 1 := fun h => hopen' (hopened.2 h)
    have hfailures : (s.breaker.recordFailure now).failures = s.breaker.failures + 1 := by
      simp only [Breaker.recordFailure]
      omega
    obtain ⟨hlink, hcount, e'', hitems, hiff, hlast⟩ :=
      ih (ops ++ [.failure now]) (by simp [hbreaker, Breaker.apply]) hleft
    dsimp only at hlink hcount hiff hlast
    rw [hfailures] at hlink hcount hiff hlast
    -- this attempt is one more request and one more failure than the rest of the run
    set rest := min (policy.attemptLimit - (attempt + 1))
      (max 1 (cfg.threshold - (s.breaker.failures + 1))) with hrest
    have htries : min (policy.attemptLimit - attempt) (max 1 (cfg.threshold - s.breaker.failures)) =
        rest + 1 := by omega
    simp only [OutageEnd, htries]
    refine ⟨?_, ?_, e'', hitems, hiff.trans (by omega), fun hlt => ?_⟩
    · rw [Function.iterate_succ_apply]
      exact hlink
    · rw [hcount]
      omega
    · obtain ⟨last, hlastLink, hlastOpen⟩ := hlast (by omega)
      obtain ⟨k, hk⟩ : ∃ k, rest = k + 1 := ⟨rest - 1, by omega⟩
      refine ⟨last, ?_, hlastOpen⟩
      rw [hlastLink, hk, Nat.add_sub_cancel, Nat.add_sub_cancel, Function.iterate_succ_apply]
  | abortedInPause notes notes' hcall hretry hleft c hc hcut => cases hc

end Outage

end ClientM

open ClientM

/-- A retrying completion call, never aborted, with mesh routing and cloud fallback off, while the
local server fails every request before any of its body is read, from a breaker in any state
reached from a new one whose threshold the count can reach. The default predicate retries every
local error and never the error that local inference is unavailable, so the call ends as
`OutageEnd` says: with `M` the attempts allowed, `n` the threshold and `c` the failures counted,
the request goes out `min M (max 1 (n - c))` times, each counted as a failure, and the one error
yielded is that local inference is unavailable exactly when `n - c ≤ M`, else the local server's
last error. -/
theorem createMessageWithRetry_local_outage {σ : Type} (setup : ClientSetup σ) (s : Session σ)
    (policy : RetryPolicy) (systemPrompt : String) (history : List Turn) (cfg : BreakerConfig)
    (ops : List Breaker.Op)
    (hrouting : setup.config.enableMeshRouting = false)
    (hfallback : setup.config.enableCloudFallback = false)
    (hbreaker : s.breaker = (Breaker.new cfg).run ops)
    (hthreshold : cfg.threshold ≤ failureCountMax)
    (haddress : (HttpRequest.target (setup.config.localEndpoint "/v1/chat/completions")).isOk =
      true)
    (hdown : ∀ l url,
      HttpRequest.target (setup.config.localEndpoint "/v1/chat/completions") = .ok url →
      (setup.network.exchange l (localStreamRequest setup.config url
        (Message.build systemPrompt history))).1.failsOpening setup.config.requestTimeoutMs =
          true) :
    let ms := Message.build systemPrompt history
    let r := ((createMessageWithRetry policy InferError.retryable systemPrompt history .never :
      ClientM σ _).run setup).run s
    ∃ url, HttpRequest.target (setup.config.localEndpoint "/v1/chat/completions") = .ok url ∧
      OutageEnd setup (localStreamRequest setup.config url ms) cfg.threshold ms
        policy.attemptLimit s r.1 r.2 := by
  intro ms r
  cases htarget : HttpRequest.target (setup.config.localEndpoint "/v1/chat/completions") with
  | error f =>
    rw [htarget] at haddress
    cases haddress
  | ok url =>
    refine ⟨url, rfl, ?_⟩
    have hrun := @run_createMessageWithRetry σ setup s policy InferError.retryable .never
      systemPrompt history (Abort.fired_never 0 s.now)
    have hend := retryRun_outage hrouting hfallback htarget (hdown · url htarget) hthreshold hrun
      ops hbreaker (by unfold RetryPolicy.attemptLimit; omega)
    rwa [Nat.sub_zero] at hend

/-- The standard breaker after two failures, with the standard policy and no local server at all:
the third request opens the breaker, within the three attempts allowed. -/
theorem createMessageWithRetry_local_outage_offline :
    let setup : ClientSetup Unit :=
      ⟨{ ClientConfig.standard with
          enableMeshRouting := false
          localServerUrl := "http://[::1]:11435" }, Network.unreachable⟩
    let s : Session Unit := ⟨(Breaker.new .standard).run [.failure 0, .failure 0], 0, (), [],
      fun _ _ => FloatFormat.binary32.ofNat 0⟩
    let ms := Message.build "" [⟨.user, .text "hello"⟩]
    let r := ((createMessageWithRetry .standard InferError.retryable "" [⟨.user, .text "hello"⟩]
      .never : ClientM Unit _).run setup).run s
    BreakerConfig.standard.threshold ≤ failureCountMax ∧
    (HttpRequest.target (setup.config.localEndpoint "/v1/chat/completions")).isOk = true ∧
    ∃ url, HttpRequest.target (setup.config.localEndpoint "/v1/chat/completions") = .ok url ∧
      OutageEnd setup (localStreamRequest setup.config url ms) BreakerConfig.standard.threshold ms
        RetryPolicy.standard.attemptLimit s r.1 r.2 :=
  ⟨by decide, by decide +kernel,
    createMessageWithRetry_local_outage _ _ .standard "" [⟨.user, .text "hello"⟩] .standard
      [.failure 0, .failure 0] rfl rfl rfl (by decide) (by decide +kernel) (fun _ _ _ => rfl)⟩

end InferRoute
