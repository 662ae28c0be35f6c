import InferRoute.Routing.Decision
import InferRoute.Proofs.Breaker

/-! Where a router sends messages, and how often it probes the mesh. A request goes to the mesh
exactly when the breaker permits an attempt, the probe answers within its timeout that the mesh
runs with a peer, and the last user message is complex. The probe is asked exactly when the
breaker permits; the breaker is changed only by that question. Over any run of routing, breaker
operations and waits, the probe calls are therefore the routing operations that found the breaker
permitting an attempt. -/

namespace InferRoute

namespace MeshStatus

/-- Available: `running` is reported true, and the peer count is positive, `peerCount` taken
before `peer_count` and a missing one as zero. -/
theorem isAvailable_iff (s : MeshStatus) :
    s.isAvailable = true ↔
      s.running = some true ∧ 0 < (s.peerCountCamel.or s.peerCountSnake).getD 0 := by
  unfold isAvailable isRunning peerCount
  cases hrunning : s.running with
  | none => simp
  | some running => cases running <;> simp

end MeshStatus

/-- A probe answer leads to the mesh exactly when it came within the timeout, with a status of an
available mesh, and the messages are complex. -/
theorem judgeProbe_useMesh (reply : ProbeReply) (ms : List Message) :
    (judgeProbe reply ms).1.useMesh = true ↔
      reply.delayMs ≤ probeTimeoutMs ∧ ∃ s, reply.result = .ok s ∧ s.isAvailable = true ∧
        (RoutingContext.ofMessages ms).isComplex = true := by
  unfold judgeProbe ProbeReply.within
  by_cases hdelay : reply.delayMs ≤ probeTimeoutMs
  · simp only [hdelay, if_true, true_and]
    cases hresult : reply.result with
    | error e => simp [MeshVerdict.useMesh]
    | ok s =>
      by_cases havailable : s.isAvailable = true
      · simp [havailable, MeshVerdict.useMesh]
      · simp [havailable, MeshVerdict.useMesh]
  · simp [hdelay, MeshVerdict.useMesh]

/-- Judging a probe answer always counts as a probe. -/
@[simp] theorem judgeProbe_probed (reply : ProbeReply) (ms : List Message) :
    (judgeProbe reply ms).1.probed = true := by
  unfold judgeProbe
  generalize reply.within = answer
  obtain ⟨_ | (e | s), spent⟩ := answer
  · rfl
  · rfl
  · dsimp only
    split <;> rfl

/-- Routing asks the breaker, and judges the probe's answer only when it permits. -/
theorem routeMessages_eq (b : Breaker) (now : Nat) (reply : ProbeReply) (ms : List Message) :
    routeMessages b now reply ms =
      if (b.permits now).1 then ((judgeProbe reply ms).1, (b.permits now).2, (judgeProbe reply ms).2)
      else (.breakerOpen, (b.permits now).2, 0) := by
  unfold routeMessages
  generalize b.permits now = answer
  obtain ⟨permitted, b'⟩ := answer
  cases permitted <;> rfl

namespace Breaker

/-- A refused attempt leaves the breaker as it was. -/
theorem permits_snd_of_refused {b : Breaker} {now : Nat} (h : (b.permits now).1 = false) :
    (b.permits now).2 = b := by
  unfold permits at h ⊢
  split at h
  · cases h
  · cases h
  · split at h
    · cases h
    · simp_all

end Breaker

/-- A router between decisions: its breaker, the clock, and the number of probe calls so far. -/
structure Router where
  breaker : Breaker
  now : Nat
  probeCalls : Nat
deriving Repr, DecidableEq

namespace Router

/-- An operation on a router: asking, failing or succeeding on its breaker at the router's clock,
letting time pass, or deciding where messages go. -/
inductive Op where
  | permit
  | failure
  | success
  | advance (ms : Nat)
  | route (ms : List Message)

/-- A router after one operation; `probe k t` is the mesh's answer to the `k`-th probe call, made
at time `t`. Routing waits as long as the probe's answer took. -/
def apply (probe : Nat → Nat → ProbeReply) (r : Router) : Op → Router
  | .permit => { r with breaker := (r.breaker.permits r.now).2 }
  | .failure => { r with breaker := r.breaker.recordFailure r.now }
  | .success => { r with breaker := r.breaker.recordSuccess }
  | .advance ms => { r with now := r.now + ms }
  | .route ms =>
    let (verdict, breaker, spent) := routeMessages r.breaker r.now (probe r.probeCalls r.now) ms
    ⟨breaker, r.now + spent, if verdict.probed then r.probeCalls + 1 else r.probeCalls⟩

/-- A router after operations, in order. -/
def run (probe : Nat → Nat → ProbeReply) (r : Router) (ops : List Op) : Router :=
  ops.foldl (apply probe) r

/-- Each operation of a run with the router it found. -/
def trace (probe : Nat → Nat → ProbeReply) (r : Router) : List Op → List (Op × Router)
  | [] => []
  | op :: rest => (op, r) :: trace probe (r.apply probe op) rest

/-- Whether an operation routes messages with the breaker permitting an attempt. -/
def permittedRoute (r : Router) : Op → Bool
  | .route _ => (r.breaker.permits r.now).1
  | _ => false

variable (probe : Nat → Nat → ProbeReply)

@[simp] theorem run_nil (r : Router) : run probe r [] = r := rfl

@[simp] theorem run_cons (r : Router) (op : Op) (ops : List Op) :
    run probe r (op :: ops) = run probe (r.apply probe op) ops := rfl

/-- One operation calls the probe once if it routes with the breaker permitting, else not. -/
theorem apply_probeCalls (r : Router) (op : Op) :
    (r.apply probe op).probeCalls = r.probeCalls + if r.permittedRoute op then 1 else 0 := by
  cases op with
  | route ms =>
    simp only [apply, permittedRoute, routeMessages_eq]
    by_cases hpermits : (r.breaker.permits r.now).1 = true
    · simp only [hpermits, if_true, judgeProbe_probed]
    · simp [hpermits, MeshVerdict.probed]
  | _ => simp [apply, permittedRoute]

/-- The probe calls of a run are its routing operations that found the breaker permitting. -/
theorem run_probeCalls (r : Router) (ops : List Op) :
    (run probe r ops).probeCalls =
      r.probeCalls + (trace probe r ops).countP fun e => e.2.permittedRoute e.1 := by
  induction ops generalizing r with
  | nil => simp [trace]
  | cons op ops ih =>
    simp only [run_cons, ih, apply_probeCalls, trace, List.countP_cons]
    omega

end Router

/-- Routing messages: to the mesh exactly when the breaker permits an attempt, the probe answers
within the timeout that the mesh runs with a peer, and the last user message is complex; the
probe is asked exactly when the breaker permits, and a refusal reads no answer at all; the
breaker changes only by turning half-open once the cooldown has passed, its failure count and
last failure kept. Over any run of routing, breaker operations and waits, the probe calls are
the routing operations that found the breaker permitting an attempt. -/
theorem routing_decision_and_probe_calls (b : Breaker) (now : Nat) (reply : ProbeReply)
    (ms : List Message) (probe : Nat → Nat → ProbeReply) (r : Router) (ops : List Router.Op) :
    ((routeMessages b now reply ms).1.useMesh = true ↔
      (b.permits now).1 = true ∧ reply.delayMs ≤ probeTimeoutMs ∧
      ∃ s, reply.result = .ok s ∧ s.running = some true ∧
        0 < (s.peerCountCamel.or s.peerCountSnake).getD 0 ∧
        (RoutingContext.ofMessages ms).isComplex = true) ∧
    (routeMessages b now reply ms).1.probed = (b.permits now).1 ∧
    ((b.permits now).1 = false → ∀ other, routeMessages b now other ms = (.breakerOpen, b, 0)) ∧
    (routeMessages b now reply ms).2.1 =
      (if b.state = .opened ∧ b.cooled now = true then { b with state := .halfOpen } else b) ∧
    (Router.run probe r ops).probeCalls =
      r.probeCalls + (Router.trace probe r ops).countP fun e => e.2.permittedRoute e.1 := by
  refine ⟨?_, ?_, fun hrefused other => ?_, ?_, Router.run_probeCalls probe r ops⟩
  · -- the mesh is chosen only past the breaker, and then as the probe's answer decides
    rw [routeMessages_eq]
    cases hpermits : (b.permits now).1
    · simp [MeshVerdict.useMesh]
    · simp only [if_true, judgeProbe_useMesh, MeshStatus.isAvailable_iff, true_and]
      constructor
      · rintro ⟨hdelay, s, hresult, ⟨hrunning, hpeers⟩, hcomplex⟩
        exact ⟨hdelay, s, hresult, hrunning, hpeers, hcomplex⟩
      · rintro ⟨hdelay, s, hresult, hrunning, hpeers, hcomplex⟩
        exact ⟨hdelay, s, hresult, ⟨hrunning, hpeers⟩, hcomplex⟩
  · rw [routeMessages_eq]
    cases (b.permits now).1
    · rfl
    · exact judgeProbe_probed reply ms
  · rw [routeMessages_eq, hrefused, Breaker.permits_snd_of_refused hrefused]
    rfl
  · rw [routeMessages_eq, ← Breaker.permits_snd]
    cases (b.permits now).1 <;> rfl

/-- Five failures at time zero open the standard breaker: routing at once is refused without
reading the probe's answer, and leaves the breaker as it was. -/
theorem routing_skips_probe_within_cooldown :
    let b := (Breaker.new .standard).run (List.replicate 5 (.failure 0))
    (b.permits 0).1 = false ∧ ∀ other, routeMessages b 0 other [] = (.breakerOpen, b, 0) :=
  ⟨by decide, (routing_decision_and_probe_calls _ 0 default [] (fun _ _ => default)
    ⟨Breaker.new .standard, 0, 0⟩ []).2.2.1 (by decide)⟩

end InferRoute
