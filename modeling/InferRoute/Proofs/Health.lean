import InferRoute.Proofs.Session
import InferRoute.Proofs.Routing

/-! The mesh indicator and the router read a status report alike. The indicator shows the mesh
healthy exactly when the probe returned the status of an available mesh, the one the router
needs before it sends anything to the mesh; it shows a peer count exactly for a mesh that runs,
and its summary names the peers exactly when it is healthy, `Local only` otherwise. So in any
session where the router would send messages to the mesh, the indicator, asking the same network,
shows the mesh healthy. -/

namespace InferRoute

namespace Connectivity

/-- The mesh is shown healthy exactly when it has a peer count, and that count is positive. -/
theorem ofMesh_healthy_iff (peers : Option Nat) :
    (ofMesh peers).healthy = true ↔ ∃ n, peers = some n ∧ 0 < n := by
  cases peers <;> simp [ofMesh]

@[simp] theorem ofMesh_peerCount (peers : Option Nat) : (ofMesh peers).peerCount = peers := rfl

/-- A healthy mesh is summarised by its peers. -/
theorem ofMesh_summary_some {n : Nat} (hn : 0 < n) :
    (ofMesh (some n)).summary = if n = 1 then "1 peer" else toString n ++ " peers" := by
  by_cases hone : n = 1
  · subst hone; rfl
  · simp [ofMesh, summary, hone, hn]

theorem peers_ne_localOnly (n : Nat) : toString n ++ " peers" ≠ "Local only" := by
  intro h
  -- the two texts end in different letters
  have hlast := congrArg (fun t => t.toList.getLast?) h
  simp at hlast

/-- The mesh is summarised as `Local only` exactly when it is not healthy. -/
theorem ofMesh_summary_eq_localOnly_iff (peers : Option Nat) :
    (ofMesh peers).summary = "Local only" ↔ (ofMesh peers).healthy = false := by
  rcases peers with _ | n
  · simp [ofMesh, summary]
  · rcases Nat.eq_zero_or_pos n with rfl | hn
    · simp [ofMesh, summary]
    · have hhealthy : (ofMesh (some n)).healthy = true := (ofMesh_healthy_iff _).mpr ⟨n, rfl, hn⟩
      rw [ofMesh_summary_some hn, hhealthy]
      split
      · decide
      · simpa using peers_ne_localOnly n

/-- A probe shows the peer count of a mesh that runs, and no count otherwise. -/
theorem ofProbe_cases (r : Except InferError MeshStatus) :
    (∃ s, r = .ok s ∧ s.isRunning = true ∧ ofProbe r = ofMesh (some s.peerCount)) ∨
      ((∀ s, r = .ok s → s.isRunning = false) ∧ ofProbe r = ofMesh none) := by
  cases r with
  | error e => exact .inr ⟨(fun s h => nomatch h), rfl⟩
  | ok s =>
    by_cases hrunning : s.isRunning = true
    · exact .inl ⟨s, rfl, hrunning, by simp [ofProbe, hrunning]⟩
    · refine .inr ⟨fun s' h => ?_, by simp [ofProbe, hrunning]⟩
      cases h
      simpa using hrunning

/-- The mesh is shown healthy exactly when the probe returned the status of an available mesh. -/
theorem ofProbe_healthy_iff (r : Except InferError MeshStatus) :
    (ofProbe r).healthy = true ↔ ∃ s, r = .ok s ∧ s.isAvailable = true := by
  rcases ofProbe_cases r with ⟨s, rfl, hrunning, heq⟩ | ⟨hstopped, heq⟩
  · simp [heq, ofMesh_healthy_iff, MeshStatus.isAvailable, hrunning]
  · rw [heq]
    simp only [ofMesh, Option.map_none, Option.getD_none, Bool.false_eq_true, false_iff]
    rintro ⟨s, rfl, havailable⟩
    simp [MeshStatus.isAvailable, hstopped s rfl] at havailable

/-- The mesh shows a peer count exactly when the probe returned the status of a running mesh,
and then it is that status's count. -/
theorem ofProbe_peerCount_eq_some (r : Except InferError MeshStatus) (n : Nat) :
    (ofProbe r).peerCount = some n ↔ ∃ s, r = .ok s ∧ s.isRunning = true ∧ s.peerCount = n := by
  rcases ofProbe_cases r with ⟨s, rfl, hrunning, heq⟩ | ⟨hstopped, heq⟩
  · simp [heq, hrunning]
  · simp only [heq, ofMesh_peerCount, reduceCtorEq, false_iff]
    rintro ⟨s, rfl, hrunning, -⟩
    simp [hstopped s rfl] at hrunning

/-- The status of an available mesh is summarised by its peers. -/
theorem ofProbe_summary_of_available {s : MeshStatus} (h : s.isAvailable = true) :
    (ofProbe (.ok s)).summary =
      if s.peerCount = 1 then "1 peer" else toString s.peerCount ++ " peers" := by
  obtain ⟨hrunning, hpeers⟩ : s.isRunning = true ∧ 0 < s.peerCount := by
    simpa [MeshStatus.isAvailable] using h
  rw [show ofProbe (.ok s) = ofMesh (some s.peerCount) by simp [ofProbe, hrunning]]
  exact ofMesh_summary_some hpeers

theorem ofProbe_summary_eq_localOnly_iff (r : Except InferError MeshStatus) :
    (ofProbe r).summary = "Local only" ↔ (ofProbe r).healthy = false := by
  rcases ofProbe_cases r with ⟨s, -, -, heq⟩ | ⟨-, heq⟩ <;>
    rw [heq] <;> exact ofMesh_summary_eq_localOnly_iff _

end Connectivity

namespace ClientM

variable {σ : Type} (setup : ClientSetup σ)

/-- The mesh's status answer depends on the network's state alone. -/
theorem probeMesh_fst_of_link (s s' : Session σ) (h : s.link = s'.link) :
    (((probeMesh : ClientM σ ProbeReply).run setup).run s).1 =
      (((probeMesh : ClientM σ ProbeReply).run setup).run s').1 := by
  simp only [probeMesh, run_bind, run_config]
  split
  · rfl
  · simp only [run_bind, run_send, run_pure, h]

/-- The client's routing decides as the router does on its breaker, its clock and the probe's
answer. -/
theorem run_shouldUseMesh_fst (s : Session σ) (ms : List Message) :
    (((shouldUseMesh ms : ClientM σ Bool).run setup).run s).1 =
      (routeMessages s.breaker s.now (((probeMesh : ClientM σ ProbeReply).run setup).run s).1
        ms).1.useMesh := by
  obtain ⟨notes, hpermits⟩ := run_permits setup s
  simp only [shouldUseMesh, run_bind, hpermits]
  rw [routeMessages_eq]
  cases (s.breaker.permits s.now).1
  · simp [MeshVerdict.useMesh]
    rfl
  · simp only [Bool.not_true, Bool.false_eq_true, if_false, if_true, run_bind, run_now,
      run_advanceTo, run_note, run_pure]
    -- asking the breaker moved only the breaker and the notes, so the probe answers the same
    exact congrArg (fun reply => (judgeProbe reply ms).1.useMesh)
      (probeMesh_fst_of_link setup _ s rfl)

/-- The mesh indicator reads the probe's answer, an answer later than the probe's limit being a
timeout. -/
theorem run_meshConnectivity_fst (s : Session σ) :
    (((meshConnectivity : ClientM σ Connectivity).run setup).run s).1 =
      let reply := (((probeMesh : ClientM σ ProbeReply).run setup).run s).1
      Connectivity.ofProbe (if reply.delayMs ≤ probeTimeoutMs then reply.result
        else .error (.timeout meshBackend probeTimeoutMs)) := by
  simp only [meshConnectivity, run_bind, run_now]
  -- the notes differ by the answer; the indicator does not
  split
  · split
    · simp only [run_bind, run_note, run_pure]
    · simp only [run_pure]
  · simp only [run_bind, run_note, run_pure]

end ClientM

open Connectivity in
/-- The mesh indicator on a probe's result: healthy exactly for the status of a mesh that runs
with a positive peer count, `peerCount` taken before `peer_count` even when it is zero; a peer
count exactly for a mesh that runs, and then its count; a summary that names the peers when
healthy and is `Local only` exactly when not. In any session where the client's routing sends
messages to the mesh, the indicator asked in the same session shows the mesh healthy. -/
theorem meshIndicator_agrees_with_routing {σ : Type} (r : Except InferError MeshStatus)
    (setup : ClientSetup σ) (s : Session σ) (ms : List Message) :
    ((ofProbe r).healthy = true ↔
      ∃ st, r = .ok st ∧ st.running = some true ∧
        0 < (st.peerCountCamel.or st.peerCountSnake).getD 0) ∧
    (∀ n, (ofProbe r).peerCount = some n ↔
      ∃ st, r = .ok st ∧ st.isRunning = true ∧ st.peerCount = n) ∧
    (∀ st, r = .ok st → st.isAvailable = true →
      (ofProbe r).summary =
        if st.peerCount = 1 then "1 peer" else toString st.peerCount ++ " peers") ∧
    ((ofProbe r).summary = "Local only" ↔ (ofProbe r).healthy = false) ∧
    ((((ClientM.shouldUseMesh ms : ClientM σ Bool).run setup).run s).1 = true →
      (((ClientM.meshConnectivity : ClientM σ Connectivity).run setup).run s).1.healthy = true) := by
  refine ⟨?_, ofProbe_peerCount_eq_some r, ?_, ofProbe_summary_eq_localOnly_iff r, ?_⟩
  · simp only [ofProbe_healthy_iff, MeshStatus.isAvailable_iff]
  · rintro st rfl havailable
    exact ofProbe_summary_of_available havailable
  · intro huse
    rw [ClientM.run_shouldUseMesh_fst, routeMessages_eq] at huse
    rw [ClientM.run_meshConnectivity_fst]
    generalize (((ClientM.probeMesh : ClientM σ ProbeReply).run setup).run s).1 = reply at huse ⊢
    split at huse
    · -- the router got an available status within the limit, which the indicator reads too
      obtain ⟨hdelay, st, hresult, havailable, -⟩ := (judgeProbe_useMesh reply ms).mp huse
      simp only [hdelay, if_true, hresult]
      exact (ofProbe_healthy_iff _).mpr ⟨st, rfl, havailable⟩
    · simp [MeshVerdict.useMesh] at huse

end InferRoute
