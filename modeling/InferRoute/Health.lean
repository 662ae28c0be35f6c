import InferRoute.Wire.Mesh
import InferRoute.Error

/-!
What the client tells about its backends: whether the local server answers, and how many peers
the mesh has. The mesh is healthy exactly when it reports running with at least one peer; a mesh
that does not run, or cannot be asked, has no peer count.
-/

namespace InferRoute

/-- A backend of the client. -/
inductive BackendKind where
  | localServer
  | mesh
deriving Repr, DecidableEq, Inhabited

namespace BackendKind

/-- The backend's name. -/
def name : BackendKind → String
  | .localServer => "local"
  | .mesh => "mesh"

end BackendKind

/-- The health of one backend. -/
structure Connectivity where
  backend : BackendKind
  healthy : Bool
  peerCount : Option Nat
deriving Repr, DecidableEq, Inhabited

namespace Connectivity

/-- The local server's health. -/
def ofLocal (healthy : Bool) : Connectivity := ⟨.localServer, healthy, none⟩

/-- The mesh's health from its peer count: healthy with at least one peer. -/
def ofMesh (peers : Option Nat) : Connectivity :=
  ⟨.mesh, (peers.map (fun n => decide (0 < n))).getD false, peers⟩

/-- The mesh's health from a probe: the peer count of a mesh that runs. -/
def ofProbe : Except InferError MeshStatus → Connectivity
  | .ok s => if s.isRunning then ofMesh (some s.peerCount) else ofMesh none
  | .error _ => ofMesh none

/-- A short text: the mesh's peers when healthy, else `Local only`; the local server online or
offline. -/
def summary (c : Connectivity) : String :=
  match c.backend, c.healthy, c.peerCount with
  | .mesh, true, some 1 => "1 peer"
  | .mesh, true, some n => toString n ++ " peers"
  | .mesh, _, _ => "Local only"
  | .localServer, true, _ => "Local server online"
  | .localServer, false, _ => "Local server offline"

/-- The JSON form `{"backend", "healthy", "peerCount"}`, the count left out when unknown. -/
def toJson (c : Connectivity) : Json :=
  Json.ofFields ([("backend", .string c.backend.name), ("healthy", .bool c.healthy)] ++
    match c.peerCount with
    | some n => [("peerCount", .number (.nat n))]
    | none => [])

end Connectivity

end InferRoute
