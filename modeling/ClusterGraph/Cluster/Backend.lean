import ClusterGraph.Cluster.Client
import ClusterGraph.Cluster.Credentials
import ClusterGraph.Gateway.World

/-!
# A cluster as a backend

Each client calls the API server with the credentials of its caller. A call is a dialogue, held at
one moment; that moment is never the one at which the call was made, so a call that may take no
time at all is late.
-/
namespace ClusterGraph

structure Cluster where
  server : Server
  /-- The settings from which those of each caller are made. -/
  base : ClientConfig
  /-- Clients that were asked for. -/
  builds : Nat
  /-- The requests that reached the server, with the credentials they bore. -/
  received : List (AuthInfo × ServerRequest)

namespace Cluster

def start (base : ClientConfig) (server : Server) : Cluster := ⟨server, base, 0, []⟩

/-- Builds a client, unless its credentials cannot be sent. -/
def buildClient (identity : Identity) (scope : Scope) : Call Cluster Client :=
  .act (World.mapBackend fun s => { s with builds := s.builds + 1 }) fun w =>
    match w.backend.base.forCaller identity scope with
    | .error e => .done (.error e)
    | .ok config =>
      match config.build with
      | .client => .done (.ok ⟨w.backend.builds, identity, scope⟩)
      | .refused e => .done (.error e)
      | .fatal => World.halt (.error (.invalidIdentity "credential cannot be sent"))

def note (c : Client) (requests : List ServerRequest) (s : Cluster) : Cluster :=
  match s.base.forCaller c.identity c.scope with
  | .error _ => s
  | .ok config =>
    let reached := requests.filter fun r => (s.server r).isOk
    { s with received := s.received ++ reached.map fun r => (config.auth, r) }

def consult {α : Type} (c : Client) (dialogue : ClusterClient → Consultation α) : Call Cluster α :=
  let d := dialogue ⟨c.scope.nspace⟩
  (Work.sleep 1).bind fun _ =>
    .act (World.mapBackend fun s => s.note c (d.run s.server).2) fun w =>
      .done (d.run w.backend.server).1

def backend : Backend Cluster where
  build := buildClient
  list c request := consult c fun k => k.list request
  get c r := consult c fun k => k.get r
  create c d := consult c fun k => k.create d
  update c r d := consult c fun k => k.update r d
  delete c r := consult c fun k => k.delete r

end Cluster
end ClusterGraph
