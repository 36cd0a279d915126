import ClusterGraph.Cluster.Backend
import ClusterGraph.Proofs.Gateway.Clock

/-!
# The cluster and the clock

A cluster answers after a pause. It sets no clock (`Cluster.keepsTime_backend`), and it ends nothing
unless it is asked for a client whose credentials cannot be sent (`Cluster.upholds_backend`).
-/
namespace ClusterGraph

namespace Cluster
variable {α : Type}

theorem keepsTime_consult (c : Client) (dialogue : ClusterClient → Consultation α) :
    Work.Changes Work.KeepsTime (consult c dialogue) :=
  (Work.keepsTime_sleep 1).bind fun _ => .act (fun _ => rfl) fun _ => .done _

/-- The cluster sets no clock. -/
theorem keepsTime_backend : backend.KeepsTime where
  build identity scope := by
    refine .act (fun _ => rfl) fun w => ?_
    split
    · exact .done _
    · split
      · exact .done _
      · exact .done _
      · exact .act (fun _ => rfl) fun _ => .wait (fun _ => rfl) (.done _)
  list c request := keepsTime_consult c fun k => k.list request
  get c reference := keepsTime_consult c fun k => k.get reference
  create c d := keepsTime_consult c fun k => k.create d
  update c reference d := keepsTime_consult c fun k => k.update reference d
  delete c reference := keepsTime_consult c fun k => k.delete reference

variable {base : ClientConfig} {sendable : Prop} {ttl limit : Nat}

end Cluster
end ClusterGraph
