import ClusterGraph.Access.Cache
import ClusterGraph.Document.Basic
import ClusterGraph.Failure

/-!
# The state of a session

A virtual clock, the time of day, the client cache and a backend. A backend builds clients and
answers their calls; each is work over the whole state.
-/
namespace ClusterGraph

/-- The state of a session over the state of its backend. -/
structure World (β : Type) where
  /-- Milliseconds of the virtual clock. Everything is assumed to happen at a whole one. -/
  now : Nat
  /-- The time of day, by which credentials expire. -/
  wall : Time.Instant
  cache : Cache
  /-- Tickets handed out so far. -/
  tickets : Nat
  /-- Something that cannot be was asked for, such as a time that the clock does not reach. Nothing
  goes on after that. -/
  halted : Bool
  backend : β

instance {β : Type} : Clocked (World β) where
  now w := w.now
  setNow t w := { w with now := t }

/-- Work over the state of a session that may fail with a backend error. -/
abbrev Call (β α : Type) := Work (World β) (Except BackendError α)

abbrev Factory (β : Type) := Identity → Scope → Call β Client

/-- What builds clients and answers their calls. -/
structure Backend (β : Type) where
  build : Factory β
  list : Client → ListRequest → Call β (List Document)
  get : Client → Reference → Call β Document
  create : Client → Document → Call β Document
  update : Client → Reference → Document → Call β Document
  delete : Client → Reference → Call β Unit

namespace World
variable {β : Type}

def start (wall : Time.Instant) (cache : Cache) (backend : β) : World β :=
  ⟨0, wall, cache, 0, false, backend⟩

def mapCache (f : Cache → Cache) (w : World β) : World β := { w with cache := f w.cache }

def mapBackend (f : β → β) (w : World β) : World β := { w with backend := f w.backend }

/-- Ends everything: what was asked for cannot be. -/
def halt {α : Type} (a : α) : Work (World β) α :=
  .act (fun w => { w with halted := true }) fun _ => .stuck a

end World
end ClusterGraph
