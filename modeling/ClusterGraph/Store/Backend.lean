import ClusterGraph.Store.Basic

/-!
# The store as a backend

A call is recorded when it is made; delay and failure are those that hold then. What it does to the
objects happens after the delay, at once.
-/
namespace ClusterGraph.Store

/-- Records a call, waits, and goes on unless calls of its kind fail. -/
def enter {α : Type} (call : RecordedCall) (next : Call Store α) : Call Store α :=
  .act (World.mapBackend fun s => { s with calls := s.calls ++ [call] }) fun w =>
    (Work.sleep w.backend.delay).bind fun _ =>
      match w.backend.failure? call.kind with
      | some e => .done (.error e)
      | none => next

def query {α : Type} (f : Store → Except BackendError α) : Call Store α :=
  .look fun w => .done (f w.backend)

def command {α : Type} (f : Store → Except BackendError α × Store) : Call Store α :=
  .act (World.mapBackend fun s => (f s).2) fun w => .done (f w.backend).1

/-- Builds a client; each one that is asked for has the next serial number. -/
def buildClient (identity : Identity) (scope : Scope) : Call Store Client :=
  .act (World.mapBackend fun s => { s with builds := s.builds + 1 }) fun w =>
    (Work.sleep w.backend.buildDelay).bind fun _ =>
      .look fun w' =>
        if w'.backend.refuseBuilds then .done (.error (.invalidIdentity "credential rejected"))
        else .done (.ok ⟨w.backend.builds, identity, scope⟩)

def backend : Backend Store where
  build := buildClient
  list c request := enter (.list request) (query fun s => s.list c.scope.nspace request)
  get c r := enter (.get r) (query fun s => s.get c.scope.nspace r)
  create c d := enter (.create d) (command fun s => s.create c.scope.nspace d)
  update c r d := enter (.update r d) (command fun s => s.update c.scope.nspace r d)
  delete c r := enter (.delete r) (command fun s => s.delete c.scope.nspace r)

end ClusterGraph.Store
