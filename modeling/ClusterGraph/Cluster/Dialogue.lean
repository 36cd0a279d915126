import ClusterGraph.Failure

/-!
# Dialogues with an API server

A dialogue sends requests, one after another, and goes on with each answer. It is data; what comes
of it depends on the server, which is a function from requests to answers.
-/
namespace ClusterGraph

/-- A request to an API server. The target is a path, perhaps with a query. -/
structure ServerRequest where
  method : String
  target : String
  body : String
  deriving DecidableEq, Repr

structure ServerReply where
  status : Nat
  body : String
  deriving DecidableEq, Repr

/-- An API server. A request that does not reach it is answered by a text. -/
abbrev Server := ServerRequest → Except String ServerReply

def Server.unreachable : Server := fun _ => .error "client error (Connect)"

/-- Requests, each with what follows its answer, and a value in the end. -/
inductive Dialogue (α : Type) where
  | done (value : α)
  | send (request : ServerRequest) (next : Except String ServerReply → Dialogue α)

namespace Dialogue
variable {α β : Type}

protected def bind : Dialogue α → (α → Dialogue β) → Dialogue β
  | done a, k => k a
  | send request next, k => send request fun reply => (next reply).bind k

instance : Monad Dialogue where
  pure := done
  bind := Dialogue.bind

/-- The value of a dialogue with a server, and the requests sent. -/
def run (server : Server) : Dialogue α → α × List ServerRequest
  | done a => (a, [])
  | send request next =>
    let (a, requests) := (next (server request)).run server
    (a, request :: requests)

end Dialogue

/-- A dialogue that may fail with a backend error. -/
abbrev Consultation (α : Type) := Dialogue (Except BackendError α)

namespace Consultation
variable {α β : Type}

def fail (e : BackendError) : Consultation α := .done (.error e)

/-- One consultation after another; the first error ends it. -/
def next (first : Consultation α) (then_ : α → Consultation β) : Consultation β :=
  first.bind fun
    | .ok a => then_ a
    | .error e => fail e

end Consultation
end ClusterGraph
