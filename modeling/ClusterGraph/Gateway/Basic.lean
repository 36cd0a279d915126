import ClusterGraph.Access.Acquire
import ClusterGraph.Resource.Definition

/-!
# The gateway

Every operation on behalf of a caller: it acquires the caller's client, makes one backend call, and
remodels the answer. Both steps are bounded by a limit for each call and by the deadline and the
cancellation of the request. A mutation prepares its document before anything else, so a document
that cannot be read or patched never reaches the backend.

Limits, deadlines and cancellations are assumed to be whole milliseconds, as all times are.
-/
namespace ClusterGraph

/-- A request of a caller. -/
structure Request where
  identity : Identity
  scope : Scope
  /-- The millisecond by which everything has to be done. -/
  deadline : Option Nat
  /-- The millisecond at which the caller cancels the request. -/
  cancelAt : Option Nat
  deriving DecidableEq, Repr

/-- The backend and the limits of its use. -/
structure Gateway (β : Type) where
  backend : Backend β
  /-- Milliseconds for each call. -/
  callTimeout : Nat
  /-- Milliseconds for a whole request. -/
  requestTimeout : Nat

variable {β : Type}

/-- Work bounded by a limit and by the request. The name of the operation is for the message. -/
def Request.bounded {α : Type} (r : Request) (limit : Nat) (operation : String)
    (work : Call β α) : Call β α :=
  .look fun w =>
    let onCancel : Except BackendError α := .error (.timeout (operation ++ ": request cancelled"))
    let onDeadline : Except BackendError α := .error (.timeout (operation ++ ": deadline exceeded"))
    match later? w.now limit with
    | none => World.halt onDeadline
    | some t =>
      work.bounded r.cancelAt (match r.deadline with
        | some d => min t d
        | none => t) onCancel onDeadline

namespace Gateway

/-- The request of a caller under the configured limit for whole requests. -/
def request (g : Gateway β) (identity : Identity) (scope : Scope) (now : Nat) : Option Request :=
  (later? now g.requestTimeout).map fun d => ⟨identity, scope.normalized, some d, none⟩

abbrev Operation (β α : Type) := Work (World β) (Except Failure α)

def stage {α : Type} (s : Stage) (call : Call β α) : Operation β α :=
  call.bind fun
    | .ok a => .done (.ok a)
    | .error e => .done (.error (.of s (.backend e)))

def next {α γ : Type} (first : Operation β α) (then_ : α → Operation β γ) : Operation β γ :=
  first.bind fun
    | .ok a => then_ a
    | .error e => .done (.error e)

def client (g : Gateway β) (r : Request) : Operation β Client :=
  stage .clientAcquisition (r.bounded g.callTimeout "client" (acquire g.backend r.identity r.scope))

def get (g : Gateway β) (r : Request) (reference : Reference) : Operation β Resource :=
  next (g.client r) fun c =>
    next (stage .get (r.bounded g.callTimeout "get" (g.backend.get c reference))) fun d =>
      .done (Resource.ofDocument d)

def definition (g : Gateway β) (r : Request) (name : String) : Operation β Definition :=
  next (g.client r) fun c =>
    next (stage .get (r.bounded g.callTimeout "get" (g.backend.get c (Definition.reference name))))
      fun d => .done (Definition.ofDocument d)

/-- Every item of a list call, remodelled; the first one that cannot be fails the whole. -/
def remodelAll {α : Type} (remodel : Document → Except Failure α) (key : α → NodeKey)
    (items : List Document) : Except Failure (Connection α) :=
  (items.mapM remodel).map (Connection.ordered key)

def list {α : Type} (g : Gateway β) (r : Request) (request : ListRequest)
    (remodel : Document → Except Failure α) (key : α → NodeKey) : Operation β (Connection α) :=
  next (g.client r) fun c =>
    next (stage .list (r.bounded g.callTimeout "list" (g.backend.list c request))) fun items =>
      .done (remodelAll remodel key items)

/-- The objects of a kind. A version that is named is used as it is. -/
def resources (g : Gateway β) (r : Request) (d : Descriptor) (version nspace : Option String) :
    Operation β (Connection Resource) :=
  g.list r (d.listRequest (resolveVersion version d.versions) nspace) Resource.ofDocument
    Resource.key

def definitions (g : Gateway β) (r : Request) : Operation β (Connection Definition) :=
  let d := Definition.metaDescriptor
  g.list r (d.listRequest (resolveVersion none d.versions) none) Definition.ofDocument
    Definition.key

def create (g : Gateway β) (r : Request) (raw : String) (patches : List Patch) :
    Operation β Resource :=
  match Document.prepare raw patches with
  | .error e => .done (.error e)
  | .ok d =>
    next (g.client r) fun c =>
      next (stage .create (r.bounded g.callTimeout "create" (g.backend.create c d))) fun created =>
        .done (Resource.ofDocument created)

def update (g : Gateway β) (r : Request) (reference : Reference) (raw : String)
    (patches : List Patch) : Operation β Resource :=
  match Document.prepare raw patches with
  | .error e => .done (.error e)
  | .ok d =>
    next (g.client r) fun c =>
      next (stage .update (r.bounded g.callTimeout "update" (g.backend.update c reference d)))
        fun updated => .done (Resource.ofDocument updated)

/-- Deletes an object; what is given back is a snapshot made of the reference. -/
def delete (g : Gateway β) (r : Request) (reference : Reference) : Operation β Resource :=
  next (g.client r) fun c =>
    match Resource.ofDocument (Document.ofReference reference) with
    | .error e => .done (.error e)
    | .ok snapshot =>
      next (stage .delete (r.bounded g.callTimeout "delete" (g.backend.delete c reference)))
        fun _ => .done (.ok snapshot)

end Gateway
end ClusterGraph
