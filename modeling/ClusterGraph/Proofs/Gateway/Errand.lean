import ClusterGraph.Gateway.Basic

/-!
# Errands

The operations of the gateway as data, so that something can be said about all of them at once, and
about sequences of them. Every one of them gets a client, makes one call with it and remodels the
answer (`Gateway.perform_eq`). How the client is got is a parameter: from the cache, as the gateway
does it, or built anew for every operation.
-/
namespace ClusterGraph

namespace Work
variable {σ α γ δ : Type}

theorem bind_assoc (w : Work σ α) (k : α → Work σ γ) (l : γ → Work σ δ) :
    (w.bind k).bind l = w.bind fun a => (k a).bind l := by
  induction w with
  | done a => rfl
  | act update next ih => exact congrArg (act update) (funext ih)
  | wait ready abandon timers next ih => exact congrArg (wait ready abandon timers) ih

end Work

inductive Errand where
  | get (reference : Reference)
  | definition (name : String)
  | definitions
  | resources (descriptor : Descriptor) (version nspace : Option String)
  | create (raw : String) (patches : List Patch)
  | update (reference : Reference) (raw : String) (patches : List Patch)
  | delete (reference : Reference)

inductive Answer where
  | resource (resource : Resource)
  | definition (definition : Definition)
  | definitions (definitions : Connection Definition)
  | resources (resources : Connection Resource)

/-- The client of an identity within a scope, built anew after the checks that the cache makes. -/
def acquireFresh {β : Type} (build : Factory β) (identity : Identity) (scope : Scope) :
    Call β Client :=
  if identity.isBlank then .done (.error (.invalidIdentity "empty credential"))
  else
    .look fun w =>
      if identity.isExpiredAt w.wall then .done (.error (.invalidIdentity "credential expired"))
      else build identity scope.normalized

namespace Gateway
variable {β : Type}

theorem next_assoc {α γ δ : Type} (first : Operation β α) (k : α → Operation β γ)
    (l : γ → Operation β δ) : next (next first k) l = next first fun a => next (k a) l := by
  unfold next
  rw [Work.bind_assoc]
  congr 1
  funext r
  cases r <;> rfl

def perform (g : Gateway β) (r : Request) : Errand → Operation β Answer
  | .get reference => next (g.get r reference) fun x => .done (.ok (.resource x))
  | .definition name => next (g.definition r name) fun x => .done (.ok (.definition x))
  | .definitions => next (g.definitions r) fun x => .done (.ok (.definitions x))
  | .resources d version nspace =>
    next (g.resources r d version nspace) fun x => .done (.ok (.resources x))
  | .create raw patches => next (g.create r raw patches) fun x => .done (.ok (.resource x))
  | .update reference raw patches =>
    next (g.update r reference raw patches) fun x => .done (.ok (.resource x))
  | .delete reference => next (g.delete r reference) fun x => .done (.ok (.resource x))

/-- What the gateway offers to do for a request, with the types of its answers left as they are. -/
inductive Offers (g : Gateway β) (r : Request) : {α : Type} → Operation β α → Prop where
  | get (reference : Reference) : Offers g r (g.get r reference)
  | definition (name : String) : Offers g r (g.definition r name)
  | list {α : Type} (request : ListRequest) (remodel : Document → Except Failure α)
      (key : α → NodeKey) : Offers g r (g.list r request remodel key)
  | create (raw : String) (patches : List Patch) : Offers g r (g.create r raw patches)
  | update (reference : Reference) (raw : String) (patches : List Patch) :
      Offers g r (g.update r reference raw patches)
  | delete (reference : Reference) : Offers g r (g.delete r reference)

/-- One call with a client, and its answer remodelled. -/
def consult {α : Type} (g : Gateway β) (r : Request) (s : Stage) (name : String) (call : Call β α)
    (remodel : α → Except Failure Answer) : Operation β Answer :=
  next (stage s (r.bounded g.callTimeout name call)) fun a => .done (remodel a)

def proceedWith (g : Gateway β) (r : Request) (c : Client) : Errand → Operation β Answer
  | .get reference =>
    g.consult r .get "get" (g.backend.get c reference) fun d =>
      (Resource.ofDocument d).map .resource
  | .definition name =>
    g.consult r .get "get" (g.backend.get c (Definition.reference name)) fun d =>
      (Definition.ofDocument d).map .definition
  | .definitions =>
    let d := Definition.metaDescriptor
    g.consult r .list "list"
      (g.backend.list c (d.listRequest (resolveVersion none d.versions) none)) fun items =>
        (remodelAll Definition.ofDocument Definition.key items).map .definitions
  | .resources d version nspace =>
    g.consult r .list "list"
      (g.backend.list c (d.listRequest (resolveVersion version d.versions) nspace)) fun items =>
        (remodelAll Resource.ofDocument Resource.key items).map .resources
  | .create raw patches =>
    match Document.prepare raw patches with
    | .error e => .done (.error e)
    | .ok d =>
      g.consult r .create "create" (g.backend.create c d) fun created =>
        (Resource.ofDocument created).map .resource
  | .update reference raw patches =>
    match Document.prepare raw patches with
    | .error e => .done (.error e)
    | .ok d =>
      g.consult r .update "update" (g.backend.update c reference d) fun updated =>
        (Resource.ofDocument updated).map .resource
  | .delete reference =>
    match Resource.ofDocument (Document.ofReference reference) with
    | .error e => .done (.error e)
    | .ok snapshot =>
      g.consult r .delete "delete" (g.backend.delete c reference) fun _ => .ok (.resource snapshot)

/-- What is wrong with an errand before anything is done for it. -/
def flaw? : Errand → Option Failure
  | .create raw patches | .update _ raw patches =>
    match Document.prepare raw patches with
    | .error e => some e
    | .ok _ => none
  | _ => none

/-- Runs an errand for a request, with a way to get the client. -/
def performWith (g : Gateway β) (provider : Identity → Scope → Call β Client) (r : Request)
    (e : Errand) : Operation β Answer :=
  match flaw? e with
  | some f => .done (.error f)
  | none =>
    next (stage .clientAcquisition (r.bounded g.callTimeout "client" (provider r.identity r.scope)))
      fun c => g.proceedWith r c e

/-- Runs an errand for a request, with a client that is built for it. -/
def performFresh (g : Gateway β) : Request → Errand → Operation β Answer :=
  g.performWith (acquireFresh g.backend.build)

theorem next_remodel {α γ δ : Type} (first : Operation β α) (remodel : α → Except Failure γ)
    (wrap : γ → δ) :
    (next first fun a => next (.done (remodel a)) fun x => .done (.ok (wrap x))) =
      next first fun a => .done ((remodel a).map wrap) := by
  congr 1
  funext a
  cases remodel a <;> rfl

/-- An errand gets the client of its caller from the cache, and goes on with it. -/
theorem perform_eq (g : Gateway β) (r : Request) (e : Errand) :
    g.perform r e = g.performWith (acquire g.backend) r e := by
  cases e with
  | get reference | definition name | definitions | resources d version nspace =>
    simp only [perform, get, definition, definitions, resources, list, next_assoc, next_remodel]
    rfl
  | create raw patches =>
    simp only [perform, create, performWith, flaw?, proceedWith]
    cases Document.prepare raw patches with
    | error e => rfl
    | ok d =>
      simp only [next_assoc, next_remodel]
      rfl
  | update reference raw patches =>
    simp only [perform, update, performWith, flaw?, proceedWith]
    cases Document.prepare raw patches with
    | error e => rfl
    | ok d =>
      simp only [next_assoc, next_remodel]
      rfl
  | delete reference =>
    simp only [perform, delete, performWith, flaw?, proceedWith, next_assoc]
    congr 1
    funext c
    cases Resource.ofDocument (Document.ofReference reference) with
    | error e => rfl
    | ok snapshot =>
      simp only [next_assoc]
      rfl

/-! ## Sessions -/

/-- What happens in a session in which one errand is run after another. -/
inductive Occasion where
  | ask (request : Request) (errand : Errand)
  | pass (delay : Nat)
  | setWall (moment : Time.Instant)
  | evict (identity : Identity)
  | purge

/-- What becomes of a session on an occasion. An errand has an answer unless everything has
ended. -/
def attend (run : Request → Errand → Operation β Answer) (w : World β) :
    Occasion → List (Option (Except Failure Answer)) × World β
  | .ask request errand =>
    let (answer, w') := (run request errand).run w
    ([if w'.halted then none else answer], w')
  | .pass delay => ([], { w with now := w.now + delay })
  | .setWall moment => ([], { w with wall := moment })
  | .evict identity => ([], w.mapCache (·.evict identity))
  | .purge => ([], w.purge.2)

/-- The answers of a session, and what becomes of it. -/
def session (run : Request → Errand → Operation β Answer) :
    World β → List Occasion → List (Option (Except Failure Answer)) × World β
  | w, [] => ([], w)
  | w, occasion :: rest =>
    let first := attend run w occasion
    let others := session run first.2 rest
    (first.1 ++ others.1, others.2)

end Gateway
end ClusterGraph
