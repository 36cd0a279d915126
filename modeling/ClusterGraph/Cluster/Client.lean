import ClusterGraph.Cluster.Discovery
import ClusterGraph.Cluster.Object

/-!
# The API server client

The calls of a client as dialogues. Every call on an object first asks for the resource type of its
kind; a list call does so only if it does not know the plural. A client that is restricted to a
namespace is refused every call outside it; a call without a namespace goes to the one it is
restricted to.
-/
namespace ClusterGraph

/-- A client of an API server, perhaps restricted to a namespace. -/
structure ClusterClient where
  restriction : Option String
  deriving DecidableEq, Repr

namespace ClusterClient
variable (c : ClusterClient)

def nspaceFor (requested : Option String) : Except BackendError (Option String) :=
  match c.restriction, requested with
  | some r, some n =>
    if r = n then .ok (some r)
    else .error (.forbidden ("client restricted to namespace " ++ r ++ ", got " ++ n))
  | some r, none => .ok (some r)
  | none, n => .ok n

def collection (kind : String) (nspace : Option String) (found : ResourceType × Bool) :
    Except BackendError String :=
  let (type, namespaced) := found
  if namespaced then do
    match ← c.nspaceFor nspace with
    | some ns => return type.path (some ns)
    | none => .error (.status 400 "BadRequest" "namespace required for namespaced kind")
  else
    match c.restriction with
    | some r =>
      .error (.forbidden
        ("client restricted to namespace " ++ r ++ ", kind " ++ kind ++ " is cluster scoped"))
    | none => .ok (type.path none)

def locate (apiVersion kind : String) (nspace : Option String) : Consultation String :=
  (Discovery.ask (.ofApiVersion apiVersion kind)).next fun found =>
    .done (c.collection kind nspace found)

/-- Sends a request about objects and reads the body of its answer. -/
def request {α : Type} (method target body : String) (read : String → Option α) : Consultation α :=
  match Target.sent? target with
  | none =>
    .fail (.transport
      "Failed to build request: failed to build request: invalid uri character")
  | some sent => ServerRequest.ask ⟨method, sent, body⟩ read

def submit (method target : String) (d : Document) : Consultation (Entries Json) :=
  match Wire.body d with
  | .error e => .fail e
  | .ok body => request method target body Wire.read?

def received (apiVersion kind : String) (call : Consultation (Entries Json)) :
    Consultation Document :=
  call.next fun entries => .done (Wire.document apiVersion kind entries)

def list (r : ListRequest) : Consultation (List Document) :=
  match c.nspaceFor r.nspace with
  | .error e => .fail e
  | .ok nspace =>
    let k : KindName := ⟨r.group, r.version, r.kind⟩
    let type : Consultation ResourceType := match r.plural with
      | some plural => .done (.ok (.ofPlural k plural))
      | none => (Discovery.ask k).next fun found => .done (.ok found.1)
    type.next fun t =>
      (request "GET" (t.path nspace ++ "?") "" Wire.readList?).next fun items =>
        .done (items.mapM (Wire.document r.apiVersion r.kind))

def get (r : Reference) : Consultation Document :=
  (c.locate r.apiVersion r.kind r.nspace).next fun path =>
    received r.apiVersion r.kind (request "GET" (path ++ "/" ++ r.name) "" Wire.read?)

def create (d : Document) : Consultation Document :=
  (c.locate d.apiVersion d.kind d.nspace?).next fun path =>
    received d.apiVersion d.kind (submit "POST" (path ++ "?") d)

def update (r : Reference) (d : Document) : Consultation Document :=
  (c.locate r.apiVersion r.kind r.nspace).next fun path =>
    received r.apiVersion r.kind (submit "PUT" (path ++ "/" ++ r.name ++ "?") d)

def delete (r : Reference) : Consultation Unit :=
  (c.locate r.apiVersion r.kind r.nspace).next fun path =>
    request "DELETE" (path ++ "/" ++ r.name ++ "?") "\x7b\x7d" Wire.answersDeletion

end ClusterClient
end ClusterGraph
