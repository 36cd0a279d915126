import ClusterGraph.Document.Patch
import ClusterGraph.Time.Rfc3339

/-!
# Resources

An object of any kind as callers see it. Its id is the uid if it has one, else its `apiVersion`,
kind, namespace and name joined by slashes.
-/
namespace ClusterGraph

/-- When the object was created; a timestamp that is not in the strict form counts as absent. -/
def Document.created? (d : Document) : Option Time.Instant :=
  (d.metaText? "creationTimestamp").bind Time.Instant.parse?

structure Resource where
  id : String
  apiVersion : String
  kind : String
  nspace : Option String
  name : String
  uid : Option String
  resourceVersion : Option String
  created : Option Time.Instant
  spec : Option Json
  status : Option Json
  /-- The compact text of the whole object. -/
  raw : String
  deriving Repr

namespace Resource

def createdAt (r : Resource) : Option String := r.created.map Time.Instant.text

def fallbackId (apiVersion kind : String) (nspace : Option String) (name : String) : String :=
  apiVersion ++ "/" ++ kind ++ "/" ++ nspace.getD "" ++ "/" ++ name

/-- The resource that a document describes. Only the name is required. -/
def ofDocument (d : Document) : Except Failure Resource :=
  match d.name? with
  | none => .error (.of .remodel (.decode (.missingField "metadata.name")))
  | some name =>
    .ok
      { id := d.uid?.getD (fallbackId d.apiVersion d.kind d.nspace? name)
        apiVersion := d.apiVersion
        kind := d.kind
        nspace := d.nspace?
        name := name
        uid := d.uid?
        resourceVersion := d.resourceVersion?
        created := d.created?
        spec := d.spec?
        status := d.status?
        raw := d.raw }

end Resource
end ClusterGraph
