import ClusterGraph.Resource.Connection
import ClusterGraph.Typed.Read

/-!
# Custom resource definitions

A definition declares a kind. It is read from its document with every declared field checked for
its type; what is absent is empty.
-/
namespace ClusterGraph

/-- A custom resource definition and the kind that it declares. -/
structure Definition where
  name : String
  plural : String
  descriptor : Descriptor
  created : Option Time.Instant
  deriving Repr

namespace Definition

def metaDescriptor : Descriptor where
  group := "apiextensions.k8s.io"
  kind := "CustomResourceDefinition"
  listKind := none
  plural := some "customresourcedefinitions"
  namespaced := false
  versions := [⟨"v1", true, true⟩]

def reference (name : String) : Reference where
  apiVersion := joinApiVersion "apiextensions.k8s.io" "v1"
  kind := "CustomResourceDefinition"
  nspace := none
  name := name

def createdAt (d : Definition) : Option String := d.created.map Time.Instant.text

def referenceableVersion (d : Definition) : String := pickVersion d.descriptor.versions

/-- What definitions are ordered by; they live in no namespace. -/
def key (d : Definition) : NodeKey := ⟨d.created, none, d.name⟩

private def textAt (path : List String) (v : Json) : String :=
  ((path.foldl (fun v k => v.bind (Json.get? k)) (some v)).bind Json.string?).getD ""

private def flagAt (key : String) (v : Json) : Bool :=
  match v.get? key with
  | some (.bool b) => b
  | _ => false

private def versionsIn (spec : Json) : List VersionDecl :=
  match spec.get? "versions" with
  | some (.array items) =>
    items.map fun v => ⟨textAt ["name"] v, flagAt "served" v, flagAt "storage" v⟩
  | _ => []

def ofDocument (d : Document) : Except Failure Definition :=
  match Shape.read (.record .definition) d.toJson with
  | .error text => .error (.of .remodel (.decode (.malformed (.ofShape text))))
  | .ok v =>
    match ((v.get? "metadata").bind (Json.get? "name")).bind Json.string? with
    | none => .error (.of .remodel (.decode (.missingField "metadata.name")))
    | some name =>
      let spec := (v.get? "spec").getD .null
      let plural := textAt ["names", "plural"] spec
      .ok
        { name := name
          plural := plural
          descriptor :=
            { group := textAt ["group"] spec
              kind := textAt ["names", "kind"] spec
              listKind := ((spec.get? "names").bind (Json.get? "listKind")).bind Json.string?
              plural := some plural
              namespaced := textAt ["scope"] spec = "Namespaced"
              versions := versionsIn spec }
          created := d.created? }

end Definition
end ClusterGraph
