import ClusterGraph.Json.Reader
import ClusterGraph.Failure
import ClusterGraph.Kind.Reference

/-!
# Documents

An object of the cluster is an ordered JSON object with a text `apiVersion`, a text `kind` and, if
present, an object `metadata`. Edits in place may break this shape, so it can be checked again.
-/
namespace ClusterGraph

/-- The top-level entries of a document. -/
structure Document where
  entries : Entries Json
  deriving Repr, Inhabited

namespace Document

def checkText (entries : Entries Json) (field : String) : Except DecodeError Unit :=
  match entries.get? field with
  | some (.string _) => .ok ()
  | some _ => .error (.wrongType field "string")
  | none => .error (.missingField field)

/-- The shape that every document has: `apiVersion` and `kind` are texts, `metadata` is an object
or absent. -/
def validate (d : Document) : Except DecodeError Unit := do
  checkText d.entries "apiVersion"
  checkText d.entries "kind"
  match d.entries.get? "metadata" with
  | none => .ok ()
  | some metadata => if metadata.isObject then .ok () else .error (.wrongType "metadata" "object")

def ofJson : Json → Except DecodeError Document
  | .object entries => do
    let d : Document := ⟨entries⟩
    d.validate
    return d
  | _ => .error .notAnObject

def ofGlyphs (gs : List Text.Glyph) : Except DecodeError Document :=
  match Json.ofGlyphs gs with
  | .ok v => ofJson v
  | .error fault => .error (.malformed fault)

def parse (raw : String) : Except DecodeError Document := ofGlyphs (Text.Glyph.ofString raw)

def toJson (d : Document) : Json := .object d.entries

def raw (d : Document) : String := d.toJson.compact

/-- A document that holds nothing but the fields which name the object. -/
def ofReference (r : Reference) : Document :=
  let metadata : Entries Json :=
    ("name", .string r.name) :: (r.nspace.map fun ns => ("namespace", Json.string ns)).toList
  ⟨[("apiVersion", .string r.apiVersion), ("kind", .string r.kind), ("metadata", .object metadata)]⟩

/-- The document that a value is once absent type fields are filled in. -/
def withDefaultTypes (v : Json) (apiVersion kind : String) : Except DecodeError Document :=
  match v with
  | .object entries =>
    ofJson (.object
      ((Entries.putDefault entries "apiVersion" (.string apiVersion)).putDefault "kind"
        (.string kind)))
  | other => ofJson other

def get? (d : Document) (key : String) : Option Json := d.entries.get? key

def metadata? (d : Document) (key : String) : Option Json :=
  match d.entries.get? "metadata" with
  | some metadata => metadata.get? key
  | none => none

/-- A text in the metadata; a value of another type counts as absent. -/
def metaText? (d : Document) (key : String) : Option String := (d.metadata? key).bind Json.string?

def apiVersion (d : Document) : String := ((d.get? "apiVersion").bind Json.string?).getD ""
def kind (d : Document) : String := ((d.get? "kind").bind Json.string?).getD ""
def name? (d : Document) : Option String := d.metaText? "name"
def nspace? (d : Document) : Option String := d.metaText? "namespace"
def uid? (d : Document) : Option String := d.metaText? "uid"
def resourceVersion? (d : Document) : Option String := d.metaText? "resourceVersion"
def spec? (d : Document) : Option Json := d.get? "spec"
def status? (d : Document) : Option Json := d.get? "status"

end Document
end ClusterGraph
