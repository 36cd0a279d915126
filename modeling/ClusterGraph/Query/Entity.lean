import ClusterGraph.Resource.Definition
import ClusterGraph.Schema.Cluster

/-!
# What is selected from

The things from which fields are selected, and those of their fields that need no call: of resources
and definitions, of lists of them, and of the schema itself.
-/
namespace ClusterGraph.Query

inductive Entity where
  | query
  | mutation
  | definitions (c : Connection Definition)
  | definition (d : Definition)
  | version (v : VersionDecl)
  | resources (c : Connection Resource)
  | resource (r : Resource)
  /-- The schema itself. -/
  | schema
  | type (t : TypeRef)
  | fieldDef (f : FieldDef)
  | inputDef (i : InputDef)
  | choiceDef (c : ChoiceDef)
  | directiveDef (d : DirectiveDef)

/-- The value of a field before anything is selected from it. -/
inductive FieldValue where
  | leaf (v : Json)
  | entity? (e : Option Entity)
  | entities (es : List Entity)

namespace Entity

def typeName : Entity → String
  | query => Schema.queryRoot.name
  | mutation => Schema.mutationRoot.name
  | definitions _ => Schema.definitionList.name
  | definition _ => Schema.definition.name
  | version _ => Schema.definitionVersion.name
  | resources _ => Schema.resourceList.name
  | resource _ => Schema.resource.name
  | schema => "__Schema"
  | type _ => "__Type"
  | fieldDef _ => "__Field"
  | inputDef _ => "__InputValue"
  | choiceDef _ => "__EnumValue"
  | directiveDef _ => "__Directive"

private def text (s : String) : FieldValue := .leaf (.string s)

private def text? (s : Option String) : FieldValue := .leaf (.ofText? s)

def definitionField (d : Definition) : String → Option FieldValue
  | "name" => some (text d.name)
  | "group" => some (text d.descriptor.group)
  | "kind" => some (text d.descriptor.kind)
  | "listKind" => some (text? d.descriptor.listKind)
  | "plural" => some (text d.plural)
  | "namespaced" => some (.leaf (.bool d.descriptor.namespaced))
  | "versions" => some (.entities (d.descriptor.versions.map version))
  | "createdAt" => some (text? d.createdAt)
  | "referenceableVersion" => some (text d.referenceableVersion)
  | _ => none

def versionField (v : VersionDecl) : String → Option FieldValue
  | "name" => some (text v.name)
  | "served" => some (.leaf (.bool v.served))
  | "referenceable" => some (.leaf (.bool v.referenceable))
  | _ => none

def resourceField (r : Resource) : String → Option FieldValue
  | "id" => some (text r.id)
  | "apiVersion" => some (text r.apiVersion)
  | "kind" => some (text r.kind)
  | "namespace" => some (text? r.nspace)
  | "name" => some (text r.name)
  | "uid" => some (text? r.uid)
  | "resourceVersion" => some (text? r.resourceVersion)
  | "createdAt" => some (text? r.createdAt)
  | "spec" => some (.leaf (.ofOption r.spec))
  | "status" => some (.leaf (.ofOption r.status))
  | "raw" => some (text r.raw)
  | _ => none

def listField {α : Type} (c : Connection α) (entity : α → Entity) : String → Option FieldValue
  | "nodes" => some (.entities (c.nodes.map entity))
  | "totalCount" => some (.leaf (.ofNat c.totalCount))
  | _ => none

def list? {α : Type} (entity : α → Entity) : Option (List α) → FieldValue
  | some items => .entities (items.map entity)
  | none => .leaf .null

private def description (s : String) : FieldValue := text? (if s.isEmpty then none else some s)

/-- What is said of everything that could be out of use: nothing is. -/
def deprecationField : String → Option FieldValue
  | "isDeprecated" => some (.leaf (.bool false))
  | "deprecationReason" => some (.leaf .null)
  | _ => none

def schemaField (s : Schema) : String → Option FieldValue
  | "description" => some (text "TODO")
  | "types" =>
    let sorted := s.types.mergeSort fun a b => a.name ≤ b.name
    some (.entities (sorted.map fun t => type (.named t.name false)))
  | "queryType" => some (.entity? (some (type (.named s.query false))))
  | "mutationType" => some (.entity? (some (type (.named s.mutation false))))
  | "subscriptionType" => some (.entity? none)
  | "directives" => some (.entities (s.directives.map directiveDef))
  | _ => none

def typeField (s : Schema) (t : TypeRef) : String → Option FieldValue
  | "kind" => some (text (s.kindOf t))
  | "name" => some (text? ((Schema.definitionOf? s t).map (·.name)))
  | "description" => some (description (((Schema.definitionOf? s t).map (·.description)).getD ""))
  | "fields" =>
    some (list? fieldDef ((Schema.definitionOf? s t).bind fun d =>
      if d.isObject then some (d.fields.filter fun f => !Schema.isReserved f.name) else none))
  | "interfaces" =>
    some (list? type ((Schema.definitionOf? s t).bind fun d =>
      if d.isObject then some [] else none))
  | "possibleTypes" => some (.leaf .null)
  | "enumValues" => some (list? choiceDef ((Schema.definitionOf? s t).bind TypeDef.choices?))
  | "inputFields" => some (list? inputDef ((Schema.definitionOf? s t).bind TypeDef.inputs?))
  | "ofType" => some (.entity? ((Schema.inside? t).map type))
  | "specifiedByURL" => some (.leaf .null)
  | "isOneOf" =>
    some (.leaf (.ofOption (((Schema.definitionOf? s t).bind TypeDef.inputs?).map fun _ =>
      Json.bool false)))
  | _ => none

def fieldField (f : FieldDef) : String → Option FieldValue
  | "name" => some (text f.name)
  | "description" => some (description f.description)
  | "args" => some (.entities (f.inputs.map inputDef))
  | "type" => some (.entity? (some (type f.type)))
  | other => deprecationField other

def inputField (i : InputDef) : String → Option FieldValue
  | "name" => some (text i.name)
  | "description" => some (.leaf .null)
  | "type" => some (.entity? (some (type i.type)))
  | "defaultValue" => some (text? i.default?)
  | other => deprecationField other

def choiceField (c : ChoiceDef) : String → Option FieldValue
  | "name" => some (text c.name)
  | "description" => some (description c.description)
  | other => deprecationField other

def directiveField (d : DirectiveDef) : String → Option FieldValue
  | "name" => some (text d.name)
  | "description" => some (description d.description)
  | "locations" => some (.leaf (.array (d.locations.map fun l => .string l.name)))
  | "args" => some (.entities (d.inputs.map inputDef))
  | "isRepeatable" => some (.leaf (.bool false))
  | _ => none

def field? (s : Schema) (e : Entity) (name : String) : Option FieldValue :=
  if name = "__typename" then some (text e.typeName)
  else
    match e with
    | query => none
    | mutation => none
    | definitions c => listField c definition name
    | definition d => definitionField d name
    | version v => versionField v name
    | resources c => listField c resource name
    | resource r => resourceField r name
    | schema => schemaField s name
    | type t => typeField s t name
    | fieldDef f => fieldField f name
    | inputDef i => inputField i name
    | choiceDef c => choiceField c name
    | directiveDef d => directiveField d name

end Entity

end ClusterGraph.Query
