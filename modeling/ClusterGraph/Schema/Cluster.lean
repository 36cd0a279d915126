import ClusterGraph.Schema.Introspection

/-!
# The schema of the gateway

Custom resource definitions with the kinds they declare, and the objects of those kinds. Its own
types stand in the order of their names. Every field of the two roots may be null, so that a field
that fails leaves its siblings alone.
-/
namespace ClusterGraph.Schema
open Query (TypeRef)

private def reference : InputDef := input "reference" (must "ResourceReferenceInput")

private def document : InputDef := input "document" (must "String")

/-- The patches of a mutation as an argument; by default there are none. -/
private def patches : InputDef := ⟨"patches", many "PatchInput", some "[]"⟩

def definitionList : TypeDef :=
  ⟨"CrdConnection", "", .object
    [plain "nodes" (many "CustomResourceDefinition"), plain "totalCount" (must "Int")]⟩

def definitionVersion : TypeDef :=
  ⟨"CrdVersion", "", .object
    [plain "name" (must "String"), plain "served" (must "Boolean"),
      plain "referenceable" (must "Boolean")]⟩

def definition : TypeDef :=
  ⟨"CustomResourceDefinition", "A custom resource definition and the kind it declares.", .object
    [plain "name" (must "String"), plain "group" (must "String"), plain "kind" (must "String"),
      plain "listKind" (may "String"), plain "plural" (must "String"),
      plain "namespaced" (must "Boolean"), plain "versions" (many "CrdVersion"),
      plain "createdAt" (may "String"),
      ⟨"referenceableVersion", "Version read paths target when the caller does not pick one.", [],
        must "String"⟩,
      ⟨"resources", "Objects of this kind. An explicit `version` is used as given.",
        [input "version" (may "String"), input "namespace" (may "String")],
        may "ResourceConnection"⟩]⟩

def mutationRoot : TypeDef :=
  ⟨"MutationRoot", "", .object
    [⟨"createResource", "Create from a raw JSON document after applying `patches`.",
        [document, patches], may "Resource"⟩,
      ⟨"updateResource", "", [reference, document, patches], may "Resource"⟩,
      ⟨"deleteResource",
        "Returns a snapshot built from `reference`; the object itself is gone.", [reference],
        may "Resource"⟩]⟩

def patchInput : TypeDef :=
  ⟨"PatchInput", "Set the raw JSON `value` at `fieldPath`.", .input
    [input "fieldPath" (must "String"), input "value" (must "String")]⟩

def queryRoot : TypeDef :=
  ⟨"QueryRoot", "", .object
    [plain "customResourceDefinitions" (may "CrdConnection"),
      ⟨"customResourceDefinition", "", [input "name" (must "String")],
        may "CustomResourceDefinition"⟩,
      ⟨"resource", "", [reference], may "Resource"⟩,
      ⟨"__schema", "Access the current type schema of this server.", [], must "__Schema"⟩,
      ⟨"__type", "Request the type information of a single type.",
        [input "name" (must "String")], may "__Type"⟩]⟩

def resource : TypeDef :=
  ⟨"Resource", "A dynamic object as seen by callers.", .object
    [plain "id" (must "ID"), plain "apiVersion" (must "String"), plain "kind" (must "String"),
      plain "namespace" (may "String"), plain "name" (must "String"), plain "uid" (may "String"),
      plain "resourceVersion" (may "String"), plain "createdAt" (may "String"),
      plain "spec" (may "JSON"), plain "status" (may "JSON"),
      ⟨"raw", "Serialized JSON of the whole object.", [], must "String"⟩]⟩

def resourceList : TypeDef :=
  ⟨"ResourceConnection", "", .object
    [plain "nodes" (many "Resource"), plain "totalCount" (must "Int")]⟩

def referenceInput : TypeDef :=
  ⟨"ResourceReferenceInput", "", .input
    [input "apiVersion" (must "String"), input "kind" (must "String"),
      input "namespace" (may "String"), input "name" (must "String")]⟩

def scalars : List TypeDef :=
  [⟨"Boolean", "", .scalar .boolean⟩, ⟨"Float", "", .scalar .float⟩, ⟨"ID", "", .scalar .id⟩,
    ⟨"Int", "", .scalar .int⟩, ⟨"String", "", .scalar .string⟩]

def json : TypeDef := ⟨"JSON", "A scalar that can represent any JSON value.", .scalar .json⟩

private def condition : InputDef := input "if" (must "Boolean")

private def conditional : List DirectiveLocation := [.field, .fragmentSpread, .inlineFragment]

def cluster : Schema where
  types := scalars ++ [definitionList, definitionVersion, definition, json, mutationRoot,
    patchInput, queryRoot, resource, resourceList, referenceInput] ++ introspection
  query := queryRoot.name
  mutation := mutationRoot.name
  directives :=
    [⟨"deprecated", "Marks an element of a GraphQL schema as no longer supported.",
        [⟨"reason", may "String", some "\"No longer supported\""⟩],
        [.fieldDefinition, .argumentDefinition, .inputFieldDefinition, .enumerationValue]⟩,
      ⟨"include",
        "Directs the executor to include this field or fragment only when the `if` argument is "
          ++ "true.",
        [condition], conditional⟩,
      ⟨"oneOf",
        "Indicates that an Input Object is a OneOf Input Object (and thus requires exactly one of "
          ++ "its field be provided)", [], [.inputObject]⟩,
      ⟨"skip",
        "Directs the executor to skip this field or fragment when the `if` argument is true.",
        [condition], conditional⟩,
      ⟨"specifiedBy",
        "Provides a scalar specification URL for specifying the behavior of custom scalar types.",
        [input "url" (must "String")], [.scalar]⟩]

end ClusterGraph.Schema
