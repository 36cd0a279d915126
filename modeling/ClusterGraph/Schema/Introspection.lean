import ClusterGraph.Schema.Basic

/-!
# Types by which a schema describes itself

A query may ask for the types of the schema, their fields and arguments, and the directives. A type
that is wrapped, in a list or against null, is described by the kind of its wrapping and the type
inside.
-/
namespace ClusterGraph

def TypeBody.kind : TypeBody → String
  | scalar _ => "SCALAR"
  | object _ => "OBJECT"
  | input _ => "INPUT_OBJECT"
  | choice _ => "ENUM"

namespace Schema
open Query (TypeRef)

/-- The kind of a type; a type that the schema does not know counts as a scalar. -/
def kindOf (s : Schema) : TypeRef → String
  | .named name false => ((s.type? name).map fun t => t.body.kind).getD "SCALAR"
  | .list _ false => "LIST"
  | .named _ true => "NON_NULL"
  | .list _ true => "NON_NULL"

def definitionOf? (s : Schema) : TypeRef → Option TypeDef
  | .named name false => s.type? name
  | _ => none

def inside? : TypeRef → Option TypeRef
  | .named name true => some (.named name false)
  | .list item true => some (.list item false)
  | .list item false => some item
  | .named _ false => none

/-- The name and the description of most things that are described. -/
private def named : List FieldDef :=
  [plain "name" (must "String"), plain "description" (may "String")]

private def deprecation : List FieldDef :=
  [plain "isDeprecated" (must "Boolean"), plain "deprecationReason" (may "String")]

private def includeDeprecated : InputDef := ⟨"includeDeprecated", must "Boolean", some "false"⟩

private def choices (names : List String) : TypeBody := .choice (names.map fun n => ⟨n, ""⟩)

def introspection : List TypeDef :=
  [⟨"__Directive", "", .object (named ++
      [plain "locations" (many "__DirectiveLocation"),
        ⟨"args", "", [includeDeprecated], many "__InputValue"⟩,
        plain "isRepeatable" (must "Boolean")])⟩,
    ⟨"__DirectiveLocation", "", choices
      ((DirectiveLocation.ofQueries ++ DirectiveLocation.ofSchemas).map DirectiveLocation.name)⟩,
    ⟨"__EnumValue", "", .object (named ++ deprecation)⟩,
    ⟨"__Field", "", .object (named ++
      [⟨"args", "", [includeDeprecated], many "__InputValue"⟩, plain "type" (must "__Type")]
        ++ deprecation)⟩,
    ⟨"__InputValue", "", .object (named ++
      [plain "type" (must "__Type"), plain "defaultValue" (may "String")] ++ deprecation)⟩,
    ⟨"__Schema", "", .object
      [plain "description" (must "String"), plain "types" (many "__Type"),
        plain "queryType" (must "__Type"), plain "mutationType" (may "__Type"),
        plain "subscriptionType" (may "__Type"), plain "directives" (many "__Directive")]⟩,
    ⟨"__Type", "", .object
      [plain "kind" (must "__TypeKind"), plain "name" (may "String"),
        plain "description" (may "String"),
        ⟨"fields", "", [includeDeprecated], mayMany "__Field"⟩,
        plain "interfaces" (mayMany "__Type"), plain "possibleTypes" (mayMany "__Type"),
        ⟨"enumValues", "", [includeDeprecated], mayMany "__EnumValue"⟩,
        ⟨"inputFields", "", [includeDeprecated], mayMany "__InputValue"⟩,
        plain "ofType" (may "__Type"), plain "specifiedByURL" (may "String"),
        plain "isOneOf" (may "Boolean")]⟩,
    ⟨"__TypeKind", "", choices
      ["SCALAR", "OBJECT", "INTERFACE", "UNION", "ENUM", "INPUT_OBJECT", "LIST", "NON_NULL"]⟩]

end Schema
end ClusterGraph
