import ClusterGraph.Query.Basic

/-!
# Schemas

The types that queries select from and that arguments have, as data: objects with fields, input
objects, enumerations and scalars. There are no interfaces and no unions. Names that begin with two
underscores are reserved for what a schema says about itself.
-/
namespace ClusterGraph
open Query (TypeRef)

structure InputDef where
  name : String
  type : TypeRef
  /-- The written form of the value that stands for an absent one. -/
  default? : Option String
  deriving DecidableEq, Repr

structure FieldDef where
  name : String
  description : String
  inputs : List InputDef
  type : TypeRef
  deriving DecidableEq, Repr

inductive Scalar where
  | boolean
  | float
  | id
  | int
  | string
  | json
  deriving DecidableEq, Repr

structure ChoiceDef where
  name : String
  description : String
  deriving DecidableEq, Repr

inductive TypeBody where
  | scalar (s : Scalar)
  | object (fields : List FieldDef)
  | input (fields : List InputDef)
  | choice (values : List ChoiceDef)
  deriving DecidableEq, Repr

structure TypeDef where
  name : String
  description : String
  body : TypeBody
  deriving DecidableEq, Repr

/-- Where a directive may stand: at a part of a query, or at a part of a schema. -/
inductive DirectiveLocation where
  | query
  | mutation
  | subscription
  | field
  | fragmentDefinition
  | fragmentSpread
  | inlineFragment
  | variableDefinition
  | schema
  | scalar
  | object
  | fieldDefinition
  | argumentDefinition
  | interface
  | union
  | enumeration
  | enumerationValue
  | inputObject
  | inputFieldDefinition
  deriving DecidableEq, Repr

namespace DirectiveLocation

def name : DirectiveLocation → String
  | query => "QUERY"
  | mutation => "MUTATION"
  | subscription => "SUBSCRIPTION"
  | field => "FIELD"
  | fragmentDefinition => "FRAGMENT_DEFINITION"
  | fragmentSpread => "FRAGMENT_SPREAD"
  | inlineFragment => "INLINE_FRAGMENT"
  | variableDefinition => "VARIABLE_DEFINITION"
  | schema => "SCHEMA"
  | scalar => "SCALAR"
  | object => "OBJECT"
  | fieldDefinition => "FIELD_DEFINITION"
  | argumentDefinition => "ARGUMENT_DEFINITION"
  | interface => "INTERFACE"
  | union => "UNION"
  | enumeration => "ENUM"
  | enumerationValue => "ENUM_VALUE"
  | inputObject => "INPUT_OBJECT"
  | inputFieldDefinition => "INPUT_FIELD_DEFINITION"

def ofQueries : List DirectiveLocation :=
  [query, mutation, subscription, field, fragmentDefinition, fragmentSpread, inlineFragment,
    variableDefinition]

def ofSchemas : List DirectiveLocation :=
  [schema, scalar, object, fieldDefinition, argumentDefinition, interface, union, enumeration,
    enumerationValue, inputObject, inputFieldDefinition]

end DirectiveLocation

structure DirectiveDef where
  name : String
  description : String
  inputs : List InputDef
  locations : List DirectiveLocation
  deriving DecidableEq, Repr

def DirectiveDef.isForQueries (d : DirectiveDef) : Bool :=
  d.locations.any DirectiveLocation.ofQueries.contains

/-- A schema: its types, the types of the two roots, and its directives. -/
structure Schema where
  types : List TypeDef
  query : String
  mutation : String
  directives : List DirectiveDef
  deriving DecidableEq, Repr

namespace TypeDef

def isLeaf (t : TypeDef) : Bool :=
  match t.body with
  | .scalar _ => true
  | .choice _ => true
  | _ => false

def isObject (t : TypeDef) : Bool :=
  match t.body with
  | .object _ => true
  | _ => false

def isInput (t : TypeDef) : Bool := !t.isObject

def fields (t : TypeDef) : List FieldDef :=
  match t.body with
  | .object fields => fields
  | _ => []

def field? (t : TypeDef) (name : String) : Option FieldDef := t.fields.find? fun f => f.name = name

def inputs? (t : TypeDef) : Option (List InputDef) :=
  match t.body with
  | .input fields => some fields
  | _ => none

def inputs (t : TypeDef) : List InputDef := t.inputs?.getD []

def choices? (t : TypeDef) : Option (List ChoiceDef) :=
  match t.body with
  | .choice values => some values
  | _ => none

end TypeDef

def findInput? (inputs : List InputDef) (name : String) : Option InputDef :=
  inputs.find? fun i => i.name = name

def InputDef.isNeeded (i : InputDef) : Bool := i.type.isRequired && i.default?.isNone

namespace Schema

def may (name : String) : TypeRef := .named name false

def must (name : String) : TypeRef := .named name true

def many (name : String) : TypeRef := .list (must name) true

def mayMany (name : String) : TypeRef := .list (must name) false

def plain (name : String) (type : TypeRef) : FieldDef := ⟨name, "", [], type⟩

def input (name : String) (type : TypeRef) : InputDef := ⟨name, type, none⟩

/-- The name is reserved for what a schema says about itself. -/
def isReserved (name : String) : Bool := ['_', '_'].isPrefixOf name.toList

def type? (s : Schema) (name : String) : Option TypeDef := s.types.find? fun t => t.name = name

def directive? (s : Schema) (name : String) : Option DirectiveDef :=
  s.directives.find? fun d => d.name = name

def typeOf? (s : Schema) (f : FieldDef) : Option TypeDef := s.type? f.type.baseName

end Schema
end ClusterGraph
