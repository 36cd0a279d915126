import ClusterGraph.Schema.Cluster

/-!
# The written form of a schema

Every type that the schema adds to the common scalars, with its description above it between triple
quotes; then the directives that may stand in a query, then the roots. What a schema says about
itself is not written.
-/
namespace ClusterGraph.Schema

/-- A description on lines of its own; an empty one is left out. -/
def describe (indent text : String) : String :=
  if text.isEmpty then ""
  else
    let quotes := indent ++ "\"\"\"\n"
    quotes ++ indent ++ text ++ "\n" ++ quotes

def inputText (i : InputDef) : String :=
  i.name ++ ": " ++ i.type.text ++ (match i.default? with
    | some v => " = " ++ v
    | none => "")

def inputsText (inputs : List InputDef) : String :=
  if inputs.isEmpty then "" else "(" ++ ", ".intercalate (inputs.map inputText) ++ ")"

def block (head : String) (lines : List String) : String :=
  head ++ " \x7b\n" ++ String.join lines ++ "\x7d\n"

def fieldText (f : FieldDef) : String :=
  describe "\t" f.description ++ "\t" ++ f.name ++ inputsText f.inputs ++ ": " ++ f.type.text
    ++ "\n"

def choiceText (c : ChoiceDef) : String := describe "\t" c.description ++ "\t" ++ c.name ++ "\n"

def typeText (t : TypeDef) : String :=
  describe "" t.description ++ (match t.body with
    | .scalar _ => "scalar " ++ t.name ++ "\n"
    | .object fields =>
      block ("type " ++ t.name) ((fields.filter fun f => !isReserved f.name).map fieldText)
    | .choice values => block ("enum " ++ t.name) (values.map choiceText)
    | .input fields =>
      block ("input " ++ t.name) (fields.map fun i => "\t" ++ inputText i ++ "\n")) ++ "\n"

def directiveText (d : DirectiveDef) : String :=
  describe "" d.description ++ "directive @" ++ d.name ++ inputsText d.inputs ++ " on "
    ++ " | ".intercalate (d.locations.map DirectiveLocation.name) ++ "\n"

def text (s : Schema) : String :=
  String.join ((s.types.filter fun t => !scalars.contains t && !isReserved t.name).map typeText)
    ++ String.join ((s.directives.filter (·.isForQueries)).map directiveText)
    ++ block "schema" ["\tquery: " ++ s.query ++ "\n", "\tmutation: " ++ s.mutation ++ "\n"]

end ClusterGraph.Schema
