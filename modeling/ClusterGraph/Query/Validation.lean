import ClusterGraph.Query.Constant
import ClusterGraph.Query.Response
import ClusterGraph.Query.Suggestion
import ClusterGraph.Query.Visit

/-!
# Rules for the parts of a document

Each rule looks at one part and says what is wrong with it. The faults of a part come in the order
in which its rules are listed.
-/
namespace ClusterGraph.Query

abbrev Faults := List ResponseError

def fault (positions : List Position) (message : String) : Faults := [.ofQuery message positions]

def quote (name : String) : String := "\"" ++ name ++ "\""

variable (schema : Schema)

/-- A known directive stands at most once at a place. -/
def repeatedDirectives : List Directive → Faults
  | ds =>
    (ds.zipIdx).flatMap fun (d, i) =>
      if (schema.directive? d.name).isSome && (ds.take i).any (·.name = d.name) then
        fault [d.position] ("Duplicate directive " ++ quote d.name)
      else []

/-- A directive is known, and may stand where it stands. -/
def unknownDirective (d : Directive) (location : DirectiveLocation) : Faults :=
  match schema.directive? d.name with
  | some known =>
    if known.locations.contains location then []
    else fault [d.position]
      ("Directive " ++ quote d.name ++ " may not be used on " ++ quote location.name)
  | none => fault [d.position] ("Unknown directive " ++ quote d.name)

def missingInputs (inputs : List InputDef) (given : List Argument) : List InputDef :=
  inputs.filter fun i => i.isNeeded && !given.any (·.name = i.name)

def missingDirectiveArguments (d : Directive) : Faults :=
  match schema.directive? d.name with
  | some known =>
    (missingInputs known.inputs d.arguments).flatMap fun i =>
      fault [d.position] ("Directive " ++ quote ("@" ++ d.name) ++ " argument " ++ quote i.name
        ++ " of type " ++ quote i.type.text ++ " is required but not provided")
  | none => []

def missingFieldArguments (head : Field) (parent : TypeDef) : Faults :=
  match parent.field? head.name with
  | some known =>
    (missingInputs known.inputs head.arguments).flatMap fun i =>
      fault [head.position] ("Field " ++ quote head.name ++ " argument " ++ quote i.name
        ++ " of type " ++ quote parent.name ++ " is required but not provided")
  | none => []

/-- Something is selected from an object, and nothing from a scalar. -/
def wrongLeaf (head : Field) (isLeaf : Bool) (parent : TypeDef) : Faults :=
  match (parent.field? head.name).bind schema.typeOf? with
  | some t =>
    if t.isLeaf && !isLeaf then
      fault [head.position] ("Field " ++ quote head.name
        ++ " must not have a selection since type " ++ quote t.name ++ " has no subfields")
    else if !t.isLeaf && isLeaf then
      fault [head.position] ("Field " ++ quote head.name ++ " of type " ++ quote t.name
        ++ " must have a selection of subfields")
    else []
  | none => []

/-- A field is one of its type. One that is marked for schemas that have it is let through. -/
def unknownField (head : Field) (parent : TypeDef) : Faults :=
  if (parent.field? head.name).isSome || head.directives.any (·.name = "ifdef") then []
  else fault [head.position] ("Unknown field " ++ quote head.name ++ " on type "
    ++ quote parent.name ++ "." ++ suggestion (parent.fields.map (·.name)) head.name)

def repeatedArgument (a : Argument) (earlier : List String) : Faults :=
  if earlier.contains a.name then
    fault [a.position] ("There can only be one argument named " ++ quote a.name)
  else []

def unknownArgument (a : Argument) (near : Owner) : Faults :=
  if (findInput? near.inputs a.name).isSome then []
  else
    let place := match near with
      | .field f type => "field " ++ quote f.name ++ " of type " ++ quote type
      | .directive d => "directive " ++ quote d.name
    fault [a.position] ("Unknown argument " ++ quote a.name ++ " on " ++ place ++ "."
      ++ suggestion (near.inputs.map (·.name)) a.name)

/-- The value of an argument with the given values of variables, if all of them are given. -/
def givenValue? (given : Entries Constant) (v : Value String) : Option Constant :=
  (v.resolve fun name =>
    match given.get? name with
    | some c => Except.ok c
    | none => Except.error ()).toOption

/-- The value of an argument fits its type. A value with a variable that is not given is not
looked at. -/
def wrongArgument (given : Entries Constant) (a : Argument) (own : Owner) : Faults :=
  match findInput? own.inputs a.name, givenValue? given a.value with
  | some i, some c =>
    match c.fault? schema i.name i.type with
    | some reason => fault [a.position] ("Invalid value for argument " ++ reason)
    | none => []
  | _, _ => []

def outputVariable (d : VariableDeclaration) : Faults :=
  match schema.type? d.type.baseName with
  | some t =>
    if t.isInput then []
    else fault [d.position]
      ("Variable " ++ quote d.name ++ " cannot be of non-input type " ++ quote t.name)
  | none => []

def repeatedVariable (d : VariableDeclaration) (earlier : List String) : Faults :=
  if earlier.contains d.name then
    fault [d.position] ("There can only be one variable named " ++ quote ("$" ++ d.name))
  else []

def unknownType (name : String) (position : Position) : Faults :=
  if (schema.type? name).isSome then [] else fault [position] ("Unknown type " ++ quote name)

/-- A default value fits its type, which admits null. -/
def wrongDefault (d : VariableDeclaration) : Faults :=
  match d.default? with
  | some c =>
    if d.type.isRequired then
      fault [d.position] ("Argument " ++ quote d.name ++ " has type " ++ quote d.type.text
        ++ " and is not nullable, so it can't have a default value")
    else
      match c.fault? schema d.name d.type with
      | some reason => fault [d.position] ("Invalid default value for argument " ++ reason)
      | none => []
  | none => []

/-- A fragment stands where its type can occur: among selections from that type. -/
def impossibleFragment (subject : String) (position : Position) (type : TypeDef) (on : String) :
    Faults :=
  match schema.type? on with
  | some t =>
    if t.name = type.name then []
    else fault [position] (subject ++ " cannot be spread here as objects of type "
      ++ quote type.name ++ " can never be of type " ++ quote on)
  | none => []

def unknownFragment (s : Script) (name : String) (position : Position) : Faults :=
  if (s.fragment? name).isSome then []
  else fault [position] ("Unknown fragment: " ++ quote name)

def leafFragment (subject : String) (position : Position) (type? : Option TypeDef) : Faults :=
  match type? with
  | some t =>
    if t.isObject then []
    else fault [position] (subject ++ " cannot condition non composite type " ++ quote t.name)
  | none => []

mutual
/-- The number of selections in a selection, itself included. -/
def Selection.count : Selection → Nat
  | .field _ _ selections => 1 + countAll selections
  | .spread _ _ _ => 1
  | .inline _ _ _ _ selections => 1 + countAll selections

def countAll : List Selection → Nat
  | [] => 0
  | s :: rest => s.count + countAll rest
end

def Script.count (s : Script) : Nat :=
  countAll (s.operations.flatMap (·.selections)) + countAll (s.fragments.flatMap (·.selections))

/-- The fields of selections, each with the type of the fragment around it. Every fragment is
entered once. The fuel bounds the number of selections. -/
def gather (s : Script) : (fuel : Nat) → (visited : List String) →
    List (Option String × Selection) → List (Option String × Field)
  | 0, _, _ => []
  | _, _, [] => []
  | fuel + 1, visited, (on?, .field head _ _) :: rest =>
    (on?, head) :: gather s fuel visited rest
  | fuel + 1, visited, (_, .inline _ on? _ _ selections) :: rest =>
    gather s fuel visited (selections.map (Prod.mk on?) ++ rest)
  | fuel + 1, visited, (_, .spread _ name _) :: rest =>
    match s.fragment? name with
    | some f =>
      if visited.contains name then gather s fuel visited rest
      else gather s fuel (name :: visited) (f.selections.map (Prod.mk (some f.on)) ++ rest)
    | none => gather s fuel visited rest

mutual
/-- Two values are written alike, apart from the order of the entries of objects. -/
def alike : Value String → Value String → Bool
  | .variable a, .variable b => a = b
  | .null, .null => true
  | .bool a, .bool b => a = b
  | .number a, .number b => a = b
  | .string a, .string b => a = b
  | .name a, .name b => a = b
  | .list as, .list bs => alikeItems as bs
  | .object as, .object bs => as.length = bs.length && alikeEntries as bs
  | _, _ => false

def alikeItems : List (Value String) → List (Value String) → Bool
  | [], [] => true
  | a :: as, b :: bs => alike a b && alikeItems as bs
  | _, _ => false

/-- Each of the first entries has a like one among the others. -/
def alikeEntries : List (String × Value String) → List (String × Value String) → Bool
  | [], _ => true
  | (k, a) :: as, bs =>
    (match Entries.get? bs k with
      | some b => alike a b
      | none => false) && alikeEntries as bs
end

/-- Two fields that share a key of the response are the same field with the same arguments. -/
def conflict (key : String) (first second : Field) : Faults :=
  let advice := " Use different aliases on the fields to fetch both if this was intentional."
  let differing (name : String) : Faults := fault [first.position, second.position]
    ("Fields " ++ quote name ++ " conflict because they have differing arguments." ++ advice)
  (if first.name = second.name then []
    else fault [first.position, second.position] ("Fields " ++ quote key ++ " conflict because "
      ++ quote first.name ++ " and " ++ quote second.name ++ " are different fields." ++ advice))
    ++ (if first.arguments.length = second.arguments.length then [] else differing key)
    ++ first.arguments.flatMap fun a =>
      match second.arguments.find? (·.name = a.name) with
      | some b => if alike a.value b.value then [] else differing a.name
      | none => differing a.name

/-- The conflicts of fields with the first field of the same key and fragment type. -/
def conflicts (firsts : List (Option String × Field)) : List (Option String × Field) → Faults
  | [] => []
  | (on?, head) :: rest =>
    match firsts.find? fun e => e.1 = on? && e.2.key = head.key with
    | some (_, first) => conflict head.key first head ++ conflicts firsts rest
    | none => conflicts (firsts ++ [(on?, head)]) rest

def Part.faults (s : Script) (given : Entries Constant) : Part → Faults
  | .fragment f type? =>
    repeatedDirectives schema f.directives ++ unknownType schema f.on f.position
      ++ leafFragment ("Fragment " ++ quote f.name) f.position type?
  | .operation o => repeatedDirectives schema o.directives
  | .rootless o =>
    fault [o.position] ("Schema is not configured for " ++ o.kind.name ++ "s.")
  | .variable_ d earlier =>
    repeatedDirectives schema d.directives ++ outputVariable schema d ++ repeatedVariable d earlier
      ++ unknownType schema d.type.baseName d.position ++ wrongDefault schema d
  | .selections items =>
    conflicts [] (gather s (s.count + 1) [] (items.map (Prod.mk none)))
  | .field head isLeaf parent? =>
    repeatedDirectives schema head.directives ++ (match parent? with
      | some parent =>
        missingFieldArguments head parent ++ wrongLeaf schema head isLeaf parent
          ++ unknownField head parent
      | none => [])
  | .argument a earlier own near _ =>
    repeatedArgument a earlier ++ (near.map (unknownArgument a)).getD []
      ++ (own.map (wrongArgument schema given a)).getD []
  | .directive d location =>
    unknownDirective schema d location ++ missingDirectiveArguments schema d
  | .spread position name directives type? =>
    repeatedDirectives schema directives ++ (match type?, s.fragment? name with
      | some type, some f =>
        impossibleFragment schema ("Fragment " ++ quote name) position type f.on
      | _, _ => [])
      ++ unknownFragment s name position
  | .inline position on? directives parent? type? =>
    repeatedDirectives schema directives
      ++ (match parent?, on? with
        | some parent, some on => impossibleFragment schema "Fragment" position parent on
        | _, _ => [])
      ++ (match on? with
        | some on => unknownType schema on position
        | none => [])
      ++ leafFragment "Fragment" position type?

end ClusterGraph.Query
