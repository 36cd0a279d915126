import ClusterGraph.Query.Basic
import ClusterGraph.Schema.Basic

/-!
# Visits of a query document

A walk through a document with the schema beside it: fragments first, then operations, each from the
outside in. A visit holds one part of the document together with what the schema says about the
place where it stands, so that rules can look at each visit alone.
-/
namespace ClusterGraph.Query

inductive Scope where
  | fragment (name : String)
  | operation (name? : Option String)
  deriving DecidableEq, Repr

inductive Owner where
  | field (f : FieldDef) (type : String)
  | directive (d : DirectiveDef)
  deriving Repr

def Owner.inputs : Owner → List InputDef
  | field f _ => f.inputs
  | directive d => d.inputs

/-- One part of a document. A type is absent where the schema does not know it. -/
inductive Part where
  | fragment (f : Fragment) (type? : Option TypeDef)
  | operation (o : Operation)
  /-- An operation of a kind that the schema has no root for. -/
  | rootless (o : Operation)
  /-- A variable, and the variables before it. -/
  | variable_ (d : VariableDeclaration) (earlier : List String)
  | selections (items : List Selection)
  | field (head : Field) (isLeaf : Bool) (parent? : Option TypeDef)
  /-- An argument, and the names of those before it. It is checked against the arguments that `own`
  declares; its name is looked for among those of `near`, the last declaration that was met. Its
  use of variables is reported at `anchor`. -/
  | argument (a : Argument) (earlier : List String) (own near : Option Owner) (anchor : Position)
  | directive (d : Directive) (location : DirectiveLocation)
  | spread (position : Position) (fragment : String) (directives : List Directive)
      (type? : Option TypeDef)
  /-- Selections in their place, for the type `type?`, within selections from `parent?`. -/
  | inline (position : Position) (on? : Option String) (directives : List Directive)
      (parent? type? : Option TypeDef)
  deriving Repr

structure Visit where
  scope : Scope
  part : Part
  deriving Repr

section
variable (schema : Schema) (scope : Scope)

def visitArguments (own near : Option Owner) (anchor : Position) (earlier : List String) :
    List Argument → List Visit
  | [] => []
  | a :: rest =>
    ⟨scope, .argument a earlier own near anchor⟩
      :: visitArguments own near anchor (earlier ++ [a.name]) rest

def visitDirectives (location : DirectiveLocation) (ds : List Directive) : List Visit :=
  ds.flatMap fun d =>
    let own := (schema.directive? d.name).map Owner.directive
    ⟨scope, .directive d location⟩ :: visitArguments scope own own d.position [] d.arguments

/-- The declaration met last once directives have been visited. -/
def afterDirectives (near : Option Owner) (ds : List Directive) : Option Owner :=
  if ds.isEmpty then near else none

mutual
/-- One selection from a type, with all inside it, and the declaration met last after it. The type
name of an object is not visited. -/
def visitSelection (type? : Option TypeDef) (near : Option Owner) :
    Selection → List Visit × Option Owner
  | .field head _ selections =>
    if head.name = "__typename" then ([], near)
    else
      let own := do
        let t ← type?
        let f ← t.field? head.name
        return Owner.field f t.name
      let near' := match own with
        | some o => some o
        | none => near
      let inner := do schema.typeOf? (← (← type?).field? head.name)
      let ownVisits := ⟨scope, .field head selections.isEmpty type?⟩
        :: visitArguments scope own near' head.position [] head.arguments
      let marks := visitDirectives schema scope .field head.directives
      (ownVisits ++ marks
        ++ visitSelections inner (afterDirectives near' head.directives) selections, none)
  | .spread position fragment directives =>
    (⟨scope, .spread position fragment directives type?⟩
      :: visitDirectives schema scope .fragmentSpread directives, afterDirectives near directives)
  | .inline position on? directives _ selections =>
    let inner := match on? with
      | some name => schema.type? name
      | none => type?
    let marks := visitDirectives schema scope .inlineFragment directives
    let (items, near') := visitItems inner (afterDirectives near directives) selections
    (⟨scope, .inline position on? directives type? inner⟩ :: marks
      ++ (if selections.isEmpty then [] else ⟨scope, .selections selections⟩ :: items), near')

def visitItems (type? : Option TypeDef) (near : Option Owner) :
    List Selection → List Visit × Option Owner
  | [] => ([], near)
  | s :: rest =>
    let (first, near') := visitSelection type? near s
    let (more, near'') := visitItems type? near' rest
    (first ++ more, near'')

def visitSelections (type? : Option TypeDef) (near : Option Owner) (items : List Selection) :
    List Visit :=
  if items.isEmpty then [] else ⟨scope, .selections items⟩ :: (visitItems type? near items).1
end

end

def rootOf? (schema : Schema) : OperationKind → Option TypeDef
  | .query => schema.type? schema.query
  | .mutation => schema.type? schema.mutation
  | .subscription => none

def OperationKind.location : OperationKind → DirectiveLocation
  | query => .query
  | mutation => .mutation
  | subscription => .subscription

def visitVariables (scope : Scope) (earlier : List String) : List VariableDeclaration → List Visit
  | [] => []
  | d :: rest =>
    ⟨scope, .variable_ d earlier⟩ :: visitVariables scope (earlier ++ [d.name]) rest

def Fragment.visits (schema : Schema) (f : Fragment) : List Visit :=
  let scope := Scope.fragment f.name
  let type? := schema.type? f.on
  ⟨scope, .fragment f type?⟩
    :: visitDirectives schema scope .fragmentDefinition f.directives
    ++ visitSelections schema scope type? none f.selections

def Operation.visits (schema : Schema) (o : Operation) : List Visit :=
  let scope := Scope.operation o.name?
  ⟨scope, .operation o⟩ :: (match rootOf? schema o.kind with
    | none => [⟨scope, .rootless o⟩]
    | some root =>
      visitVariables scope [] o.declarations
        ++ visitDirectives schema scope o.kind.location o.directives
        ++ visitSelections schema scope (some root) none o.selections)

def Script.visits (s : Script) (schema : Schema) : List Visit :=
  s.fragments.flatMap (·.visits schema) ++ s.operations.flatMap (·.visits schema)

end ClusterGraph.Query
