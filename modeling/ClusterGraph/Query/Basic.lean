import ClusterGraph.Json.Basic

/-!
# Query documents

What callers send: operations that select fields, and named fragments of selections. Everything an
error may point at carries its position in the text.

A value holds variables of some type. In a document these are names; a constant has none.
-/
namespace ClusterGraph.Query

/-- A line and a column of the text, both from one. -/
structure Position where
  line : Nat
  column : Nat
  deriving DecidableEq, Repr

def Position.start : Position := ⟨1, 1⟩

/-- The position after a character. A line feed ends a line; a carriage return goes back to its
first column. -/
def Position.advance (p : Position) (c : Char) : Position :=
  if c = '\n' then ⟨p.line + 1, 1⟩
  else if c = '\r' then { p with column := 1 }
  else { p with column := p.column + 1 }

inductive Value (ν : Type) where
  | variable (v : ν)
  | null
  | bool (b : Bool)
  | number (n : Number)
  | string (s : String)
  | name (s : String)
  | list (items : List (Value ν))
  | object (entries : List (String × Value ν))
  deriving Repr

instance {ν : Type} : Inhabited (Value ν) := ⟨.null⟩

abbrev Constant := Value Empty

inductive TypeRef where
  | named (name : String) (required : Bool)
  | list (item : TypeRef) (required : Bool)
  deriving DecidableEq, Repr

namespace TypeRef

/-- Null is no value of the type. -/
def isRequired : TypeRef → Bool
  | named _ required => required
  | list _ required => required

def optional : TypeRef → TypeRef
  | named n _ => named n false
  | list t _ => list t false

def required : TypeRef → TypeRef
  | named n _ => named n true
  | list t _ => list t true

def baseName : TypeRef → String
  | named n _ => n
  | list t _ => t.baseName

def text : TypeRef → String
  | named n required => if required then n ++ "!" else n
  | list t required => if required then "[" ++ t.text ++ "]!" else "[" ++ t.text ++ "]"

/-- Every value of the other type is one of this type. -/
def admits : TypeRef → TypeRef → Bool
  | named n required, named m required' => n == m && (!required || required')
  | list t required, list u required' => t.admits u && (!required || required')
  | _, _ => false

end TypeRef

structure Argument where
  position : Position
  name : String
  valuePosition : Position
  value : Value String
  deriving Repr

structure Directive where
  position : Position
  name : String
  arguments : List Argument
  deriving Repr

/-- A field that is selected, without what is selected of it. -/
structure Field where
  position : Position
  alias? : Option String
  name : String
  arguments : List Argument
  directives : List Directive
  deriving Repr

def Field.key (f : Field) : String := f.alias?.getD f.name

/-- One selection. The selections under a field stand at a position of their own; a field without
them has none. -/
inductive Selection where
  | field (head : Field) (bracePosition : Position) (selections : List Selection)
  | spread (position : Position) (fragment : String) (directives : List Directive)
  | inline (position : Position) (on? : Option String) (directives : List Directive)
      (bracePosition : Position) (selections : List Selection)
  deriving Repr

inductive OperationKind where
  | query
  | mutation
  | subscription
  deriving DecidableEq, Repr

def OperationKind.name : OperationKind → String
  | query => "query"
  | mutation => "mutation"
  | subscription => "subscription"

structure VariableDeclaration where
  position : Position
  name : String
  type : TypeRef
  directives : List Directive
  default? : Option Constant
  deriving Repr

/-- The value of a variable that the caller does not give: its default, else null if null is a
value of its type. -/
def VariableDeclaration.fallback? (d : VariableDeclaration) : Option Constant :=
  match d.default? with
  | some v => some v
  | none => if d.type.isRequired then none else some .null

structure Operation where
  position : Position
  kind : OperationKind
  name? : Option String
  declarations : List VariableDeclaration
  directives : List Directive
  bracePosition : Position
  selections : List Selection
  deriving Repr

structure Fragment where
  position : Position
  name : String
  on : String
  directives : List Directive
  bracePosition : Position
  selections : List Selection
  deriving Repr

structure Script where
  operations : List Operation
  fragments : List Fragment
  deriving Repr

def Script.fragment? (s : Script) (name : String) : Option Fragment :=
  s.fragments.find? fun f => f.name = name

end ClusterGraph.Query
