import ClusterGraph.Document.Patch
import ClusterGraph.Kind.Reference
import ClusterGraph.Query.Constant
import ClusterGraph.Query.Plan

/-!
# Arguments as values of the domain

The value of an argument is a constant, or absent. It becomes a text, a reference or a list of
patches; a value that does not is refused with the type that was expected and what was found.
-/
namespace ClusterGraph.Query

/-- How an argument becomes a value; the error is a message. -/
abbrev Coercion (α : Type) := Option Constant → Except String α

namespace Coercion
variable {α : Type}

def refuse (type : String) (found : Option Constant) : Except String α :=
  .error ("Expected input type " ++ quote type ++ ", found " ++ (found.getD .null).shown ++ ".")

def inside (type : String) (r : Except String α) : Except String α :=
  r.mapError fun m => m ++ " (occurred while parsing " ++ quote type ++ ")"

def text : Coercion String
  | some (.string s) => .ok s
  | found => refuse "String" found

def text? : Coercion (Option String)
  | none => .ok none
  | some .null => .ok none
  | some c => (text (some c)).map some

def flag : Coercion Bool
  | some (.bool b) => .ok b
  | found => refuse "Boolean" found

/-- A reference. An empty namespace is none. -/
def reference : Coercion Reference
  | some (.object entries) => inside "ResourceReferenceInput" do
    let apiVersion ← text (Entries.get? entries "apiVersion")
    let kind ← text (Entries.get? entries "kind")
    let nspace ← text? (Entries.get? entries "namespace")
    let name ← text (Entries.get? entries "name")
    return Reference.normalized ⟨apiVersion, kind, nspace, name⟩
  | found => refuse "ResourceReferenceInput" found

def patch : Coercion Patch
  | some (.object entries) => inside "PatchInput" do
    let path ← text (Entries.get? entries "fieldPath")
    let value ← text (Entries.get? entries "value")
    return ⟨path, value⟩
  | found => refuse "PatchInput" found

/-- Patches; one that is not in a list stands for a list with that patch. -/
def patches : Coercion (List Patch)
  | some (.list items) => inside "[PatchInput!]" (items.mapM fun c => patch (some c))
  | found => inside "[PatchInput!]" ((patch found).map ([·]))

end Coercion

/-- The value of a variable of an operation: the given one, else its fallback. -/
def Plan.assigned? (p : Plan) (name : String) : Option Constant :=
  match p.operation.declarations.find? fun d => d.name = name with
  | some d =>
    match Entries.get? p.values name with
    | some c => some c
    | none => d.fallback?
  | none => none

/-- The value of an argument of a field, which is absent if it is not given. What is wrong with it
is reported where its value stands. -/
def Plan.argument {α : Type} (p : Plan) (given : List Argument) (name : String)
    (coerce : Coercion α) : Except ResponseError α :=
  match given.find? (·.name = name) with
  | none => (coerce none).mapError fun m => .ofQuery m [⟨0, 0⟩]
  | some a =>
    let found := a.value.resolve fun n =>
      match p.assigned? n with
      | some c => .ok c
      | none => .error ("Variable " ++ n ++ " is not defined.")
    (found.bind fun c => coerce (some c)).mapError fun m => .ofQuery m [a.valuePosition]

/-- The patches of a mutation; by default there are none. -/
def Plan.patches (p : Plan) (given : List Argument) : Except ResponseError (List Patch) :=
  if given.any (·.name = "patches") then p.argument given "patches" Coercion.patches else .ok []

end ClusterGraph.Query
