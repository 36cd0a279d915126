import ClusterGraph.Query.Excerpt
import ClusterGraph.Query.Reach

/-!
# Plans

A request is a text, perhaps the name of one of its operations, and values for variables. A request
without faults becomes a plan: the operation with every fragment replaced by its fields, and without
what directives leave out. Since no type of the schema stands for several others, a fragment of a
document without faults always applies where it stands.
-/
namespace ClusterGraph.Query

structure Request where
  text : String
  operation? : Option String
  values : Entries Constant
  deriving Repr

/-- A field to be resolved: its place in the text, its key in the response, its name, its arguments,
and what is selected from its value. -/
inductive PlannedField where
  | mk (position : Position) (key name : String) (arguments : List Argument)
    (selected : List PlannedField)
  deriving Repr

structure Plan where
  operation : Operation
  values : Entries Constant
  fields : List PlannedField
  deriving Repr

/-- How deep selections, those of fragments included, may be nested below those of an operation. -/
def nestingLimit : Nat := 32

/-- The place of the first selections that are nested at least `limit` deep. -/
def Script.tooDeep? (s : Script) : (limit : Nat) → Position → List Selection → Option Position
  | 0, brace, _ => some brace
  | limit + 1, _, items =>
    items.findSome? fun
      | .field _ brace selections =>
        if selections.isEmpty then none else s.tooDeep? limit brace selections
      | .spread _ name _ =>
        match s.fragment? name with
        | some f => s.tooDeep? limit f.bracePosition f.selections
        | none => none
      | .inline _ _ _ brace selections => s.tooDeep? limit brace selections

/-- A value that stands for true; every other one, or none at all, stands for false. -/
def isTrue (given : Entries Constant) (v : Value String) : Bool :=
  match givenValue? given v with
  | some (.bool b) => b
  | _ => false

/-- A directive leaves out the selection that it stands at. Defaults of variables do not count. -/
def Directive.leavesOut (given : Entries Constant) (d : Directive) : Bool :=
  match d.arguments.find? (·.name = "if") with
  | some a =>
    (d.name = "skip" && isTrue given a.value) || (d.name = "include" && !isTrue given a.value)
  | none => false

def leftOut (given : Entries Constant) (ds : List Directive) : Bool := ds.any (·.leavesOut given)

/-- The fields that selections stand for. The fuel bounds how deep they are nested. -/
def Script.expand (s : Script) (given : Entries Constant) : (fuel : Nat) → List Selection →
    List PlannedField
  | 0, _ => []
  | fuel + 1, items =>
    items.flatMap fun
      | .field head _ selections =>
        if leftOut given head.directives then []
        else
          [.mk head.position head.key head.name head.arguments (s.expand given fuel selections)]
      | .spread _ name directives =>
        if leftOut given directives then []
        else
          match s.fragment? name with
          | some f => s.expand given fuel f.selections
          | none => []
      | .inline _ _ directives _ selections =>
        if leftOut given directives then [] else s.expand given fuel selections

def Script.operationFor (s : Script) (name? : Option String) : Except ResponseError Operation :=
  match name? with
  | some name =>
    match s.operations.find? fun o => o.name? = some name with
    | some o => .ok o
    | none => .error (.ofQuery ("Unknown operation named " ++ quote name) [])
  | none =>
    match s.operations with
    | [o] => .ok o
    | _ => .error (.ofQuery "Operation name required in request." [])

/-- Plans a request, or says what is wrong with it. -/
def Request.plan (r : Request) (schema : Schema) : Except (List ResponseError) Plan := do
  let s ← (Script.parse r.text).mapError fun e => [e.toResponseError]
  match s.operations.findSome? fun o =>
      s.tooDeep? (nestingLimit + 1) o.bracePosition o.selections with
  | some position =>
    .error [.ofQuery ("The recursion depth of the query cannot be greater than `"
      ++ toString nestingLimit ++ "`") [position]]
  | none =>
    let faults := s.faults schema r.values
    if !faults.isEmpty then .error faults
    else
      let o ← (s.operationFor r.operation?).mapError fun e => [e]
      return ⟨o, r.values, s.expand r.values (nestingLimit + 1) o.selections⟩

end ClusterGraph.Query
