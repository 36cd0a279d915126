import ClusterGraph.Query.Validation

/-!
# Rules for whole documents

What an operation uses it uses directly or through the fragments that it reaches. These rules need
that: variables that are used and not declared, or declared and not used, or used where their type
does not fit; fragments that no operation reaches, and fragments that reach themselves.
-/
namespace ClusterGraph.Query

/-- The use of a variable: its name, the place, and the type that is expected there. -/
structure Usage where
  name : String
  position : Position
  type : TypeRef
  deriving Repr

mutual
/-- The uses of variables in a value of a type. Inside a value whose type is not that of a list or
of an input object nothing is expected. -/
def usages (schema : Schema) (position : Position) (type : TypeRef) : Value String → List Usage
  | .variable v => [⟨v, position, type⟩]
  | .list items =>
    match type with
    | .list item _ => usagesOfItems schema position item items
    | .named _ _ => []
  | .object entries =>
    match type with
    | .named n _ =>
      usagesOfEntries schema position (((schema.type? n).map TypeDef.inputs).getD []) entries
    | .list _ _ => []
  | _ => []

@[inherit_doc usages]
def usagesOfItems (schema : Schema) (position : Position) (type : TypeRef) :
    List (Value String) → List Usage
  | [] => []
  | v :: rest => usages schema position type v ++ usagesOfItems schema position type rest

@[inherit_doc usages]
def usagesOfEntries (schema : Schema) (position : Position) (inputs : List InputDef) :
    List (String × Value String) → List Usage
  | [] => []
  | (k, v) :: rest =>
    (match findInput? inputs k with
      | some i => usages schema position i.type v
      | none => []) ++ usagesOfEntries schema position inputs rest
end

structure Survey where
  schema : Schema
  script : Script
  visits : List Visit

namespace Survey
variable (v : Survey)

def parts (scope : Scope) : List Part :=
  v.visits.filterMap fun e => if e.scope = scope then some e.part else none

def spreads (scope : Scope) : List (String × Position) :=
  (v.parts scope).filterMap fun
    | .spread position name _ _ => some (name, position)
    | _ => none

def arguments (scope : Scope) : List Argument :=
  (v.parts scope).filterMap fun
    | .argument a _ _ _ _ => some a
    | _ => none

def typedUsages (scope : Scope) : List Usage :=
  (v.parts scope).flatMap fun
    | .argument a _ (some own) _ anchor =>
      match findInput? own.inputs a.name with
      | some i => usages v.schema anchor i.type a.value
      | none => []
    | _ => []

/-- The variables that a definition uses, each with the last argument in which it does. -/
def usedVariables (scope : Scope) : List (String × Position) :=
  Entries.collect ((v.arguments scope).flatMap fun a =>
    a.value.allVariables.map fun n => (n, a.position))

/-- The fragments that are reached from some, in the order in which they are first met. The fuel
bounds the number of spreads. -/
def reachFrom : (fuel : Nat) → (visited pending : List String) → List String
  | 0, visited, _ => visited
  | _, visited, [] => visited
  | fuel + 1, visited, name :: rest =>
    if visited.contains name then reachFrom fuel visited rest
    else
      reachFrom fuel (visited ++ [name]) ((v.spreads (.fragment name)).map Prod.fst ++ rest)

def reach (o : Operation) : List String :=
  v.reachFrom (v.script.count + 1) [] ((v.spreads (.operation o.name?)).map Prod.fst)

def scopes (o : Operation) : List Scope :=
  .operation o.name? :: (v.reach o).map Scope.fragment

/-- The variables that an operation declares. An operation without a root has none. -/
def declared (o : Operation) : List VariableDeclaration :=
  (v.parts (.operation o.name?)).filterMap fun
    | .variable_ d _ => some d
    | _ => none

def byOperation (o : Operation) : String :=
  match o.name? with
  | some n => " by operation " ++ quote n
  | none => "."

/-- A variable is used where its type fits. With a default its type does not admit
null. -/
def misplacedVariables (o : Operation) : Faults :=
  let declared := v.declared o
  ((v.scopes o).flatMap v.typedUsages).flatMap fun u =>
    match declared.find? fun d => d.name = u.name with
    | some d =>
      let type := if d.default?.isSome then d.type.required else d.type
      if u.type.admits type then []
      else fault [d.position, u.position] ("Variable " ++ quote u.name ++ " of type "
        ++ quote u.type.text ++ " used in position expecting type " ++ quote type.text)
    | none => []

def unusedVariables (o : Operation) : Faults :=
  let used := (v.scopes o).flatMap fun scope => (v.usedVariables scope).map Prod.fst
  (v.declared o).flatMap fun d =>
    if used.contains d.name then []
    else fault [d.position]
      ("Variable " ++ quote ("$" ++ d.name) ++ " is not used" ++ byOperation o)

def unusedFragments : Faults :=
  let reached := v.script.operations.flatMap v.reach
  v.script.fragments.flatMap fun f =>
    if reached.contains f.name then []
    else fault [f.position] ("Fragment " ++ quote f.name ++ " is never used")

def undeclaredVariables (o : Operation) : Faults :=
  let declared := (v.declared o).map (·.name)
  ((v.scopes o).flatMap v.usedVariables).flatMap fun (name, position) =>
    if declared.contains name then []
    else fault [o.position, position]
      ("Variable " ++ quote ("$" ++ name) ++ " is not defined" ++ byOperation o)

/-- The spreads that lead back to a fragment on the way. `path` is the way so far, as the spreads
taken, `depths` the position on it of each fragment on the way. Gives the fragments visited and the
faults. The fuel bounds the length of the way. -/
def cyclesFrom : (fuel : Nat) → (path : List (String × Position)) → (depths : List (String × Nat)) →
    (visited : List String) → (start : String) → List String × Faults
  | 0, _, _, visited, _ => (visited, [])
  | fuel + 1, path, depths, visited, start =>
    let depths := (start, path.length) :: depths
    (v.spreads (.fragment start)).foldl
      (fun (visited, faults) (name, position) =>
        match Entries.get? depths name with
        | some i =>
          let place := match path[i]? with
            | some (_, p) => p
            | none => position
          (visited, faults ++ fault [place] ("Cannot spread fragment " ++ quote name))
        | none =>
          if visited.contains name then (visited, faults)
          else
            let (visited, more) :=
              cyclesFrom fuel (path ++ [(name, position)]) depths visited name
            (visited, faults ++ more))
      (start :: visited, [])

def cycles : Faults :=
  (v.script.fragments.foldl
    (fun (visited, faults) f =>
      if visited.contains f.name then (visited, faults)
      else
        let (visited, more) :=
          v.cyclesFrom (v.script.fragments.length + 1) [] [] visited f.name
        (visited, faults ++ more))
    ([], [])).2

def faults : Faults :=
  v.script.operations.flatMap v.misplacedVariables ++ v.script.operations.flatMap v.unusedVariables
    ++ v.unusedFragments ++ v.script.operations.flatMap v.undeclaredVariables ++ v.cycles

end Survey

/-- The faults of a document for a schema, with the given values of variables: those of its parts in
the order of visits, then those of the whole. -/
def Script.faults (s : Script) (schema : Schema) (given : Entries Constant) : Faults :=
  let visits := s.visits schema
  visits.flatMap (fun e => e.part.faults schema s given) ++ (Survey.mk schema s visits).faults

end ClusterGraph.Query
