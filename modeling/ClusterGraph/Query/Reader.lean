import ClusterGraph.Query.Lexeme
import ClusterGraph.Query.Scan

/-!
# Reading query documents

The grammar of query documents as scanners, and the reader made of it. A text that does not follow
the grammar is refused with what it should have had at the place where reading stopped. A document
is refused too if selections are nested too deeply, if it has no operation, if two operations or two
fragments share a name, or if an operation without a name is not the only one.
-/
namespace ClusterGraph.Query

namespace Grammar
open Scan (opt many many1 absent rule token symbol here)

def name : Scan String := rule .name (token Lexeme.name)

def variableName : Scan String := rule .variable_ do
  symbol "$"
  name

/-- A number; one that is out of the range of numbers has no value. -/
def number : Scan (Option Number) := rule .number (token fun cs =>
  (Lexeme.number cs).map fun (text, n) => (Lexeme.numberValue? text, n))

def string : Scan String := rule .string (token Lexeme.string)

def boolean : Scan Bool := rule .boolean
  (Scan.or (do symbol "true"; return true) (do symbol "false"; return false))

def null : Scan Unit := rule .null (symbol "null")

def enumValue : Scan String := rule .enumValue do
  absent (Scan.or (do let _ ← boolean) null)
  name

def typeRef : Scan TypeRef := rule .type_ (token fun cs => Lexeme.typeRef (cs.length + 1) cs)

structure ValueRules where
  value : Rule
  list : Rule
  object : Rule
  field : Rule

def openRules : ValueRules := ⟨.value, .list, .object, .objectField⟩

def constantRules : ValueRules := ⟨.constValue, .constList, .constObject, .constObjectField⟩

def leaf {ν : Type} (var : Scan (Value ν)) : Scan (Value ν) :=
  Scan.or var <|
  Scan.or (do let n ← number; return n.elim .null .number) <|
  Scan.or (do let s ← string; return .string s) <|
  Scan.or (do let b ← boolean; return .bool b) <|
  Scan.or (do null; return .null) (do let s ← enumValue; return .name s)

def value {ν : Type} (rules : ValueRules) (var : Scan (Value ν)) : (fuel : Nat) → Scan (Value ν)
  | 0 => .fail
  | fuel + 1 =>
    let list := rule rules.list do
      symbol "["
      let items ← many (value rules var fuel)
      symbol "]"
      return Value.list items
    let entry := rule rules.field do
      let key ← name
      symbol ":"
      let v ← value rules var fuel
      return (key, v)
    let object := rule rules.object do
      symbol "\x7b"
      let entries ← many entry
      symbol "\x7d"
      return Value.object (Entries.collect entries)
    rule rules.value (Scan.or (leaf var) (Scan.or list object))

def sized {α : Type} (p : Nat → Scan α) : Scan α := fun neg c t => p (c.rest.length + 1) neg c t

def openValue : Scan (Value String) :=
  sized (value openRules (do let v ← variableName; return .variable v))

def constant : Scan Constant := sized (value constantRules .fail)

def argument : Scan Argument := rule .argument do
  let position ← here
  let key ← name
  symbol ":"
  let valuePosition ← here
  let v ← openValue
  return ⟨position, key, valuePosition, v⟩

def arguments : Scan (List Argument) := do
  let found ← opt (rule .arguments do
    symbol "("
    let items ← many1 argument
    symbol ")"
    return items)
  return found.getD []

def directive : Scan Directive := rule .directive do
  let position ← here
  symbol "@"
  let key ← name
  let items ← arguments
  return ⟨position, key, items⟩

def directives : Scan (List Directive) := do
  let found ← opt (rule .directives (many1 directive))
  return found.getD []

def typeCondition : Scan String := rule .typeCondition do
  symbol "on"
  name

/-- Selections between braces, and the position of the opening one. -/
abbrev Braced := Position × List Selection

def field (selectionSet : Scan Braced) : Scan Selection := rule .field do
  let position ← here
  let alias? ← opt (rule .alias_ do
    let key ← name
    symbol ":"
    return key)
  let key ← name
  let items ← arguments
  let marks ← directives
  let sub ← opt selectionSet
  let (brace, selections) := sub.getD (⟨0, 0⟩, [])
  return .field ⟨position, alias?, key, items, marks⟩ brace selections

/-- Selections that stand in their place, perhaps for a type. -/
def inlineFragment (selectionSet : Scan Braced) : Scan Selection := rule .inlineFragment do
  let position ← here
  symbol "..."
  let on? ← opt typeCondition
  let marks ← directives
  let (brace, selections) ← selectionSet
  return .inline position on? marks brace selections

def fragmentSpread : Scan Selection := rule .fragmentSpread do
  let position ← here
  symbol "..."
  absent typeCondition
  let key ← name
  let marks ← directives
  return .spread position key marks

/-- Selections between braces. The fuel bounds the nesting. -/
def selectionSetWithin : (fuel : Nat) → Scan Braced
  | 0 => .fail
  | fuel + 1 =>
    let inner := selectionSetWithin fuel
    rule .selectionSet do
      let position ← here
      symbol "\x7b"
      let items ← many1
        (rule .selection (Scan.or (field inner) (Scan.or (inlineFragment inner) fragmentSpread)))
      symbol "\x7d"
      return (position, items)

@[inherit_doc selectionSetWithin]
def selectionSet : Scan Braced := sized selectionSetWithin

def operationKind : Scan OperationKind := rule .operationType <|
  Scan.or (do symbol "query"; return .query) <|
  Scan.or (do symbol "mutation"; return .mutation) (do symbol "subscription"; return .subscription)

def variableDeclaration : Scan VariableDeclaration := rule .variableDefinition do
  let position ← here
  let key ← variableName
  symbol ":"
  let type ← typeRef
  let marks ← directives
  let default? ← opt (rule .defaultValue do
    symbol "="
    constant)
  return ⟨position, key, type, marks, default?⟩

def variableDeclarations : Scan (List VariableDeclaration) := do
  let found ← opt (rule .variableDefinitions do
    symbol "("
    let items ← many variableDeclaration
    symbol ")"
    return items)
  return found.getD []

def namedOperation (position : Position) : Scan Operation := rule .namedOperationDefinition do
  let kind ← operationKind
  let key ← opt name
  let declarations ← variableDeclarations
  let marks ← directives
  let (brace, selections) ← selectionSet
  return ⟨position, kind, key, declarations, marks, brace, selections⟩

/-- An operation. Bare selections are a query. -/
def operation : Scan Operation := rule .operationDefinition do
  let position ← here
  Scan.or (namedOperation position) do
    let (brace, selections) ← selectionSet
    return ⟨position, .query, none, [], [], brace, selections⟩

def fragment : Scan Fragment := rule .fragmentDefinition do
  let position ← here
  symbol "fragment"
  let key ← name
  let type ← typeCondition
  let marks ← directives
  let (brace, selections) ← selectionSet
  return ⟨position, key, type, marks, brace, selections⟩

def definition : Scan (Operation ⊕ Fragment) := rule .executableDefinition <|
  Scan.or (do let o ← operation; return .inl o) (do let f ← fragment; return .inr f)

def script : Scan (List (Operation ⊕ Fragment)) := rule .executableDocument do
  Scan.blanks
  let items ← many1 definition
  rule .endOfInput .atEnd
  return items

end Grammar

inductive ReadError where
  /-- What the text should have had, and should not have had, at a character of it. -/
  | unreadable (text : List Char) (offset : Nat) (expected unexpected : List Rule)
  | tooDeep
  | noOperation
  | severalOperations (unnamed other : Position)
  | operationTwice (name : String) (first second : Position)
  | fragmentTwice (name : String) (first second : Position)
  deriving DecidableEq, Repr

def depthLimit : Nat := 64

def Selection.within : (limit : Nat) → Selection → Bool
  | _, .spread _ _ _ => true
  | 0, .field _ _ selections => selections.isEmpty
  | limit + 1, .field _ _ selections => selections.all (Selection.within limit)
  | 0, .inline _ _ _ _ _ => false
  | limit + 1, .inline _ _ _ _ selections => selections.all (Selection.within limit)

/-- Adds a definition to a document, if its name is still free. -/
def Script.add (s : Script) : Operation ⊕ Fragment → Except ReadError Script
  | .inr f =>
    match s.fragment? f.name with
    | some first => .error (.fragmentTwice f.name first.position f.position)
    | none => .ok { s with fragments := s.fragments ++ [f] }
  | .inl o =>
    match o.name?, s.operations with
    | _, [] => .ok { s with operations := [o] }
    | none, first :: _ => .error (.severalOperations o.position first.position)
    | some n, first :: _ =>
      if first.name?.isNone then .error (.severalOperations first.position o.position)
      else
        match s.operations.find? fun p => p.name? = some n with
        | some first => .error (.operationTwice n first.position o.position)
        | none => .ok { s with operations := s.operations ++ [o] }

def selectionsOf : Operation ⊕ Fragment → List Selection
  | .inl o => o.selections
  | .inr f => f.selections

def Script.parse (text : String) : Except ReadError Script := do
  match Grammar.script false (Cursor.ofString text) .none with
  | (none, t) =>
    let listed (rules : List Rule) : List Rule := Rule.all.filter rules.contains
    .error (.unreadable text.toList t.furthest (listed t.expected) (listed t.unexpected))
  | (some (items, _), _) =>
    if !items.all fun i => (selectionsOf i).all (Selection.within depthLimit) then .error .tooDeep
    else
      let s ← items.foldlM Script.add ⟨[], []⟩
      if s.operations.isEmpty then .error .noOperation else return s

end ClusterGraph.Query
