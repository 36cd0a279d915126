import ClusterGraph.Query.Basic

/-!
# Scanning with expectations

A scanner reads a prefix of the text or fails without reading anything. Scanners have rules, and the
rules that failed furthest in the text are what the text should have had there. Where several rules
failed at one place, an outer rule stands for the rules inside it, unless there is only one of
those: then that one is kept.

Under a negation the roles are exchanged: a rule that succeeds there is unexpected.
-/
namespace ClusterGraph.Query

/-- The rules of the language. Expectations are listed in this order. -/
inductive Rule where
  | endOfInput
  | executableDocument
  | executableDefinition
  | operationDefinition
  | namedOperationDefinition
  | variableDefinitions
  | variableDefinition
  | selectionSet
  | selection
  | field
  | alias_
  | fragmentSpread
  | inlineFragment
  | fragmentDefinition
  | typeCondition
  | operationType
  | defaultValue
  | type_
  | constValue
  | value
  | variable_
  | number
  | string
  | boolean
  | null
  | enumValue
  | constList
  | list
  | constObject
  | object
  | constObjectField
  | objectField
  | arguments
  | argument
  | directives
  | directive
  | name
  deriving DecidableEq, Repr

namespace Rule

/-- Every rule, in the order in which expectations are listed. -/
def all : List Rule :=
  [endOfInput, executableDocument, executableDefinition, operationDefinition,
    namedOperationDefinition, variableDefinitions, variableDefinition, selectionSet, selection,
    field, alias_, fragmentSpread, inlineFragment, fragmentDefinition, typeCondition, operationType,
    defaultValue, type_, constValue, value, variable_, number, string, boolean, null, enumValue,
    constList, list, constObject, object, constObjectField, objectField, arguments, argument,
    directives, directive, name]

def text : Rule → String
  | endOfInput => "EOI"
  | executableDocument => "executable_document"
  | executableDefinition => "executable_definition"
  | operationDefinition => "operation_definition"
  | namedOperationDefinition => "named_operation_definition"
  | variableDefinitions => "variable_definitions"
  | variableDefinition => "variable_definition"
  | selectionSet => "selection_set"
  | selection => "selection"
  | field => "field"
  | alias_ => "alias"
  | fragmentSpread => "fragment_spread"
  | inlineFragment => "inline_fragment"
  | fragmentDefinition => "fragment_definition"
  | typeCondition => "type_condition"
  | operationType => "operation_type"
  | defaultValue => "default_value"
  | type_ => "type_"
  | constValue => "const_value"
  | value => "value"
  | variable_ => "variable"
  | number => "number"
  | string => "string"
  | boolean => "boolean"
  | null => "null"
  | enumValue => "enum_value"
  | constList => "const_list"
  | list => "list"
  | constObject => "const_object"
  | object => "object"
  | constObjectField => "const_object_field"
  | objectField => "object_field"
  | arguments => "arguments"
  | argument => "argument"
  | directives => "directives"
  | directive => "directive"
  | name => "name"

end Rule

structure Cursor where
  rest : List Char
  offset : Nat
  position : Position
  deriving DecidableEq, Repr

namespace Cursor

def ofString (s : String) : Cursor := ⟨s.toList, 0, .start⟩

def advance : Nat → Cursor → Cursor
  | 0, c => c
  | n + 1, c =>
    match c.rest with
    | [] => c
    | ch :: rest => advance n ⟨rest, c.offset + 1, c.position.advance ch⟩

/-- A character that separates tokens: a comma too. -/
def isBlank (c : Char) : Bool :=
  c = ' ' || c = ',' || c = '\t' || c = '\n' || c = '\r' || c = '\uFEFF'

/-- The number of characters of blanks and comments. A comment runs to the end of its line. -/
def blankLength : (inComment : Bool) → List Char → Nat
  | _, [] => 0
  | true, c :: rest => 1 + blankLength (!(c = '\n' || c = '\r')) rest
  | false, c :: rest =>
    if isBlank c then 1 + blankLength false rest
    else if c = '#' then 1 + blankLength true rest
    else 0

def skipBlank (c : Cursor) : Cursor := c.advance (blankLength false c.rest)

end Cursor

/-- The rules that failed furthest in the text. -/
structure Attempts where
  furthest : Nat
  expected : List Rule
  unexpected : List Rule
  deriving DecidableEq, Repr

namespace Attempts

def none : Attempts := ⟨0, [], []⟩

def countAt (a : Attempts) (offset : Nat) : Nat :=
  if a.furthest = offset then a.expected.length + a.unexpected.length else 0

/-- Notes a rule at its start, given what had been noted when it began: it replaces the rules inside
it, unless there is exactly one of those. -/
def note (a before : Attempts) (r : Rule) (offset : Nat) (negated : Bool) : Attempts :=
  if a.countAt offset = before.countAt offset + 1 then a
  else if offset < a.furthest then a
  else
    let kept : Attempts :=
      if a.furthest < offset then ⟨offset, [], []⟩
      else if before.furthest = offset then
        ⟨offset, a.expected.take before.expected.length, a.unexpected.take before.unexpected.length⟩
      else ⟨offset, [], []⟩
    if negated then { kept with unexpected := kept.unexpected ++ [r] }
    else { kept with expected := kept.expected ++ [r] }

end Attempts

/-- Reads a prefix of the text, or fails; `negated` tells whether it stands under a negation. -/
def Scan (α : Type) : Type := (negated : Bool) → Cursor → Attempts → Option (α × Cursor) × Attempts

namespace Scan
variable {α β : Type}

protected def pure (a : α) : Scan α := fun _ c t => (some (a, c), t)

protected def bind (p : Scan α) (k : α → Scan β) : Scan β := fun neg c t =>
  match p neg c t with
  | (some (a, c'), t') => k a neg c' t'
  | (none, t') => (none, t')

instance : Monad Scan where
  pure := Scan.pure
  bind := Scan.bind

/-- The first scanner, or the second one if that fails. -/
def or (p q : Scan α) : Scan α := fun neg c t =>
  match p neg c t with
  | (some r, t') => (some r, t')
  | (none, t') => q neg c t'

def fail : Scan α := fun _ _ t => (none, t)

def here : Scan Position := fun _ c t => (some (c.position, c), t)

def opt (p : Scan α) : Scan (Option α) := Scan.or (p.bind fun a => .pure (some a)) (.pure none)

def upTo (p : Scan α) : Nat → Scan (List α)
  | 0 => .pure []
  | n + 1 => Scan.or (p.bind fun a => (upTo p n).bind fun rest => .pure (a :: rest)) (.pure [])

/-- As often as it reads. Every time it reads at least one character, so the length of the text
bounds how often. -/
def many (p : Scan α) : Scan (List α) := fun neg c t => p.upTo (c.rest.length + 1) neg c t

def many1 (p : Scan α) : Scan (List α) := p.bind fun a => p.many.bind fun rest => .pure (a :: rest)

/-- Reads nothing, and fails where the scanner reads. -/
def absent (p : Scan α) : Scan Unit := fun neg c t =>
  match p (!neg) c t with
  | (some _, t') => (none, t')
  | (none, t') => (some ((), c), t')

/-- A scanner as a rule: it is noted when it fails, or, under a negation, when it succeeds. -/
def rule (r : Rule) (p : Scan α) : Scan α := fun neg c t =>
  let (result, t') := p neg c t
  (result, if result.isSome == neg then t'.note t r c.offset neg else t')

/-- A token and the blanks and comments after it. What `read` takes from the front of the text is
given as a value and a length. -/
def token (read : List Char → Option (α × Nat)) : Scan α := fun _ c t =>
  (((read c.rest).map fun r => (r.1, (c.advance r.2).skipBlank)), t)

def symbol (s : String) : Scan Unit :=
  let cs := s.toList
  token fun rest => if cs.isPrefixOf rest then some ((), cs.length) else none

def atEnd : Scan Unit := fun _ c t => (if c.rest.isEmpty then some ((), c) else none, t)

def blanks : Scan Unit := fun _ c t => (some ((), c.skipBlank), t)

end Scan
end ClusterGraph.Query
