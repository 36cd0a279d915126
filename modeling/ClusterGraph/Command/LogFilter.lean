import ClusterGraph.Text.Alphanumeric
import ClusterGraph.Text.Blank
import ClusterGraph.Text.Numeral
import ClusterGraph.Text.Pieces
import ClusterGraph.Text.Quoted

/-!
# Log filters

Directives separated by commas, each a level, or a target with an optional span and an optional
level, as in `info,store[call{name}]=debug`. Only whether a filter is well formed is decided here.

White space around a directive is passed over while its parts are told apart. The level is then
taken from the directive as it stands, at the same distance from its start; so a directive that
begins with white space has no valid level.
-/
namespace ClusterGraph

inductive LogFilterFault where
  | badDirective
  | badLevel
  deriving DecidableEq, Repr

/-- The messages for a fault, from the outermost cause to the innermost. -/
def LogFilterFault.messages : LogFilterFault → List String
  | badDirective => ["invalid filter directive"]
  | badLevel =>
    let text := "error parsing level filter: expected one of \"off\", \"error\", \"warn\", " ++
      "\"info\", \"debug\", \"trace\", or a number 0-5"
    [text, text]

namespace LogFilter

inductive Place where
  | start
  | name
  | span
  | emptyField
  | field
  | afterFields
  | afterSpan
  | level
  deriving DecidableEq, Repr

def Place.next? : Place → Char → Option Place
  | start, c =>
    if c = '[' then some span
    else if c = '-' || c = ':' || c = '_' || Text.isAlphanumeric c then some name
    else none
  | name, c => some (if c = '=' then level else if c = '[' then span else name)
  | span, c => some (if c = ']' then afterSpan else if c = '\x7b' then emptyField else span)
  | emptyField, c => if c = '\x7d' then none else some field
  | field, c => some (if c = '\x7d' then afterFields else field)
  | afterFields, c => if c = ']' then some afterSpan else none
  | afterSpan, c => if c = '=' then some level else none
  | level, _ => some level

/-- Where a directive ends, and how many of its characters come before its level. -/
def finish? : Place → (read : Nat) → List Char → Option (Place × Nat)
  | place, read, [] => some (place, read)
  | .level, read, _ => some (.level, read)
  | place, read, c :: rest => do finish? (← place.next? c) (read + 1) rest

def levelNames : List String := ["off", "error", "warn", "info", "debug", "trace"]

/-- The text is a level: nothing at all, a number up to five, or a name in any case. -/
def isLevel (cs : List Char) : Bool :=
  cs.isEmpty ||
    match Text.unsigned? 64 cs with
    | some n => n ≤ 5
    | none => levelNames.contains (String.ofList (cs.map Char.toLower))

def trimmed (cs : List Char) : List Char :=
  ((cs.dropWhile Text.isSpace).reverse.dropWhile Text.isSpace).reverse

def directiveFault? (cs : List Char) : Option LogFilterFault :=
  match finish? .start 0 (trimmed cs) with
  | some (.name, _) | some (.afterSpan, _) => none
  | some (.level, read) => if isLevel (cs.drop read) then none else some .badLevel
  | _ => some .badDirective

def faultMessage (filter : String) : String := "invalid log filter " ++ Text.quoted filter

/-- What is wrong with a filter, if anything is: the first fault in it. An empty filter is fine, an
empty directive is not. -/
def fault? (filter : String) : Option LogFilterFault :=
  if filter.isEmpty then none else (Text.pieces ',' filter.toList).findSome? directiveFault?

end LogFilter
end ClusterGraph
