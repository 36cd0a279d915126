import ClusterGraph.Query.Reader
import ClusterGraph.Query.Response

/-!
# Why a text is no query document

The words for a refused text. Where the grammar was left they show the line, with a mark under the
character, and what was expected there.
-/
namespace ClusterGraph.Query

structure Excerpt where
  position : Position
  line : List Char
  deriving DecidableEq, Repr

namespace Excerpt

/-- The part of a text up to its last line feed, without the last line. -/
def lastLine (cs : List Char) : List Char := (cs.reverse.takeWhile fun c => c ≠ '\n').reverse

/-- The line around an offset. If a line end stands there, the line ends are made visible, else they
are left out. -/
def at_ (text : List Char) (offset : Nat) : Excerpt :=
  let before := text.take offset
  let after := text.drop offset
  let start := lastLine before
  let rest := after.takeWhile fun c => c ≠ '\n'
  let line := start ++ rest ++ (if after.length = rest.length then [] else ['\n'])
  let shown := match after with
    | c :: _ =>
      if c = '\n' || c = '\r' then
        line.map fun c => if c = '\r' then '␍' else if c = '\n' then '␊' else c
      else line.filter fun c => c ≠ '\r' && c ≠ '\n'
    | [] => line.filter fun c => c ≠ '\r' && c ≠ '\n'
  ⟨⟨before.count '\n' + 1, start.length + 1⟩, shown⟩

/-- The excerpt with a mark under its character, and a note below. -/
def text (e : Excerpt) (note : String) : String :=
  let number := toString e.position.line
  let margin := String.ofList (List.replicate number.length ' ')
  let under := (e.line.take (e.position.column - 1)).map fun c => if c = '\t' then '\t' else ' '
  margin ++ "--> " ++ number ++ ":" ++ toString e.position.column ++ "\n"
    ++ margin ++ " |\n"
    ++ number ++ " | " ++ String.ofList e.line ++ "\n"
    ++ margin ++ " | " ++ String.ofList under ++ "^---\n"
    ++ margin ++ " |\n"
    ++ margin ++ " = " ++ note

end Excerpt

/-- Rules in a sentence: with commas, and a word before the last one. -/
def Rule.enumeration (rules : List Rule) : String :=
  match rules.map Rule.text with
  | [] => ""
  | [a] => a
  | [a, b] => a ++ " or " ++ b
  | names => ", ".intercalate (names.take (names.length - 1)) ++ ", or " ++ names.getLast?.getD ""

def Rule.expectation (expected unexpected : List Rule) : String :=
  match expected, unexpected with
  | [], [] => "unknown parsing error"
  | es, [] => "expected " ++ enumeration es
  | [], us => "unexpected " ++ enumeration us
  | es, us => "unexpected " ++ enumeration us ++ "; expected " ++ enumeration es

namespace ReadError

def message : ReadError → String
  | unreadable text offset expected unexpected =>
    (Excerpt.at_ text offset).text (Rule.expectation expected unexpected)
  | tooDeep => "recursion limit exceeded."
  | noOperation => "document does not contain an operation"
  | severalOperations _ _ => "document contains multiple operations"
  | operationTwice name _ _ => "operation " ++ name ++ " is defined twice"
  | fragmentTwice name _ _ => "fragment " ++ name ++ " is defined twice"

def positions : ReadError → List Position
  | unreadable text offset _ _ => [(Excerpt.at_ text offset).position]
  | tooDeep => []
  | noOperation => []
  | severalOperations a b => [a, b]
  | operationTwice _ a b => [a, b]
  | fragmentTwice _ a b => [a, b]

def toResponseError (e : ReadError) : ResponseError := .ofQuery e.message e.positions

end ReadError
end ClusterGraph.Query
