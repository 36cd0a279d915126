import ClusterGraph.Text.Quoted
import ClusterGraph.Text.Glyph
import ClusterGraph.Json.Writer

/-!
# Faults in JSON text

Why a text is not the JSON value that was asked for, and where. A syntax fault names the place at
which reading stopped, as a line and a column that counts octets. A fault of shape, found in a
value that was read before, has no place.
-/
namespace ClusterGraph.Json

/-- What is wrong. The last constructor carries a fault of shape, in its own words. -/
inductive Problem where
  | endInList
  | endInObject
  | endInString
  | endInValue
  | expectedColon
  | expectedListCommaOrEnd
  | expectedObjectCommaOrEnd
  | expectedIdent
  | expectedValue
  | invalidEscape
  | invalidNumber
  | numberOutOfRange
  | invalidCodePoint
  | controlInString
  | keyMustBeString
  | loneSurrogate
  | trailingComma
  | trailingCharacters
  | endOfHexEscape
  | recursionLimit
  | shape (text : String)
  deriving DecidableEq, Repr

def Problem.message : Problem → String
  | endInList => "EOF while parsing a list"
  | endInObject => "EOF while parsing an object"
  | endInString => "EOF while parsing a string"
  | endInValue => "EOF while parsing a value"
  | expectedColon => "expected `:`"
  | expectedListCommaOrEnd => "expected `,` or `]`"
  | expectedObjectCommaOrEnd => "expected `,` or `\x7d`"
  | expectedIdent => "expected ident"
  | expectedValue => "expected value"
  | invalidEscape => "invalid escape"
  | invalidNumber => "invalid number"
  | numberOutOfRange => "number out of range"
  | invalidCodePoint => "invalid unicode code point"
  | controlInString => "control character (\\u0000-\\u001F) found while parsing a string"
  | keyMustBeString => "key must be a string"
  | loneSurrogate => "lone leading surrogate in hex escape"
  | trailingComma => "trailing comma"
  | trailingCharacters => "trailing characters"
  | endOfHexEscape => "unexpected end of hex escape"
  | recursionLimit => "recursion limit exceeded"
  | shape text => text

/-- A line, counted from one, and a column: the number of octets of that line before the place. -/
structure Place where
  line : Nat
  column : Nat
  deriving DecidableEq, Repr

/-- A problem and its place, if it was found while reading text. -/
structure Fault where
  problem : Problem
  place : Option Place
  deriving DecidableEq, Repr

namespace Fault

def ofShape (text : String) : Fault := ⟨.shape text, none⟩

def message (f : Fault) : String :=
  match f.place with
  | none => f.problem.message
  | some p => f.problem.message ++ " at line " ++ toString p.line ++ " column " ++ toString p.column

end Fault

def Place.after : (gs : List Text.Glyph) → (octets : Nat) → Place → Place
  | [], _, p => p
  | _, 0, p => p
  | g :: rest, n + 1, p =>
    if g.isChar '\n' then after rest n ⟨p.line + 1, 0⟩
    else if g.width ≤ n + 1 then after rest (n + 1 - g.width) ⟨p.line, p.column + g.width⟩
    else ⟨p.line, p.column + n + 1⟩

/-- How a message shows a number that stands where something else was expected: the integer, or
the double as documents write it. -/
def Number.shown : Number → String
  | .integer n => "integer `" ++ String.ofList (Number.integer n).chars ++ "`"
  | .double s m => "floating point `" ++ String.ofList (Number.double s m).chars ++ "`"

/-- How a message shows a value that stands where something else was expected. -/
def shown : Json → String
  | null => "null"
  | bool b => "boolean `" ++ (if b then "true" else "false") ++ "`"
  | number n => Number.shown n
  | string s => "string " ++ Text.quoted s
  | array _ => "sequence"
  | object _ => "map"

end ClusterGraph.Json
