import ClusterGraph.Json.Reader
import ClusterGraph.Query.Basic

/-!
# Names, numbers, strings and types

The tokens that hold data. Each function looks at the front of a text and gives the value of the
token that stands there and its length, if there is one.

A block string stands between triple quotes. It loses the blank lines at its ends and the
indentation that all its lines but the first have in common.
-/
namespace ClusterGraph.Query.Lexeme

def startsName (c : Char) : Bool := c.isAlpha || c = '_'

def continuesName (c : Char) : Bool := c.isAlphanum || c = '_'

def name : List Char → Option (String × Nat)
  | [] => none
  | c :: rest =>
    if startsName c then
      let more := rest.takeWhile continuesName
      some (String.ofList (c :: more), more.length + 1)
    else none

/-- The length of an integer: digits, without a leading zero, perhaps after a minus. -/
def integerLength : List Char → Option Nat
  | '-' :: '0' :: _ => some 2
  | '-' :: c :: rest =>
    if c.isDigit then some ((rest.takeWhile Char.isDigit).length + 2) else none
  | '0' :: _ => some 1
  | c :: rest => if c.isDigit then some ((rest.takeWhile Char.isDigit).length + 1) else none
  | [] => none

/-- The length of a fraction; none is there if no digit follows the point. -/
def fractionLength : List Char → Nat
  | '.' :: rest =>
    let n := (rest.takeWhile Char.isDigit).length
    if n = 0 then 0 else n + 1
  | _ => 0

/-- The length of an exponent; none is there if it has no digits. -/
def exponentLength : List Char → Nat
  | c :: rest =>
    if c = 'e' || c = 'E' then
      let sign := match rest with
        | '+' :: _ => 1
        | '-' :: _ => 1
        | _ => 0
      let n := ((rest.drop sign).takeWhile Char.isDigit).length
      if n = 0 then 0 else 1 + sign + n
    else 0
  | [] => 0

/-- A number as it is written; no name may follow it directly. -/
def number (cs : List Char) : Option (String × Nat) := do
  let whole ← integerLength cs
  let fraction := fractionLength (cs.drop whole)
  let exponent := exponentLength (cs.drop (whole + fraction))
  let n := whole + fraction + exponent
  match cs.drop n with
  | c :: _ => if startsName c then none else some (String.ofList (cs.take n), n)
  | [] => some (String.ofList (cs.take n), n)

/-- The value of a written number, if it is in the range of numbers. -/
def numberValue? (text : String) : Option Number :=
  match Json.parse text with
  | .ok (.number n) => some n
  | _ => none

def escaped? : Char → Option Char
  | '"' => some '"'
  | '\\' => some '\\'
  | '/' => some '/'
  | 'b' => some '\x08'
  | 'f' => some '\x0c'
  | 'n' => some '\n'
  | 'r' => some '\r'
  | 't' => some '\t'
  | _ => none

def hexValue? (c : Char) : Option Nat :=
  if '0' ≤ c ∧ c ≤ '9' then some (c.toNat - '0'.toNat)
  else if 'a' ≤ c ∧ c ≤ 'f' then some (c.toNat - 'a'.toNat + 10)
  else if 'A' ≤ c ∧ c ≤ 'F' then some (c.toNat - 'A'.toNat + 10)
  else none

/-- The character of four hexadecimal digits; surrogates are none. -/
def codePoint? (a b c d : Char) : Option Char := do
  let n := (((← hexValue? a) * 16 + (← hexValue? b)) * 16 + (← hexValue? c)) * 16 + (← hexValue? d)
  if 0xD800 ≤ n ∧ n ≤ 0xDFFF then none else some (Char.ofNat n)

/-- The characters up to the closing quote, and the length with that quote. -/
def lineBody : List Char → Option (List Char × Nat)
  | [] => none
  | '"' :: _ => some ([], 1)
  | '\\' :: 'u' :: a :: b :: c :: d :: rest => do
    let ch ← codePoint? a b c d
    let (more, n) ← lineBody rest
    some (ch :: more, n + 6)
  | '\\' :: c :: rest => do
    let ch ← escaped? c
    let (more, n) ← lineBody rest
    some (ch :: more, n + 2)
  | c :: rest =>
    if c = '\n' || c = '\r' || c = '\\' then none
    else do
      let (more, n) ← lineBody rest
      some (c :: more, n + 1)

/-- The raw characters up to the closing triple quote, and the length with those quotes. A backslash
keeps a triple quote in the text. -/
def blockBody : List Char → Option (List Char × Nat)
  | '\\' :: '"' :: '"' :: '"' :: rest => do
    let (more, n) ← blockBody rest
    some ('\\' :: '"' :: '"' :: '"' :: more, n + 4)
  | '"' :: '"' :: '"' :: _ => some ([], 3)
  | c :: rest => do
    let (more, n) ← blockBody rest
    some (c :: more, n + 1)
  | [] => none

def linesOf : List Char → List (List Char)
  | [] => [[]]
  | '\r' :: '\n' :: rest => [] :: linesOf rest
  | c :: rest =>
    if c = '\n' || c = '\r' then [] :: linesOf rest
    else
      match linesOf rest with
      | line :: more => (c :: line) :: more
      | [] => [[c]]

def isIndent (c : Char) : Bool := c = '\t' || c = ' '

/-- A triple quote that a backslash kept is written without it. -/
def unescapeBlock : List Char → List Char
  | '\\' :: '"' :: '"' :: '"' :: rest => '"' :: '"' :: '"' :: unescapeBlock rest
  | c :: rest => c :: unescapeBlock rest
  | [] => []

def blockValue (raw : List Char) : List Char :=
  match linesOf raw with
  | [] => []
  | first :: more =>
    let indents := more.filterMap fun line => line.findIdx? fun c => !isIndent c
    let common := indents.min?.getD 0
    let dropIndent (line : List Char) : List Char :=
      if common ≤ line.length then line.drop common else line
    let isEmptyLine (line : List Char) : Bool := line.all isIndent
    let trimmed := ((first :: more.map dropIndent).zip (first :: more)).dropWhile
      fun p => isEmptyLine p.2
    let kept := (trimmed.reverse.dropWhile fun p => isEmptyLine p.2).reverse
    unescapeBlock (['\n'].intercalate (kept.map Prod.fst))

def string (cs : List Char) : Option (String × Nat) :=
  let block := match cs with
    | '"' :: '"' :: '"' :: rest =>
      (blockBody rest).map fun (raw, n) => (String.ofList (blockValue raw), n + 3)
    | _ => none
  match block with
  | some r => some r
  | none =>
    match cs with
    | '"' :: rest => (lineBody rest).map fun (body, n) => (String.ofList body, n + 1)
    | _ => none

/-- Whether an exclamation mark stands in front, as a number of characters. -/
def markLength : List Char → Nat
  | '!' :: _ => 1
  | _ => 0

/-- A type, written without blanks. The fuel bounds the nesting of lists. -/
def typeRef : (fuel : Nat) → List Char → Option (TypeRef × Nat)
  | 0, _ => none
  | fuel + 1, '[' :: rest => do
    let (item, n) ← typeRef fuel rest
    match rest.drop n with
    | ']' :: after => some (.list item (markLength after = 1), n + 2 + markLength after)
    | _ => none
  | _ + 1, cs => do
    let (s, n) ← name cs
    let mark := markLength (cs.drop n)
    some (.named s (mark = 1), n + mark)

end ClusterGraph.Query.Lexeme
