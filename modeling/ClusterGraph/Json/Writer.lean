import ClusterGraph.Decimal.Shortest
import ClusterGraph.Json.Basic

/-!
# Writing JSON

The compact form has no white space and keeps the order of entries. Characters stand as
themselves except the quotation mark, the backslash and the controls below U+0020. Doubles are
written with the fewest digits that read back and always look like doubles: with a point, or with
a signed exponent outside the range from 10^-5 to 10^15.

The pretty form puts each item on a line of its own, indented by two spaces a level.
-/
namespace ClusterGraph

/-- How decimal text is laid out: the exponents of the first digit that are written positionally. -/
structure DecimalLayout where
  lowest : Int
  highest : Int
  deriving DecidableEq, Repr

/-- Doubles in documents are positional from 10^-5 up to below 10^16. -/
def Number.layout : DecimalLayout := ⟨-5, 15⟩

namespace Number

def natChars (n : Nat) : List Char := Nat.toDigits 10 n

/-- The digits of an integer, with a minus sign if negative. -/
def intChars : Int → List Char
  | .ofNat n => natChars n
  | .negSucc n => '-' :: natChars (n + 1)

/-- A decimal with a point or an exponent, in the layout of documents. -/
def digitsChars (d : Decimal.Digits) : List Char :=
  let ds := natChars d.digits
  let first : Int := d.exponent + ds.length - 1
  if first < layout.lowest ∨ layout.highest < first then
    let mantissa :=
      match ds with
      | [a] => [a]
      | a :: rest => a :: '.' :: rest
      | [] => ['0']
    mantissa ++ ['e', if first < 0 then '-' else '+'] ++ natChars first.natAbs
  else if 0 ≤ d.exponent then
    ds ++ List.replicate d.exponent.toNat '0' ++ ['.', '0']
  else if first < 0 then
    ['0', '.'] ++ List.replicate (first.natAbs - 1) '0' ++ ds
  else ds.take (first.toNat + 1) ++ ['.'] ++ ds.drop (first.toNat + 1)

def chars : Number → List Char
  | integer n => intChars n
  | double negative magnitude =>
    let body := if magnitude = 0 then ['0', '.', '0'] else digitsChars (Decimal.shortest magnitude)
    if negative then '-' :: body else body

end Number

namespace Json

def hexDigit (n : Nat) : Char := if n < 10 then Char.ofNat (48 + n) else Char.ofNat (87 + n)

def escape (c : Char) : List Char :=
  if c = '"' then ['\\', '"']
  else if c = '\\' then ['\\', '\\']
  else if c = '\n' then ['\\', 'n']
  else if c = '\r' then ['\\', 'r']
  else if c = '\t' then ['\\', 't']
  else if c.toNat = 8 then ['\\', 'b']
  else if c.toNat = 12 then ['\\', 'f']
  else if c.toNat < 0x20 then
    ['\\', 'u', '0', '0', hexDigit (c.toNat / 16), hexDigit (c.toNat % 16)]
  else [c]

def stringChars (s : String) : List Char := '"' :: (s.toList.flatMap escape ++ ['"'])

mutual

def chars : Json → List Char
  | null => ['n', 'u', 'l', 'l']
  | bool true => ['t', 'r', 'u', 'e']
  | bool false => ['f', 'a', 'l', 's', 'e']
  | number n => n.chars
  | string s => stringChars s
  | array [] => ['[', ']']
  | array (v :: vs) => '[' :: (chars v ++ itemsChars vs)
  | object [] => ['\x7b', '\x7d']
  | object ((k, v) :: es) => '\x7b' :: (stringChars k ++ ':' :: (chars v ++ entriesChars es))

/-- The items after the first one, and the closing bracket. -/
def itemsChars : List Json → List Char
  | [] => [']']
  | v :: vs => ',' :: (chars v ++ itemsChars vs)

def entriesChars : List (String × Json) → List Char
  | [] => ['\x7d']
  | (k, v) :: es => ',' :: (stringChars k ++ ':' :: (chars v ++ entriesChars es))

end

def compact (v : Json) : String := String.ofList v.chars

def lineChars (level : Nat) : List Char := '\n' :: List.replicate (2 * level) ' '

mutual

def prettyChars (level : Nat) : Json → List Char
  | array (v :: vs) =>
    '[' :: (lineChars (level + 1) ++ prettyChars (level + 1) v ++ prettyItems level vs)
  | object ((k, v) :: es) =>
    '\x7b' :: (lineChars (level + 1) ++ stringChars k ++ [':', ' '] ++ prettyChars (level + 1) v
      ++ prettyEntries level es)
  | v => chars v

/-- The items after the first one, each on its line, and the closing bracket. -/
def prettyItems (level : Nat) : List Json → List Char
  | [] => lineChars level ++ [']']
  | v :: vs => ',' :: (lineChars (level + 1) ++ prettyChars (level + 1) v ++ prettyItems level vs)

/-- The entries after the first one, each on its line, and the closing brace. -/
def prettyEntries (level : Nat) : List (String × Json) → List Char
  | [] => lineChars level ++ ['\x7d']
  | (k, v) :: es =>
    ',' :: (lineChars (level + 1) ++ stringChars k ++ [':', ' '] ++ prettyChars (level + 1) v
      ++ prettyEntries level es)

end

def pretty (v : Json) : String := String.ofList (prettyChars 0 v)

end Json
end ClusterGraph
