import ClusterGraph.Decimal.Shortest
import ClusterGraph.Json.Writer
import ClusterGraph.Schema.Basic

/-!
# Values of arguments

Variables of a value are replaced by constants. A constant is checked against a type of the schema:
the check names the place inside the value that does not fit, and why.
-/
namespace ClusterGraph.Query
variable {ν ε : Type}

namespace Value

mutual
def resolve (f : ν → Except ε Constant) : Value ν → Except ε Constant
  | .variable v => f v
  | .null => .ok .null
  | .bool b => .ok (.bool b)
  | .number n => .ok (.number n)
  | .string s => .ok (.string s)
  | .name s => .ok (.name s)
  | .list items => (resolveItems f items).map .list
  | .object entries => (resolveEntries f entries).map .object

def resolveItems (f : ν → Except ε Constant) : List (Value ν) → Except ε (List Constant)
  | [] => .ok []
  | v :: rest => do return (← resolve f v) :: (← resolveItems f rest)

def resolveEntries (f : ν → Except ε Constant) :
    List (String × Value ν) → Except ε (List (String × Constant))
  | [] => .ok []
  | (k, v) :: rest => do return (k, ← resolve f v) :: (← resolveEntries f rest)
end

mutual
def allVariables : Value ν → List ν
  | .variable v => [v]
  | .list items => variablesOfItems items
  | .object entries => variablesOfEntries entries
  | _ => []

def variablesOfItems : List (Value ν) → List ν
  | [] => []
  | v :: rest => allVariables v ++ variablesOfItems rest

def variablesOfEntries : List (String × Value ν) → List ν
  | [] => []
  | (_, v) :: rest => allVariables v ++ variablesOfEntries rest
end

end Value

namespace Constant

mutual
def ofJson : Json → Constant
  | .null => .null
  | .bool b => .bool b
  | .number n => .number n
  | .string s => .string s
  | .array items => .list (ofItems items)
  | .object entries => .object (ofEntries entries)

def ofItems : List Json → List Constant
  | [] => []
  | v :: rest => ofJson v :: ofItems rest

def ofEntries : List (String × Json) → List (String × Constant)
  | [] => []
  | (k, v) :: rest => (k, ofJson v) :: ofEntries rest
end

/-- A character of a string in a message. A control character without a short escape shows its
number in decimal. -/
def shownChar (c : Char) : String :=
  match c with
  | '\r' => "\\r"
  | '\n' => "\\n"
  | '\t' => "\\t"
  | '"' => "\\\""
  | '\\' => "\\\\"
  | c =>
    let n := c.toNat
    if n < 0x20 || (0x7F ≤ n && n < 0xA0) then
      let digits := toString n
      "\\u" ++ String.ofList (List.replicate (4 - digits.length) '0') ++ digits
    else c.toString

mutual
def shown : Constant → String
  | .variable v => nomatch v
  | .null => "null"
  | .bool b => toString b
  | .number n => (Json.number n).compact
  | .string s => "\"" ++ String.join (s.toList.map shownChar) ++ "\""
  | .name s => s
  | .list items => "[" ++ ", ".intercalate (shownItems items) ++ "]"
  | .object entries => "\x7b" ++ ", ".intercalate (shownEntries entries) ++ "\x7d"

def shownItems : List Constant → List String
  | [] => []
  | v :: rest => shown v :: shownItems rest

def shownEntries : List (String × Constant) → List String
  | [] => []
  | (k, v) :: rest => (k ++ ": " ++ shown v) :: shownEntries rest
end

/-- The constant is a value of a scalar. Whole numbers are those of the signed 64-bit range. -/
def fitsScalar (c : Constant) (s : Scalar) : Bool :=
  let isWhole : Bool := match c with
    | .number (.integer n) => n < Nat.pow 2 63
    | _ => false
  match s, c with
  | .json, _ => true
  | .string, .string _ => true
  | .id, .string _ => true
  | .id, _ => isWhole
  | .int, _ => isWhole
  | .float, .number _ => true
  | .boolean, .bool _ => true
  | _, _ => false

/-- Why a value is none of an enumeration: its values are names, which may be given as texts. -/
def choiceFault (place type : String) (values : List ChoiceDef) (c : Constant) : Option String :=
  let among (name : String) : Option String :=
    if values.any (·.name = name) then none
    else some ("\"" ++ place ++ "\", enumeration type \"" ++ type
      ++ "\" does not contain the value \"" ++ name ++ "\"")
  match c with
  | .name s => among s
  | .string s => among s
  | _ => some ("\"" ++ place ++ "\", expected type \"" ++ type ++ "\"")

/-- Why a value that is no list does not fit a type, apart from the fields of an object. -/
def baseFault (schema : Schema) (place type : String) (c : Constant) : Option String :=
  match schema.type? type with
  | none => some ("\"" ++ place ++ "\", unknown type \"" ++ type ++ "\"")
  | some t =>
    match t.body with
    | .scalar s =>
      if c.fitsScalar s then none
      else some ("\"" ++ place ++ "\", expected type \"" ++ type ++ "\"")
    | .choice values => c.choiceFault place type values
    | _ => none

/-- The first fault of an object: of its fields in the order of the type, or a field that the type
does not have. `faults` are those of the entries. -/
def objectFault (place : String) (inputs : List InputDef) (faults : List (String × Option String)) :
    Option String :=
  let ofInput (i : InputDef) : Option String :=
    match Entries.get? faults i.name with
    | some fault => fault
    | none =>
      if i.isNeeded then
        some ("\"" ++ place ++ "\", field \"" ++ i.name ++ "\" of type \"" ++ i.type.text
          ++ "\" is required but not provided")
      else none
  inputs.findSome? ofInput

mutual
/-- Why a constant does not fit a type, and where inside it. A value that is no list stands for a
list with that value. -/
def fault? (schema : Schema) (place : String) (type : TypeRef) : Constant → Option String
  | .variable v => nomatch v
  | .null =>
    if type.isRequired then
      some ("\"" ++ place ++ "\", expected type \"" ++ type.optional.text ++ "\"")
    else none
  | .list items =>
    match type with
    | .list item _ => itemsFault? schema place item 0 items
    | .named n _ => baseFault schema place n (.list items)
  | .object entries =>
    match schema.type? type.baseName with
    | some t =>
      match t.body with
      | .input inputs =>
        match objectFault place inputs (entriesFaults schema place inputs entries) with
        | some fault => some fault
        | none =>
          (entries.find? fun e => (findInput? inputs e.1).isNone).map fun e =>
            "\"" ++ place ++ "\", unknown field \"" ++ e.1 ++ "\" of type \"" ++ t.name ++ "\""
      | _ => baseFault schema place type.baseName (.object entries)
    | none => baseFault schema place type.baseName (.object entries)
  | .bool b => baseFault schema place type.baseName (.bool b)
  | .number n => baseFault schema place type.baseName (.number n)
  | .string s => baseFault schema place type.baseName (.string s)
  | .name s => baseFault schema place type.baseName (.name s)

def itemsFault? (schema : Schema) (place : String) (type : TypeRef) (index : Nat) :
    List Constant → Option String
  | [] => none
  | v :: rest =>
    match fault? schema (place ++ "." ++ toString index) type v with
    | some fault => some fault
    | none => itemsFault? schema place type (index + 1) rest

def entriesFaults (schema : Schema) (place : String) (inputs : List InputDef) :
    List (String × Constant) → List (String × Option String)
  | [] => []
  | (k, v) :: rest =>
    let fault := match findInput? inputs k with
      | some i => fault? schema (place ++ "." ++ k) i.type v
      | none => none
    (k, fault) :: entriesFaults schema place inputs rest
end

end Constant
end ClusterGraph.Query
