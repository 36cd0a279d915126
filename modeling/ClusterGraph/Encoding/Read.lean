import ClusterGraph.Encoding.Layout
import ClusterGraph.Encoding.Skip
import ClusterGraph.Json.Reader
import ClusterGraph.Typed.Read

/-!
# Reading stored records

Reads a text by a layout, field by field as they come, and gives back the record as it would be
stored: all fields in the order of the layout, absent ones as null. A record may also be written as
a list of its fields in order. Unknown fields are skipped; a field given twice, one that is missing
and a value of another type are faults, each at the place that was reached.
-/
namespace ClusterGraph.Layout

open Text (Glyph)
open Json (Problem)
open Json.Lexeme (Stop stopAt stopOn stopPast skipSpace word nextItem nextEntry colon atEnd)

private def misshapen {α : Type} (text : String) (gs : List Glyph) : Except Stop α :=
  stopAt (.shape text) gs

/-- The glyphs that are left once the end of a list or an object was looked for. -/
private def afterClosing (close : Char) (gs : List Glyph) : List Glyph :=
  match skipSpace gs with
  | [] => []
  | g :: rest =>
    if g.isChar close then rest else if g.isChar ',' then skipSpace rest else g :: rest

/-- Refuses the value that is next because something else was expected. -/
private def refuse {α : Type} (expected : String) (gs : List Glyph) : Except Stop α := do
  match skipSpace gs with
  | [] => stopAt .endInValue []
  | g :: rest =>
    if g.isChar '[' then misshapen ((Json.array []).unexpected expected) (g :: rest)
    else if g.isChar '\x7b' then misshapen ((Json.object []).unexpected expected) (g :: rest)
    else
      let (v, rest) ← Json.readValue 1 Json.depthLimit (g :: rest)
      misshapen (v.unexpected expected) rest

private def readText (expected : String) (gs : List Glyph) : Except Stop (String × List Glyph) :=
  match skipSpace gs with
  | g :: rest => if g.isChar '"' then Json.Lexeme.string rest else refuse expected (g :: rest)
  | [] => stopAt .endInValue []

private def readFlag (gs : List Glyph) : Except Stop (Json × List Glyph) :=
  match skipSpace gs with
  | g :: rest =>
    if g.isChar 't' then word (.bool true) ['r', 'u', 'e'] rest
    else if g.isChar 'f' then word (.bool false) ['a', 'l', 's', 'e'] rest
    else refuse "a boolean" (g :: rest)
  | [] => stopAt .endInValue []

private def readCount (gs : List Glyph) : Except Stop (Json × List Glyph) :=
  match skipSpace gs with
  | g :: rest => do
    if g.isChar '-' || g.digit?.isSome then
      let (v, rest) ← Json.readValue 1 Json.depthLimit (g :: rest)
      match v with
      | .number (.integer n) =>
        if n < 0 then misshapen (v.unacceptable "usize") rest else .ok (v, rest)
      | _ => misshapen (v.unexpected "usize") rest
    else refuse "usize" (g :: rest)
  | [] => stopAt .endInValue []

private def stageNames : String :=
  ", ".intercalate (Stage.all.map fun s => "`" ++ s.name ++ "`")

private def readStageName (gs : List Glyph) : Except Stop (Json × List Glyph) := do
  let (name, rest) ← readText "variant identifier" gs
  match Stage.ofName? name with
  | some _ => .ok (.string name, rest)
  | none => misshapen ("unknown variant `" ++ name ++ "`, expected one of " ++ stageNames) rest

/-- Reads a stage: its name, or an object of the name and null. -/
private def readStage (room : Nat) (gs : List Glyph) : Except Stop (Json × List Glyph) :=
  match skipSpace gs with
  | [] => stopAt .endInValue []
  | g :: rest => do
    if g.isChar '"' then readStageName (g :: rest)
    else if g.isChar '\x7b' then
      if room ≤ 1 then stopOn .recursionLimit (g :: rest)
      else
        let (name, rest) ← readStageName rest
        let rest ← colon rest
        let rest ←
          match skipSpace rest with
          | g :: after =>
            if g.isChar 'n' then (word () ['u', 'l', 'l'] after).map Prod.snd
            else refuse "unit" (g :: after)
          | [] => stopAt .endInValue []
        match skipSpace rest with
        | g :: after =>
          if g.isChar '\x7d' then .ok (name, after) else stopAt .expectedValue (g :: after)
        | [] => stopAt .endInObject []
    else stopOn .expectedValue (g :: rest)

private def endList (gs : List Glyph) : Except Stop (List Glyph) :=
  match skipSpace gs with
  | [] => stopAt .endInList []
  | g :: rest =>
    if g.isChar ']' then .ok rest
    else if g.isChar ',' then
      match skipSpace rest with
      | g' :: after =>
        stopOn (if g'.isChar ']' then .trailingComma else .trailingCharacters) (g' :: after)
      | [] => stopAt .trailingCharacters []
    else stopOn .trailingCharacters (g :: rest)

private def elements (n : Nat) : String :=
  toString n ++ (if n = 1 then " element" else " elements")

/-- The record of the fields that were found; the first required one that is missing is a fault. -/
private def complete (fields : List (String × Layout)) (found : Entries Json) :
    Except String Json :=
  (fields.mapM field).map .object
where
  /-- A field with its value. -/
  field : String × Layout → Except String (String × Json)
    | (name, layout) =>
      match found.get? name with
      | some v => .ok (name, v)
      | none =>
        if layout.isOptional then .ok (name, .null) else .error ("missing field `" ++ name ++ "`")

mutual

def readBy : (fuel room : Nat) → Layout → List Glyph → Except Stop (Json × List Glyph)
  | 0, _, _, gs => stopAt .endInValue gs
  | fuel + 1, room, layout, gs =>
    match layout with
    | text => (readText "a string" gs).map fun (s, rest) => (.string s, rest)
    | boolean => readFlag gs
    | count => readCount gs
    | stage => readStage room gs
    | optional inner =>
      match skipSpace gs with
      | g :: rest =>
        if g.isChar 'n' then word .null ['u', 'l', 'l'] rest else readBy fuel room inner (g :: rest)
      | [] => readBy fuel room inner []
    | list item =>
      match skipSpace gs with
      | g :: rest =>
        if g.isChar '[' then
          if room ≤ 1 then stopOn .recursionLimit (g :: rest)
          else do
            let (vs, rest) ← readList fuel (room - 1) item true rest
            .ok (.array vs, rest)
        else refuse "a sequence" (g :: rest)
      | [] => stopAt .endInValue []
    | record name fields =>
      match skipSpace gs with
      | g :: rest =>
        if g.isChar '[' then
          if room ≤ 1 then stopOn .recursionLimit (g :: rest)
          else readTuple fuel (room - 1) name fields 0 [] rest
        else if g.isChar '\x7b' then
          if room ≤ 1 then stopOn .recursionLimit (g :: rest)
          else readRecord fuel (room - 1) fields [] true rest
        else refuse ("struct " ++ name) (g :: rest)
      | [] => stopAt .endInValue []

def readList : (fuel room : Nat) → Layout → (first : Bool) → List Glyph →
    Except Stop (List Json × List Glyph)
  | 0, _, _, _, gs => stopAt .endInList gs
  | fuel + 1, room, item, first, gs => do
    match ← nextItem first gs with
    | (.done, rest) => .ok ([], rest.drop 1)
    | (.more, rest) =>
      let (v, rest) ← readBy fuel room item rest
      let (vs, rest) ← readList fuel room item false rest
      .ok (v :: vs, rest)

/-- Reads a record written as a list of its fields, of which some are read. -/
def readTuple : (fuel room : Nat) → String → List (String × Layout) → (position : Nat) →
    (found : Entries Json) → List Glyph → Except Stop (Json × List Glyph)
  | 0, _, _, _, _, _, gs => stopAt .endInList gs
  | fuel + 1, room, name, fields, position, found, gs =>
    match fields[position]? with
    | none => do
      let rest ← endList gs
      .ok (.object found, rest)
    | some (field, layout) => do
      match ← nextItem (position == 0) gs with
      | (.done, rest) =>
        misshapen ("invalid length " ++ toString position ++ ", expected struct " ++ name
          ++ " with " ++ elements fields.length) (afterClosing ']' rest)
      | (.more, rest) =>
        let (v, rest) ← readBy fuel room layout rest
        readTuple fuel room name fields (position + 1) (found ++ [(field, v)]) rest

/-- Reads a record written as an object, of which some entries are read. -/
def readRecord : (fuel room : Nat) → List (String × Layout) → (found : Entries Json) →
    (first : Bool) → List Glyph → Except Stop (Json × List Glyph)
  | 0, _, _, _, _, gs => stopAt .endInObject gs
  | fuel + 1, room, fields, found, first, gs => do
    match ← nextEntry first gs with
    | (.done, rest) =>
      match complete fields found with
      | .ok v => .ok (v, rest.drop 1)
      | .error words => misshapen words (rest.drop 1)
    | (.more, rest) =>
      let (key, rest) ← Json.Lexeme.string rest
      match fields.find? fun f => f.1 = key with
      | none =>
        let rest ← colon rest
        let rest ← Json.Skip.value (Json.fuelFor rest) rest
        readRecord fuel room fields found false rest
      | some (_, layout) =>
        if found.has key then
          misshapen ("duplicate field `" ++ key ++ "`") (afterClosing '\x7d' rest)
        else
          let rest ← colon rest
          let (v, rest) ← readBy fuel room layout rest
          readRecord fuel room fields (found ++ [(key, v)]) false rest

end

def parse (layout : Layout) (s : String) : Except Json.Fault Json :=
  let gs := Glyph.ofString s
  let result := do
    let (v, rest) ← readBy (2 * gs.length + 10) Json.depthLimit layout gs
    atEnd rest
    return v
  result.mapError (Stop.fault gs)

end ClusterGraph.Layout
