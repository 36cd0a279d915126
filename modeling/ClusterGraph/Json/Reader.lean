import ClusterGraph.Json.Lexeme

/-!
# Reading JSON

Reads one value from a whole text. Brackets nest at most 127 deep. A repeated key of an object
keeps its first position and takes the last value.
-/
namespace ClusterGraph.Json

open Text (Glyph)
open Lexeme (Stop stopAt stopOn skipSpace word nextItem nextEntry colon atEnd)

/-- The number of brackets, plus one, that may be open at a time. -/
def depthLimit : Nat := 128

mutual

/-- Reads a value. `room` is one more than the number of brackets that may still be opened; the
fuel bounds the calls and is never used up on a text no longer than it. -/
def readValue : (fuel room : Nat) → List Glyph → Except Stop (Json × List Glyph)
  | 0, _, gs => stopAt .endInValue gs
  | fuel + 1, room, gs =>
    match skipSpace gs with
    | [] => stopAt .endInValue []
    | g :: rest =>
      if g.isChar 'n' then word .null ['u', 'l', 'l'] rest
      else if g.isChar 't' then word (.bool true) ['r', 'u', 'e'] rest
      else if g.isChar 'f' then word (.bool false) ['a', 'l', 's', 'e'] rest
      else if g.isChar '-' then do
        let (n, rest) ← Lexeme.number true rest
        .ok (.number n, rest)
      else if g.digit?.isSome then do
        let (n, rest) ← Lexeme.number false (g :: rest)
        .ok (.number n, rest)
      else if g.isChar '"' then do
        let (s, rest) ← Lexeme.string rest
        .ok (.string s, rest)
      else if g.isChar '[' then
        if room ≤ 1 then stopOn .recursionLimit (g :: rest)
        else do
          let (vs, rest) ← readItems fuel (room - 1) true rest
          .ok (.array vs, rest)
      else if g.isChar '\x7b' then
        if room ≤ 1 then stopOn .recursionLimit (g :: rest)
        else do
          let (es, rest) ← readEntries fuel (room - 1) true rest
          .ok (.object (Entries.collect es), rest)
      else stopOn .expectedValue (g :: rest)

def readItems : (fuel room : Nat) → (first : Bool) → List Glyph →
    Except Stop (List Json × List Glyph)
  | 0, _, _, gs => stopAt .endInList gs
  | fuel + 1, room, first, gs => do
    match ← nextItem first gs with
    | (.done, rest) => .ok ([], rest.drop 1)
    | (.more, rest) =>
      let (v, rest) ← readValue fuel room rest
      let (vs, rest) ← readItems fuel room false rest
      .ok (v :: vs, rest)

/-- Reads the entries of an object, as they stand, and its closing brace. -/
def readEntries : (fuel room : Nat) → (first : Bool) → List Glyph →
    Except Stop (List (String × Json) × List Glyph)
  | 0, _, _, gs => stopAt .endInObject gs
  | fuel + 1, room, first, gs => do
    match ← nextEntry first gs with
    | (.done, rest) => .ok ([], rest.drop 1)
    | (.more, rest) =>
      let (k, rest) ← Lexeme.string rest
      let rest ← colon rest
      let (v, rest) ← readValue fuel room rest
      let (es, rest) ← readEntries fuel room false rest
      .ok ((k, v) :: es, rest)

end

def fuelFor (gs : List Glyph) : Nat := 2 * gs.length + 3

def ofGlyphs (gs : List Glyph) : Except Fault Json :=
  let result := do
    let (v, rest) ← readValue (fuelFor gs) depthLimit gs
    atEnd rest
    return v
  result.mapError (Stop.fault gs)

def ofOctets (octets : List UInt8) : Except Fault Json := ofGlyphs (Glyph.ofOctets octets)

def parse (s : String) : Except Fault Json := ofGlyphs (Glyph.ofString s)

/-- The entries of the object that a whole text is, as they stand: a repeated key is repeated. None
if the text is no object. -/
def parseEntries? (s : String) : Option (List (String × Json)) :=
  let gs := Glyph.ofString s
  match skipSpace gs with
  | g :: rest =>
    if g.isChar '\x7b' then
      (do
        let (entries, rest) ← readEntries (fuelFor gs) (depthLimit - 1) true rest
        atEnd rest
        return entries : Except Stop (List (String × Json))).toOption
    else none
  | [] => none

end ClusterGraph.Json
