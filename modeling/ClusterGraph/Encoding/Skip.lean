import ClusterGraph.Json.Lexeme

/-!
# Skipping values

Reads past a value without keeping it. The text has to be JSON, but numbers may have any size,
strings any octets and any code units, and brackets may nest to any depth.
-/
namespace ClusterGraph.Json.Skip

open Text (Glyph)
open Lexeme (Stop stopAt stopOn skipSpace word colon)

private def exponent (gs : List Glyph) : Except Stop (List Glyph) :=
  if !Lexeme.startsWithExponent gs then .ok gs
  else
    let body := match gs.drop 1 with
      | g :: rest => if g.isChar '+' || g.isChar '-' then rest else g :: rest
      | [] => []
    match body with
    | [] => stopAt .endInValue []
    | g :: rest =>
      if g.digit?.isSome then .ok (Lexeme.skipDigits rest) else stopOn .invalidNumber (g :: rest)

/-- Skips a fraction and an exponent, as far as they are next. -/
private def fraction (gs : List Glyph) : Except Stop (List Glyph) :=
  match gs with
  | g :: rest =>
    if g.isChar '.' then
      if Lexeme.startsWithDigit rest then exponent (Lexeme.skipDigits rest)
      else stopOn (if rest.isEmpty then .endInValue else .invalidNumber) rest
    else exponent (g :: rest)
  | [] => .ok []

/-- Skips a number, of which the minus sign is skipped already. -/
private def number (gs : List Glyph) : Except Stop (List Glyph) :=
  match gs with
  | [] => stopAt .endInValue []
  | g :: rest =>
    match g.digit? with
    | none => stopOn .invalidNumber gs
    | some 0 => if Lexeme.startsWithDigit rest then stopOn .invalidNumber rest else fraction rest
    | some _ => fraction (Lexeme.skipDigits rest)

/-- Skips the inside of a string and its closing quotation mark; `skip` glyphs belong to an
escape. -/
private def string : (skip : Nat) → List Glyph → Except Stop (List Glyph)
  | _, [] => .error ⟨.endInString, 0⟩
  | skip + 1, _ :: rest => string skip rest
  | 0, g :: rest =>
    if g.isChar '"' then .ok rest
    else if g.isChar '\\' then
      match rest with
      | [] => .error ⟨.endInString, 0⟩
      | e :: after =>
        if e.isChar 'u' then do
          let _ ← Lexeme.codeUnit after
          string 5 rest
        else if ['"', '\\', '/', 'b', 'f', 'n', 'r', 't'].any fun c => e.isChar c then string 1 rest
        else stopOn .invalidEscape rest
    else if Lexeme.isControl g then stopOn .controlInString (g :: rest)
    else string 0 rest

mutual

def value : (fuel : Nat) → List Glyph → Except Stop (List Glyph)
  | 0, gs => stopAt .endInValue gs
  | fuel + 1, gs =>
    match skipSpace gs with
    | [] => stopAt .endInValue []
    | g :: rest =>
      if g.isChar 'n' then (word () ['u', 'l', 'l'] rest).map Prod.snd
      else if g.isChar 't' then (word () ['r', 'u', 'e'] rest).map Prod.snd
      else if g.isChar 'f' then (word () ['a', 'l', 's', 'e'] rest).map Prod.snd
      else if g.isChar '-' then number rest
      else if g.digit?.isSome then number (g :: rest)
      else if g.isChar '"' then string 0 rest
      else if g.isChar '[' then items fuel false rest
      else if g.isChar '\x7b' then entries fuel false rest
      else stopOn .expectedValue (g :: rest)

/-- Skips the items of a list; `comma` tells whether a comma may come first. -/
def items : (fuel : Nat) → (comma : Bool) → List Glyph → Except Stop (List Glyph)
  | 0, _, gs => stopAt .endInList gs
  | fuel + 1, comma, gs =>
    match skipSpace gs with
    | [] => stopAt .endInList []
    | g :: rest =>
      if g.isChar ']' then .ok rest
      else if !comma then do items fuel true (← value fuel (g :: rest))
      else if g.isChar ',' then do items fuel true (← value fuel rest)
      else stopOn .expectedListCommaOrEnd (g :: rest)

def entries : (fuel : Nat) → (comma : Bool) → List Glyph → Except Stop (List Glyph)
  | 0, _, gs => stopAt .endInObject gs
  | fuel + 1, comma, gs =>
    match skipSpace gs with
    | [] => stopAt .endInObject []
    | g :: rest =>
      if g.isChar '\x7d' then .ok rest
      else if !comma then entry fuel (g :: rest)
      else if g.isChar ',' then entry fuel rest
      else stopOn .expectedObjectCommaOrEnd (g :: rest)

def entry : (fuel : Nat) → List Glyph → Except Stop (List Glyph)
  | 0, gs => stopAt .endInObject gs
  | fuel + 1, gs =>
    match skipSpace gs with
    | [] => stopAt .endInObject []
    | g :: rest =>
      if g.isChar '"' then do
        let rest ← string 0 rest
        let rest ← colon rest
        entries fuel true (← value fuel rest)
      else stopOn .keyMustBeString (g :: rest)

end
end ClusterGraph.Json.Skip
