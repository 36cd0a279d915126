import ClusterGraph.Decimal.Binary64
import ClusterGraph.Json.Fault

/-!
# Lexemes of JSON

White space, words, numbers and strings, each read from the front of a list of glyphs. A reader
returns what it read and the glyphs that follow, or stops with a problem and the number of octets
that it had not yet consumed.

Numbers accumulate their digits in an unsigned 64-bit significand; digits that no longer fit are
dropped and only counted, and a number with a point, an exponent or too many digits becomes a
double by one scaling with a power of ten.
-/
namespace ClusterGraph.Json.Lexeme

open Text (Glyph)

/-- Why reading stopped, and how many octets were left unread then. -/
structure Stop where
  problem : Problem
  left : Nat
  deriving DecidableEq, Repr

def stopAt {α : Type} (problem : Problem) (gs : List Glyph) : Except Stop α :=
  .error ⟨problem, Glyph.widths gs⟩

/-- Stops after `octets` octets of the glyphs `gs`. -/
def stopPast {α : Type} (problem : Problem) (gs : List Glyph) (octets : Nat) : Except Stop α :=
  .error ⟨problem, Glyph.widths gs - octets⟩

/-- Stops at the first octet of `gs`, which is counted as seen. -/
def stopOn {α : Type} (problem : Problem) (gs : List Glyph) : Except Stop α :=
  stopPast problem gs 1

def Stop.fault (whole : List Glyph) (s : Stop) : Fault :=
  ⟨s.problem, some (Place.after whole (Glyph.widths whole - s.left) ⟨1, 0⟩)⟩

/-- Space, tabulator, line feed and carriage return. -/
def isSpace (g : Glyph) : Bool := g.isChar ' ' || g.isChar '\n' || g.isChar '\t' || g.isChar '\r'

def skipSpace (gs : List Glyph) : List Glyph := gs.dropWhile isSpace

/-- Reads the remaining letters of a word and gives its value. -/
def word {α : Type} (value : α) : List Char → List Glyph → Except Stop (α × List Glyph)
  | [], gs => .ok (value, gs)
  | _ :: _, [] => stopAt .endInValue []
  | c :: cs, g :: gs => if g.isChar c then word value cs gs else stopOn .expectedIdent (g :: gs)

/-! ## Numbers -/

def significandMax : Nat := Nat.pow 2 64 - 1

def exponentMax : Nat := Nat.pow 2 31 - 1

/-- Appends digits to a number while the result stays within a limit: the number, how many digits
were taken, and what follows. -/
def digits (limit : Nat) : (start : Nat) → List Glyph → Nat × Nat × List Glyph
  | n, [] => (n, 0, [])
  | n, g :: gs =>
    match g.digit? with
    | some d =>
      if n * 10 + d ≤ limit then
        let (m, count, rest) := digits limit (n * 10 + d) gs
        (m, count + 1, rest)
      else (n, 0, g :: gs)
    | none => (n, 0, g :: gs)

def startsWithDigit : List Glyph → Bool
  | g :: _ => g.digit?.isSome
  | [] => false

def startsWithExponent : List Glyph → Bool
  | g :: _ => g.isChar 'e' || g.isChar 'E'
  | [] => false

def skipDigits (gs : List Glyph) : List Glyph := gs.dropWhile fun g => g.digit?.isSome

/-- The double of a significand and an exponent, read up to `gs`. -/
def ofParts (negative : Bool) (significand : Nat) (exponent : Int) (gs : List Glyph) :
    Except Stop (Number × List Glyph) :=
  match Decimal.Binary64.scaled significand exponent with
  | some magnitude => .ok (.double negative magnitude, gs)
  | none => stopAt .numberOutOfRange gs

def exponentPart (negative : Bool) (significand : Nat) (start : Int) (gs : List Glyph) :
    Except Stop (Number × List Glyph) :=
  let (positive, body) :=
    match gs with
    | g :: rest =>
      if g.isChar '+' then (true, rest) else if g.isChar '-' then (false, rest) else (true, gs)
    | [] => (true, [])
  match body with
  | [] => stopAt .endInValue []
  | g :: rest =>
    match g.digit? with
    | none => stopOn .invalidNumber (g :: rest)
    | some d =>
      let (n, _, rest) := digits exponentMax d rest
      if startsWithDigit rest then
        if significand != 0 && positive then stopOn .numberOutOfRange rest
        else .ok (.double negative 0, skipDigits rest)
      else ofParts negative significand (if positive then start + n else start - n) rest

/-- Reads an exponent if one is next, and ends the number otherwise. -/
def optionalExponent (negative : Bool) (significand : Nat) (exponent : Int) (gs : List Glyph) :
    Except Stop (Number × List Glyph) :=
  if startsWithExponent gs then exponentPart negative significand exponent (gs.drop 1)
  else ofParts negative significand exponent gs

def fractionPart (negative : Bool) (significand : Nat) (start : Int) (gs : List Glyph) :
    Except Stop (Number × List Glyph) :=
  let (n, count, rest) := digits significandMax significand gs
  if startsWithDigit rest then optionalExponent negative n (start - count) (skipDigits rest)
  else if count = 0 then
    stopOn (if rest.isEmpty then .endInValue else .invalidNumber) rest
  else optionalExponent negative n (start - count) rest

/-- Reads what follows the digits before the point; `dropped` of them are not in the significand. -/
def afterWhole (negative : Bool) (significand dropped : Nat) (gs : List Glyph) :
    Except Stop (Number × List Glyph) :=
  match gs with
  | g :: rest =>
    if g.isChar '.' then fractionPart negative significand dropped rest
    else if startsWithExponent gs || dropped != 0 then
      optionalExponent negative significand dropped gs
    else whole gs
  | [] => if dropped != 0 then ofParts negative significand dropped [] else whole []
where
  /-- An integer: a negative one of magnitude zero or above 2^63 is a double. -/
  whole (gs : List Glyph) : Except Stop (Number × List Glyph) :=
    if negative then
      if significand = 0 ∨ Nat.pow 2 63 < significand then
        .ok (.double true (Decimal.Binary64.nearest significand 1), gs)
      else .ok (.integer (-(significand : Int)), gs)
    else .ok (.integer significand, gs)

/-- Reads a number, of which the minus sign is read already. -/
def number (negative : Bool) (gs : List Glyph) : Except Stop (Number × List Glyph) :=
  match gs with
  | [] => stopAt .endInValue []
  | g :: rest =>
    match g.digit? with
    | none => stopOn .invalidNumber gs
    | some 0 =>
      if startsWithDigit rest then stopOn .invalidNumber rest else afterWhole negative 0 0 rest
    | some (d + 1) =>
      let (n, _, rest) := digits significandMax (d + 1) rest
      if startsWithDigit rest then
        let rest' := skipDigits rest
        afterWhole negative n (rest.length - rest'.length) rest'
      else afterWhole negative n 0 rest

/-! ## Strings -/

def hexValue? : Glyph → Option Nat
  | .char c =>
    if '0' ≤ c && c ≤ '9' then some (c.toNat - 48)
    else if 'a' ≤ c && c ≤ 'f' then some (c.toNat - 87)
    else if 'A' ≤ c && c ≤ 'F' then some (c.toNat - 55)
    else none
  | .stray _ => none

/-- Reads the four digits of a code unit. Four octets are consumed at once, whatever they are. -/
def codeUnit (gs : List Glyph) : Except Stop Nat :=
  if Glyph.widths gs < 4 then .error ⟨.endInString, 0⟩
  else
    match (gs.take 4).mapM hexValue? with
    | some [a, b, c, d] => .ok (a * 4096 + b * 256 + c * 16 + d)
    | _ => stopPast .invalidEscape gs 4

/-- Reads the escape after a backslash: the character, and the number of glyphs it took. -/
def escaped (gs : List Glyph) : Except Stop (Char × Nat) :=
  match gs with
  | [] => .error ⟨.endInString, 0⟩
  | g :: rest =>
    if g.isChar '"' then .ok ('"', 1)
    else if g.isChar '\\' then .ok ('\\', 1)
    else if g.isChar '/' then .ok ('/', 1)
    else if g.isChar 'b' then .ok ('\x08', 1)
    else if g.isChar 'f' then .ok ('\x0c', 1)
    else if g.isChar 'n' then .ok ('\n', 1)
    else if g.isChar 'r' then .ok ('\r', 1)
    else if g.isChar 't' then .ok ('\t', 1)
    else if g.isChar 'u' then do
      let high ← codeUnit rest
      if 0xDC00 ≤ high && high ≤ 0xDFFF then stopAt .loneSurrogate (rest.drop 4)
      else if high < 0xD800 || 0xDBFF < high then .ok (Char.ofNat high, 5)
      else lowHalf high (rest.drop 4)
    else stopOn .invalidEscape gs
where
  /-- Reads the second half of a surrogate pair. -/
  lowHalf (high : Nat) (gs : List Glyph) : Except Stop (Char × Nat) :=
    match gs with
    | [] => .error ⟨.endInString, 0⟩
    | b :: rest =>
      if b.isChar '\\' then
        match rest with
        | [] => .error ⟨.endInString, 0⟩
        | u :: rest' =>
          if u.isChar 'u' then do
            let low ← codeUnit rest'
            if low < 0xDC00 || 0xDFFF < low then stopAt .loneSurrogate (rest'.drop 4)
            else .ok (Char.ofNat (0x10000 + (high - 0xD800) * 1024 + (low - 0xDC00)), 11)
          else stopOn .endOfHexEscape (u :: rest')
      else stopOn .endOfHexEscape (b :: rest)

def isControl : Glyph → Bool
  | .char c => c.toNat < 0x20
  | .stray _ => false

/-- Reads the inside of a string and its closing quotation mark. The first `skip` glyphs belong to
an escape that is already read. -/
def stringBody : (skip : Nat) → List Glyph → Except Stop (List Glyph × List Glyph)
  | _, [] => .error ⟨.endInString, 0⟩
  | skip + 1, _ :: rest => stringBody skip rest
  | 0, g :: rest =>
    if g.isChar '"' then .ok ([], rest)
    else if g.isChar '\\' then do
      let (c, taken) ← escaped rest
      let (text, rest') ← stringBody taken rest
      .ok (.char c :: text, rest')
    else if isControl g then stopOn .controlInString (g :: rest)
    else do
      let (text, rest') ← stringBody 0 rest
      .ok (g :: text, rest')

def isStray : Glyph → Bool
  | .char _ => false
  | .stray _ => true

/-- Reads a string, of which the opening quotation mark is read already. It has to be text: the
first stray octet up to the closing quotation mark is a fault. -/
def string (gs : List Glyph) : Except Stop (String × List Glyph) := do
  let (content, rest) ← stringBody 0 gs
  match Glyph.text? content with
  | some s => .ok (s, rest)
  | none => stopOn .invalidCodePoint (gs.dropWhile fun g => !isStray g)

/-! ## The punctuation of lists and objects -/

inductive Next where
  | done
  | more
  deriving DecidableEq, Repr

/-- Finds the next item of a list: the glyphs that start with it, or with the closing bracket. -/
def nextItem (first : Bool) (gs : List Glyph) : Except Stop (Next × List Glyph) :=
  match skipSpace gs with
  | [] => stopAt .endInList []
  | g :: rest =>
    if g.isChar ']' then .ok (.done, g :: rest)
    else if first then .ok (.more, g :: rest)
    else if g.isChar ',' then
      match skipSpace rest with
      | [] => stopAt .endInValue []
      | g' :: rest' =>
        if g'.isChar ']' then stopOn .trailingComma (g' :: rest') else .ok (.more, g' :: rest')
    else stopOn .expectedListCommaOrEnd (g :: rest)

/-- Finds the next entry of an object: the glyphs after the opening quotation mark of its key, or
those that start with the closing brace. -/
def nextEntry (first : Bool) (gs : List Glyph) : Except Stop (Next × List Glyph) :=
  match skipSpace gs with
  | [] => stopAt .endInObject []
  | g :: rest =>
    if g.isChar '\x7d' then .ok (.done, g :: rest)
    else if first then
      if g.isChar '"' then .ok (.more, rest) else stopOn .keyMustBeString (g :: rest)
    else if g.isChar ',' then
      match skipSpace rest with
      | [] => stopAt .endInValue []
      | g' :: rest' =>
        if g'.isChar '"' then .ok (.more, rest')
        else if g'.isChar '\x7d' then stopOn .trailingComma (g' :: rest')
        else stopOn .keyMustBeString (g' :: rest')
    else stopOn .expectedObjectCommaOrEnd (g :: rest)

def colon (gs : List Glyph) : Except Stop (List Glyph) :=
  match skipSpace gs with
  | [] => stopAt .endInObject []
  | g :: rest => if g.isChar ':' then .ok rest else stopOn .expectedColon (g :: rest)

def atEnd (gs : List Glyph) : Except Stop Unit :=
  match skipSpace gs with
  | [] => .ok ()
  | rest => stopOn .trailingCharacters rest

end ClusterGraph.Json.Lexeme
