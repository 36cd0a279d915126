import ClusterGraph.Text.Glyph

/-!
# Base 64

Checks that a text is the canonical base 64 form of some octets: four symbols for three octets,
with padding at the end and no bits left over.
-/
namespace ClusterGraph.Base64

inductive Refusal where
  | invalidByte (offset octet : Nat)
  | invalidLength
  | invalidLastSymbol (offset octet : Nat)
  | invalidPadding
  deriving DecidableEq, Repr

def Refusal.message : Refusal → String
  | invalidByte offset octet =>
    "Invalid byte " ++ toString octet ++ ", offset " ++ toString offset ++ "."
  | invalidLength => "Encoded text cannot have a 6-bit remainder."
  | invalidLastSymbol offset octet =>
    "Invalid last symbol " ++ toString octet ++ ", offset " ++ toString offset ++ "."
  | invalidPadding => "Invalid padding"

def symbol? (octet : Nat) : Option Nat :=
  if 65 ≤ octet && octet ≤ 90 then some (octet - 65)
  else if 97 ≤ octet && octet ≤ 122 then some (octet - 71)
  else if 48 ≤ octet && octet ≤ 57 then some (octet + 4)
  else if octet = 43 then some 62
  else if octet = 47 then some 63
  else none

def padding : Nat := 61

/-- Checks octets from an offset on. `firstPad` is the offset of the first padding symbol, `last`
the last symbol before it with its offset. -/
def check : (offset : Nat) → (firstPad : Option Nat) → (last : Nat × Nat) → List Nat →
    Option Refusal
  | offset, firstPad, (lastOffset, lastOctet), [] =>
    let symbols := firstPad.getD offset
    let bits := (symbol? lastOctet).getD 0
    if symbols % 4 = 1 then some .invalidLength
    else if offset % 4 != 0 then some .invalidPadding
    else if symbols % 4 = 2 && bits % 16 != 0 then some (.invalidLastSymbol lastOffset lastOctet)
    else if symbols % 4 = 3 && bits % 4 != 0 then some (.invalidLastSymbol lastOffset lastOctet)
    else none
  | offset, firstPad, last, octet :: rest =>
    if octet = padding then
      if offset % 4 < 2 then some (.invalidByte (firstPad.getD offset) octet)
      else check (offset + 1) (some (firstPad.getD offset)) last rest
    else
      match firstPad, symbol? octet with
      | some pad, _ => some (.invalidByte pad padding)
      | none, none => some (.invalidByte offset octet)
      | none, some _ => check (offset + 1) none (offset, octet) rest

def refusal? (s : String) : Option Refusal :=
  check 0 none (0, 65) (s.toUTF8.toList.map UInt8.toNat)

end ClusterGraph.Base64
