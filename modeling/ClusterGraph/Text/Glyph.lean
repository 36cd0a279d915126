/-!
# Glyphs

Input arrives as octets that need not be well-formed UTF-8. A glyph is a character, or a stray
octet that begins no well-formed sequence; every octet string is a list of glyphs, and only a list
without stray octets is text.
-/
namespace ClusterGraph.Text

/-- A character, or an octet that is part of none. -/
inductive Glyph where
  | char (c : Char)
  | stray (octet : UInt8)
  deriving DecidableEq, Repr

namespace Glyph

def width : Glyph → Nat
  | char c => c.utf8Size
  | stray _ => 1

def widths : List Glyph → Nat
  | [] => 0
  | g :: gs => g.width + widths gs

def isChar (c : Char) : Glyph → Bool
  | char d => d == c
  | stray _ => false

def digit? : Glyph → Option Nat
  | char c => if '0' ≤ c && c ≤ '9' then some (c.toNat - '0'.toNat) else none
  | stray _ => none

def ofString (s : String) : List Glyph := s.toList.map char

/-- The text that the glyphs spell, unless one of them is stray. -/
def text? (gs : List Glyph) : Option String :=
  (gs.mapM fun
    | char c => some c
    | stray _ => none).map String.ofList

/-- An octet that continues a sequence, in the range that its predecessor admits. -/
private def tailIn (lo hi : Nat) (b : UInt8) : Bool := lo ≤ b.toNat && b.toNat ≤ hi

/-- The character that starts a list of octets and the number of its octets, by the table of
well-formed sequences: no overlong form, no surrogate, nothing above U+10FFFF. -/
def leading? : List UInt8 → Option (Char × Nat)
  | [] => none
  | a :: rest =>
    let n := a.toNat
    if n < 0x80 then some (Char.ofNat n, 1)
    else if 0xC2 ≤ n && n ≤ 0xDF then
      match rest with
      | b :: _ =>
        if tailIn 0x80 0xBF b then some (Char.ofNat ((n - 0xC0) * 64 + (b.toNat - 0x80)), 2)
        else none
      | [] => none
    else if 0xE0 ≤ n && n ≤ 0xEF then
      match rest with
      | b :: c :: _ =>
        if tailIn (if n = 0xE0 then 0xA0 else 0x80) (if n = 0xED then 0x9F else 0xBF) b
            && tailIn 0x80 0xBF c then
          some (Char.ofNat ((n - 0xE0) * 4096 + (b.toNat - 0x80) * 64 + (c.toNat - 0x80)), 3)
        else none
      | _ => none
    else if 0xF0 ≤ n && n ≤ 0xF4 then
      match rest with
      | b :: c :: d :: _ =>
        if tailIn (if n = 0xF0 then 0x90 else 0x80) (if n = 0xF4 then 0x8F else 0xBF) b
            && tailIn 0x80 0xBF c && tailIn 0x80 0xBF d then
          some (Char.ofNat ((n - 0xF0) * 262144 + (b.toNat - 0x80) * 4096 + (c.toNat - 0x80) * 64
            + (d.toNat - 0x80)), 4)
        else none
      | _ => none
    else none

/-- Reads octets with a bound on the number of glyphs; `skip` octets belong to the character
before. -/
private def decode : (skip : Nat) → List UInt8 → List Glyph
  | _, [] => []
  | skip + 1, _ :: rest => decode skip rest
  | 0, a :: rest =>
    match leading? (a :: rest) with
    | some (c, n) => char c :: decode (n - 1) rest
    | none => stray a :: decode 0 rest

def ofOctets (octets : List UInt8) : List Glyph := decode 0 octets

end Glyph
end ClusterGraph.Text
