import ClusterGraph.Text.Numeral
import ClusterGraph.Text.Pieces

/-!
# Socket addresses

An internet address with a port, as `127.0.0.1:80` or `[::1]:80`. The octets of a short address
have no leading zeros. Groups of a long address are hexadecimal; two colons stand for one or more
zero groups, the last two groups may be written as octets, and a zone may follow a percent sign.
-/
namespace ClusterGraph

inductive SocketAddress where
  | v4 (octets : Vector UInt8 4) (port : UInt16)
  | v6 (groups : Vector UInt16 8) (zone : UInt32) (port : UInt16)
  deriving DecidableEq, Repr

namespace SocketAddress

/-! ## Reading -/

def exactly? {α : Type} (n : Nat) (items : List α) : Option (Vector α n) :=
  if h : items.length = n then some ⟨items.toArray, by simpa using h⟩ else none

/-- An octet: at most three digits, the first of several not a zero. -/
def octet? (cs : List Char) : Option UInt8 :=
  if cs.length ≤ 3 && (cs.length == 1 || cs.head? != some '0') then
    (Text.decimal? 8 cs).map UInt8.ofNat
  else none

def octets? (cs : List Char) : Option (Vector UInt8 4) := do
  exactly? 4 (← (Text.pieces '.' cs).mapM octet?)

def port? (cs : List Char) : Option UInt16 := (Text.decimal? 16 cs).map UInt16.ofNat

def group? (cs : List Char) : Option UInt16 :=
  if cs.length ≤ 4 then (Text.numeral? 16 cs).map UInt16.ofNat else none

def groupsOfOctets (octets : Vector UInt8 4) : List UInt16 :=
  let pair (high low : UInt8) : UInt16 := high.toUInt16 * 256 + low.toUInt16
  [pair octets[0] octets[1], pair octets[2] octets[3]]

def groups? (cs : List Char) : Option (List UInt16) :=
  if cs.isEmpty then some [] else (Text.pieces ':' cs).mapM group?

/-- Groups at the end of an address, where octets may stand for the last two. -/
def lastGroups? (cs : List Char) : Option (List UInt16) :=
  let parts := Text.pieces ':' cs
  match octets? (parts.getLastD []) with
  | some octets => (parts.dropLast.mapM group?).map (· ++ groupsOfOctets octets)
  | none => groups? cs

def elision? : List Char → Option (List Char × List Char)
  | ':' :: ':' :: rest => some ([], rest)
  | c :: rest => (elision? rest).map fun parts => (c :: parts.1, parts.2)
  | [] => none

def host? (cs : List Char) : Option (Vector UInt16 8) :=
  match elision? cs with
  | none => (lastGroups? cs).bind (exactly? 8)
  | some (before, after) => do
    let front ← groups? before
    let back ← lastGroups? after
    let given := front.length + back.length
    if given < 8 then exactly? 8 (front ++ List.replicate (8 - given) 0 ++ back) else none

def zonedHost? (cs : List Char) : Option (Vector UInt16 8 × UInt32) :=
  match Text.pieces '%' cs with
  | [host] => (host? host).map (·, 0)
  | [host, zone] => do return (← host? host, .ofNat (← Text.decimal? 32 zone))
  | _ => none

def parse? (s : String) : Option SocketAddress :=
  match s.toList with
  | '[' :: cs =>
    match Text.pieces ']' cs with
    | [inside, ':' :: port] => do
      let (groups, zone) ← zonedHost? inside
      return .v6 groups zone (← port? port)
    | _ => none
  | cs =>
    match Text.pieces ':' cs with
    | [host, port] => do return .v4 (← octets? host) (← port? port)
    | _ => none

/-! ## Writing -/

def octetsText (octets : List UInt8) : String :=
  ".".intercalate (octets.map fun o => toString o.toNat)

def groupsText (groups : List UInt16) : String :=
  ":".intercalate (groups.map fun g => String.ofList (Nat.toDigits 16 g.toNat))

/-- Where the longest run of zero groups starts, the first of several, and how long it is. -/
def zeroRun : List UInt16 → Nat × Nat
  | [] => (0, 0)
  | group :: rest =>
    let here := ((group :: rest).takeWhile (· == 0)).length
    let (start, length) := zeroRun rest
    if length ≤ here then (0, here) else (start + 1, length)

/-- The text of a long address: octets at the end of a mapped short address, else two colons for
the longest run of two or more zero groups. -/
def hostText (groups : List UInt16) : String :=
  if groups.take 6 = [0, 0, 0, 0, 0, 0xFFFF] then
    "::ffff:" ++ octetsText ((groups.drop 6).flatMap fun g => [(g / 256).toUInt8, g.toUInt8])
  else
    let (start, length) := zeroRun groups
    if length < 2 then groupsText groups
    else groupsText (groups.take start) ++ "::" ++ groupsText (groups.drop (start + length))

def text : SocketAddress → String
  | v4 octets port => octetsText octets.toList ++ ":" ++ toString port.toNat
  | v6 groups zone port =>
    let mark := if zone = 0 then "" else "%" ++ toString zone.toNat
    "[" ++ hostText groups.toList ++ mark ++ "]:" ++ toString port.toNat

end SocketAddress
end ClusterGraph
