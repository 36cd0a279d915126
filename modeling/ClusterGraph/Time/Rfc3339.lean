import ClusterGraph.Text.Blank
import ClusterGraph.Time.Instant

/-!
# Reading timestamps

Two readers of dates with time and offset. The strict one takes the form of RFC 3339: every field
with its fixed number of digits, a `T`, `t` or space between date and time, a fraction of any
length of which nine digits count, and `Z`, `z` or an offset of hours and minutes.

The lenient one also takes white space around the parts, fields with fewer digits, signed years of
any length, `UTC` for the offset, and other separators within the offset. It says why it refuses.
-/
namespace ClusterGraph.Time

inductive TimestampError where
  | tooShort
  | invalid
  | outOfRange
  | tooLong
  | impossible
  deriving DecidableEq, Repr

def TimestampError.message : TimestampError → String
  | tooShort => "premature end of input"
  | invalid => "input contains invalid characters"
  | outOfRange => "input is out of range"
  | tooLong => "trailing input"
  | impossible => "no possible date and time matching input"

structure Fields where
  year : Int
  month : Nat
  day : Nat
  hour : Nat
  minute : Nat
  second : Nat
  nanos : Nat
  /-- Seconds east of Greenwich. -/
  offset : Int
  deriving DecidableEq, Repr

/-- The instant of a set of fields. A second of 60 is a leap second. -/
def Fields.instant (f : Fields) : Except TimestampError Instant :=
  let date : Date := ⟨f.year, f.month, f.day⟩
  if !date.isValid then .error .outOfRange
  else if 24 ≤ f.hour || 60 ≤ f.minute || 61 ≤ f.second then .error .outOfRange
  else if Instant.daySeconds ≤ f.offset.natAbs then .error .outOfRange
  else
    let second := if f.second = 60 then 59 else f.second
    let nanos := if f.second = 60 then f.nanos + Instant.secondNanos else f.nanos
    let whole := date.toDays * Instant.daySeconds + (f.hour * 3600 + f.minute * 60 + second : Nat)
      - f.offset
    if whole < Instant.firstSecond || Instant.lastSecond < whole then .error .impossible
    else .ok ⟨whole, nanos⟩

namespace Timestamp

def isDigit (c : Char) : Bool := '0' ≤ c && c ≤ '9'

def digitsValue (ds : List Char) : Nat := ds.foldl (fun n c => n * 10 + (c.toNat - '0'.toNat)) 0

/-- Reads a number of at least one digit and at most `max` digits, below 2^63. -/
def number (min max : Nat) (cs : List Char) : Except TimestampError (Nat × List Char) :=
  if (String.ofList cs).utf8ByteSize < min then .error .tooShort
  else
    let ds := (cs.take max).takeWhile isDigit
    if ds.length < min then .error .invalid
    else if Nat.pow 2 63 ≤ digitsValue ds then .error .outOfRange
    else .ok (digitsValue ds, cs.drop ds.length)

def char (c : Char) : List Char → Except TimestampError (List Char)
  | [] => .error .tooShort
  | d :: rest => if d = c then .ok rest else .error .invalid

def separator : List Char → Except TimestampError (List Char)
  | [] => .error .tooShort
  | c :: rest => if c = 'T' || c = 't' || c = ' ' then .ok rest else .error .invalid

/-- Reads a point and the digits of a fraction, of which nine count, if there is a point. -/
def fraction : List Char → Except TimestampError (Nat × List Char)
  | '.' :: rest => do
    let (_, after) ← number 1 9 rest
    let ds := (rest.take 9).takeWhile isDigit
    return (digitsValue ds * Nat.pow 10 (9 - ds.length), after.dropWhile isDigit)
  | cs => .ok (0, cs)

private def twoDigits : List Char → Except TimestampError (Nat × List Char)
  | a :: b :: rest =>
    if isDigit a && isDigit b then .ok (digitsValue [a, b], rest) else .error .invalid
  | [a] => if 2 ≤ a.utf8Size then .error .invalid else .error .tooShort
  | [] => .error .tooShort

/-- Reads an offset: the letter for universal time, or a sign, hours, separators and minutes. -/
def offset (between : List Char → Except TimestampError (List Char)) (cs : List Char) :
    Except TimestampError (Int × List Char) :=
  match cs with
  | [] => .error .tooShort
  | c :: rest =>
    if c = 'Z' || c = 'z' then .ok (0, rest)
    else if c = '+' || c = '-' || c = '\u2212' then do
      let (hours, rest) ← twoDigits rest
      let rest ← between rest
      let (minutes, rest) ← twoDigits rest
      if 60 ≤ minutes then .error .outOfRange
      else
        let seconds : Int := (hours * 3600 + minutes * 60 : Nat)
        .ok (if c = '+' then seconds else -seconds, rest)
    else .error .invalid

def trim (cs : List Char) : List Char := cs.dropWhile Text.isSpace

def strict (cs : List Char) : Except TimestampError Instant := do
  let (year, cs) ← number 4 4 cs
  let cs ← char '-' cs
  let (month, cs) ← number 2 2 cs
  let cs ← char '-' cs
  let (day, cs) ← number 2 2 cs
  let cs ← separator cs
  let (hour, cs) ← number 2 2 cs
  let cs ← char ':' cs
  let (minute, cs) ← number 2 2 cs
  let cs ← char ':' cs
  let (second, cs) ← number 2 2 cs
  let (nanos, cs) ← fraction cs
  let (east, cs) ← offset (char ':') cs
  if !cs.isEmpty then .error .tooLong
  else (Fields.mk year month day hour minute second nanos east).instant

private def within (lo hi : Nat) (n : Nat) : Except TimestampError Nat :=
  if lo ≤ n && n ≤ hi then .ok n else .error .outOfRange

/-- Reads a field of at most two digits after white space. -/
private def field (lo hi : Nat) (cs : List Char) : Except TimestampError (Nat × List Char) := do
  let (n, rest) ← number 1 2 (trim cs)
  return (← within lo hi n, rest)

/-- Reads a year after white space: with a sign of any length, else of at most four digits. -/
private def signedYear (cs : List Char) : Except TimestampError (Int × List Char) := do
  let (year, rest) ←
    match trim cs with
    | '-' :: digits => do
      let (n, rest) ← number 1 digits.length digits
      Except.ok (-(n : Int), rest)
    | '+' :: digits => do
      let (n, rest) ← number 1 digits.length digits
      Except.ok ((n : Int), rest)
    | digits => do
      let (n, rest) ← number 1 4 digits
      Except.ok ((n : Int), rest)
  if year < -(Nat.pow 2 31) || Nat.pow 2 31 ≤ year then .error .outOfRange else .ok (year, rest)

/-- The three letters for universal time, of either case. -/
private def isUtc (cs : List Char) : Bool := (cs.take 3).map Char.toUpper == ['U', 'T', 'C']

def lenient (cs : List Char) : Except TimestampError Instant := do
  let (year, cs) ← signedYear cs
  let cs ← char '-' (trim cs)
  let (month, cs) ← field 1 12 cs
  let cs ← char '-' (trim cs)
  let (day, cs) ← field 1 31 cs
  let cs ← separator cs
  let (hour, cs) ← field 0 23 cs
  let cs ← char ':' (trim cs)
  let (minute, cs) ← field 0 59 cs
  let cs ← char ':' (trim cs)
  let (second, cs) ← field 0 60 cs
  let (nanos, cs) ← fraction cs
  let cs := trim cs
  let (east, cs) ←
    if isUtc cs then Except.ok ((0 : Int), cs.drop 3)
    else offset (fun cs => .ok (cs.dropWhile fun c => c = ':' || Text.isSpace c)) cs
  if !(trim cs).isEmpty then .error .tooLong
  else (Fields.mk year month day hour minute second nanos east).instant

end Timestamp

/-- The instant that a text names in the strict form. -/
def Instant.parse? (s : String) : Option Instant := (Timestamp.strict s.toList).toOption

def Instant.parseLenient (s : String) : Except TimestampError Instant := Timestamp.lenient s.toList

end ClusterGraph.Time
