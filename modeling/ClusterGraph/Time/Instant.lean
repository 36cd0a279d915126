import ClusterGraph.Time.Calendar

/-!
# Instants

A moment in universal time: seconds from the start of 1970 and nanoseconds. During a leap second
the second is the one before it and the nanoseconds run from a whole second on. Instants are ordered
by seconds, then nanoseconds.

The written form is `2024-01-02T03:04:05.678+00:00`: no fraction, or as many groups of three digits
as it needs; a leap second as `:60`; a year outside 0 to 9999 with a sign.
-/
namespace ClusterGraph.Time

structure Instant where
  seconds : Int
  nanos : Nat
  deriving DecidableEq, Repr

namespace Instant

def daySeconds : Int := 86400

/-- The first second of the first year of instants, and the last second of the last one. -/
def firstSecond : Int := (Date.toDays ⟨firstYear, 1, 1⟩) * daySeconds

@[inherit_doc firstSecond]
def lastSecond : Int := (Date.toDays ⟨lastYear, 12, 31⟩) * daySeconds + (daySeconds - 1)

def secondNanos : Nat := 1000000000

/-- The instant of a count of seconds and nanoseconds, if it exists: it lies in the years of
instants, and a second of nanoseconds or more only stand in the last second of a minute. -/
def ofParts? (seconds : Int) (nanos : Nat) : Option Instant :=
  if seconds < firstSecond || lastSecond < seconds then none
  else if 2 * secondNanos ≤ nanos then none
  else if secondNanos ≤ nanos && seconds % 60 != 59 then none
  else some ⟨seconds, nanos⟩

def compare (a b : Instant) : Ordering :=
  (Ord.compare a.seconds b.seconds).then (Ord.compare a.nanos b.nanos)

def notAfter (a b : Instant) : Bool := (compare a b).isLE

/-- The decimal digits of `n`, filled up with zeros to `width`. -/
def padded (width n : Nat) : String :=
  let ds := Nat.toDigits 10 n
  String.ofList (List.replicate (width - ds.length) '0' ++ ds)

def yearText (year : Int) : String :=
  if 0 ≤ year ∧ year ≤ 9999 then padded 4 year.toNat
  else (if year < 0 then "-" else "+") ++ padded 4 year.natAbs

/-- The fraction of a second: nothing, or three, six or nine digits. -/
def fractionText (nanos : Nat) : String :=
  if nanos = 0 then ""
  else if nanos % 1000000 = 0 then "." ++ padded 3 (nanos / 1000000)
  else if nanos % 1000 = 0 then "." ++ padded 6 (nanos / 1000)
  else "." ++ padded 9 nanos

def localText (t : Instant) (fraction : Bool) : String :=
  let date := Date.ofDays (t.seconds / daySeconds)
  let second := (t.seconds % daySeconds).toNat
  let leap := secondNanos ≤ t.nanos
  yearText date.year ++ "-" ++ padded 2 date.month ++ "-" ++ padded 2 date.day ++ "T"
    ++ padded 2 (second / 3600) ++ ":" ++ padded 2 (second / 60 % 60) ++ ":"
    ++ padded 2 (second % 60 + if leap then 1 else 0)
    ++ (if fraction then fractionText (t.nanos % secondNanos) else "")

def text (t : Instant) : String := t.localText true ++ "+00:00"

/-- The written form with the letter for universal time. -/
def zuluText (t : Instant) : String := t.localText true ++ "Z"

def secondsText (t : Instant) : String := t.localText false ++ "Z"

end Instant
end ClusterGraph.Time
