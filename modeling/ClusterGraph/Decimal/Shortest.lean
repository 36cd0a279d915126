import ClusterGraph.Decimal.Binary64

/-!
# Shortest decimals

The shortest decimal that reads back as a given binary number, and of the shortest ones the
nearest. A decimal reads back when it lies between the midpoints to the two neighbours of the
number; the midpoints themselves belong to it when its significand is even.
-/
namespace ClusterGraph.Decimal

/-- The digits of a decimal as a whole number, and the power of ten of the last digit. -/
structure Digits where
  digits : Nat
  exponent : Int
  deriving DecidableEq, Repr

/-- The interval of reals that round to a magnitude, over one denominator. -/
structure Span where
  low : Nat
  value : Nat
  high : Nat
  den : Nat
  closed : Bool
  deriving DecidableEq, Repr

/-- The reals that round to a positive finite magnitude. Below a power of two the neighbour is half
as far away, except at the bottom of the normal range. -/
def Span.of (magnitude : Nat) : Span :=
  let (m, e) := Binary64.split magnitude
  let near := m = Nat.pow 2 52 ∧ magnitude ≠ Nat.pow 2 52
  let low := if near then 4 * m - 1 else 4 * m - 2
  if 0 ≤ e then
    let s := Nat.pow 2 e.toNat
    ⟨low * s, 4 * m * s, (4 * m + 2) * s, 4, m % 2 = 0⟩
  else ⟨low, 4 * m, 4 * m + 2, 4 * Nat.pow 2 (-e).toNat, m % 2 = 0⟩

def Span.holds (s : Span) (k : Nat) (exponent : Int) : Bool :=
  let lhs := if 0 ≤ exponent then k * Nat.pow 10 exponent.toNat * s.den else k * s.den
  let scale := if 0 ≤ exponent then 1 else Nat.pow 10 (-exponent).toNat
  if s.closed then s.low * scale ≤ lhs && lhs ≤ s.high * scale
  else s.low * scale < lhs && lhs < s.high * scale

/-- The grid point at or below the value on the grid of multiples of `10^exponent`, and twice the
distance from it to the value, as a fraction of the grid's step. -/
def Span.floor (s : Span) (exponent : Int) : Nat × Nat × Nat :=
  let num := if 0 ≤ exponent then s.value else s.value * Nat.pow 10 (-exponent).toNat
  let den := if 0 ≤ exponent then s.den * Nat.pow 10 exponent.toNat else s.den
  (num / den, 2 * (num % den), den)

/-- The grid point nearest to the value that reads back, if one of its two neighbours does. -/
def Span.onGrid? (s : Span) (exponent : Int) : Option Nat :=
  let (k, twice, den) := s.floor exponent
  let below := s.holds k exponent && k != 0
  let above := s.holds (k + 1) exponent
  if below && above then
    some (if twice < den then k else if den < twice then k + 1 else if k % 2 = 0 then k else k + 1)
  else if below then some k
  else if above then some (k + 1)
  else none

/-- The number of decimal digits of the value before the point, minus one: the exponent of its
first digit. -/
def Span.leading (s : Span) : Int :=
  if s.den ≤ s.value then ((Nat.toDigits 10 (s.value / s.den)).length : Int) - 1
  else
    let guess := (Nat.toDigits 10 (s.den / s.value)).length
    if s.den ≤ s.value * Nat.pow 10 (guess - 1) then -((guess : Int) - 1) else -(guess : Int)

def Digits.trim : (fuel : Nat) → Digits → Digits
  | 0, d => d
  | fuel + 1, d =>
    if d.digits % 10 = 0 && d.digits != 0 then trim fuel ⟨d.digits / 10, d.exponent + 1⟩ else d

/-- The shortest decimal of a positive finite magnitude: the first of the grids with 1, 2, … 17
digits that holds a decimal which reads back. -/
def shortest (magnitude : Nat) : Digits :=
  let s := Span.of magnitude
  let top := s.leading
  let grids := (List.range 17).map fun n : Nat => top - (n : Int)
  match grids.findSome? fun e => (s.onGrid? e).map fun k => Digits.mk k e with
  | some d => d.trim 20
  | none => ⟨0, 0⟩

end ClusterGraph.Decimal
