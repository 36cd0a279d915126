/-!
# Binary floating point

Numbers with 53 significant binary digits, as sixty-four bits: sign, eleven bits of exponent,
fifty-two bits of fraction. Arithmetic is on exact ratios of natural numbers, and each result is
the nearest representable number, a half going to the neighbour with an even last digit.
-/
namespace ClusterGraph.Decimal

/-- The quotient rounded to the nearest integer, a half going to the even neighbour. -/
def roundDiv (num den : Nat) : Nat :=
  let q := num / den
  let r := num % den
  if 2 * r < den then q
  else if den < 2 * r then q + 1
  else if q % 2 = 0 then q else q + 1

namespace Binary64

/-- The bits of positive infinity; the patterns below it are the finite numbers in order. -/
def infinity : Nat := 0x7FF0000000000000

/-- The bits of the number nearest to `num / den`, for a positive denominator. A magnitude too
large for any finite number gives `infinity`.

The quotient is scaled by the power of two that leaves 53 digits before the point, or by 2^1074
when the number is subnormal. Adding the significand to the shifted exponent carries into the
exponent exactly when the significand has its full length. -/
def nearest (num den : Nat) : Nat :=
  if num = 0 then 0
  else
    let guess : Int := (num.log2 : Int) - (den.log2 : Int)
    -- the true binary exponent is the guess or one less
    let exponent : Int :=
      if 0 ≤ guess then (if den * Nat.pow 2 guess.toNat ≤ num then guess else guess - 1)
      else (if den ≤ num * Nat.pow 2 (-guess).toNat then guess else guess - 1)
    let scale : Int := max (exponent - 52) (-1074)
    let significand :=
      if 0 ≤ scale then roundDiv num (den * Nat.pow 2 scale.toNat)
      else roundDiv (num * Nat.pow 2 (-scale).toNat) den
    min ((scale + 1074).toNat * Nat.pow 2 52 + significand) infinity

def split (magnitude : Nat) : Nat × Int :=
  let exponent : Nat := magnitude / Nat.pow 2 52
  let fraction : Nat := magnitude % Nat.pow 2 52
  if exponent = 0 then (fraction, -1074) else (fraction + Nat.pow 2 52, (exponent : Int) - 1075)

def ratio (magnitude : Nat) : Nat × Nat :=
  let (m, e) := split magnitude
  if 0 ≤ e then (m * Nat.pow 2 e.toNat, 1) else (m, Nat.pow 2 (-e).toNat)

def mul (a b : Nat) : Nat :=
  let (n, d) := ratio a
  let (n', d') := ratio b
  nearest (n * n') (d * d')

/-- The magnitude nearest to the quotient of two finite magnitudes, the second not zero. -/
def div (a b : Nat) : Nat :=
  let (n, d) := ratio a
  let (n', d') := ratio b
  nearest (n * d') (d * n')

def powerOfTen (n : Nat) : Nat := nearest (Nat.pow 10 n) 1

/-- The magnitude reached from a whole number by one multiplication with, or by divisions by, the
nearest power of ten; `none` when it leaves the finite numbers. Exponents below -308 divide by
10^308 first and then by what remains, each step rounding, and the fuel bounds those steps. -/
def scaled (significand : Nat) (exponent : Int) : Option Nat :=
  go 8 (nearest significand 1) exponent
where
  go : Nat → Nat → Int → Option Nat
    | 0, f, _ => some f
    | fuel + 1, f, e =>
      if e.natAbs ≤ 308 then
        if 0 ≤ e then
          let r := mul f (powerOfTen e.toNat)
          if r < infinity then some r else none
        else some (div f (powerOfTen e.natAbs))
      else if f = 0 then some 0
      else if 0 ≤ e then none
      else go fuel (div f (powerOfTen 308)) (e + 308)

end Binary64
end ClusterGraph.Decimal
