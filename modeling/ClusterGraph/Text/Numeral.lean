/-!
# Numerals

The value of a written natural number. A numeral has digits only, in one base, and at least one of
them; leading zeros do not matter. An unsigned number may carry a plus sign and has a width.
-/
namespace ClusterGraph.Text

/-- The value of a digit; a letter counts on from ten, in either case. -/
def digit? (base : Nat) (c : Char) : Option Nat :=
  let n :=
    if '0' ≤ c ∧ c ≤ '9' then c.toNat - '0'.toNat
    else if 'a' ≤ c ∧ c ≤ 'z' then c.toNat - 'a'.toNat + 10
    else if 'A' ≤ c ∧ c ≤ 'Z' then c.toNat - 'A'.toNat + 10
    else base
  if n < base then some n else none

def numeral? (base : Nat) (cs : List Char) : Option Nat :=
  if cs.isEmpty then none
  else (cs.mapM (digit? base)).map fun ds => ds.foldl (fun n d => n * base + d) 0

/-- The value of a decimal numeral of at most so many bits. -/
def decimal? (bits : Nat) (cs : List Char) : Option Nat :=
  (numeral? 10 cs).filter fun n => n < Nat.pow 2 bits

/-- The value of an unsigned number of at most so many bits. -/
def unsigned? (bits : Nat) : List Char → Option Nat
  | '+' :: cs => decimal? bits cs
  | cs => decimal? bits cs

end ClusterGraph.Text
