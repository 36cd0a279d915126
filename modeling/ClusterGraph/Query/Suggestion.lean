/-!
# Suggestions for misspelt names

The names that are near to a misspelt one, nearest first. Nearness is the number of characters to
insert, to delete or to replace.
-/
namespace ClusterGraph.Query

/-- The next row of the distance table: the distances of one more character of the first text from
every beginning of the second one. `left` is the distance in front, `diagonal` the one before it in
the row above. -/
def distanceRow (c : Char) (left diagonal : Nat) : List Char → List Nat → List Nat
  | d :: ds, above :: row =>
    let here := min (min (left + 1) (above + 1)) (if c = d then diagonal else diagonal + 1)
    here :: distanceRow c here above ds row
  | _, _ => []

/-- The rows of the distance table from one on, given the first entry of the row above and its
others. The last entry of the last row is the distance. -/
def distanceFrom (second : List Char) : List Char → Nat → List Nat → Nat
  | [], first, row => row.getLast?.getD first
  | c :: cs, first, row =>
    distanceFrom second cs (first + 1) (distanceRow c (first + 1) first second row)

/-- The least number of characters to insert, delete or replace that turns one text into another. -/
def editDistance (first second : List Char) : Nat :=
  distanceFrom second first 0 ((List.range second.length).map (· + 1))

/-- The names near to a misspelt one: nearer than half of the longer of the two. -/
def nearNames (names : List String) (given : String) : List String :=
  let distances := names.filterMap fun name =>
    let d := editDistance given.toList name.toList
    if d < max (given.length / 2) (max (name.length / 2) 1) then some (d, name) else none
  (distances.mergeSort fun a b => a.1 ≤ b.1).map Prod.snd

/-- A question that offers the near names, if there are any. -/
def suggestion (names : List String) (given : String) : String :=
  match nearNames names given with
  | [] => ""
  | near => " Did you mean " ++ ", ".intercalate (near.map fun n => "\"" ++ n ++ "\"") ++ "?"

end ClusterGraph.Query
