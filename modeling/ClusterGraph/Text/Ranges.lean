/-!
# Ranges of numbers

Membership in a set of numbers that is given as ascending closed ranges, by bisection. Classes of
characters are given in this way, by their code points.
-/
namespace ClusterGraph.Text

/-- Bisection in the half-open index range from `lo` to `hi` of ascending disjoint ranges. The fuel
is the number of halvings. -/
def inRanges (ranges : Array (Nat × Nat)) (n : Nat) : (fuel lo hi : Nat) → Bool
  | 0, _, _ => false
  | fuel + 1, lo, hi =>
    if lo < hi then
      let mid := (lo + hi) / 2
      match ranges[mid]? with
      | none => false
      | some (first, last) =>
        if n < first then inRanges ranges n fuel lo mid
        else if last < n then inRanges ranges n fuel (mid + 1) hi
        else true
    else false

end ClusterGraph.Text
