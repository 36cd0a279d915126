/-!
# Targets of requests

Which characters the target of a request may hold. A question mark opens the query, and a number
sign opens a fragment, which is not sent.
-/
namespace ClusterGraph.Target

def mayStandInPath (c : Char) : Bool :=
  let n := c.toNat
  n = 0x21 || n = 0x22 || (0x24 ≤ n && n ≤ 0x3B) || n = 0x3D || (0x40 ≤ n && n ≤ 0x5F)
    || 0x61 ≤ n

def mayStandInQuery (c : Char) : Bool :=
  let n := c.toNat
  n = 0x21 || (0x24 ≤ n && n ≤ 0x3B) || n = 0x3D || 0x3F ≤ n

def sentQuery : List Char → Option (List Char)
  | [] => some []
  | c :: rest =>
    if c = '#' then some []
    else if mayStandInQuery c then (sentQuery rest).map (c :: ·)
    else none

def sentFrom : List Char → Option (List Char)
  | [] => some []
  | c :: rest =>
    if c = '#' then some []
    else if c = '?' then (sentQuery rest).map (c :: ·)
    else if mayStandInPath c then (sentFrom rest).map (c :: ·)
    else none

/-- The part of a target that is sent, if it is well formed. -/
def sent? (target : String) : Option String := (sentFrom target.toList).map String.ofList

def path (target : String) : String := String.ofList (target.toList.takeWhile fun c => c ≠ '?')

end ClusterGraph.Target
