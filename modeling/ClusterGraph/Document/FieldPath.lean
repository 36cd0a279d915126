import ClusterGraph.Document.Path
import ClusterGraph.Text.Numeral
import ClusterGraph.Text.Pieces

/-!
# Field path expressions

A path expression names a field: keys separated by points, each with any number of indices in
brackets, as in `spec.containers[0].image`. One leading point is allowed. A key holds neither a
point nor a bracket, and an index is a decimal below 2^64, with an optional plus sign.

The field that an expression names decides what may be put there: Kubernetes' own names and label
maps are typed, everything else is free.
-/
namespace ClusterGraph

inductive Target where
  | text
  | textMap
  | any
  deriving DecidableEq, Repr

namespace FieldPath

/-- Reads indices in brackets up to the end of a segment; the fuel bounds their number. -/
def indices? : (fuel : Nat) → List Char → Option (List Step)
  | _, [] => some []
  | 0, _ :: _ => none
  | fuel + 1, c :: rest =>
    if c = '[' then
      match rest.dropWhile (· != ']') with
      | [] => none
      | _ :: after => do
        let i ← Text.unsigned? 64 (rest.takeWhile (· != ']'))
        let more ← indices? fuel after
        return .index i :: more
    else none

/-- Reads the segment at a position: a key, then indices. -/
def segment (position : Nat) (seg : List Char) : Except PathError (List Step) :=
  let key := seg.takeWhile (· != '[')
  if key.isEmpty then .error (.emptySegment position)
  else if key.contains ']' then .error (.malformedIndex (String.ofList seg))
  else
    match indices? seg.length (seg.dropWhile (· != '[')) with
    | some steps => .ok (.key (String.ofList key) :: steps)
    | none => .error (.malformedIndex (String.ofList seg))

def segments : (position : Nat) → List (List Char) → Except PathError Path
  | _, [] => .ok []
  | position, seg :: rest => do
    let steps ← segment position seg
    let more ← segments (position + 1) rest
    return steps ++ more

def parse (expr : String) : Except PathError Path :=
  let cs := match expr.toList with
    | '.' :: rest => rest
    | cs => cs
  if cs.isEmpty then .error .empty else segments 0 (Text.pieces '.' cs)

def target : Path → Target
  | [.key k] => if k = "apiVersion" || k = "kind" then .text else .any
  | [.key m, .key k] =>
    if m = "metadata" then
      if k = "name" || k = "namespace" || k = "generateName" then .text
      else if k = "labels" || k = "annotations" then .textMap
      else .any
    else .any
  | [.key m, .key k, .key entry] =>
    if m = "metadata" && (k = "labels" || k = "annotations") && entry != "" then .text else .any
  | _ => .any

end FieldPath
end ClusterGraph
