import ClusterGraph.Failure

/-!
# Paths into documents

A path is a list of steps, each a key of an object or an index into an array. Its written form puts
a point before each key but the first and brackets around each index. Reading along a path is
`Json.at?`.
-/
namespace ClusterGraph

inductive Step where
  | key (k : String)
  | index (i : Nat)
  deriving DecidableEq, Repr

abbrev Path := List Step

def Step.text : Step → String
  | key k => "." ++ k
  | index i => "[" ++ toString i ++ "]"

def Path.text : Path → String
  | [] => ""
  | .key k :: rest => k ++ String.join (rest.map Step.text)
  | .index i :: rest => "[" ++ toString i ++ "]" ++ String.join (rest.map Step.text)

/-- What stands at a path, if anything does. -/
def Json.at? : Path → Json → Option Json
  | [], v => some v
  | .key k :: rest, .object entries =>
    match Entries.get? entries k with
    | some v => at? rest v
    | none => none
  | .index i :: rest, .array items =>
    match items[i]? with
    | some v => at? rest v
    | none => none
  | _ :: _, _ => none

end ClusterGraph
