import ClusterGraph.Document.Basic
import ClusterGraph.Document.Path

/-!
# Editing documents in place

Putting a value at a path makes the objects that are missing on the way; null counts as missing.
Arrays are not made, and an index may name a position of the array or the one after its last.

An edit that fails part of the way leaves the document with the objects and positions that it made
up to there, so the result is a pair of the document left behind and the outcome.
-/
namespace ClusterGraph

/-- Puts `value` at a path below a slot; `place` is the written form of the path to the slot. -/
def Json.assign (value : Json) : (place : String) → Path → Json → Json × Except PathError Unit
  | _, [], _ => (value, .ok ())
  | place, .key k :: rest, .null =>
    let (child, outcome) := assign value (place ++ (Step.key k).text) rest .null
    (.object [(k, child)], outcome)
  | place, .key k :: rest, .object entries =>
    let (child, outcome) :=
      assign value (place ++ (Step.key k).text) rest ((Entries.get? entries k).getD .null)
    (.object (Entries.put entries k child), outcome)
  | place, .key _ :: _, slot => (slot, .error (.notAnObject place))
  | place, .index i :: rest, .array items =>
    if items.length < i then (.array items, .error (.indexOutOfRange place i items.length))
    else
      let (child, outcome) :=
        assign value (place ++ (Step.index i).text) rest (items[i]?.getD .null)
      (.array (if i = items.length then items ++ [child] else items.set i child), outcome)
  | place, .index _ :: _, slot => (slot, .error (.notAnArray place))

namespace Document

/-- Puts a value at a path. A path has to start with a key. -/
def set (d : Document) (path : Path) (value : Json) : Document × Except PathError Unit :=
  match path with
  | [] => (d, .error .empty)
  | .index _ :: _ => (d, .error (.notAnArray ""))
  | .key k :: rest =>
    let (child, outcome) := Json.assign value k rest ((d.entries.get? k).getD .null)
    (⟨d.entries.put k child⟩, outcome)

/-- Puts a value into the metadata, which is made if it is absent. -/
def setMeta (d : Document) (field : String) (value : Json) : Document :=
  (d.set [.key "metadata", .key field] value).1

end Document
end ClusterGraph
