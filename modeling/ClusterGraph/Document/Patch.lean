import ClusterGraph.Document.Edit
import ClusterGraph.Document.FieldPath

/-!
# Patches

A patch puts a value, given as JSON text, at a field. A batch is applied in order, so a later patch
on a field wins; the first patch that cannot be applied ends the batch, and the failure names its
position. Nothing of a failed batch is kept.
-/
namespace ClusterGraph

structure Patch where
  fieldPath : String
  value : String
  deriving DecidableEq, Repr

/-- Reads a payload and checks it against what its field may hold. -/
def decodeValue (raw : String) (target : Target) : Except DecodeError Json :=
  match Json.parse raw with
  | .error fault => .error (.malformed fault)
  | .ok v =>
    match target with
    | .any => .ok v
    | .text => if v.isString then .ok v else .error (.wrongType "value" "string")
    | .textMap =>
      match v with
      | .object entries =>
        if entries.all (fun e => e.2.isString) then .ok v
        else .error (.wrongType "value" "map of strings")
      | _ => .error (.wrongType "value" "map of strings")

namespace Document

def applyPatch (d : Document) (position : Nat) (p : Patch) : Except Failure Document :=
  match FieldPath.parse p.fieldPath with
  | .error e => .error (.ofPatch .patchPath position (.path e))
  | .ok path =>
    match decodeValue p.value (FieldPath.target path) with
    | .error e => .error (.ofPatch .unmarshal position (.decode e))
    | .ok value =>
      match d.set path value with
      | (_, .error e) => .error (.ofPatch .patchPath position (.path e))
      | (d', .ok ()) =>
        match d'.validate with
        | .error e => .error (.ofPatch .unmarshal position (.decode e))
        | .ok () => .ok d'

/-- Applies patches, the first of which stands at `position` of the batch. -/
def applyPatchesFrom (position : Nat) : List Patch → Document → Except Failure Document
  | [], d => .ok d
  | p :: rest, d =>
    match d.applyPatch position p with
    | .error e => .error e
    | .ok d' => applyPatchesFrom (position + 1) rest d'

def applyPatches (patches : List Patch) (d : Document) : Except Failure Document :=
  applyPatchesFrom 0 patches d

/-- The document that a mutation sends: read from text, then patched. -/
def prepare (raw : String) (patches : List Patch) : Except Failure Document :=
  match parse raw with
  | .error e => .error (.of .unmarshal (.decode e))
  | .ok d => applyPatches patches d

end Document
end ClusterGraph
