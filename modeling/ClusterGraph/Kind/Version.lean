/-!
# Versions and list kinds

A kind declares versions. A read that names no version goes to the first declared one that other
objects should refer to, else to the first served one.
-/
namespace ClusterGraph

structure VersionDecl where
  name : String
  served : Bool
  /-- Other objects refer to this version by default. -/
  referenceable : Bool
  deriving DecidableEq, Repr

/-- The version that a read goes to: the first referenceable one in the order of declaration, else
the first served one, else the empty name, with which the call that follows fails. -/
def pickVersion (versions : List VersionDecl) : String :=
  match versions.find? (·.referenceable) with
  | some v => v.name
  | none =>
    match versions.find? (·.served) with
    | some v => v.name
    | none => ""

/-- A version that the caller names is used as it is, declared or not. -/
def resolveVersion (explicit : Option String) (versions : List VersionDecl) : String :=
  match explicit with
  | some v => v
  | none => pickVersion versions

/-- The name of the list type of a kind: the declared one unless that is empty, else the kind with
`List` after it. -/
def listKindName (kind : String) (declared : Option String) : String :=
  match declared with
  | some name => if name = "" then kind ++ "List" else name
  | none => kind ++ "List"

end ClusterGraph
