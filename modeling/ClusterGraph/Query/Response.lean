import ClusterGraph.Json.Basic
import ClusterGraph.Query.Basic

/-!
# Responses

What a caller gets back: the data, and errors that point at positions of the query and at the place
in the data that they concern. Parts of an error that are empty are not written.
-/
namespace ClusterGraph.Query

inductive PathStep where
  | key (name : String)
  | index (i : Nat)
  deriving DecidableEq, Repr

def PathStep.json : PathStep → Json
  | key name => .string name
  | index i => .ofNat i

/-- An error in a response. -/
structure ResponseError where
  message : String
  locations : List Position
  path : List PathStep
  extensions : Entries Json
  deriving Repr

namespace ResponseError

def ofQuery (message : String) (locations : List Position) : ResponseError :=
  ⟨message, locations, [], []⟩

def json (e : ResponseError) : Json :=
  let position (p : Position) : Json :=
    .object [("line", .ofNat p.line), ("column", .ofNat p.column)]
  .object (("message", .string e.message)
    :: (if e.locations.isEmpty then [] else [("locations", .array (e.locations.map position))])
    ++ (if e.path.isEmpty then [] else [("path", .array (e.path.map PathStep.json))])
    ++ (if e.extensions.isEmpty then [] else [("extensions", .object e.extensions)]))

end ResponseError

structure Response where
  data : Json
  errors : List ResponseError
  deriving Repr

def Response.ofErrors (errors : List ResponseError) : Response := ⟨.null, errors⟩

def Response.json (r : Response) : Json :=
  .object (("data", r.data)
    :: (if r.errors.isEmpty then [] else [("errors", .array (r.errors.map ResponseError.json))]))

end ClusterGraph.Query
