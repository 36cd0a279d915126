import ClusterGraph.Failure

/-!
# Layouts of stored records

How the records of this library are stored as JSON: which fields, in which order, of which types.
-/
namespace ClusterGraph

/-- The type of a stored value. -/
inductive Layout where
  | text
  | boolean
  | count
  | stage
  | optional (layout : Layout)
  | list (item : Layout)
  | record (name : String) (fields : List (String × Layout))
  deriving Repr

namespace Layout

def isOptional : Layout → Bool
  | optional _ => true
  | _ => false

def versionDecl : Layout :=
  record "VersionDecl" [("name", text), ("served", boolean), ("referenceable", boolean)]

def descriptor : Layout :=
  record "ResourceKindDescriptor"
    [("group", text), ("kind", text), ("list_kind", optional text), ("plural", optional text),
     ("namespaced", boolean), ("versions", list versionDecl)]

def reference : Layout :=
  record "ResourceReference"
    [("api_version", text), ("kind", text), ("namespace", optional text), ("name", text)]

def patch : Layout := record "Patch" [("field_path", text), ("value", text)]

def scope : Layout := record "ClientOptions" [("namespace", optional text)]

def listRequest : Layout :=
  record "ListRequest"
    [("group", text), ("version", text), ("kind", text), ("list_kind", text),
     ("plural", optional text), ("namespace", optional text)]

def connection (node : Layout) : Layout :=
  record "Connection" [("nodes", list node), ("total_count", count)]

end Layout
end ClusterGraph
