import ClusterGraph.Kind.Version

/-!
# Naming kinds and objects

A group and a version are joined into an `apiVersion`, `group/version`, or the version alone for
the empty group; splitting takes the last slash. A reference names one object, a descriptor a kind
with its versions, a list request all objects of a kind in a namespace or everywhere.
-/
namespace ClusterGraph

def joinApiVersion (group version : String) : String :=
  if group = "" then version else group ++ "/" ++ version

/-- Splits a list of characters at the last slash, if there is one. -/
def splitLastSlash (cs : List Char) : Option (List Char × List Char) :=
  match cs with
  | [] => none
  | c :: rest =>
    match splitLastSlash rest with
    | some (before, after) => some (c :: before, after)
    | none => if c = '/' then some ([], rest) else none

/-- The group and the version of an `apiVersion`; the group is empty if there is no slash. -/
def splitApiVersion (apiVersion : String) : String × String :=
  match splitLastSlash apiVersion.toList with
  | some (group, version) => (String.ofList group, String.ofList version)
  | none => ("", apiVersion)

structure Reference where
  apiVersion : String
  kind : String
  nspace : Option String
  name : String
  deriving DecidableEq, Repr

namespace Reference

def group (r : Reference) : String := (splitApiVersion r.apiVersion).1

def version (r : Reference) : String := (splitApiVersion r.apiVersion).2

def text (r : Reference) : String :=
  match r.nspace with
  | some ns => r.apiVersion ++ "/" ++ r.kind ++ " " ++ ns ++ "/" ++ r.name
  | none => r.apiVersion ++ "/" ++ r.kind ++ " " ++ r.name

/-- A reference as a caller gives it: an empty namespace counts as none. -/
def normalized (r : Reference) : Reference := { r with nspace := r.nspace.filter (· != "") }

end Reference

structure Descriptor where
  group : String
  kind : String
  listKind : Option String
  plural : Option String
  namespaced : Bool
  versions : List VersionDecl
  deriving DecidableEq, Repr

def Descriptor.apiVersion (d : Descriptor) (version : String) : String :=
  joinApiVersion d.group version

/-- A call for all objects of a kind. The name of the list type is carried along for records; the
request itself goes by the plural. -/
structure ListRequest where
  group : String
  version : String
  kind : String
  listKind : String
  plural : Option String
  nspace : Option String
  deriving DecidableEq, Repr

def ListRequest.apiVersion (r : ListRequest) : String := joinApiVersion r.group r.version

/-- The list call for a kind at a version. An empty namespace means all namespaces. -/
def Descriptor.listRequest (d : Descriptor) (version : String) (nspace : Option String) :
    ListRequest where
  group := d.group
  version := version
  kind := d.kind
  listKind := listKindName d.kind d.listKind
  plural := d.plural
  nspace := nspace.filter (· != "")

end ClusterGraph
