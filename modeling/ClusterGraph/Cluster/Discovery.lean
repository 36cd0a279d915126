import ClusterGraph.Cluster.Reply
import ClusterGraph.Cluster.Target
import ClusterGraph.Kind.Reference
import ClusterGraph.Typed.Read

/-!
# Discovery of resource types

An API server lists the resource types of a group and version. The type of a kind is the first of
that kind which is no part of another type. It tells the path under which objects of the kind are
found, and whether they live in namespaces.
-/
namespace ClusterGraph

structure KindName where
  group : String
  version : String
  kind : String
  deriving DecidableEq, Repr

namespace KindName

def ofApiVersion (apiVersion kind : String) : KindName :=
  let (group, version) := splitApiVersion apiVersion
  ⟨group, version, kind⟩

def apiVersion (k : KindName) : String := joinApiVersion k.group k.version

def shown (k : KindName) : String :=
  "GroupVersionKind \x7b group: " ++ Text.quoted k.group ++ ", version: " ++ Text.quoted k.version
    ++ ", kind: " ++ Text.quoted k.kind ++ " \x7d"

end KindName

structure ResourceType where
  group : String
  apiVersion : String
  plural : String
  deriving DecidableEq, Repr

namespace ResourceType

def ofPlural (k : KindName) (plural : String) : ResourceType := ⟨k.group, k.apiVersion, plural⟩

/-- The path of all objects, or of those of a namespace. -/
def path (t : ResourceType) (nspace : Option String) : String :=
  let root := if t.group = "" then "api" else "apis"
  let within := match nspace with
    | some ns => "namespaces/" ++ ns ++ "/"
    | none => ""
  "/" ++ root ++ "/" ++ t.apiVersion ++ "/" ++ within ++ t.plural

end ResourceType

namespace Discovery

private def textOf (v : Json) (key : String) : String := ((v.get? key).bind Json.string?).getD ""

def entries (list : Json) : List Json :=
  match list.get? "resources" with
  | some (.array items) => items
  | _ => []

/-- A resource type that is no part of another one. -/
def isWhole (v : Json) : Bool := !(textOf v "name").toList.contains '/'

/-- The group and the version of a list, joined anew: the group ends at the first slash. -/
def groupVersion (list : Json) : String × String :=
  let cs := (textOf list "groupVersion").toList
  match cs.dropWhile fun c => c ≠ '/' with
  | _ :: rest => (String.ofList (cs.takeWhile fun c => c ≠ '/'), String.ofList rest)
  | [] => ("", String.ofList cs)

/-- The resource type of a kind in a list, and whether its objects live in namespaces. The latter is
told by the first type of its name. -/
def find? (list : Json) (kind : String) : Option (ResourceType × Bool) := do
  let found ← (entries list).find? fun v => textOf v "kind" = kind && isWhole v
  let name := textOf found "name"
  let (group, version) := groupVersion list
  let namespaced := match (entries list).find? fun v => textOf v "name" = name with
    | some v =>
      match v.get? "namespaced" with
      | some (.bool b) => b
      | _ => false
    | none => false
  let ownGroup := ((found.get? "group").bind Json.string?).getD group
  return (⟨ownGroup, joinApiVersion group version, name⟩, namespaced)

def read? (body : String) : Option Json := do
  let entries ← Json.parseEntries? body
  (Shape.read (.record .resourceTypeList) (.object entries)).toOption

/-- The target that lists the resource types of a group and version. -/
def target (k : KindName) : String :=
  (if k.group = "" then "/api/" else "/apis/") ++ k.apiVersion

def ask (k : KindName) : Consultation (ResourceType × Bool) :=
  match Target.sent? (target k) with
  | none => .fail (.transport "HttpError: invalid uri character")
  | some target =>
    (ServerRequest.ask ⟨"GET", target, ""⟩ read?).next fun list =>
      match find? list k.kind with
      | some found => .done (.ok found)
      | none => .fail (.transport ("Error from discovery: Missing Kind: " ++ k.shown))

end Discovery
end ClusterGraph
