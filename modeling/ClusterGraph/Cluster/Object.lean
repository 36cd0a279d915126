import ClusterGraph.Document.Basic
import ClusterGraph.Typed.Read

/-!
# Objects on the wire

How objects of any kind are read from an API server and written to it. The metadata is checked field
by field; everything else is kept as it is. The type fields stand in front if both are well formed;
if not, those that were looked at before this came out are lost.
-/
namespace ClusterGraph.Wire

/-- The type fields among entries, if both are given, once each and as texts; and the entries that
are left. `apiVersion` and `kind` are those found so far. -/
def takeTypes (apiVersion kind : Option String) :
    List (String × Json) → Option (String × String) × List (String × Json)
  | [] =>
    (match apiVersion, kind with
      | some a, some k => (some (a, k), [])
      | _, _ => (none, []))
  | (key, v) :: rest =>
    if key = "apiVersion" then
      match apiVersion, v with
      | none, .string s => takeTypes (some s) kind rest
      | _, _ => (none, rest)
    else if key = "kind" then
      match kind, v with
      | none, .string s => takeTypes apiVersion (some s) rest
      | _, _ => (none, rest)
    else
      let (types, left) := takeTypes apiVersion kind rest
      (types, (key, v) :: left)

def metadata (entries : List (String × Json)) : Except String Json :=
  match entries.filter fun e => e.1 = "metadata" with
  | [] => .ok (.object [])
  | [(_, .null)] => .error (Json.null.unexpected RecordType.objectMeta.title)
  | [(_, v)] => Shape.read (.record .objectMeta) v
  | _ => .error "duplicate field `metadata`"

/-- The entries of an object as they are written: the type fields, the metadata, and the others in
order. -/
def object (entries : List (String × Json)) : Except String (Entries Json) := do
  let md ← metadata entries
  let (types, rest) := takeTypes none none (entries.filter fun e => e.1 ≠ "metadata")
  let front := match types with
    | some (a, k) => [("apiVersion", Json.string a), ("kind", Json.string k)]
    | none => []
  return front ++ ("metadata", md) :: Entries.collect rest

def body (d : Document) : Except BackendError String :=
  match object d.entries with
  | .ok entries => .ok (Json.object entries).compact
  | .error text => .error (.transport ("encoding object: " ++ text))

def read? (body : String) : Option (Entries Json) := do
  (object (← Json.parseEntries? body)).toOption

def readList? (body : String) : Option (List (Entries Json)) := do
  let entries ← Json.parseEntries? body
  match entries.filter fun e => e.1 = "metadata", entries.filter fun e => e.1 = "items" with
  | [(_, md)], [(_, items)] =>
    guard md.isObject
    let _ ← (Shape.read (.record .listMeta) md).toOption
    match items with
    | .null => return []
    | .array vs =>
      vs.mapM fun
        | .object es => (object es).toOption
        | _ => none
    | _ => none
  | _, _ => none

/-- The document of an object. Type fields that it lacks are those of the kind asked for. -/
def document (apiVersion kind : String) (entries : Entries Json) : Except BackendError Document :=
  (Document.withDefaultTypes (.object entries) apiVersion kind).mapError fun e =>
    .transport ("decoding object: " ++ e.message)

/-- A body answers a deletion: it holds a status, or the object that was deleted. -/
def answersDeletion (body : String) : Option Unit := do
  let v ← (Json.parse body).toOption
  if (v.get? "kind").bind Json.string? = some "Status" then return ()
  else
    let _ ← read? body
    return ()

end ClusterGraph.Wire
