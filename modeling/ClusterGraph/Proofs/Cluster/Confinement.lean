import ClusterGraph.Proofs.Cluster.Outgoing
import ClusterGraph.Proofs.Cluster.Segments

/-!
# Where the requests of a restricted client go

A client that is restricted to a namespace compares the namespace of a call with its own and puts
its own into the path. The group, the version, the plural and the name of the object come into the
path as they are. So a request stays where it should exactly if each of them makes one segment; a
slash or a question mark in one of them takes the request elsewhere, another namespace included.
-/
namespace ClusterGraph

/-! ## Calls -/

namespace ClusterCall

/-- What stands behind the path of the objects adds the name to the path, and nothing else. -/
theorem pathPart_ending (call : ClusterCall) :
    Target.pathPart call.ending.toList = Target.ending call.name? := by
  have slash (cs : List Char) : Target.pathPart ('/' :: cs) = '/' :: Target.pathPart cs :=
    Target.pathPart_append ['/'] cs (by simp)
  have marked (name : String) : Target.pathPart ("/" ++ name ++ "?").toList =
      '/' :: Target.pathPart name.toList := by
    have written : ("/" ++ name ++ "?").toList = ('/' :: name.toList) ++ '?' :: [] := by
      simp
    rw [written, Target.pathPart_query, slash]
  cases call with
  | list r => simp [ending, name?, Target.ending, Target.pathPart]
  | get r =>
    have written : ("/" ++ r.name).toList = '/' :: r.name.toList := by simp
    simp only [ending, name?, Target.ending, written, slash]
  | create d => simp [ending, name?, Target.ending, Target.pathPart]
  | update r d => exact marked r.name
  | delete r => exact marked r.name

end ClusterCall

namespace ClusterClient

/-- A restricted client has one namespace for all calls. -/
theorem nspaceFor_restricted (r : String) (requested nspace : Option String)
    (h : nspaceFor ⟨some r⟩ requested = .ok nspace) : nspace = some r := by
  unfold nspaceFor at h
  cases requested with
  | none =>
    cases h
    rfl
  | some n =>
    by_cases same : r = n
    · simp only [if_pos same] at h
      cases h
      rfl
    · simp only [if_neg same] at h
      cases h

theorem collection_restricted (r kind : String) (nspace : Option String)
    (found : ResourceType × Bool) (path : String)
    (h : collection ⟨some r⟩ kind nspace found = .ok path) : path = found.1.path (some r) := by
  obtain ⟨type, namespaced⟩ := found
  unfold collection at h
  cases namespaced with
  | false => cases h
  | true =>
    cases own : nspaceFor ⟨some r⟩ nspace with
    | error e =>
      rw [own] at h
      cases h
    | ok ns =>
      cases nspaceFor_restricted r nspace ns own
      rw [own] at h
      cases h
      rfl

end ClusterClient

namespace ClusterCall

theorem located_restricted (r : String) (server : Server) (k : KindName) (nspace : Option String)
    (path : String) (h : located ⟨some r⟩ server k nspace = .ok path) :
    ∃ t, ((Discovery.ask k).run server).1.toOption.map Prod.fst = some t ∧
      path = t.path (some r) := by
  unfold located at h
  cases outcome : ((Discovery.ask k).run server).1 with
  | error e =>
    rw [outcome] at h
    cases h
  | ok found =>
    rw [outcome] at h
    exact ⟨found.1, rfl, ClusterClient.collection_restricted r k.kind nspace found path h⟩

/-- A restricted client has one namespace for the objects of a resource type. -/
theorem place_restricted (call : ClusterCall) (r : String) (server : Server) (path : String)
    (h : call.place ⟨some r⟩ server = .ok path) :
    ∃ t, call.type? server = some t ∧ path = t.path (some r) := by
  cases call with
  | list q =>
    simp only [place] at h
    cases own : ClusterClient.nspaceFor ⟨some r⟩ q.nspace with
    | error e =>
      rw [own] at h
      cases h
    | ok ns =>
      cases ClusterClient.nspaceFor_restricted r q.nspace ns own
      rw [own] at h
      simp only [type?, lookup?]
      unfold listed at h
      cases named : q.plural with
      | some plural =>
        rw [named] at h
        cases h
        refine ⟨_, ?_, rfl⟩
        dsimp only
        rw [named, Option.map_some]
      | none =>
        rw [named] at h
        cases outcome : ((Discovery.ask ⟨q.group, q.version, q.kind⟩).run server).1 with
        | error e =>
          rw [outcome] at h
          cases h
        | ok found =>
          rw [outcome] at h
          cases h
          refine ⟨found.1, ?_, rfl⟩
          dsimp only
          rw [outcome]
          rfl
  | get q | create d | update q d | delete q => exact located_restricted r server _ _ path h

/-- A restricted client sends at most one request about objects, to the path of the resource type in
its own namespace. -/
theorem objectRequests_cases (call : ClusterCall) (r : String) (server : Server) :
    call.objectRequests ⟨some r⟩ server = [] ∨
      ∃ t method target body, call.type? server = some t ∧
        Target.sent? (t.path (some r) ++ call.ending) = some target ∧
          call.objectRequests ⟨some r⟩ server = [⟨method, target, body⟩] := by
  rw [objectRequests_eq]
  cases own : call.outgoing ⟨some r⟩ server with
  | error e => exact Or.inl rfl
  | ok q =>
    obtain ⟨path, text, target, placed, -, sent, rfl⟩ := (outgoing_eq_ok_iff _ server).mp own
    obtain ⟨t, known, rfl⟩ := call.place_restricted r server path placed
    exact Or.inr ⟨t, _, target, _, known, sent, rfl⟩

end ClusterCall

/-! ## Staying within a namespace -/

/-- The segments of the path of all objects of a resource type in a namespace. -/
def ResourceType.parts (t : ResourceType) (version nspace : String) : List String :=
  (if t.group = "" then ["api", version] else ["apis", t.group, version]) ++
    ["namespaces", nspace, t.plural]

theorem ResourceType.toList_path (t : ResourceType) (version nspace : String)
    (joined : t.apiVersion = joinApiVersion t.group version) :
    (t.path (some nspace)).toList = Target.slashed (t.parts version nspace) := by
  unfold path parts
  rw [joined]
  unfold joinApiVersion
  by_cases core : t.group = ""
  · simp [core, Target.slashed]
  · simp [core, Target.slashed]

namespace ClusterCall

/-- The path of a request has the segments of the resource type of the call in a namespace, and at
most one more. -/
def StaysWithin (call : ClusterCall) (nspace : String) (server : Server) (q : ServerRequest) :
    Prop :=
  ∃ t version rest, call.type? server = some t ∧ t.apiVersion = joinApiVersion t.group version ∧
    Target.segments q.target = "" :: t.parts version nspace ++ rest ∧ rest.length ≤ 1

/-- The group, the version and the plural of the resource type of a call, and the namespace, make
one segment each; and the name holds no slash before what ends a path. -/
def IsPlain (call : ClusterCall) (nspace : String) (server : Server) : Prop :=
  ∃ t version, call.type? server = some t ∧ t.apiVersion = joinApiVersion t.group version ∧
    (∀ p ∈ t.parts version nspace, Target.IsSegment p) ∧
      ∀ name, call.name? = some name → '/' ∉ Target.pathPart name.toList

/-- The requests of a restricted client about objects stay within its namespace exactly if there are
none, or the texts that come into the path are plain. -/
theorem staysWithin_iff (call : ClusterCall) (r : String) (server : Server) :
    (∀ q ∈ call.objectRequests ⟨some r⟩ server, call.StaysWithin r server q) ↔
      call.objectRequests ⟨some r⟩ server = [] ∨ call.IsPlain r server := by
  rcases call.objectRequests_cases r server with
    nothing | ⟨t, method, target, body, known, sent, one⟩
  · rw [nothing]
    exact ⟨fun _ => Or.inl rfl, fun _ _ member => nomatch member⟩
  · have one_of (version : String) (joined : t.apiVersion = joinApiVersion t.group version) :=
      Target.segments_eq_iff (t.parts version r) call.name? call.ending.toList
        (t.path (some r) ++ call.ending) target sent
        (by rw [String.toList_append, t.toList_path version r joined]) call.pathPart_ending
    rw [one]
    constructor
    · intro stays
      obtain ⟨t', version, rest, known', joined, split_target, short⟩ :=
        stays ⟨method, target, body⟩ List.mem_cons_self
      cases Option.some.inj (known.symm.trans known')
      obtain ⟨plain, name_plain⟩ := (one_of version joined).mp ⟨rest, split_target, short⟩
      exact Or.inr ⟨t, version, known, joined, plain, name_plain⟩
    · intro plain q member
      rcases plain with nothing | ⟨t', version, known', joined, plain, name_plain⟩
      · cases nothing
      · cases Option.some.inj (known.symm.trans known')
        cases List.mem_singleton.mp member
        obtain ⟨rest, split_target, short⟩ := (one_of version joined).mpr ⟨plain, name_plain⟩
        exact ⟨t, version, rest, known, joined, split_target, short⟩

/-- A list call whose version holds the rest of a path and the start of a query. -/
def crossing : ClusterCall :=
  .list
    ⟨"example.io", "v1/namespaces/team-b/widgets?", "Widget", "WidgetList", some "widgets", none⟩

/-- A client that is restricted to one namespace lists the objects of another one. -/
theorem crossing_leaves_namespace :
    (crossing.objectRequests ⟨some "team-a"⟩ Server.unreachable).map
        (fun q => Target.segments q.target) =
      [["", "apis", "example.io", "v1", "namespaces", "team-b", "widgets"]] ∧
    ¬ ∀ q ∈ crossing.objectRequests ⟨some "team-a"⟩ Server.unreachable,
      crossing.StaysWithin "team-a" Server.unreachable q := by
  have segments : (crossing.objectRequests ⟨some "team-a"⟩ Server.unreachable).map
      (fun q => Target.segments q.target) =
        [["", "apis", "example.io", "v1", "namespaces", "team-b", "widgets"]] := by
    decide +kernel
  refine ⟨segments, ?_⟩
  intro stays
  obtain ⟨q, member, split_q⟩ := List.mem_map.mp (segments ▸ List.mem_cons_self)
  obtain ⟨t, version, rest, known, _, split_target, _⟩ := stays q member
  cases known
  have both := split_q.symm.trans split_target
  simp [ResourceType.parts, ResourceType.ofPlural] at both

end ClusterCall
end ClusterGraph
