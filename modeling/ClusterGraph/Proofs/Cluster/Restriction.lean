import ClusterGraph.Proofs.Cluster.Refusal
import ClusterGraph.Proofs.Gateway.Connections
import ClusterGraph.Proofs.Store.Confinement

/-!
# One restriction, two clients

A client of a store and a client of an API server are restricted to a namespace by rules of their
own. A call that names another namespace is refused by both, and a call that names the namespace of
the client is refused by neither. A call that names none goes to the namespace of the client, on a
server always, on a store only if it is a list call: there the others are refused.
-/
namespace ClusterGraph

/-- The store with the objects of a namespace alone. -/
def Store.inside (s : Store) (nspace : String) : Store :=
  { s with objects := s.objects.filter fun d => d.nspace? = some nspace }

namespace RecordedCall

def onCluster : RecordedCall → ClusterCall
  | list request => .list request
  | get r => .get r
  | create d => .create d
  | update r d => .update r d
  | delete r => .delete r

/-- A store answers the call with status 403. -/
def IsForbidden (restriction : Option String) (s : Store) (call : RecordedCall) : Prop :=
  ∃ reason message, (call.served restriction s).1 = .error (.status 403 reason message)

/-- A call acts on a namespace: the objects there decide what it is answered, and the others are
kept. None comes to those, and none of those is given back, unless the call is an update that sends
a document of another namespace. -/
structure ActsOn (nspace : String) (restriction : Option String) (s : Store)
    (call : RecordedCall) : Prop where
  answer : (call.served restriction (s.inside nspace)).1 = (call.served restriction s).1
  kept : (s.outside nspace).Sublist ((call.served restriction s).2.outside nspace)
  inside : ¬ call.SendsOutside nspace s →
    (∀ items, (call.served restriction s).1 = .ok items → ∀ d ∈ items, d.nspace? = some nspace) ∧
      (call.served restriction s).2.outside nspace = s.outside nspace

end RecordedCall

/-- A client answers the call with status 403 without having asked the server for its objects. -/
def ClusterCall.IsForbidden (c : ClusterClient) (server : Server) (call : ClusterCall) : Prop :=
  (∃ reason message, call.answer c server = .error (.status 403 reason message)) ∧
    call.objectRequests c server = []

/-! ## Clients of a store -/

namespace Store
variable {s : Store} {restriction : Option String}

theorem checkNamespace_eq_ok_iff {nspace : Option String} :
    checkNamespace restriction nspace = .ok () ↔ ∀ r, restriction = some r → nspace = some r := by
  cases restriction with
  | none => exact ⟨fun _ => nofun, fun _ => rfl⟩
  | some r =>
    rw [checkNamespace_ok_iff]
    exact ⟨fun own r' same => Option.some.inj same ▸ own, fun own => own r rfl⟩

theorem forbidden_of_checkNamespace {nspace : Option String} {e : BackendError}
    (refused : checkNamespace restriction nspace = .error e) :
    ∃ message, e = .forbidden message := by
  unfold checkNamespace at refused
  split at refused
  · cases refused
  · split at refused
    · cases refused
    · cases refused
      exact ⟨_, rfl⟩

/-- An object stands in the way of one that is to be created under a name. -/
def isTaken (s : Store) (d : Document) (name : String) : Bool :=
  s.objects.any fun o =>
    o.apiVersion = d.apiVersion && o.kind = d.kind && o.nspace? = d.nspace? && o.name? = some name

/-- A creation that is permitted is a matter of what stands in its way. -/
theorem fst_create {d : Document} (permitted : checkNamespace restriction d.nspace? = .ok ()) :
    (s.create restriction d).1 =
      if s.isTaken (named d (s.sequence + 1)).2 (named d (s.sequence + 1)).1 then
        .error (.status 409 "AlreadyExists" ((named d (s.sequence + 1)).1 ++ " already exists"))
      else .ok (stamped (named d (s.sequence + 1)).2 (s.sequence + 1)) := by
  unfold create isTaken
  rw [permitted]
  dsimp only
  split <;> rfl

/-- An update that is permitted is a matter of the object that the reference names. -/
theorem fst_update {r : Reference} (permitted : checkNamespace restriction r.nspace = .ok ())
    (d : Document) :
    (s.update restriction r d).1 =
      match s.objects.find? (·.isNamedBy r) with
      | some previous => .ok (replacing d previous (s.sequence + 1))
      | none => .error (.notFound r.text) := by
  unfold update
  rw [permitted]
  dsimp only
  cases found : s.objects.findIdx? (·.isNamedBy r) with
  | none =>
    have absent : s.objects.find? (·.isNamedBy r) = none := by
      rw [List.find?_eq_none]
      intro o member
      simpa using List.findIdx?_eq_none_iff.mp found o member
    rw [absent]
  | some i =>
    obtain ⟨inside, named, first⟩ := List.findIdx?_eq_some_iff_getElem.mp found
    have here : s.objects.find? (·.isNamedBy r) = some s.objects[i] :=
      List.find?_eq_some_iff_getElem.mpr ⟨named, i, inside, rfl, fun j before => by
        simpa using first j before⟩
    rw [here]
    simp only [List.getElem?_eq_getElem inside, Option.getD_some]

/-- A deletion that is permitted is a matter of what the reference names. -/
theorem fst_delete {r : Reference} (permitted : checkNamespace restriction r.nspace = .ok ()) :
    (s.delete restriction r).1 =
      match s.objects.find? (·.isNamedBy r) with
      | some _ => .ok ()
      | none => .error (.notFound r.text) := by
  cases found : s.objects.find? (·.isNamedBy r) with
  | some o =>
    have named : o.isNamedBy r = true :=
      List.find?_some (p := fun d : Document => d.isNamedBy r) found
    obtain ⟨after, success⟩ := delete_of_named permitted
      ⟨o, List.mem_of_find?_eq_some found, named⟩
    rw [success]
  | none =>
    have all : (s.objects.filter fun d => !d.isNamedBy r).length = s.objects.length := by
      rw [List.length_filter_eq_length_iff]
      intro o member
      simpa using List.find?_eq_none.mp found o member
    unfold delete
    rw [permitted]
    dsimp only
    rw [if_pos all]

/-- What a reference names lies in the namespace of the reference. -/
theorem find?_inside {r : Reference} {nspace : String} (own : r.nspace = some nspace) :
    (s.inside nspace).objects.find? (·.isNamedBy r) = s.objects.find? (·.isNamedBy r) := by
  unfold inside
  rw [List.find?_filter]
  congr 1
  funext o
  cases named : o.isNamedBy r with
  | false => simp
  | true => simp [Document.nspace?_of_isNamedBy named, own]

/-- A document that is given a name keeps its namespace. -/
theorem nspace?_named (d : Document) (sequence : Nat) :
    (named d sequence).2.nspace? = d.nspace? := by
  unfold Document.nspace? Document.metaText?
  rw [metadata?_named_of_ne d sequence (by decide)]

/-- An object that stands in the way of another one lies in its namespace. -/
theorem isTaken_inside {d : Document} {nspace : String} (own : d.nspace? = some nspace)
    (name : String) : (s.inside nspace).isTaken d name = s.isTaken d name := by
  unfold isTaken inside
  rw [own, List.any_filter]
  congr 1
  funext o
  cases decide (o.nspace? = some nspace) <;> simp

end Store

namespace RecordedCall
variable {s : Store} {restriction : Option String} {call : RecordedCall}

/-- The namespace whose objects a store is asked for. -/
def reach (restriction : Option String) : RecordedCall → Option String
  | list request => Store.listNamespace restriction request
  | get r => r.nspace
  | create d => d.nspace?
  | update r _ => r.nspace
  | delete r => r.nspace

/-- A call that is permitted may fail, but not for lack of permission. -/
theorem not_isForbidden_of_permitted
    (permitted : Store.checkNamespace restriction (call.reach restriction) = .ok ()) :
    ¬ call.IsForbidden restriction s := by
  rintro ⟨reason, message, forbidden⟩
  cases call with
  | list request =>
    simp only [reach] at permitted
    simp only [served, Store.list, permitted] at forbidden
    cases forbidden
  | get r =>
    simp only [reach] at permitted
    simp only [served, Store.get, permitted] at forbidden
    cases found : s.objects.find? (·.isNamedBy r) <;> rw [found] at forbidden <;> cases forbidden
  | create d =>
    simp only [served, Store.fst_create permitted] at forbidden
    split at forbidden <;> cases forbidden
  | update r d =>
    simp only [served, Store.fst_update permitted] at forbidden
    split at forbidden <;> cases forbidden
  | delete r =>
    simp only [served, Store.fst_delete permitted] at forbidden
    split at forbidden <;> cases forbidden

theorem isForbidden_of_refused {e : BackendError}
    (refused : Store.checkNamespace restriction (call.reach restriction) = .error e) :
    call.IsForbidden restriction s := by
  obtain ⟨message, rfl⟩ := Store.forbidden_of_checkNamespace refused
  refine ⟨"Forbidden", message, ?_⟩
  cases call with
  | list request =>
    simp only [reach] at refused
    simp only [served, Store.list, refused]
    rfl
  | get r | create d | update r d | delete r =>
    simp only [reach] at refused
    simp only [served, Store.get, Store.create, Store.update, Store.delete, refused]
    rfl

theorem isForbidden_iff_checkNamespace :
    call.IsForbidden restriction s ↔
      Store.checkNamespace restriction (call.reach restriction) ≠ .ok () := by
  constructor
  · intro forbidden permitted
    exact not_isForbidden_of_permitted permitted forbidden
  · intro refused
    cases outcome : Store.checkNamespace restriction (call.reach restriction) with
    | ok u => exact absurd outcome refused
    | error e => exact isForbidden_of_refused outcome

/-- A call that is permitted is about the objects of the namespace of the client, or else of its
own. -/
theorem reach_of_permitted
    (permitted : Store.checkNamespace restriction (call.reach restriction) = .ok ()) :
    call.reach restriction = restriction.or call.onCluster.nspace? := by
  cases restriction with
  | some r => exact Store.checkNamespace_eq_ok_iff.mp permitted r rfl
  | none => cases call <;> rfl

theorem reach_own {n : String} (reached : call.reach restriction = some n) :
    call.reach (some n) = some n := by
  cases call with
  | list request =>
    simp only [reach, Store.listNamespace_eq] at reached ⊢
    cases asked : request.nspace with
    | none => rfl
    | some m =>
      rw [asked] at reached
      exact reached
  | get r | create d | update r d | delete r => exact reached

/-- A call that is permitted is served as if the client were restricted to its namespace. -/
theorem served_eq {n : String} (reached : call.reach restriction = some n)
    (permitted : Store.checkNamespace restriction (some n) = .ok ()) (s : Store) :
    call.served restriction s = call.served (some n) s := by
  have own : Store.checkNamespace (some n) (some n) = .ok () :=
    (Store.checkNamespace_ok_iff n (some n)).mpr rfl
  have same := reach_own reached
  cases call with
  | list request =>
    simp only [reach] at reached same
    simp only [served, Store.list, reached, same, permitted, own]
  | get r | create d | update r d | delete r =>
    simp only [reach] at reached
    simp only [served, Store.get, Store.create, Store.update, Store.delete, reached, permitted, own]

/-- The objects of the namespace of a client alone decide what its calls are answered. -/
theorem answer_inside {n : String} (reached : call.reach (some n) = some n) :
    (call.served (some n) (s.inside n)).1 = (call.served (some n) s).1 := by
  cases call with
  | list request =>
    have own : Store.checkNamespace (some n) (some n) = .ok () :=
      (Store.checkNamespace_ok_iff n (some n)).mpr rfl
    simp only [reach] at reached
    simp only [served, Store.list, reached, own, Store.inside, List.filter_filter]
    refine congrArg Except.ok (List.filter_congr fun d _ => ?_)
    simp [Bool.and_assoc]
  | get r => simp only [served, Store.get, Store.find?_inside reached]
  | create d =>
    have permitted := (Store.checkNamespace_ok_iff n d.nspace?).mpr reached
    have sent : (Store.named d (s.sequence + 1)).2.nspace? = some n :=
      (Store.nspace?_named d (s.sequence + 1)).trans reached
    simp only [served, Store.fst_create permitted]
    rw [← Store.isTaken_inside sent]
    rfl
  | update r d =>
    have permitted := (Store.checkNamespace_ok_iff n r.nspace).mpr reached
    simp only [served, Store.fst_update permitted, Store.find?_inside reached]
    rfl
  | delete r =>
    have permitted := (Store.checkNamespace_ok_iff n r.nspace).mpr reached
    simp only [served, Store.fst_delete permitted, Store.find?_inside reached]

/-- A call of a restricted client that is permitted acts on the namespace of the client. -/
theorem actsOn_own {n : String} (reached : call.reach (some n) = some n) :
    call.ActsOn n (some n) s := by
  refine ⟨answer_inside reached, ?_, served_inside call⟩
  by_cases sends : call.SendsOutside n s
  · exact (served_outside call sends).1
  · rw [(served_inside call sends).2]

theorem actsOn_of_permitted {n : String} (reached : call.reach restriction = some n)
    (permitted : Store.checkNamespace restriction (some n) = .ok ()) :
    call.ActsOn n restriction s := by
  have own := actsOn_own (s := s) (reach_own reached)
  have same := served_eq reached permitted
  refine ⟨?_, ?_, ?_⟩
  · rw [same, same]
    exact own.answer
  · rw [same]
    exact own.kept
  · rw [same]
    exact own.inside

end RecordedCall

/-! ## Clients of an API server -/

namespace ClusterCall
variable {restriction : Option String} {server : Server} {call : ClusterCall} {type : ResourceType}

theorem eq_kindName_of_lookup? {k : KindName} (looked : call.lookup? = some k) :
    k = call.kindName := by
  cases call with
  | list q =>
    simp only [lookup?] at looked
    split at looked
    · cases looked
    · exact (Option.some.inj looked).symm
  | get q | create d | update q d | delete q => exact (Option.some.inj looked).symm

/-- A document that cannot be written down is no matter of permission. -/
theorem transport_of_body {e : BackendError} (unwritten : call.body = .error e) :
    ∃ message, e = .transport message := by
  have of_document {d : Document} (unwritten : Wire.body d = .error e) :
      ∃ message, e = .transport message := by
    unfold Wire.body at unwritten
    split at unwritten
    · cases unwritten
    · cases unwritten
      exact ⟨_, rfl⟩
  cases call with
  | create d | update q d => exact of_document unwritten
  | list q | get q | delete q => cases unwritten

/-- Where the kind is found to be namespaced, status 403 is the answer to another namespace. -/
theorem Refused.astray {e : BackendError} {reason message : String}
    (refused : Refused ⟨restriction⟩ server call e)
    (found : ((Discovery.ask call.kindName).run server).1 = .ok (type, true))
    (forbidden : e = .status 403 reason message) : Astray call.nspace? restriction := by
  cases refused with
  | listElsewhere all own asked other => exact ⟨_, _, asked, own, other.symm⟩
  | objectElsewhere single found own asked other => exact ⟨_, _, asked, own, other.symm⟩
  | undiscovered begun looked failed =>
    cases eq_kindName_of_lookup? looked
    cases failed.symm.trans found
  | homeless => cases forbidden
  | clusterWide single other own => cases other.symm.trans found
  | unencodable placed unwritten =>
    obtain ⟨_, rfl⟩ := transport_of_body unwritten
    cases forbidden

/-- A client refuses a call for a namespaced kind exactly if it names another namespace. -/
theorem isForbidden_iff_astray
    (found : ((Discovery.ask call.kindName).run server).1 = .ok (type, true)) :
    call.IsForbidden ⟨restriction⟩ server ↔ Astray call.nspace? restriction := by
  constructor
  · rintro ⟨⟨reason, message, forbidden⟩, silent⟩
    cases own : call.outgoing ⟨restriction⟩ server with
    | ok q =>
      rw [objectRequests_eq, own] at silent
      cases silent
    | error e =>
      cases forbidden.symm.trans (answer_of_unsent own).1
      rcases outgoing_eq_error_iff.mp own with refused | ⟨unsent, -⟩
      · exact refused.astray found rfl
      · cases unsent
  · rintro ⟨n, r, asked, own, different⟩
    have refused : Refused ⟨restriction⟩ server call (ClusterClient.elsewhere r n) := by
      cases single : call.isList with
      | true => exact .listElsewhere single own asked different.symm
      | false => exact .objectElsewhere single found own asked different.symm
    obtain ⟨answer, silent⟩ := answer_of_unsent refused.outgoing_eq
    exact ⟨⟨_, _, answer⟩, silent⟩

theorem nspaceFor_of_not_astray {asked : Option String} (inside : ¬ Astray asked restriction) :
    ClusterClient.nspaceFor ⟨restriction⟩ asked = .ok (restriction.or asked) := by
  refine ClusterClient.nspaceFor_eq_ok_iff.mpr ⟨rfl, fun r n limit named => ?_⟩
  by_contra different
  exact inside ⟨n, r, named, limit, fun same => different same.symm⟩

theorem type?_of_single (single : call.isList = false)
    (found : ((Discovery.ask call.kindName).run server).1 = .ok (type, true)) :
    call.type? server = some type := by
  unfold type?
  rw [lookup?_of_single single]
  dsimp only
  rw [found]
  rfl

/-- A call for a namespaced kind that is not refused is about the objects of one namespace, or a
list call for all. -/
theorem place_of_not_astray
    (found : ((Discovery.ask call.kindName).run server).1 = .ok (type, true))
    (inside : ¬ Astray call.nspace? restriction)
    (known : call.isList = true ∨ restriction.or call.nspace? ≠ none) :
    ∃ t, call.type? server = some t ∧
      call.place ⟨restriction⟩ server = .ok (t.path (restriction.or call.nspace?)) := by
  have own := nspaceFor_of_not_astray inside
  cases single : call.isList with
  | true =>
    cases call with
    | list q =>
      simp only [nspace?] at own
      simp only [type?, lookup?, place, listed, own]
      cases named : q.plural with
      | some plural => exact ⟨_, by simp only [named, Option.map_some], rfl⟩
      | none =>
        simp only [kindName] at found
        simp only [found]
        exact ⟨type, rfl, rfl⟩
    | get q | create d | update q d | delete q => cases single
  | false =>
    refine ⟨type, type?_of_single single found, ?_⟩
    rw [place_of_found single found]
    unfold ClusterClient.collection
    rw [own]
    cases aim : restriction.or call.nspace? with
    | some n => rfl
    | none =>
      rw [single] at known
      exact absurd aim (known.resolve_left Bool.false_ne_true)

/-- A call whose path is known is sent there, unless its document or its target cannot be. -/
theorem objectRequests_of_place {c : ClusterClient} {path : String}
    (placed : call.place c server = .ok path) :
    (∃ q, call.objectRequests c server = [q] ∧
        Target.sent? (path ++ call.ending) = some q.target) ∨
      call.objectRequests c server = [] ∧
        ((∃ e, call.body = .error e) ∨ Target.sent? (path ++ call.ending) = none) := by
  rw [objectRequests_eq]
  cases written : call.body with
  | error e =>
    rw [(Refused.unencodable placed written).outgoing_eq]
    exact Or.inr ⟨rfl, Or.inl ⟨e, rfl⟩⟩
  | ok text =>
    rw [outgoing_of_written c server placed written]
    cases addressee : Target.sent? (path ++ call.ending) with
    | some target => exact Or.inl ⟨⟨call.method, target, text⟩, rfl, rfl⟩
    | none => exact Or.inr ⟨rfl, Or.inr rfl⟩

end ClusterCall

/-! ## Both clients -/

namespace RecordedCall
variable {s : Store} {restriction : Option String} {call : RecordedCall}

/-- A store refuses a call that names another namespace, and a call on one object that names none
though the client is restricted. -/
theorem isForbidden_iff :
    call.IsForbidden restriction s ↔
      Astray call.onCluster.nspace? restriction ∨
        call.onCluster.isList = false ∧ call.onCluster.nspace? = none ∧ restriction ≠ none := by
  rw [isForbidden_iff_checkNamespace, ne_eq, Store.checkNamespace_eq_ok_iff]
  have reached : call.reach restriction =
      if call.onCluster.isList then call.onCluster.nspace?.or restriction
      else call.onCluster.nspace? := by
    cases call with
    | list request => exact Store.listNamespace_eq request
    | get r | create d | update r d | delete r => rfl
  rw [reached]
  unfold Astray
  cases restriction with
  | none => simp
  | some limit =>
    cases call.onCluster.isList <;> cases call.onCluster.nspace? <;> simp

/-- Where the kind is namespaced and a namespace is known, the client of a store refuses what the
client of a server refuses, and besides every call on one object that names no namespace though the
client is restricted. A call that is not refused is about the objects of the same namespace for
both: that of the client, or else the one that the call names. Without either, it is a list call for
all. A server is sent one request about them, if its document and its target can be sent. -/
theorem restricted_alike_unless_unnamed (restriction : Option String) (server : Server)
    (s : Store) (call : RecordedCall) (type : ResourceType)
    (found : ((Discovery.ask call.onCluster.kindName).run server).1 = .ok (type, true))
    (known : call.onCluster.isList = true ∨ restriction.or call.onCluster.nspace? ≠ none) :
    let aim := restriction.or call.onCluster.nspace?
    (call.onCluster.IsForbidden ⟨restriction⟩ server ↔ Astray call.onCluster.nspace? restriction) ∧
      (call.IsForbidden restriction s ↔
        call.onCluster.IsForbidden ⟨restriction⟩ server ∨
          call.onCluster.isList = false ∧ call.onCluster.nspace? = none ∧ restriction ≠ none) ∧
      (¬ call.onCluster.IsForbidden ⟨restriction⟩ server →
        ∃ t, call.onCluster.type? server = some t ∧
          ((∃ q, call.onCluster.objectRequests ⟨restriction⟩ server = [q] ∧
              Target.sent? (t.path aim ++ call.onCluster.ending) = some q.target) ∨
            call.onCluster.objectRequests ⟨restriction⟩ server = [] ∧
              ((∃ e, call.onCluster.body = .error e) ∨
                Target.sent? (t.path aim ++ call.onCluster.ending) = none))) ∧
      (¬ call.IsForbidden restriction s →
        match aim with
        | some n => call.ActsOn n restriction s
        | none => ∃ q, call = .list q ∧
            (call.served restriction s).1 = .ok (s.ofKind q.apiVersion q.kind none)) := by
  intro aim
  have refused : call.onCluster.IsForbidden ⟨restriction⟩ server ↔
      Astray call.onCluster.nspace? restriction := ClusterCall.isForbidden_iff_astray found
  refine ⟨refused, ?_, fun allowed => ?_, fun allowed => ?_⟩
  · rw [refused]
    exact isForbidden_iff
  · rw [refused] at allowed
    obtain ⟨t, typed, placed⟩ := ClusterCall.place_of_not_astray found allowed known
    exact ⟨t, typed, ClusterCall.objectRequests_of_place placed⟩
  · have permitted : Store.checkNamespace restriction (call.reach restriction) = .ok () := by
      by_contra other
      exact allowed (isForbidden_iff_checkNamespace.mpr other)
    have reached : call.reach restriction = aim := reach_of_permitted permitted
    rw [reached] at permitted
    cases known_aim : aim with
    | some n =>
      rw [known_aim] at reached permitted
      exact actsOn_of_permitted reached permitted
    | none =>
      obtain ⟨free, unasked⟩ := Option.or_eq_none_iff.mp known_aim
      have all : call.onCluster.isList = true := known.resolve_right fun other => other known_aim
      cases call with
      | list q =>
        cases free
        refine ⟨q, rfl, ?_⟩
        change q.nspace = none at unasked
        have inside : ¬ Astray q.nspace none := fun ⟨_, _, _, own, _⟩ => nomatch own
        have listed := Store.list_of_not_astray q inside s
        rw [unasked] at listed
        exact listed
      | get r | create d | update r d | delete r => cases all

def removal : RecordedCall := .delete ⟨"example.io/v1", "Widget", some "team-a", "w"⟩

theorem restricted_alike_unless_unnamed_of_removal :
    ((Discovery.ask removal.onCluster.kindName).run Server.ofWidgets).1 =
        .ok (⟨"example.io", "example.io/v1", "widgets"⟩, true) ∧
      (some "team-a").or removal.onCluster.nspace? ≠ none ∧
      ¬ removal.onCluster.IsForbidden ⟨some "team-a"⟩ Server.ofWidgets ∧
      ¬ removal.IsForbidden (some "team-a") oneWidget.backend ∧
      removal.ActsOn "team-a" (some "team-a") oneWidget.backend := by
  have kind : removal.onCluster.kindName = ⟨"example.io", "v1", "Widget"⟩ := by decide
  have found := Discovery.run_ask_ofWidgets
  rw [← kind] at found
  have known : (some "team-a").or removal.onCluster.nspace? ≠ none := by decide
  obtain ⟨refused, alike, -, acts⟩ := restricted_alike_unless_unnamed (some "team-a")
    Server.ofWidgets oneWidget.backend removal ⟨"example.io", "example.io/v1", "widgets"⟩ found
    (Or.inr known)
  have allowed : ¬ removal.onCluster.IsForbidden ⟨some "team-a"⟩ Server.ofWidgets := by
    rw [refused]
    rintro ⟨_, _, ⟨⟩, ⟨⟩, different⟩
    exact different rfl
  have permitted : ¬ removal.IsForbidden (some "team-a") oneWidget.backend := by
    rw [alike]
    rintro (forbidden | ⟨-, unasked, -⟩)
    · exact allowed forbidden
    · cases unasked
  exact ⟨found, known, allowed, permitted, acts permitted⟩

/-- A widget that is asked for without a namespace. -/
def unnamed : RecordedCall := .get ⟨"example.io/v1", "Widget", none, "w"⟩

/-- The widget of the namespace is asked for by a client that is restricted to it. A store refuses
the call, and a client of a server sends it to the namespace. -/
theorem unnamed_refused_by_store_alone :
    ((Discovery.ask unnamed.onCluster.kindName).run Server.ofWidgets).1 =
        .ok (⟨"example.io", "example.io/v1", "widgets"⟩, true) ∧
      unnamed.IsForbidden (some "team-a") oneWidget.backend ∧
      ¬ unnamed.onCluster.IsForbidden ⟨some "team-a"⟩ Server.ofWidgets ∧
      (unnamed.onCluster.objectRequests ⟨some "team-a"⟩ Server.ofWidgets).map ServerRequest.target =
        ["/apis/example.io/v1/namespaces/team-a/widgets/w"] := by
  have kind : unnamed.onCluster.kindName = ⟨"example.io", "v1", "Widget"⟩ := by decide
  have found := Discovery.run_ask_ofWidgets
  rw [← kind] at found
  refine ⟨found, ⟨_, _, rfl⟩, ?_, by decide +kernel⟩
  rw [ClusterCall.isForbidden_iff_astray found]
  rintro ⟨_, _, asked, -⟩
  cases asked

end RecordedCall
end ClusterGraph
