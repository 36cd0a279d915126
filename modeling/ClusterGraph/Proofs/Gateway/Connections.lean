import Mathlib.Data.List.Forall2
import Mathlib.Data.List.Perm.Basic
import ClusterGraph.Proofs.Gateway.Coherence
import ClusterGraph.Proofs.Resource.Order

/-!
# Connections of resources

A caller who asks for the objects of a kind gets those of one version and one namespace, the
namespace being the one that is asked for, else that of the restriction. Whoever asks for another
namespace than that of the restriction is refused; if an object has no name, the whole call fails;
else all objects are there as resources, in order (`Gateway.connection_of_resources`). If no two of
them have the same key, the order in which the store keeps its objects does not show.
-/
namespace ClusterGraph

/-! ## What a store lists -/

/-- A namespace is asked for, and it is not the one of the restriction. -/
def Astray (asked restriction : Option String) : Prop :=
  ∃ ns limit, asked = some ns ∧ restriction = some limit ∧ ns ≠ limit

namespace Store

/-- The objects of a kind, of all namespaces or of one. -/
def ofKind (s : Store) (apiVersion kind : String) (nspace : Option String) : List Document :=
  s.objects.filter fun o =>
    o.apiVersion = apiVersion ∧ o.kind = kind ∧ ∀ ns, nspace = some ns → o.nspace? = some ns

variable {restriction : Option String}

theorem list_of_astray (request : ListRequest) (astray : Astray request.nspace restriction) :
    ∃ message, ∀ s : Store,
      s.list restriction request = .error (.status 403 "Forbidden" message) := by
  obtain ⟨ns, limit, asked, rfl, different⟩ := astray
  refine ⟨"restricted to namespace " ++ limit, fun s => ?_⟩
  simp only [list, listNamespace, asked, checkNamespace, Option.some.injEq, different, if_false]
  rfl

/-- A list call asks for a namespace of its own, or else for the one of the client. -/
theorem listNamespace_eq (request : ListRequest) :
    listNamespace restriction request = request.nspace.or restriction := by
  unfold listNamespace
  cases restriction <;> cases request.nspace <;> rfl

theorem list_of_not_astray (request : ListRequest)
    (inside : ¬ Astray request.nspace restriction) (s : Store) :
    s.list restriction request =
      .ok (s.ofKind request.apiVersion request.kind (request.nspace.or restriction)) := by
  have permitted : checkNamespace restriction (request.nspace.or restriction) = .ok () := by
    unfold checkNamespace
    cases restriction with
    | none => rfl
    | some limit =>
      cases asked : request.nspace with
      | none => simp
      | some ns =>
        have same : ns = limit := by
          by_contra different
          exact inside ⟨ns, limit, asked, rfl, different⟩
        simp [same]
  have filters (o : Document) : (o.apiVersion = request.apiVersion && o.kind = request.kind &&
      ((request.nspace.or restriction).isNone || o.nspace? = request.nspace.or restriction)) =
        decide (o.apiVersion = request.apiVersion ∧ o.kind = request.kind ∧
          ∀ ns, request.nspace.or restriction = some ns → o.nspace? = some ns) := by
    cases request.nspace.or restriction <;> simp [Bool.and_assoc]
  unfold list ofKind
  simp only [listNamespace_eq, permitted, filters]
  rfl

theorem ofKind_perm {s s' : Store} (perm : s.objects.Perm s'.objects) (apiVersion kind : String)
    (nspace : Option String) :
    (s.ofKind apiVersion kind nspace).Perm (s'.ofKind apiVersion kind nspace) :=
  perm.filter _

end Store

/-! ## Resources of documents -/

/-- The resources that documents describe, one for each. -/
def Resource.Describe (documents : List Document) (resources : List Resource) : Prop :=
  List.Forall₂ (fun o resource => Resource.ofDocument o = .ok resource) documents resources

namespace Resource

/-- What is wrong with a document that has no name. -/
def unnamed : Failure := .of .remodel (.decode (.missingField "metadata.name"))

/-- All documents describe resources, or the first one without a name says what is wrong. -/
theorem mapM_ofDocument (documents : List Document) :
    (∃ o, documents.find? (fun o => o.name?.isNone) = some o ∧ ofDocument o = .error unnamed ∧
        documents.mapM ofDocument = .error unnamed) ∨
      ∃ resources, (∀ o ∈ documents, o.name?.isSome) ∧ Describe documents resources ∧
        documents.mapM ofDocument = .ok resources := by
  induction documents with
  | nil => exact .inr ⟨[], List.forall_mem_nil _, .nil, rfl⟩
  | cons o rest ih =>
    cases named : o.name? with
    | none =>
      have failed : ofDocument o = .error unnamed := by
        simp only [ofDocument, named, unnamed]
      refine .inl ⟨o, by simp [named], failed, ?_⟩
      rw [List.mapM_cons, failed]
      rfl
    | some name =>
      obtain ⟨resource, described⟩ := ofDocument_of_name o name named
      rcases ih with ⟨bad, first, why, failed⟩ | ⟨resources, all, rest', ok⟩
      · refine .inl ⟨bad, by simpa [named] using first, why, ?_⟩
        rw [List.mapM_cons, described, failed]
        rfl
      · refine .inr ⟨resource :: resources, ?_, .cons described rest', ?_⟩
        · intro x member
          rcases List.mem_cons.mp member with rfl | later
          · simp [named]
          · exact all x later
        · rw [List.mapM_cons, described, ok]
          rfl

/-- The same documents in another order describe the same resources in another order. -/
theorem describe_of_perm {documents documents' : List Document}
    {resources resources' : List Resource} (perm : documents.Perm documents')
    (describe : Describe documents resources) (describe' : Describe documents' resources') :
    resources.Perm resources' := by
  obtain ⟨others, same, reordered⟩ := List.perm_comp_forall₂ perm describe'
  have unique : Relator.RightUnique fun o resource => ofDocument o = .ok resource := by
    intro o a b first second
    exact Except.ok.inj (first.symm.trans second)
  rw [List.right_unique_forall₂' unique describe same]
  exact reordered

/-- What a resource is ordered by can be told from its document. -/
theorem keys_of_describe {documents : List Document} {resources : List Resource}
    (describe : Describe documents resources) :
    resources.map key = documents.map fun o => ⟨o.created?, o.nspace?, o.name?.getD ""⟩ := by
  induction describe with
  | nil => rfl
  | @cons o resource _ _ described _ ih =>
    unfold ofDocument at described
    split at described
    · cases described
    · next name named =>
      cases described
      rw [List.map_cons, List.map_cons, ih, named]
      rfl

end Resource

namespace Gateway
variable {documents documents' : List Document}

/-- What listed documents are answered with: the failure of the first one without a name, or all
their resources in order. -/
theorem remodelAll_cases (documents : List Document) :
    (∃ o, documents.find? (fun o => o.name?.isNone) = some o ∧
        Resource.ofDocument o = .error Resource.unnamed ∧
        remodelAll Resource.ofDocument Resource.key documents = .error Resource.unnamed) ∨
      ∃ resources, (∀ o ∈ documents, o.name?.isSome) ∧ Resource.Describe documents resources ∧
        remodelAll Resource.ofDocument Resource.key documents =
          .ok (.ordered Resource.key resources) := by
  unfold remodelAll
  rcases Resource.mapM_ofDocument documents with
    ⟨o, first, why, failed⟩ | ⟨resources, all, describe, ok⟩
  · refine .inl ⟨o, first, why, ?_⟩
    rw [failed]
    rfl
  · refine .inr ⟨resources, all, describe, ?_⟩
    rw [ok]
    rfl

theorem not_named_of_first {o : Document}
    (first : documents.find? (fun o => o.name?.isNone) = some o) :
    ¬ ∀ x ∈ documents, x.name?.isSome := by
  intro named
  have unnamed := List.find?_some first
  have has := named o (List.mem_of_find?_eq_some first)
  simp_all

theorem remodelAll_of_first {o : Document}
    (first : documents.find? (fun o => o.name?.isNone) = some o) :
    Resource.ofDocument o = .error Resource.unnamed ∧
      remodelAll Resource.ofDocument Resource.key documents = .error Resource.unnamed := by
  rcases remodelAll_cases documents with ⟨o', first', why, failed⟩ | ⟨_, all, -, -⟩
  · cases first.symm.trans first'
    exact ⟨why, failed⟩
  · exact absurd all (not_named_of_first first)

theorem remodelAll_of_named (named : ∀ o ∈ documents, o.name?.isSome) :
    ∃ resources connection, Resource.Describe documents resources ∧
      remodelAll Resource.ofDocument Resource.key documents = .ok connection ∧
      connection.Arranges Resource.key resources ∧ connection.totalCount = documents.length := by
  rcases remodelAll_cases documents with ⟨o, first, -, -⟩ | ⟨resources, -, describe, ok⟩
  · exact absurd named (not_named_of_first first)
  · have arranges := Connection.arranges_ordered Resource.key resources
    exact ⟨resources, _, describe, ok, arranges, arranges.count.trans describe.length_eq.symm⟩

/-- Only a backend refuses. -/
theorem remodelAll_not_backend (documents : List Document) (stage : Stage) (e : BackendError) :
    remodelAll Resource.ofDocument Resource.key documents ≠ .error (.of stage (.backend e)) := by
  intro refused
  rcases remodelAll_cases documents with ⟨_, -, -, failed⟩ | ⟨_, -, -, ok⟩
  · cases failed.symm.trans refused
  · cases ok.symm.trans refused

/-- Documents whose resources have distinct keys are answered alike in any order. -/
theorem remodelAll_of_perm (perm : documents.Perm documents')
    (distinct : ∀ resources, Resource.Describe documents resources →
      (resources.map Resource.key).Nodup) :
    remodelAll Resource.ofDocument Resource.key documents' =
      remodelAll Resource.ofDocument Resource.key documents := by
  rcases remodelAll_cases documents with ⟨o, first, -, failed⟩ | ⟨resources, all, describe, ok⟩
  · rcases remodelAll_cases documents' with ⟨o', -, -, failed'⟩ | ⟨resources', all', -, -⟩
    · rw [failed, failed']
    · have named : ∀ x ∈ documents, x.name?.isSome := fun x here => all' x (perm.subset here)
      exact absurd named (not_named_of_first first)
  · rcases remodelAll_cases documents' with ⟨o', first', -, -⟩ | ⟨resources', -, describe', ok'⟩
    · have named : ∀ x ∈ documents', x.name?.isSome := fun x here => all x (perm.symm.subset here)
      exact absurd named (not_named_of_first first')
    · have reordered := Resource.describe_of_perm perm describe describe'
      rw [ok, ok', Connection.ordered_eq_of_perm reordered (distinct resources describe)]

/-- The objects of a kind are answered as the store lists them. -/
theorem resources_of_serves {callTimeout : Nat} {r : Request} {w : World Store}
    (requestTimeout : Nat) (serves : w.Serves callTimeout r) (d : Descriptor)
    (version nspace : Option String) :
    ∃ u, ((ofStore callTimeout requestTimeout).resources r d version nspace).run w =
      (some (staged .list (remodelAll Resource.ofDocument Resource.key)
        (w.backend.list r.scope.normalized.nspace
          (d.listRequest (resolveVersion version d.versions) nspace))), u) := by
  unfold resources
  rw [list_eq]
  obtain ⟨u, ran, -⟩ := fetch_of_serves requestTimeout serves .list "list"
    (.list (d.listRequest (resolveVersion version d.versions) nspace))
    (f := fun restriction s =>
      s.list restriction (d.listRequest (resolveVersion version d.versions) nspace))
    (fun _ _ _ _ => rfl) (remodelAll Resource.ofDocument Resource.key)
  exact ⟨u, ran⟩

/-- A caller who is served gets the objects of a kind. Another namespace than that of the
restriction is refused. Else the objects are those of the version and the namespace, and the first
one without a name fails the call; if all have names, the answer holds all their resources in order,
those of equal keys as the store keeps them. If all keys are distinct, a store that keeps its
objects in another order is answered alike. -/
theorem connection_of_resources (callTimeout requestTimeout : Nat) (r : Request) (w : World Store)
    (serves : w.Serves callTimeout r) (d : Descriptor) (version nspace : Option String) :
    let asked := nspace.filter (· != "")
    let restriction := r.scope.normalized.nspace
    let M := w.backend.ofKind (joinApiVersion d.group (resolveVersion version d.versions)) d.kind
      (asked.or restriction)
    ∃ answer u, ((ofStore callTimeout requestTimeout).resources r d version nspace).run w =
        (some answer, u) ∧
      (Astray asked restriction ↔
        ∃ message, answer = .error (.of .list (.backend (.status 403 "Forbidden" message)))) ∧
      (¬ Astray asked restriction → ∀ o, M.find? (fun o => o.name?.isNone) = some o →
        Resource.ofDocument o = .error Resource.unnamed ∧ answer = .error Resource.unnamed) ∧
      (¬ Astray asked restriction → (∀ o ∈ M, o.name?.isSome) →
        ∃ resources connection, Resource.Describe M resources ∧ answer = .ok connection ∧
          connection.Arranges Resource.key resources ∧ connection.totalCount = M.length) ∧
      ∀ w', w'.Serves callTimeout r → w'.backend.objects.Perm w.backend.objects →
        (∀ resources, Resource.Describe M resources → (resources.map Resource.key).Nodup) →
        ∃ u', ((ofStore callTimeout requestTimeout).resources r d version nspace).run w' =
          (some answer, u') := by
  intro asked restriction M
  obtain ⟨u, ran⟩ := resources_of_serves requestTimeout serves d version nspace
  by_cases astray : Astray asked restriction
  · obtain ⟨message, refused⟩ := Store.list_of_astray
      (d.listRequest (resolveVersion version d.versions) nspace) astray
    rw [refused] at ran
    refine ⟨_, u, ran, iff_of_true astray ⟨message, rfl⟩, absurd astray, absurd astray, ?_⟩
    intro w' serves' _ _
    obtain ⟨u', ran'⟩ := resources_of_serves requestTimeout serves' d version nspace
    rw [refused] at ran'
    exact ⟨u', ran'⟩
  · have listed := Store.list_of_not_astray
      (d.listRequest (resolveVersion version d.versions) nspace) astray
    rw [listed] at ran
    have other (w' : World Store) (serves' : w'.Serves callTimeout r)
        (perm : w'.backend.objects.Perm w.backend.objects)
        (distinct : ∀ resources, Resource.Describe M resources →
          (resources.map Resource.key).Nodup) :
        ∃ u', ((ofStore callTimeout requestTimeout).resources r d version nspace).run w' =
          (some (remodelAll Resource.ofDocument Resource.key M), u') := by
      obtain ⟨u', ran'⟩ := resources_of_serves requestTimeout serves' d version nspace
      rw [listed] at ran'
      have same := remodelAll_of_perm (Store.ofKind_perm perm.symm _ _ _) distinct
      exact ⟨u', ran'.trans (congrArg (fun a => (some a, u')) same)⟩
    have unrefused : ¬ ∃ message, remodelAll Resource.ofDocument Resource.key M =
        .error (.of .list (.backend (.status 403 "Forbidden" message))) := by
      rintro ⟨message, refused⟩
      exact remodelAll_not_backend M _ _ refused
    exact ⟨remodelAll Resource.ofDocument Resource.key M, u, ran, iff_of_false astray unrefused,
      fun _ _ first => remodelAll_of_first first, fun _ named => remodelAll_of_named named, other⟩

/-- An object of a namespace that was created on a day. -/
def madeOn (day kind nspace name : String) : Document :=
  ⟨[("apiVersion", .string "example.io/v1"), ("kind", .string kind),
    ("metadata", .object [("name", .string name), ("namespace", .string nspace),
      ("creationTimestamp", .string (day ++ "T00:00:00Z"))])]⟩

def teamObjects : List Document :=
  [madeOn "2024-01-02" "Widget" "team-a" "old", madeOn "2024-01-01" "Gadget" "team-a" "none",
    madeOn "2024-01-01" "Widget" "team-b" "none", madeOn "2024-01-01" "Widget" "team-a" "older"]

def shelf (objects : List Document) : World Store :=
  World.start ⟨0, 0⟩ (Cache.empty 600000 256) { Store.empty with objects := objects }

theorem shelf_serves (objects : List Document) : (shelf objects).Serves 30000 teamCaller where
  ready := by
    have early : 0 + 600000 ≤ clockEnd ∧ 0 + 30000 ≤ clockEnd := by decide +kernel
    exact ⟨⟨rfl, rfl, early.1, early.2⟩, Cache.idle_empty _ _ _ _ _⟩
  uncancelled := rfl
  welcome := World.refusal?_of_accepted (by decide +kernel) rfl rfl
  working _ := rfl

theorem connection_of_resources_of_team :
    let widgets : Descriptor := ⟨"example.io", "Widget", none, none, true, [⟨"v1", true, false⟩]⟩
    (shelf teamObjects).Serves 30000 teamCaller ∧
      ∃ connection u u',
        ((ofStore 30000 60000).resources teamCaller widgets none (some "")).run
          (shelf teamObjects) = (some (.ok connection), u) ∧
        ((ofStore 30000 60000).resources teamCaller widgets none (some "")).run
          (shelf teamObjects.reverse) = (some (.ok connection), u') ∧
        connection.totalCount = 2 := by
  intro widgets
  refine ⟨shelf_serves teamObjects, ?_⟩
  obtain ⟨answer, u, ran, -, -, whole, others⟩ := connection_of_resources 30000 60000 teamCaller
    (shelf teamObjects) (shelf_serves teamObjects) widgets none (some "")
  have inside :
      ¬ Astray (Option.filter (· != "") (some "")) teamCaller.scope.normalized.nspace := by
    rintro ⟨ns, limit, asked, -⟩
    cases asked
  obtain ⟨resources, connection, describe, rfl, -, count⟩ := whole inside (by decide +kernel)
  obtain ⟨u', ran'⟩ := others (shelf teamObjects.reverse) (shelf_serves _)
    (List.reverse_perm teamObjects) fun resources describe => by
      rw [Resource.keys_of_describe describe]
      decide +kernel
  exact ⟨connection, u, u', ran, ran', count.trans (by decide +kernel)⟩

end Gateway
end ClusterGraph
