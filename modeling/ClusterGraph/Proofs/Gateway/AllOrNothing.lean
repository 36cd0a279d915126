import ClusterGraph.Proofs.Gateway.Mutation
import ClusterGraph.Proofs.Store.Objects

/-!
# Mutations are all or nothing

A creation or a deletion that fails, for whatever reason and however late, leaves the objects as
they were; one that succeeds does its one thing to them (`Gateway.create_delete_all_or_nothing`).
An update does so too, with one exception (`Gateway.update_all_or_nothing`): a document without a
name is stored, and then cannot be given back as a resource, so the update fails although the object
was replaced (`Gateway.nameless_update_commits`).
-/
namespace ClusterGraph

namespace Store

/-- What has been created has a name. -/
theorem Created.name? {before after : Store} {sent stored : Document}
    (created : before.Created sent stored after) : ∃ name, stored.name? = some name :=
  ⟨_, (stored.name?_eq_some_iff _).mpr created.stored.name⟩

/-- What has been stored by an update has the name that it was sent with, if any. -/
theorem Updated.name? {before after : Store} {r : Reference} {sent stored : Document}
    (updated : before.Updated r sent stored after) : stored.name? = sent.name? := by
  obtain ⟨early, previous, late, -, -, -, -, replaces⟩ := updated.objects
  unfold Document.name? Document.metaText?
  rw [replaces.metadata "name" (by decide) (by decide) (by decide)]

end Store

/-! ## Whole mutations -/

namespace Gateway

section Mutated
variable {α γ : Type} {s : Stage} {call : RecordedCall}
  {f : Option String → Store → Except BackendError α × Store} {remodel : α → Except Failure γ}
  {before after : Store} {answer : Option (Except Failure γ)}

/-- A mutation whose command leaves the objects alone when it refuses either fails before it has
changed them, or has carried its command out. -/
theorem Mutated.cases_objects (mutated : Mutated s call f remodel before answer after)
    (spared : ∀ restriction store e after,
      f restriction store = (.error e, after) → after.objects = store.objects) :
    (after.objects = before.objects ∧ (FailsAt .clientAcquisition answer ∨ FailsAt s answer)) ∨
      ∃ builds restriction a, answer = some (remodel a) ∧
        f restriction ({ before with builds := builds }.record call) = (.ok a, after) := by
  cases mutated with
  | noClient builds answer failed => exact .inl ⟨rfl, .inl failed⟩
  | uncalled builds answer failed => exact .inl ⟨rfl, .inr failed⟩
  | called builds answer failed => exact .inl ⟨rfl, .inr failed⟩
  | refused builds restriction e after refusal =>
    have same := spared _ _ _ _ refusal
    exact .inl ⟨same, .inr (.inr ⟨e, rfl⟩)⟩
  | carriedOut builds restriction a after success =>
    exact .inr ⟨builds, restriction, a, rfl, success⟩

/-- What fails at a stage fails with the stage, or without an answer. -/
theorem FailsAt.stage {f : Failure} (failed : FailsAt s (some (.error f : Except Failure γ))) :
    f.stage = s := by
  rcases failed with none | ⟨e, same⟩
  · cases none
  · cases same
    rfl

theorem FailsAt.not_ok {a : γ} (failed : FailsAt s (some (.ok a : Except Failure γ))) : False := by
  rcases failed with none | ⟨e, same⟩
  · cases none
  · cases same

end Mutated

variable (callTimeout requestTimeout : Nat) (r : Request)

/-- An update whose document has a name is all or nothing. If it has none, the object is replaced,
and the update fails all the same. -/
theorem update_all_or_nothing (reference : Reference) (raw : String) (patches : List Patch)
    (w : World Store) :
    let outcome := ((ofStore callTimeout requestTimeout).update r reference raw patches).run w
    match outcome.1 with
    | some (.ok resource) => ∃ d stored, Document.prepare raw patches = .ok d ∧
        w.backend.Updated reference d stored outcome.2.backend ∧
        Resource.ofDocument stored = .ok resource
    | some (.error f) =>
      (f.stage ≠ .remodel ∧ outcome.2.backend.objects = w.backend.objects) ∨
        (f.stage = .remodel ∧ ∃ d stored, Document.prepare raw patches = .ok d ∧
          d.name? = none ∧ w.backend.Updated reference d stored outcome.2.backend)
    | none => outcome.2.backend.objects = w.backend.objects := by
  rw [update_eq]
  cases prepared : Document.prepare raw patches with
  | error f =>
    refine .inl ⟨?_, rfl⟩
    rcases Document.stage_of_prepare raw patches f prepared with stage | stage <;> simp [stage]
  | ok d =>
    have shape := Document.metadataIsObject_of_prepare raw patches d prepared
    have mutated := mutated_run callTimeout requestTimeout r .update "update"
      (.update reference d) (fun restriction s => s.update restriction reference d)
      Resource.ofDocument w
    dsimp only at mutated ⊢
    generalize Work.run _ w = outcome at mutated ⊢
    obtain ⟨answer, v⟩ := outcome
    rcases mutated.cases_objects fun _ _ _ _ => Store.objects_of_update_error with
      ⟨same, failed⟩ | ⟨builds, restriction, stored, rfl, success⟩
    · rcases answer with _ | f | resource
      · exact same
      · refine .inl ⟨?_, same⟩
        rcases failed with failed | failed <;> simp [failed.stage]
      · exact (failed.elim FailsAt.not_ok FailsAt.not_ok).elim
    · have updated := Store.updated_of_update shape success
      have whole : w.backend.Updated reference d stored v.backend := ⟨updated.objects⟩
      cases answer : Resource.ofDocument stored with
      | ok resource => exact ⟨d, stored, rfl, whole, answer⟩
      | error f =>
        obtain ⟨stage, unnamed⟩ := Resource.name?_eq_none_of_ofDocument stored f answer
        rw [updated.name?] at unnamed
        exact .inr ⟨stage, d, stored, rfl, unnamed, whole⟩

def failedStage? {γ : Type} : Option (Except Failure γ) → Option Stage
  | some (.error f) => some f.stage
  | _ => none

/-- The one widget of a store, which is named, is replaced by a document without metadata; the
update fails when what it has stored is to be given back. -/
theorem nameless_update_commits :
    let widget : Document := ⟨[("apiVersion", .string "example.io/v1"), ("kind", .string "Widget"),
      ("metadata", .object [("name", .string "w")])]⟩
    let outcome := ((ofStore 30000 60000).update ⟨⟨.bearer "token-a", none⟩, ⟨none⟩, none, none⟩
        ⟨"example.io/v1", "Widget", none, "w"⟩
        "\x7b\"apiVersion\":\"example.io/v1\",\"kind\":\"Widget\"\x7d" []).run
      (World.start ⟨0, 0⟩ (Cache.empty 600000 256) { Store.empty with objects := [widget] })
    failedStage? outcome.1 = some .remodel ∧
      outcome.2.backend.objects.map Document.name? = [none] := by
  decide +kernel

/-- A creation puts one object at the end and gives it back, or leaves the objects alone. -/
theorem objects_of_create (raw : String) (patches : List Patch) (w : World Store) :
    let outcome := ((ofStore callTimeout requestTimeout).create r raw patches).run w
    match outcome.1 with
    | some (.ok resource) => ∃ d stored, Document.prepare raw patches = .ok d ∧
        w.backend.Created d stored outcome.2.backend ∧ Resource.ofDocument stored = .ok resource
    | _ => outcome.2.backend.objects = w.backend.objects := by
  rw [create_eq]
  cases prepared : Document.prepare raw patches with
  | error f => rfl
  | ok d =>
    have shape := Document.metadataIsObject_of_prepare raw patches d prepared
    have mutated := mutated_run callTimeout requestTimeout r .create "create" (.create d)
      (fun restriction s => s.create restriction d) Resource.ofDocument w
    dsimp only at mutated ⊢
    generalize Work.run _ w = outcome at mutated ⊢
    obtain ⟨answer, v⟩ := outcome
    rcases mutated.cases_objects fun _ _ _ _ => Store.objects_of_create_error with
      ⟨same, failed⟩ | ⟨builds, restriction, stored, rfl, success⟩
    · rcases answer with _ | f | resource
      · exact same
      · exact same
      · exact (failed.elim FailsAt.not_ok FailsAt.not_ok).elim
    · -- What is stored has a name, so giving it back cannot fail.
      have created := Store.created_of_create shape success
      obtain ⟨name, named⟩ := created.name?
      obtain ⟨resource, answer⟩ := Resource.ofDocument_of_name stored name named
      simp only [answer]
      exact ⟨d, stored, rfl, ⟨created.objects, created.stored⟩, answer⟩

/-- A deletion takes out all that the reference names and gives back what the reference says, or
leaves the objects alone. -/
theorem objects_of_delete (reference : Reference) (w : World Store) :
    let outcome := ((ofStore callTimeout requestTimeout).delete r reference).run w
    match outcome.1 with
    | some (.ok resource) => w.backend.Deleted reference outcome.2.backend ∧
        resource.apiVersion = reference.apiVersion ∧ resource.kind = reference.kind ∧
        resource.nspace = reference.nspace ∧ resource.name = reference.name
    | _ => outcome.2.backend.objects = w.backend.objects := by
  obtain ⟨snapshot, remodelled, fields⟩ := Resource.ofDocument_ofReference reference
  rw [delete_eq callTimeout requestTimeout r reference snapshot remodelled]
  have mutated := mutated_run callTimeout requestTimeout r .delete "delete" (.delete reference)
    (fun restriction s => s.delete restriction reference) (fun _ => .ok snapshot) w
  dsimp only at mutated ⊢
  generalize Work.run _ w = outcome at mutated ⊢
  obtain ⟨answer, v⟩ := outcome
  rcases mutated.cases_objects fun _ _ _ _ => Store.objects_of_delete_error with
    ⟨same, failed⟩ | ⟨builds, restriction, done, rfl, success⟩
  · rcases answer with _ | f | resource
    · exact same
    · exact same
    · exact (failed.elim FailsAt.not_ok FailsAt.not_ok).elim
  · have deleted := Store.deleted_of_delete success
    exact ⟨⟨deleted.objects, deleted.some_named⟩, fields⟩

/-- Creations and deletions are all or nothing. -/
theorem create_delete_all_or_nothing (w : World Store) :
    (∀ raw patches,
      let outcome := ((ofStore callTimeout requestTimeout).create r raw patches).run w
      match outcome.1 with
      | some (.ok resource) => ∃ d stored, Document.prepare raw patches = .ok d ∧
          w.backend.Created d stored outcome.2.backend ∧ Resource.ofDocument stored = .ok resource
      | _ => outcome.2.backend.objects = w.backend.objects) ∧
    ∀ reference,
      let outcome := ((ofStore callTimeout requestTimeout).delete r reference).run w
      match outcome.1 with
      | some (.ok resource) => w.backend.Deleted reference outcome.2.backend ∧
          resource.apiVersion = reference.apiVersion ∧ resource.kind = reference.kind ∧
          resource.nspace = reference.nspace ∧ resource.name = reference.name
      | _ => outcome.2.backend.objects = w.backend.objects :=
  ⟨fun raw patches => objects_of_create callTimeout requestTimeout r raw patches w,
    fun reference => objects_of_delete callTimeout requestTimeout r reference w⟩

end Gateway
end ClusterGraph
