import ClusterGraph.Proofs.Document.Metadata
import ClusterGraph.Resource.Basic
import ClusterGraph.Store.Basic

/-!
# What commands do to the objects

A command of a client either fails and leaves the objects alone, or does one thing to them: a
creation puts one object at the end, an update puts one in the place of another, a deletion takes
out all that a reference names. What is stored is the document that was sent, but for the fields of
the metadata that the store itself fills in.
-/
namespace ClusterGraph

namespace Document

/-- A document as it is stored in the place of a previous one: what was sent, with the uid and the
creation time of the previous one if that has them, and a new version. -/
structure Replaces (stored sent previous : Document) (sequence : Nat) : Prop where
  fields : ∀ key, key ≠ "metadata" → stored.get? key = sent.get? key
  metadata : ∀ field, field ≠ "uid" → field ≠ "creationTimestamp" → field ≠ "resourceVersion" →
    stored.metadata? field = sent.metadata? field
  uid : stored.metadata? "uid" = (previous.metadata? "uid").or (sent.metadata? "uid")
  creationTimestamp : stored.metadata? "creationTimestamp" =
    (previous.metadata? "creationTimestamp").or (sent.metadata? "creationTimestamp")
  resourceVersion : stored.metadata? "resourceVersion" = some (.string (toString sequence))

/-- A document as it is stored when it is created: what was sent, with a name if it has none, and
with a uid, a creation time and a version of its own. -/
structure Establishes (stored sent : Document) (sequence : Nat) : Prop where
  fields : ∀ key, key ≠ "metadata" → stored.get? key = sent.get? key
  metadata : ∀ field, field ≠ "uid" → field ≠ "creationTimestamp" → field ≠ "resourceVersion" →
    field ≠ "name" → stored.metadata? field = sent.metadata? field
  name : stored.metadata? "name" = some (.string
    (sent.name?.getD ((sent.metaText? "generateName").getD "obj-" ++ toString sequence)))

/-- A document with a field of the metadata of another one, if that has it. -/
def inheriting (d previous : Document) (field : String) : Document :=
  match previous.metadata? field with
  | some value => d.setMeta field value
  | none => d

section Fields
variable {d : Document} (previous : Document) (field : String)

theorem metadataIsObject_inheriting (shape : d.MetadataIsObject) :
    (d.inheriting previous field).MetadataIsObject := by
  unfold inheriting
  split
  · exact metadataIsObject_setMeta shape field _
  · exact shape

theorem get?_inheriting {key : String} (different : key ≠ "metadata") :
    (d.inheriting previous field).get? key = d.get? key := by
  unfold inheriting
  split
  · exact get?_setMeta_of_ne d different field _
  · rfl

theorem metadata?_inheriting_self (shape : d.MetadataIsObject) :
    (d.inheriting previous field).metadata? field =
      (previous.metadata? field).or (d.metadata? field) := by
  unfold inheriting
  cases previous.metadata? field with
  | some value => simp [metadata?_setMeta_self shape]
  | none => rfl

theorem metadata?_inheriting_of_ne {other : String} (different : other ≠ field) :
    (d.inheriting previous field).metadata? other = d.metadata? other := by
  unfold inheriting
  split
  · exact metadata?_setMeta_of_ne d different _
  · rfl

end Fields

theorem name?_eq_some_iff (d : Document) (name : String) :
    d.name? = some name ↔ d.metadata? "name" = some (.string name) := by
  unfold name? metaText?
  cases d.metadata? "name" with
  | none => simp
  | some value => cases value <;> simp [Json.string?]

end Document

namespace Store
open Document (MetadataIsObject)
variable {d : Document}

theorem replacing_eq (d previous : Document) (sequence : Nat) :
    replacing d previous sequence =
      ((d.inheriting previous "uid").inheriting previous "creationTimestamp").setMeta
        "resourceVersion" (.string (toString sequence)) := rfl

theorem get?_replacing (d previous : Document) (sequence : Nat) {key : String}
    (different : key ≠ "metadata") : (replacing d previous sequence).get? key = d.get? key := by
  rw [replacing_eq, Document.get?_setMeta_of_ne _ different,
    Document.get?_inheriting previous _ different, Document.get?_inheriting previous _ different]

theorem metadata?_replacing_of_ne (d previous : Document) (sequence : Nat) {field : String}
    (notUid : field ≠ "uid") (notCreated : field ≠ "creationTimestamp")
    (notVersion : field ≠ "resourceVersion") :
    (replacing d previous sequence).metadata? field = d.metadata? field := by
  rw [replacing_eq, Document.metadata?_setMeta_of_ne _ notVersion,
    Document.metadata?_inheriting_of_ne previous _ notCreated,
    Document.metadata?_inheriting_of_ne previous _ notUid]

theorem replaces_replacing (shape : d.MetadataIsObject) (previous : Document) (sequence : Nat) :
    (replacing d previous sequence).Replaces d previous sequence := by
  have first := Document.metadataIsObject_inheriting previous "uid" shape
  have second := Document.metadataIsObject_inheriting previous "creationTimestamp" first
  refine ⟨fun _ => get?_replacing d previous sequence,
    fun _ => metadata?_replacing_of_ne d previous sequence, ?_, ?_, ?_⟩
  · rw [replacing_eq, Document.metadata?_setMeta_of_ne _ (by decide),
      Document.metadata?_inheriting_of_ne previous _ (by decide),
      Document.metadata?_inheriting_self previous _ shape]
  · rw [replacing_eq, Document.metadata?_setMeta_of_ne _ (by decide),
      Document.metadata?_inheriting_self previous _ first,
      Document.metadata?_inheriting_of_ne previous _ (by decide)]
  · exact Document.metadata?_setMeta_self second _ _

/-- The name that a document is stored under when it is created. -/
theorem fst_named (d : Document) (sequence : Nat) :
    (named d sequence).1 =
      d.name?.getD ((d.metaText? "generateName").getD "obj-" ++ toString sequence) := by
  unfold named
  cases d.name? <;> rfl

/-- A document that is to be created has the name that it is stored under, whatever it was sent
with. -/
theorem metadata?_name_named (shape : d.MetadataIsObject) (sequence : Nat) :
    (named d sequence).2.metadata? "name" = some (.string (named d sequence).1) := by
  unfold named
  cases named : d.name? with
  | some name => exact (d.name?_eq_some_iff name).mp named
  | none => exact Document.metadata?_setMeta_self shape _ _

theorem metadataIsObject_named (shape : d.MetadataIsObject) (sequence : Nat) :
    (named d sequence).2.MetadataIsObject := by
  unfold named
  cases d.name? with
  | some name => exact shape
  | none => exact Document.metadataIsObject_setMeta shape _ _

theorem get?_named (d : Document) (sequence : Nat) {key : String} (different : key ≠ "metadata") :
    (named d sequence).2.get? key = d.get? key := by
  unfold named
  cases d.name? with
  | some name => rfl
  | none => exact Document.get?_setMeta_of_ne d different _ _

theorem metadata?_named_of_ne (d : Document) (sequence : Nat) {field : String}
    (different : field ≠ "name") : (named d sequence).2.metadata? field = d.metadata? field := by
  unfold named
  cases d.name? with
  | some name => rfl
  | none => exact Document.metadata?_setMeta_of_ne d different _

theorem get?_stamped (d : Document) (sequence : Nat) {key : String} (different : key ≠ "metadata") :
    (stamped d sequence).get? key = d.get? key := by
  unfold stamped
  rw [Document.get?_setMeta_of_ne _ different, Document.get?_setMeta_of_ne _ different,
    Document.get?_setMeta_of_ne _ different]

theorem metadata?_stamped_of_ne (d : Document) (sequence : Nat) {field : String}
    (notUid : field ≠ "uid") (notCreated : field ≠ "creationTimestamp")
    (notVersion : field ≠ "resourceVersion") :
    (stamped d sequence).metadata? field = d.metadata? field := by
  unfold stamped
  rw [Document.metadata?_setMeta_of_ne _ notVersion, Document.metadata?_setMeta_of_ne _ notCreated,
    Document.metadata?_setMeta_of_ne _ notUid]

/-- An object is created in the namespace that was checked. -/
theorem nspace?_created (d : Document) (sequence : Nat) :
    (stamped (named d sequence).2 sequence).nspace? = d.nspace? := by
  unfold Document.nspace? Document.metaText?
  rw [metadata?_stamped_of_ne _ sequence (by decide) (by decide) (by decide),
    metadata?_named_of_ne d sequence (by decide)]

theorem establishes_stamped (shape : d.MetadataIsObject) (sequence : Nat) :
    (stamped (named d sequence).2 sequence).Establishes d sequence := by
  refine ⟨?_, ?_, ?_⟩
  · intro key different
    rw [get?_stamped _ sequence different, get?_named d sequence different]
  · intro field notUid notCreated notVersion notName
    rw [metadata?_stamped_of_ne _ sequence notUid notCreated notVersion,
      metadata?_named_of_ne d sequence notName]
  · rw [metadata?_stamped_of_ne _ sequence (by decide) (by decide) (by decide),
      metadata?_name_named shape, fst_named]

/-! ## Commands -/

/-- An object has been put at the end. -/
structure Created (before : Store) (sent stored : Document) (after : Store) : Prop where
  objects : after.objects = before.objects ++ [stored]
  stored : stored.Establishes sent (before.sequence + 1)

/-- The first object that a reference names has been replaced where it stood. -/
structure Updated (before : Store) (r : Reference) (sent stored : Document) (after : Store) :
    Prop where
  objects : ∃ early previous late, before.objects = early ++ previous :: late ∧
    (∀ d ∈ early, d.isNamedBy r = false) ∧ previous.isNamedBy r = true ∧
    after.objects = early ++ stored :: late ∧
    stored.Replaces sent previous (before.sequence + 1)

/-- The objects that a reference names are gone; there was one at least. -/
structure Deleted (before : Store) (r : Reference) (after : Store) : Prop where
  objects : after.objects = before.objects.filter fun d => !d.isNamedBy r
  some_named : ∃ d ∈ before.objects, d.isNamedBy r = true

section Commands
variable {s after : Store} {restriction : Option String} {r : Reference} {stored : Document}
  {e : BackendError}

theorem objects_of_create_error (refused : s.create restriction d = (.error e, after)) :
    after.objects = s.objects := by
  unfold create at refused
  split at refused
  · cases refused
    rfl
  · dsimp only at refused
    split at refused
    · cases refused
      rfl
    · cases refused

/-- A creation that succeeds puts what it stores at the end. -/
theorem objects_of_create (success : s.create restriction d = (.ok stored, after)) :
    after.objects = s.objects ++ [stored] ∧
      stored = stamped (named d (s.sequence + 1)).2 (s.sequence + 1) := by
  unfold create at success
  split at success
  · cases success
  · dsimp only at success
    split at success
    · cases success
    · cases success
      exact ⟨rfl, rfl⟩

theorem created_of_create (shape : d.MetadataIsObject)
    (success : s.create restriction d = (.ok stored, after)) : s.Created d stored after := by
  obtain ⟨objects, rfl⟩ := objects_of_create success
  exact ⟨objects, establishes_stamped shape (s.sequence + 1)⟩

theorem objects_of_update_error (refused : s.update restriction r d = (.error e, after)) :
    after.objects = s.objects := by
  unfold update at refused
  split at refused
  · cases refused
    rfl
  · dsimp only at refused
    split at refused
    · cases refused
      rfl
    · cases refused

/-- An update that succeeds puts what it stores in the place of the first object that the reference
names. -/
theorem objects_of_update (success : s.update restriction r d = (.ok stored, after)) :
    ∃ early previous late, s.objects = early ++ previous :: late ∧
      (∀ o ∈ early, o.isNamedBy r = false) ∧ previous.isNamedBy r = true ∧
      after.objects = early ++ stored :: late ∧
      stored = replacing d previous (s.sequence + 1) := by
  unfold update at success
  split at success
  · cases success
  · dsimp only at success
    split at success
    · cases success
    · next i found =>
      cases success
      obtain ⟨inside, named, first⟩ := List.findIdx?_eq_some_iff_getElem.mp found
      refine ⟨s.objects.take i, s.objects[i], s.objects.drop (i + 1), ?_, ?_, named, ?_, ?_⟩
      · rw [List.getElem_cons_drop, List.take_append_drop]
      · intro o member
        obtain ⟨j, bound, rfl⟩ := List.mem_take_iff_getElem.mp member
        simpa using first j (by omega)
      · rw [List.set_eq_take_append_cons_drop, if_pos inside]
      · simp only [List.getElem?_eq_getElem inside, Option.getD_some]

/-- An update that is permitted and finds an object succeeds. -/
theorem update_of_named (d : Document) (permitted : checkNamespace restriction r.nspace = .ok ())
    (named : ∃ o ∈ s.objects, o.isNamedBy r = true) :
    ∃ stored after, s.update restriction r d = (.ok stored, after) := by
  obtain ⟨o, member, named⟩ := named
  unfold update
  rw [permitted]
  dsimp only
  split
  · next absent =>
    have unnamed := List.findIdx?_eq_none_iff.mp absent o member
    rw [named] at unnamed
    cases unnamed
  · exact ⟨_, _, rfl⟩

theorem updated_of_update (shape : d.MetadataIsObject)
    (success : s.update restriction r d = (.ok stored, after)) : s.Updated r d stored after := by
  obtain ⟨early, previous, late, before, others, named, objects, rfl⟩ := objects_of_update success
  exact ⟨early, previous, late, before, others, named, objects,
    replaces_replacing shape previous (s.sequence + 1)⟩

theorem objects_of_delete_error (refused : s.delete restriction r = (.error e, after)) :
    after.objects = s.objects := by
  unfold delete at refused
  split at refused
  · cases refused
    rfl
  · dsimp only at refused
    split at refused
    · cases refused
      rfl
    · cases refused

theorem deleted_of_delete (success : s.delete restriction r = (.ok (), after)) :
    s.Deleted r after := by
  unfold delete at success
  split at success
  · cases success
  · dsimp only at success
    split at success
    · cases success
    · next fewer =>
      cases success
      refine ⟨rfl, ?_⟩
      rw [List.length_filter_eq_length_iff] at fewer
      simpa using fewer

/-- A deletion that is permitted and finds an object succeeds. -/
theorem delete_of_named (permitted : checkNamespace restriction r.nspace = .ok ())
    (named : ∃ o ∈ s.objects, o.isNamedBy r = true) :
    ∃ after, s.delete restriction r = (.ok (), after) := by
  have fewer : ¬ (s.objects.filter fun d => !d.isNamedBy r).length = s.objects.length := by
    obtain ⟨o, member, named⟩ := named
    rw [List.length_filter_eq_length_iff]
    intro all
    simpa [named] using all o member
  unfold delete
  rw [permitted]
  dsimp only
  rw [if_neg fewer]
  exact ⟨_, rfl⟩

/-! What succeeds is permitted: the namespace of the document that is created, or of the reference,
has been checked. -/

theorem permitted_of_create (success : s.create restriction d = (.ok stored, after)) :
    checkNamespace restriction d.nspace? = .ok () := by
  unfold create at success
  split at success
  · cases success
  · assumption

theorem permitted_of_update (success : s.update restriction r d = (.ok stored, after)) :
    checkNamespace restriction r.nspace = .ok () := by
  unfold update at success
  split at success
  · cases success
  · assumption

theorem permitted_of_delete (success : s.delete restriction r = (.ok (), after)) :
    checkNamespace restriction r.nspace = .ok () := by
  unfold delete at success
  split at success
  · cases success
  · assumption

/-! No command records a call; calls are recorded as they are made. -/

theorem calls_create (s : Store) (restriction : Option String) (d : Document) :
    (s.create restriction d).2.calls = s.calls := by
  unfold create
  split
  · rfl
  · dsimp only
    split <;> rfl

theorem calls_update (s : Store) (restriction : Option String) (r : Reference) (d : Document) :
    (s.update restriction r d).2.calls = s.calls := by
  unfold update
  split
  · rfl
  · dsimp only
    split <;> rfl

theorem calls_delete (s : Store) (restriction : Option String) (r : Reference) :
    (s.delete restriction r).2.calls = s.calls := by
  unfold delete
  split
  · rfl
  · dsimp only
    split <;> rfl

end Commands

/-! ## Queries -/

section Queries
variable {s : Store} {restriction : Option String} {r : Reference} {d : Document}

theorem list_eq_ok_iff (request : ListRequest) (items : List Document) :
    s.list restriction request = .ok items ↔
      checkNamespace restriction (listNamespace restriction request) = .ok () ∧
        items = s.objects.filter fun d => d.apiVersion = request.apiVersion
          && d.kind = request.kind && ((listNamespace restriction request).isNone
            || d.nspace? = listNamespace restriction request) := by
  unfold list
  dsimp only
  cases checkNamespace restriction (listNamespace restriction request) with
  | error e => exact ⟨nofun, fun permitted => nomatch permitted.1⟩
  | ok u =>
    refine ⟨fun success => ?_, fun listed => congrArg Except.ok listed.2.symm⟩
    cases success
    exact ⟨rfl, rfl⟩

theorem get_eq_ok_iff :
    s.get restriction r = .ok d ↔
      checkNamespace restriction r.nspace = .ok () ∧
        s.objects.find? (fun o => o.isNamedBy r) = some d := by
  unfold get
  cases checkNamespace restriction r.nspace with
  | error e => simp [bind, Except.bind]
  | ok u =>
    cases s.objects.find? fun o => o.isNamedBy r with
    | none => simp [bind, Except.bind]
    | some o => simp [bind, Except.bind, pure, Except.pure]

end Queries
end Store
end ClusterGraph
