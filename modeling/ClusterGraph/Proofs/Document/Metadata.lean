import ClusterGraph.Proofs.Document.FirstFailure

/-!
# Metadata in place

What putting a value into the metadata does to a document: every other field of the metadata and of
the document is as it was, and the field has the value if the metadata is an object or absent. Every
document that a mutation prepares is of that kind, since it is checked when it is read and again
after each patch.
-/
namespace ClusterGraph
namespace Document

/-- The metadata, if there is any, is an object. -/
def MetadataIsObject (d : Document) : Prop :=
  ∀ metadata, d.get? "metadata" = some metadata → metadata.isObject = true

/-- The entries of the metadata; none if it is absent. -/
def metadataEntries (d : Document) : Entries Json :=
  match d.get? "metadata" with
  | some (.object entries) => entries
  | _ => []

section Fields
variable {d : Document}

/-- Metadata that is an object is given by its entries. -/
theorem MetadataIsObject.cases (shape : d.MetadataIsObject) :
    d.get? "metadata" = none ∨ d.get? "metadata" = some (.object d.metadataEntries) := by
  cases found : d.get? "metadata" with
  | none => exact .inl rfl
  | some metadata =>
    have isObject := shape metadata found
    cases metadata with
    | object entries => simp [metadataEntries, found]
    | _ => simp [Json.isObject] at isObject

theorem metadata?_eq (d : Document) (field : String) :
    d.metadata? field = d.metadataEntries.get? field := by
  unfold metadata? metadataEntries get?
  cases d.entries.get? "metadata" with
  | none => rfl
  | some metadata => cases metadata <;> rfl

theorem setMeta_eq (shape : d.MetadataIsObject) (field : String) (value : Json) :
    d.setMeta field value =
      ⟨d.entries.put "metadata" (.object (d.metadataEntries.put field value))⟩ := by
  rcases shape.cases with absent | present
  · have none_ : d.entries.get? "metadata" = none := absent
    simp [setMeta, set, metadataEntries, get?, none_, Json.assign, Entries.put]
  · have some_ : d.entries.get? "metadata" = some (.object d.metadataEntries) := present
    simp [setMeta, set, some_, Json.assign]

theorem get?_metadata_setMeta (shape : d.MetadataIsObject) (field : String) (value : Json) :
    (d.setMeta field value).get? "metadata" =
      some (.object (d.metadataEntries.put field value)) := by
  simp [setMeta_eq shape, get?]

theorem metadataIsObject_setMeta (shape : d.MetadataIsObject) (field : String) (value : Json) :
    (d.setMeta field value).MetadataIsObject := by
  intro metadata found
  rw [get?_metadata_setMeta shape] at found
  cases found
  rfl

theorem metadataEntries_setMeta (shape : d.MetadataIsObject) (field : String) (value : Json) :
    (d.setMeta field value).metadataEntries = d.metadataEntries.put field value := by
  simp [metadataEntries, get?_metadata_setMeta shape]

theorem metadata?_setMeta_self (shape : d.MetadataIsObject) (field : String) (value : Json) :
    (d.setMeta field value).metadata? field = some value := by
  rw [metadata?_eq, metadataEntries_setMeta shape, Entries.get?_put_self]

end Fields

/-- The other fields of the metadata are as they were, whatever the metadata is. -/
theorem metadata?_setMeta_of_ne (d : Document) {field other : String} (different : other ≠ field)
    (value : Json) : (d.setMeta field value).metadata? other = d.metadata? other := by
  unfold metadata? setMeta set
  dsimp only
  rw [Entries.get?_put_self]
  cases d.entries.get? "metadata" with
  | none => simp [Json.assign, Json.get?, Entries.get?, different.symm]
  | some metadata =>
    cases metadata with
    | null => simp [Json.assign, Json.get?, Entries.get?, different.symm]
    | object entries => exact Entries.get?_put_of_ne _ different.symm _
    | _ => rfl

/-- The other fields of the document are as they were. -/
theorem get?_setMeta_of_ne (d : Document) {key : String} (different : key ≠ "metadata")
    (field : String) (value : Json) : (d.setMeta field value).get? key = d.get? key :=
  Entries.get?_put_of_ne _ different.symm _

/-! ## Prepared documents -/

/-- A field is there and holds a text. -/
def HasText (d : Document) (field : String) : Prop :=
  ∃ value, d.get? field = some value ∧ value.isString = true

theorem checkText_eq_ok_iff (d : Document) (field : String) :
    checkText d.entries field = .ok () ↔ d.HasText field := by
  unfold checkText HasText get?
  split
  · next text found => exact iff_of_true rfl ⟨.string text, found, rfl⟩
  · next other noText found =>
    refine iff_of_false (fun done => ?_) ?_
    · cases done
    · rintro ⟨value, same, isText⟩
      obtain rfl : other = value := Option.some.inj (found.symm.trans same)
      cases other with
      | string text => exact noText text rfl
      | _ => cases isText
  · next absent =>
    refine iff_of_false (fun done => ?_) ?_
    · cases done
    · rintro ⟨value, same, -⟩
      cases absent.symm.trans same

theorem validate_iff (d : Document) : d.validate = .ok () ↔
    d.HasText "apiVersion" ∧ d.HasText "kind" ∧ d.MetadataIsObject := by
  rw [← checkText_eq_ok_iff, ← checkText_eq_ok_iff]
  unfold validate MetadataIsObject get?
  cases checkText d.entries "apiVersion" with
  | error e => exact iff_of_false (fun done => by cases done) (fun all => by cases all.1)
  | ok _ =>
    cases checkText d.entries "kind" with
    | error e => exact iff_of_false (fun done => by cases done) (fun all => by cases all.2.1)
    | ok _ =>
      cases d.entries.get? "metadata" with
      | none => simp [bind, Except.bind]
      | some metadata => cases isObject : metadata.isObject <;> simp [bind, Except.bind, isObject]

theorem metadataIsObject_of_validate (d : Document) (valid : d.validate = .ok ()) :
    d.MetadataIsObject :=
  ((validate_iff d).mp valid).2.2

theorem validate_of_ofJson (v : Json) (d : Document) (success : ofJson v = .ok d) :
    d.validate = .ok () := by
  cases v with
  | object entries =>
    simp only [ofJson, bind, Except.bind] at success
    split at success
    · cases success
    · next valid =>
      cases success
      exact valid
  | _ => cases success

theorem validate_of_parse (raw : String) (d : Document) (success : parse raw = .ok d) :
    d.validate = .ok () := by
  simp only [parse, ofGlyphs] at success
  split at success
  · exact validate_of_ofJson _ d success
  · cases success

theorem validate_of_applyPatch (before after : Document) (position : Nat) (p : Patch)
    (success : before.applyPatch position p = .ok after) : after.validate = .ok () := by
  obtain ⟨-, -, -, -, -, valid⟩ := applyPatch_eq_ok_iff.mp success
  exact valid

theorem validate_of_applyPatchesFrom (patches : List Patch) (position : Nat)
    (before after : Document) (valid : before.validate = .ok ())
    (success : applyPatchesFrom position patches before = .ok after) :
    after.validate = .ok () :=
  applyPatchesFrom_keeps (fun d => d.validate = .ok ())
    (fun p _ position before after applied _ =>
      validate_of_applyPatch before after position p applied)
    success valid

/-- A prepared document has the shape that every document has. -/
theorem validate_of_prepare (raw : String) (patches : List Patch) (d : Document)
    (success : prepare raw patches = .ok d) : d.validate = .ok () := by
  simp only [prepare] at success
  split at success
  · cases success
  · next read parsed =>
    exact validate_of_applyPatchesFrom patches 0 read d (validate_of_parse raw read parsed) success

theorem metadataIsObject_of_prepare (raw : String) (patches : List Patch) (d : Document)
    (success : prepare raw patches = .ok d) : d.MetadataIsObject :=
  metadataIsObject_of_validate d (validate_of_prepare raw patches d success)

/-- A document cannot be prepared because it cannot be read, or because a patch cannot be applied
to it. -/
theorem stage_of_prepare (raw : String) (patches : List Patch) (f : Failure)
    (failed : prepare raw patches = .error f) : f.stage = .unmarshal ∨ f.stage = .patchPath := by
  simp only [prepare] at failed
  split at failed
  · cases failed
    exact .inl rfl
  · obtain ⟨_, _, _, _, _, _, -, -, refuses, rfl⟩ := refuses_of_applyPatches failed
    exact refuses.stage_cases

end Document
end ClusterGraph
