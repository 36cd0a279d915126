import ClusterGraph.Proofs.Document.Effect

/-!
# Typed metadata

Some fields of the metadata are known to hold texts or maps of texts. What a patch puts at such a
field, or at an entry of such a map, is checked; what it puts below one is not, and an edit makes the
objects that are missing on its way. So patches keep the types of the metadata, except for those that
put the metadata as a whole and those that lead on below a text, which never keep them
(`Document.typed_unless_below_text`).
-/
namespace ClusterGraph

open Json (Edited edited_nil_iff edited_cons_iff edited_object_iff edited_null_iff isString_placed)

/-! ## The types of the metadata -/

def textFields : List String := ["name", "namespace", "generateName"]

/-- The fields of the metadata that hold maps of texts. -/
def mapFields : List String := ["labels", "annotations"]

/-- A value has the type that a field of the metadata is known to have, if it is known. -/
structure FieldTyped (field : String) (v : Json) : Prop where
  text : field ∈ textFields → v.isString = true
  map : field ∈ mapFields → v.IsTextMap

/-- The path leads on below a field of the metadata that holds a text, or below an entry of a map of
texts. -/
inductive FieldPath.BelowText : Path → Prop where
  | field {field : String} {s : Step} {rest : Path} (known : field ∈ textFields) :
      BelowText (.key "metadata" :: .key field :: s :: rest)
  | entry {field k : String} {s : Step} {rest : Path} (known : field ∈ mapFields) :
      BelowText (.key "metadata" :: .key field :: .key k :: s :: rest)

section Types
variable {field k : String} {v : Json} {entries : Entries Json}

theorem mem_textFields_iff :
    field ∈ textFields ↔ field = "name" ∨ field = "namespace" ∨ field = "generateName" := by
  simp [textFields]

theorem mem_mapFields_iff : field ∈ mapFields ↔ field = "labels" ∨ field = "annotations" := by
  simp [mapFields]

theorem not_mem_mapFields (known : field ∈ textFields) : field ∉ mapFields := by
  rcases mem_textFields_iff.mp known with rfl | rfl | rfl <;> decide

theorem fieldTyped_text_iff (known : field ∈ textFields) :
    FieldTyped field v ↔ v.isString = true :=
  ⟨fun typed => typed.text known,
    fun text => ⟨fun _ => text, fun map => absurd map (not_mem_mapFields known)⟩⟩

theorem fieldTyped_map_iff (known : field ∈ mapFields) : FieldTyped field v ↔ v.IsTextMap :=
  ⟨fun typed => typed.map known,
    fun map => ⟨fun text => absurd known (not_mem_mapFields text), fun _ => map⟩⟩

/-- A map of texts stays one if the value put into it is a text. -/
theorem isTextMap_put_iff (texts : Json.IsTextMap (.object entries)) :
    Json.IsTextMap (.object (entries.put k v)) ↔ v.isString = true := by
  constructor
  · exact fun each => each (k, v) (Entries.mem_put_self entries k v)
  · intro text e member
    rcases Entries.mem_of_mem_put member with rfl | old
    · exact text
    · exact texts e old

theorem target_text (known : field ∈ textFields) :
    FieldPath.target [.key "metadata", .key field] = .text := by
  rcases mem_textFields_iff.mp known with rfl | rfl | rfl <;> rfl

theorem target_map (known : field ∈ mapFields) :
    FieldPath.target [.key "metadata", .key field] = .textMap := by
  rcases mem_mapFields_iff.mp known with rfl | rfl <;> rfl

theorem target_entry (known : field ∈ mapFields) (some_ : k ≠ "") :
    FieldPath.target [.key "metadata", .key field, .key k] = .text := by
  simp [FieldPath.target, mem_mapFields_iff.mp known, some_]

end Types

namespace Document

/-- The metadata is an object or absent, and what is in it has the types that are known. -/
structure MetadataTyped (d : Document) : Prop where
  isObject : d.MetadataIsObject
  fields : ∀ field v, d.metadata? field = some v → FieldTyped field v

section Fields
variable {before after : Document} {field : String} {value v : Json} {rest path : Path} {s : Step}

/-- The types are kept if one field of the metadata is put and has its type. -/
theorem MetadataTyped.put_iff (typed : before.MetadataTyped) (isObject : after.MetadataIsObject)
    (put : after.metadataEntries = before.metadataEntries.put field v) :
    after.MetadataTyped ↔ FieldTyped field v := by
  constructor
  · intro kept
    refine kept.fields field v ?_
    rw [metadata?_eq, put, Entries.get?_put_self]
  · intro fits
    refine ⟨isObject, fun other w found => ?_⟩
    rw [metadata?_eq, put] at found
    by_cases same : field = other
    · subst same
      rw [Entries.get?_put_self, Option.some.injEq] at found
      exact found ▸ fits
    · rw [Entries.get?_put_of_ne _ same, ← metadata?_eq] at found
      exact typed.fields other w found

/-- An edit below the metadata puts one field of it. -/
theorem field_of_edited (isObject : before.MetadataIsObject)
    (edited : before.set (.key "metadata" :: s :: rest) value = (after, .ok ())) :
    ∃ field child, s = .key field ∧
      Edited value rest ((before.metadata? field).getD .null) child ∧
      after.MetadataIsObject ∧
      after.metadataEntries = before.metadataEntries.put field child := by
  obtain ⟨-, edit⟩ := set_eq_ok_iff.mp edited
  obtain ⟨k, metadata, same, inside, whole⟩ := edited_object_iff.mp edit
  obtain rfl : "metadata" = k := Step.key.inj same
  obtain rfl : after = ⟨before.entries.put "metadata" metadata⟩ := toJson_inj.mp whole
  have entries : Edited value (s :: rest) (.object before.metadataEntries) metadata := by
    rcases isObject.cases with absent | present
    · have none_ : before.entries.get? "metadata" = none := absent
      rw [none_, Option.getD_none, edited_null_iff] at inside
      simpa [metadataEntries, absent] using inside
    · have some_ : before.entries.get? "metadata" = some (.object before.metadataEntries) := present
      rwa [some_, Option.getD_some] at inside
  obtain ⟨field, child, rfl, below, rfl⟩ := edited_object_iff.mp entries
  refine ⟨field, child, rfl, ?_, ?_, ?_⟩
  · rwa [metadata?_eq]
  · exact (metadataIsObject_put _ _).mpr (by simp [Json.isObject])
  · simp [metadataEntries, get?]

/-- An edit below a map of texts puts one entry of it. -/
theorem entry_of_edited {slot : Option Json} {child : Json} (texts : ∀ v, slot = some v → v.IsTextMap)
    (edited : Edited value (s :: rest) (slot.getD .null) child) :
    ∃ k start entry, s = .key k ∧ Edited value rest start entry ∧
      (child.IsTextMap ↔ entry.isString = true) := by
  obtain ⟨entries, map, edited⟩ : ∃ entries, Json.IsTextMap (.object entries) ∧
      Edited value (s :: rest) (.object entries) child := by
    cases slot with
    | none => exact ⟨[], nofun, edited_null_iff.mp edited⟩
    | some v =>
      have map := texts v rfl
      cases v with
      | object entries => exact ⟨entries, map, edited⟩
      | _ => exact map.elim
  obtain ⟨k, entry, rfl, inside, rfl⟩ := edited_object_iff.mp edited
  exact ⟨k, _, entry, rfl, inside, isTextMap_put_iff map⟩

/-- What a path that goes on makes is no text. -/
theorem isString_of_edited {start child : Json} (edited : Edited value (s :: rest) start child) :
    child.isString = false := by
  obtain ⟨admits, below, -, rfl⟩ := edited_cons_iff.mp edited
  exact isString_placed admits below

/-- What is put at a map of texts or below it leaves one, unless the path leads on below an entry. -/
theorem isTextMap_iff_of_edited {slot : Option Json} {child : Json} (known : field ∈ mapFields)
    (texts : ∀ v, slot = some v → v.IsTextMap) (each : ∀ s ∈ rest, FieldPath.Nameable s)
    (allowed : (FieldPath.target (.key "metadata" :: .key field :: rest)).Allows value)
    (edited : Edited value rest (slot.getD .null) child) :
    child.IsTextMap ↔ ¬ FieldPath.BelowText (.key "metadata" :: .key field :: rest) := by
  cases rest with
  | nil =>
    rw [target_map known] at allowed
    obtain rfl := edited_nil_iff.mp edited
    exact iff_of_true allowed nofun
  | cons s rest =>
    obtain ⟨k, start, entry, rfl, here, kept⟩ := entry_of_edited texts edited
    rw [kept]
    cases rest with
    | nil =>
      -- An empty key would not be typed, but no expression names one.
      have some_ : k ≠ "" := by
        rintro rfl
        exact (each (.key "") List.mem_cons_self).1 rfl
      rw [target_entry known some_] at allowed
      obtain rfl := edited_nil_iff.mp here
      refine iff_of_true allowed ?_
      rintro ⟨⟩
      next text => exact not_mem_mapFields text known
    | cons s rest =>
      rw [isString_of_edited here]
      exact iff_of_false nofun (fun keeps => keeps (.entry known))

/-- What is put at a field of the metadata or below it has the type of the field, unless the path
leads on below a text. -/
theorem fieldTyped_iff_of_edited {slot : Option Json} {child : Json}
    (typed : ∀ v, slot = some v → FieldTyped field v) (each : ∀ s ∈ rest, FieldPath.Nameable s)
    (allowed : (FieldPath.target (.key "metadata" :: .key field :: rest)).Allows value)
    (edited : Edited value rest (slot.getD .null) child) :
    FieldTyped field child ↔ ¬ FieldPath.BelowText (.key "metadata" :: .key field :: rest) := by
  by_cases text : field ∈ textFields
  · rw [fieldTyped_text_iff text]
    cases rest with
    | nil =>
      rw [target_text text] at allowed
      obtain rfl := edited_nil_iff.mp edited
      exact iff_of_true allowed nofun
    | cons s rest =>
      rw [isString_of_edited edited]
      exact iff_of_false nofun (fun keeps => keeps (.field text))
  · by_cases map : field ∈ mapFields
    · rw [fieldTyped_map_iff map]
      exact isTextMap_iff_of_edited map (fun v found => (typed v found).map map) each allowed edited
    · refine iff_of_true ⟨fun known => absurd known text, fun known => absurd known map⟩ ?_
      rintro ⟨⟩
      · next known => exact text known
      · next known => exact map known

/-- An edit that puts what its field may hold keeps the types, unless its path ends at the metadata
or leads on below a text. -/
theorem typed_iff_of_set (typed : before.MetadataTyped) (printable : FieldPath.Printable path)
    (allowed : (FieldPath.target path).Allows value) (part : path ≠ [.key "metadata"])
    (edited : before.set path value = (after, .ok ())) :
    after.MetadataTyped ↔ ¬ FieldPath.BelowText path := by
  obtain ⟨⟨k, rest, rfl⟩, each⟩ := printable
  by_cases same : k = "metadata"
  · subst same
    cases rest with
    | nil => exact absurd rfl part
    | cons s rest =>
      obtain ⟨field, child, rfl, below, isObject, put⟩ := field_of_edited typed.isObject edited
      rw [typed.put_iff isObject put]
      exact fieldTyped_iff_of_edited (typed.fields field)
        (fun s member => each s (List.mem_cons_of_mem _ (List.mem_cons_of_mem _ member))) allowed
        below
  · -- The path starts beside the metadata, which stays as it was.
    obtain ⟨k', child, key, -, whole⟩ := edited_object_iff.mp (set_eq_ok_iff.mp edited).2
    obtain rfl : k = k' := Step.key.inj key
    obtain rfl : after = ⟨before.entries.put k child⟩ := toJson_inj.mp whole
    have elsewhere : (⟨before.entries.put k child⟩ : Document).get? "metadata" =
        before.get? "metadata" := Entries.get?_put_of_ne _ same _
    refine iff_of_true ⟨?_, ?_⟩ ?_
    · intro metadata found
      exact typed.isObject metadata (elsewhere ▸ found)
    · intro field v found
      refine typed.fields field v ?_
      rwa [metadata?_eq, metadataEntries, elsewhere, ← metadataEntries, ← metadata?_eq] at found
    · rintro ⟨⟩
      · exact same rfl
      · exact same rfl

end Fields

/-! ## Patches -/

section Patches
variable {before after : Document} {patches : List Patch}

theorem typed_iff_of_applyPatch {position : Nat} {p : Patch} {path : Path}
    (typed : before.MetadataTyped) (read : FieldPath.parse p.fieldPath = .ok path)
    (part : path ≠ [.key "metadata"]) (applied : before.applyPatch position p = .ok after) :
    after.MetadataTyped ↔ ¬ FieldPath.BelowText path := by
  obtain ⟨path', value, read', decoded, edited, -⟩ := applyPatch_eq_ok_iff.mp applied
  obtain rfl : path = path' := Except.ok.inj (read.symm.trans read')
  exact typed_iff_of_set typed (FieldPath.printable_of_parse read)
    (decodeValue_eq_ok_iff.mp decoded).2 part edited

/-- Patches keep the types of the metadata if none of them puts the metadata as a whole and none
leads on below a text; a patch that does the latter never keeps them. -/
theorem typed_unless_below_text (typed : before.MetadataTyped)
    (success : applyPatches patches before = .ok after) :
    ((∀ p ∈ patches, ∀ path, FieldPath.parse p.fieldPath = .ok path →
      path ≠ [.key "metadata"] ∧ ¬ FieldPath.BelowText path) → after.MetadataTyped) ∧
    ∀ p path, patches = [p] → FieldPath.parse p.fieldPath = .ok path →
      FieldPath.BelowText path → ¬ after.MetadataTyped := by
  constructor
  · intro paths
    refine applyPatchesFrom_keeps MetadataTyped ?_ success typed
    intro p member position d e applied typed
    obtain ⟨path, value, read, -⟩ := applyPatch_eq_ok_iff.mp applied
    obtain ⟨part, above⟩ := paths p member path read
    exact (typed_iff_of_applyPatch typed read part applied).mpr above
  · rintro p path rfl read below
    obtain ⟨between, applied, done⟩ := applyPatches_cons_iff.mp success
    cases done
    have part : path ≠ [.key "metadata"] := by
      rintro rfl
      cases below
    exact fun kept => (typed_iff_of_applyPatch typed read part applied).mp kept below

end Patches

def nameless : Document := ⟨[("apiVersion", .string "v1"), ("kind", .string "K")]⟩

/-- The document with labels and nothing else in its metadata. -/
def labelled (labels : Entries Json) : Document :=
  ⟨[("apiVersion", .string "v1"), ("kind", .string "K"),
    ("metadata", .object [("labels", .object labels)])]⟩

theorem typed_nameless : nameless.MetadataTyped where
  isObject := nofun
  fields := nofun

/-- One label is put where there are none. -/
theorem typed_unless_below_text_of_label :
    nameless.MetadataTyped ∧
      FieldPath.parse "metadata.labels.tier" =
        .ok [.key "metadata", .key "labels", .key "tier"] ∧
      applyPatches [⟨"metadata.labels.tier", "\"web\""⟩] nameless =
        .ok (labelled [("tier", .string "web")]) ∧
      (labelled [("tier", .string "web")]).MetadataTyped := by
  have read : FieldPath.parse "metadata.labels.tier" =
      .ok [.key "metadata", .key "labels", .key "tier"] := by decide +kernel
  have success : applyPatches [⟨"metadata.labels.tier", "\"web\""⟩] nameless =
      .ok (labelled [("tier", .string "web")]) := rfl
  refine ⟨typed_nameless, read, success, (typed_unless_below_text typed_nameless success).1 ?_⟩
  intro p member path parsed
  obtain rfl := List.mem_singleton.mp member
  obtain rfl := Except.ok.inj (read.symm.trans parsed)
  refine ⟨by decide, ?_⟩
  rintro ⟨⟩
  next known => exact absurd known (by decide)

/-- The points in a label's key split it, so that an object becomes the value of a label. -/
theorem untyped_label :
    nameless.validate = .ok () ∧ nameless.MetadataTyped ∧
      FieldPath.parse "metadata.labels.app.kubernetes.io/name" = .ok
        [.key "metadata", .key "labels", .key "app", .key "kubernetes", .key "io/name"] ∧
      applyPatches [⟨"metadata.labels.app.kubernetes.io/name", "\"w\""⟩] nameless =
        .ok (labelled [("app", .object [("kubernetes", .object [("io/name", .string "w")])])]) ∧
      ¬ (labelled
        [("app", .object [("kubernetes", .object [("io/name", .string "w")])])]).MetadataTyped := by
  refine ⟨rfl, typed_nameless, by decide +kernel, rfl, fun typed => ?_⟩
  have map := (typed.fields "labels" _ rfl).map (by decide)
  exact absurd (map _ List.mem_cons_self) (by decide)

end Document
end ClusterGraph
