import ClusterGraph.Proofs.Document.Assignment
import ClusterGraph.Proofs.Document.Metadata

/-!
# What an edit makes of a document

`Json.Edited` is an edit that succeeds, step by step and without the written forms of the paths that
only errors need. It relates each document to at most one (`Json.Edited.unique`), and it is what
putting a value at a path does (`Document.set_eq_ok_iff`).

Whether an edited document keeps the shape that every document has is up to the path and the value
alone (`Document.validate_of_edited`).
-/
namespace ClusterGraph

def Step.isKey : Step → Bool
  | .key _ => true
  | .index _ => false

namespace Json

/-- A value is put at a path: each step of the path is admitted, and what the edit makes of the value
below the step is put in that value's place. -/
inductive Edited (value : Json) : Path → Json → Json → Prop where
  | here (before : Json) : Edited value [] before value
  | step {s : Step} {rest : Path} {before child : Json} (admits : Admits (some before) s)
      (inside : Edited value rest ((at? [s] before).getD null) child) :
      Edited value (s :: rest) before (placed s child before)

section Edits
variable {s : Step} {path rest : Path} {value before after other : Json}

theorem edited_nil_iff : Edited value [] before after ↔ after = value := by
  constructor
  · rintro ⟨⟩
    rfl
  · rintro rfl
    exact .here before

theorem edited_cons_iff : Edited value (s :: rest) before after ↔
    Admits (some before) s ∧ ∃ child, Edited value rest ((at? [s] before).getD null) child ∧
      after = placed s child before := by
  constructor
  · rintro ⟨⟩
    next child admits inside => exact ⟨admits, child, inside, rfl⟩
  · rintro ⟨admits, child, inside, rfl⟩
    exact .step admits inside

theorem edited_iff (place : String) : Edited value path before after ↔
    assign value place path before = (after, .ok ()) := by
  induction path generalizing before after place with
  | nil => rw [edited_nil_iff, assign, Prod.mk.injEq, eq_comm, eq_self, and_true]
  | cons s rest ih =>
    rw [edited_cons_iff]
    by_cases admits : Admits (some before) s
    · rw [assign_of_admits admits, Prod.mk.injEq]
      constructor
      · rintro ⟨-, child, inside, rfl⟩
        rw [(ih _).mp inside]
        exact ⟨rfl, rfl⟩
      · rintro ⟨rfl, done⟩
        exact ⟨admits, _, (ih _).mpr (Prod.ext rfl done), rfl⟩
    · rw [assign_of_not_admits admits]
      constructor
      · exact fun edited => absurd edited.1 admits
      · intro success
        cases success

theorem Edited.unique (one : Edited value path before after)
    (two : Edited value path before other) : after = other := by
  have same := (edited_iff "").mp one
  rw [(edited_iff "").mp two] at same
  exact (Prod.mk.inj same).1.symm

/-- An edit of an object puts a value under the key that its path starts with. -/
theorem edited_object_iff {entries : Entries Json} :
    Edited value (s :: rest) (.object entries) after ↔ ∃ k child, s = .key k ∧
      Edited value rest ((entries.get? k).getD null) child ∧ after = .object (entries.put k child) := by
  have below (k : String) : at? [.key k] (.object entries) = entries.get? k := by
    cases found : entries.get? k <;> simp [at?, found]
  rw [edited_cons_iff]
  constructor
  · rintro ⟨admits, child, inside, rfl⟩
    cases s with
    | index i => exact admits.elim
    | key k =>
      rw [below] at inside
      exact ⟨k, child, rfl, inside, rfl⟩
  · rintro ⟨k, child, rfl, inside, rfl⟩
    rw [below]
    exact ⟨trivial, child, inside, rfl⟩

/-- Below null an edit does what it does below an object without entries. -/
theorem edited_null_iff :
    Edited value (s :: rest) null after ↔ Edited value (s :: rest) (.object []) after := by
  rw [edited_cons_iff, edited_cons_iff]
  cases s with
  | key k => exact Iff.rfl
  | index i => exact ⟨fun edited => edited.1.elim, fun edited => edited.1.elim⟩

theorem isString_placed (admits : Admits (some before) s) (child : Json) :
    (placed s child before).isString = false := by
  rcases admits.cases with ⟨k, rfl, rfl⟩ | ⟨k, entries, rfl, rfl⟩ | ⟨i, items, rfl, rfl, -⟩ <;> rfl

/-- A value that a step leads through is an object or an array, as the step has it. -/
theorem isObject_placed (admits : Admits (some before) s) (child : Json) :
    (placed s child before).isObject = s.isKey := by
  rcases admits.cases with ⟨k, rfl, rfl⟩ | ⟨k, entries, rfl, rfl⟩ | ⟨i, items, rfl, rfl, -⟩ <;> rfl

/-- Whether an edit makes a text or an object does not depend on what it is made of. -/
theorem Edited.same_kind {start result : Json} (one : Edited value path before after)
    (two : Edited value path start result) :
    after.isString = result.isString ∧ after.isObject = result.isObject := by
  cases path with
  | nil =>
    rw [edited_nil_iff.mp one, edited_nil_iff.mp two]
    exact ⟨rfl, rfl⟩
  | cons s rest =>
    obtain ⟨admits, child, -, rfl⟩ := edited_cons_iff.mp one
    obtain ⟨admits', child', -, rfl⟩ := edited_cons_iff.mp two
    rw [isString_placed admits, isString_placed admits', isObject_placed admits,
      isObject_placed admits']
    exact ⟨rfl, rfl⟩

end Edits
end Json

namespace Document
open Json (Edited edited_object_iff)

variable {d e after result : Document} {path : Path} {value : Json}

theorem toJson_inj : d.toJson = e.toJson ↔ d = e :=
  ⟨fun same => congrArg Document.mk (Json.object.inj same), congrArg toJson⟩

theorem set_eq_ok_iff : d.set path value = (after, .ok ()) ↔
    path ≠ [] ∧ Edited value path d.toJson after.toJson := by
  cases path with
  | nil => simp [set]
  | cons s rest =>
    rw [toJson, edited_object_iff]
    simp only [ne_eq, reduceCtorEq, not_false_eq_true, true_and]
    cases s with
    | index i => simp [set]
    | key k =>
      constructor
      · intro success
        obtain ⟨rfl, done⟩ := Prod.mk.inj success
        exact ⟨k, _, rfl, (Json.edited_iff k).mpr (Prod.ext rfl done), rfl⟩
      · rintro ⟨k, child, ⟨⟩, inside, same⟩
        obtain rfl : after = ⟨d.entries.put k child⟩ := toJson_inj.mp same
        simp only [set, (Json.edited_iff k).mp inside]

/-- What an edit makes of a document is a document. -/
theorem exists_of_edited {v : Json} (some_ : path ≠ []) (edited : Edited value path d.toJson v) :
    ∃ after : Document, d.set path value = (after, .ok ()) ∧ v = after.toJson := by
  cases path with
  | nil => exact absurd rfl some_
  | cons s rest =>
    obtain ⟨k, child, -, -, rfl⟩ := edited_object_iff.mp edited
    exact ⟨⟨d.entries.put k child⟩, set_eq_ok_iff.mpr ⟨some_, edited⟩, rfl⟩

theorem hasText_put (field k : String) (child : Json) :
    (⟨d.entries.put k child⟩ : Document).HasText field ↔
      if field = k then child.isString = true else d.HasText field := by
  unfold HasText get?
  split
  · next same => simp [same]
  · next other => rw [Entries.get?_put_of_ne _ (Ne.symm other)]

theorem metadataIsObject_put (k : String) (child : Json) :
    (⟨d.entries.put k child⟩ : Document).MetadataIsObject ↔
      if "metadata" = k then child.isObject = true else d.MetadataIsObject := by
  unfold MetadataIsObject get?
  split
  · next same => simp [← same]
  · next other => rw [Entries.get?_put_of_ne _ (Ne.symm other)]

/-- If an edit keeps the shape of one document, the same edit keeps the shape of every other. -/
theorem validate_of_edited (valid : e.validate = .ok ())
    (one : d.set path value = (after, .ok ())) (kept : after.validate = .ok ())
    (two : e.set path value = (result, .ok ())) : result.validate = .ok () := by
  obtain ⟨some_, edited⟩ := set_eq_ok_iff.mp one
  obtain ⟨-, edited'⟩ := set_eq_ok_iff.mp two
  cases path with
  | nil => exact absurd rfl some_
  | cons s rest =>
    obtain ⟨k, child, rfl, inside, same⟩ := edited_object_iff.mp edited
    obtain ⟨k, child', ⟨⟩, inside', same'⟩ := edited_object_iff.mp edited'
    obtain rfl : after = ⟨d.entries.put k child⟩ := toJson_inj.mp same
    obtain rfl : result = ⟨e.entries.put k child'⟩ := toJson_inj.mp same'
    obtain ⟨text, object⟩ := inside.same_kind inside'
    rw [validate_iff, hasText_put, hasText_put, metadataIsObject_put] at kept ⊢
    rw [validate_iff] at valid
    rw [← text, ← object]
    refine ⟨?_, ?_, ?_⟩
    · split
      · next here => simpa [here] using kept.1
      · exact valid.1
    · split
      · next here => simpa [here] using kept.2.1
      · exact valid.2.1
    · split
      · next here => simpa [here] using kept.2.2
      · exact valid.2.2

end Document
end ClusterGraph
