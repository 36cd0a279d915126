import ClusterGraph.Proofs.Document.Effect
import Mathlib.Data.List.Forall2

/-!
# Patches one after another

* A patch undoes the patch just before it if that one put something at or below its own path: the
  batch gives the same document without it, keys in the same order
  (`Document.last_writer_wins`).
* Two patches whose paths part at two keys can be applied in either order or in neither, and the
  results differ at most in the order of keys (`Document.independent_patches_commute`).

Both are shown for edits of values, by induction on the path that the two edits have in common: what
the first makes there, the second finds. Between two patches the document is checked, but whether
it passes is up to the path and the payload of the patch alone.
-/
namespace ClusterGraph

namespace Json

/-! ## The order of keys -/

/-- Values that are equal up to the order of the keys of the objects in them. -/
inductive UpToOrder : Json → Json → Prop where
  | same (v : Json) : UpToOrder v v
  | array {items others : List Json} (each : List.Forall₂ UpToOrder items others) :
      UpToOrder (.array items) (.array others)
  | object {entries moved others : Entries Json} (order : entries.Perm moved)
      (keys : moved.keys = others.keys)
      (values : List.Forall₂ UpToOrder (moved.map Prod.snd) (others.map Prod.snd)) :
      UpToOrder (.object entries) (.object others)

section Order
variable {v w : Json}

theorem UpToOrder.same_each (vs : List Json) : List.Forall₂ UpToOrder vs vs :=
  List.forall₂_same.mpr fun v _ => .same v

theorem UpToOrder.put_each (alike : UpToOrder v w) (entries : Entries Json) (k : String) :
    List.Forall₂ UpToOrder ((entries.put k v).map Prod.snd) ((entries.put k w).map Prod.snd) := by
  induction entries with
  | nil => exact .cons alike .nil
  | cons e rest ih =>
    unfold Entries.put
    split
    · exact .cons alike (same_each _)
    · exact .cons (.same _) ih

theorem UpToOrder.set_each (alike : UpToOrder v w) (items : List Json) (i : Nat) :
    List.Forall₂ UpToOrder (items.set i v) (items.set i w) := by
  induction items generalizing i with
  | nil => exact .nil
  | cons first rest ih =>
    cases i with
    | zero => exact .cons alike (same_each rest)
    | succ i => exact .cons (.same first) (ih i)

/-- Children that are equal up to order, put below one step. -/
theorem UpToOrder.placed (alike : UpToOrder v w) (s : Step) (slot : Json) :
    UpToOrder (Json.placed s v slot) (Json.placed s w slot) := by
  unfold Json.placed
  split
  · exact .object (.refl _) rfl (.cons alike .nil)
  · exact .object (.refl _) (by rw [Entries.keys_put, Entries.keys_put]) (alike.put_each _ _)
  · split
    · exact .array (List.rel_append (same_each _) (.cons alike .nil))
    · exact .array (alike.set_each _ _)
  · exact .same _

/-- Children put below two keys come in the order of the edits, if both keys are new. -/
theorem placed_comm {a b : String} {slot : Json} (admits : Admits (some slot) (.key a))
    (different : a ≠ b) (v w : Json) :
    UpToOrder (placed (.key b) w (placed (.key a) v slot))
      (placed (.key a) v (placed (.key b) w slot)) := by
  have swapped (entries : Entries Json) : UpToOrder
      (.object ((entries.put a v).put b w)) (.object ((entries.put b w).put a v)) :=
    .object (Entries.put_comm_perm entries different v w) rfl (UpToOrder.same_each _)
  cases slot with
  | null => exact swapped []
  | object entries => exact swapped entries
  | _ => exact admits.elim

end Order

/-! ## Two edits of a value -/

section Edits
variable {path more shared p q : Path} {first last before between after v w x xy : Json}
  {a b : String}

/-- What was put at a path or below it makes no difference to what is put at the path later. -/
theorem Edited.overwrite_iff (earlier : Edited first (path ++ more) before between) :
    Edited last path between after ↔ Edited last path before after := by
  induction path generalizing before between after with
  | nil => rw [edited_nil_iff, edited_nil_iff]
  | cons s rest ih =>
    obtain ⟨admits, child, inside, rfl⟩ := edited_cons_iff.mp earlier
    rw [edited_cons_iff, edited_cons_iff, at?_placed_self admits, Option.getD_some]
    simp only [ih inside, placed_placed admits, admits, admits_placed admits]

/-- Edits whose paths part at two keys can be made in the other order. -/
theorem Edited.comm (different : a ≠ b) (one : Edited v (shared ++ .key a :: p) before x)
    (two : Edited w (shared ++ .key b :: q) x xy) :
    ∃ y yx, Edited w (shared ++ .key b :: q) before y ∧ Edited v (shared ++ .key a :: p) y yx ∧
      UpToOrder xy yx := by
  -- On the shared part either edit makes what is missing and the other one finds it.
  induction shared generalizing before x xy with
  | nil =>
    obtain ⟨admits, child, inside, rfl⟩ := edited_cons_iff.mp one
    obtain ⟨-, other, inside', rfl⟩ := edited_cons_iff.mp two
    have steps : Step.key a ≠ .key b := fun same => different (Step.key.inj same)
    have admits' : Admits (some before) (.key b) := admits.any_key b
    rw [at?_placed_of_ne admits steps] at inside'
    rw [← at?_placed_of_ne admits' steps.symm] at inside
    exact ⟨_, _, .step admits' inside', .step ((admits_placed admits').any_key a) inside,
      placed_comm admits different child other⟩
  | cons s shared ih =>
    obtain ⟨admits, child, inside, rfl⟩ := edited_cons_iff.mp one
    obtain ⟨-, last, inside', rfl⟩ := edited_cons_iff.mp two
    rw [at?_placed_self admits] at inside'
    obtain ⟨y, yx, early, late, alike⟩ := ih inside inside'
    rw [placed_placed admits]
    refine ⟨placed s y before, placed s yx before, .step admits early, ?_, alike.placed s before⟩
    rw [← placed_placed admits y yx]
    refine .step (admits_placed admits) ?_
    rw [at?_placed_self admits]
    exact late

end Edits
end Json

/-! ## Two patches of a document -/

namespace Document
open Json (Edited UpToOrder)

variable {d after : Document} {path : Path}

/-- A patch that puts a value at a path undoes the patch before it, if that one put something at
the path or below it. -/
theorem last_writer_wins {earlier later : List Patch} {overwritten last : Patch} {more : Path}
    (below : FieldPath.parse overwritten.fieldPath = .ok (path ++ more))
    (here : FieldPath.parse last.fieldPath = .ok path)
    (success : applyPatches (earlier ++ [overwritten, last] ++ later) d = .ok after) :
    applyPatches (earlier ++ [last] ++ later) d = .ok after := by
  simp only [applyPatches_append_iff, applyPatches_cons_iff] at success ⊢
  obtain ⟨final, ⟨start, before, between, one, final', two, done⟩, rest⟩ := success
  refine ⟨final, ⟨start, before, final', ?_, done⟩, rest⟩
  obtain ⟨path', first, read, -, edited, -⟩ := applyPatch_eq_ok_iff.mp one
  obtain ⟨path'', value, read', decoded, edited', valid⟩ := applyPatch_eq_ok_iff.mp two
  obtain rfl : path ++ more = path' := Except.ok.inj (below.symm.trans read)
  obtain rfl : path = path'' := Except.ok.inj (here.symm.trans read')
  obtain ⟨some_, overwritten⟩ := set_eq_ok_iff.mp edited'
  have alone := (set_eq_ok_iff.mp edited).2.overwrite_iff.mp overwritten
  exact applyPatch_eq_ok_iff.mpr ⟨path, value, read', decoded,
    set_eq_ok_iff.mpr ⟨some_, alone⟩, valid⟩

/-- A document with a list and a field that is null. -/
def inventory : Document :=
  ⟨[("apiVersion", .string "v1"), ("kind", .string "ConfigMap"),
    ("data", .object [("list", .array [.ofNat 1]), ("note", .null)])]⟩

/-- The document with other items in the list and a note that holds these entries. -/
def noted (items : List Json) (entries : Entries Json) : Document :=
  ⟨[("apiVersion", .string "v1"), ("kind", .string "ConfigMap"),
    ("data", .object [("list", .array items), ("note", .object entries)])]⟩

/-- A patch of a note's author, and one of the author's name before it. -/
theorem last_writer_wins_of_author :
    FieldPath.parse "data.note.author.name" =
        .ok ([.key "data", .key "note", .key "author"] ++ [.key "name"]) ∧
      FieldPath.parse "data.note.author" = .ok [.key "data", .key "note", .key "author"] ∧
      applyPatches ([] ++ [⟨"data.note.author.name", "\"w\""⟩, ⟨"data.note.author", "7"⟩] ++
        [⟨"data.list[1]", "2"⟩]) inventory = .ok (noted [.ofNat 1, .ofNat 2] [("author", .ofNat 7)]) ∧
      applyPatches ([] ++ [⟨"data.note.author", "7"⟩] ++ [⟨"data.list[1]", "2"⟩]) inventory =
        .ok (noted [.ofNat 1, .ofNat 2] [("author", .ofNat 7)]) := by
  have below : FieldPath.parse "data.note.author.name" =
      .ok ([.key "data", .key "note", .key "author"] ++ [.key "name"]) := by decide +kernel
  have here : FieldPath.parse "data.note.author" =
      .ok [.key "data", .key "note", .key "author"] := by decide +kernel
  have success : applyPatches ([] ++ [⟨"data.note.author.name", "\"w\""⟩,
      ⟨"data.note.author", "7"⟩] ++ [⟨"data.list[1]", "2"⟩]) inventory =
        .ok (noted [.ofNat 1, .ofNat 2] [("author", .ofNat 7)]) := rfl
  exact ⟨below, here, success, last_writer_wins below here success⟩

section Independent
variable {p q : Patch} {shared more rest : Path} {a b : String}

/-- Patches whose paths part at two keys can be applied in the other order. -/
theorem applyPatches_swap (valid : d.validate = .ok ())
    (one : FieldPath.parse p.fieldPath = .ok (shared ++ .key a :: more))
    (two : FieldPath.parse q.fieldPath = .ok (shared ++ .key b :: rest)) (different : a ≠ b)
    (success : applyPatches [p, q] d = .ok after) :
    ∃ result, applyPatches [q, p] d = .ok result ∧ UpToOrder after.toJson result.toJson := by
  simp only [applyPatches_cons_iff] at success ⊢
  obtain ⟨x, patched, xy, patched', done⟩ := success
  cases done
  obtain ⟨path, v, read, decoded, edited, validx⟩ := applyPatch_eq_ok_iff.mp patched
  obtain ⟨path', w, read', decoded', edited', validxy⟩ := applyPatch_eq_ok_iff.mp patched'
  obtain rfl : shared ++ .key a :: more = path := Except.ok.inj (one.symm.trans read)
  obtain rfl : shared ++ .key b :: rest = path' := Except.ok.inj (two.symm.trans read')
  obtain ⟨some_, edit⟩ := set_eq_ok_iff.mp edited
  obtain ⟨some_', edit'⟩ := set_eq_ok_iff.mp edited'
  obtain ⟨vy, vyx, early, late, alike⟩ := edit.comm different edit'
  -- A document that passes after one of the patches passes in the other order, too.
  obtain ⟨y, sety, rfl⟩ := exists_of_edited some_' early
  obtain ⟨yx, setyx, rfl⟩ := exists_of_edited some_ late
  have validy := validate_of_edited valid edited' validxy sety
  have validyx := validate_of_edited validy edited validx setyx
  exact ⟨yx, ⟨y, applyPatch_eq_ok_iff.mpr ⟨_, w, two, decoded', sety, validy⟩, yx,
    applyPatch_eq_ok_iff.mpr ⟨_, v, one, decoded, setyx, validyx⟩, rfl⟩, alike⟩

/-- Two patches whose paths part at two keys can be applied to a valid document in either order or
in neither, and the results are equal up to the order of keys. -/
theorem independent_patches_commute (valid : d.validate = .ok ())
    (one : FieldPath.parse p.fieldPath = .ok (shared ++ .key a :: more))
    (two : FieldPath.parse q.fieldPath = .ok (shared ++ .key b :: rest)) (different : a ≠ b) :
    ((∃ x, applyPatches [p, q] d = .ok x) ↔ ∃ y, applyPatches [q, p] d = .ok y) ∧
      ∀ x y, applyPatches [p, q] d = .ok x → applyPatches [q, p] d = .ok y →
        UpToOrder x.toJson y.toJson := by
  refine ⟨⟨?_, ?_⟩, ?_⟩
  · rintro ⟨x, success⟩
    obtain ⟨y, swapped, -⟩ := applyPatches_swap valid one two different success
    exact ⟨y, swapped⟩
  · rintro ⟨y, success⟩
    obtain ⟨x, swapped, -⟩ := applyPatches_swap valid two one different.symm success
    exact ⟨x, swapped⟩
  · intro x y success success'
    obtain ⟨y', swapped, alike⟩ := applyPatches_swap valid one two different success
    obtain rfl : y' = y := Except.ok.inj (swapped.symm.trans success')
    exact alike

end Independent

/-- Two patches that make the same object of a note. -/
theorem independent_patches_commute_of_note :
    inventory.validate = .ok () ∧ "author" ≠ "title" ∧
      FieldPath.parse "data.note.author.name" =
        .ok ([.key "data", .key "note"] ++ .key "author" :: [.key "name"]) ∧
      FieldPath.parse "data.note.title" = .ok ([.key "data", .key "note"] ++ .key "title" :: []) ∧
      applyPatches [⟨"data.note.author.name", "7"⟩, ⟨"data.note.title", "8"⟩] inventory =
        .ok (noted [.ofNat 1] [("author", .object [("name", .ofNat 7)]), ("title", .ofNat 8)]) ∧
      applyPatches [⟨"data.note.title", "8"⟩, ⟨"data.note.author.name", "7"⟩] inventory =
        .ok (noted [.ofNat 1] [("title", .ofNat 8), ("author", .object [("name", .ofNat 7)])]) ∧
      UpToOrder
        (noted [.ofNat 1] [("author", .object [("name", .ofNat 7)]), ("title", .ofNat 8)]).toJson
        (noted [.ofNat 1] [("title", .ofNat 8), ("author", .object [("name", .ofNat 7)])]).toJson := by
  have valid : inventory.validate = .ok () := rfl
  have different : "author" ≠ "title" := by decide
  have one : FieldPath.parse "data.note.author.name" =
      .ok ([.key "data", .key "note"] ++ .key "author" :: [.key "name"]) := by decide +kernel
  have two : FieldPath.parse "data.note.title" =
      .ok ([.key "data", .key "note"] ++ .key "title" :: []) := by decide +kernel
  obtain ⟨-, alike⟩ := independent_patches_commute (p := ⟨"data.note.author.name", "7"⟩)
    (q := ⟨"data.note.title", "8"⟩) valid one two different
  exact ⟨valid, different, one, two, rfl, rfl, alike _ _ rfl rfl⟩

end Document
end ClusterGraph
