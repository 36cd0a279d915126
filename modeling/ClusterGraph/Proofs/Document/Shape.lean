import ClusterGraph.Proofs.Document.Batch
import ClusterGraph.Proofs.Json.RoundTrip

/-!
# What edits do to the shape of a document

No edit makes an object repeat a key. An edit that puts a value at a path makes a document nest no
deeper than it did, or than the path and the value together, and once the value is in its place the
document nests at least that deep. A batch of patches is followed patch by patch.
-/
namespace ClusterGraph

open Json (keysDiffer nestingOfItems nestingOfEntries nestingOfItems_le_iff nestingOfEntries_le_iff
  nesting_le_of_mem_items nesting_le_of_mem_entries everywhere_array_iff everywhere_object_iff)

/-! ## Putting one entry or one item -/

namespace Json
variable {entries : List (String × Json)} {items : List Json} {k : String} {i : Nat} {child : Json}

theorem nesting_put_le {n : Nat} (before : (object entries).nesting ≤ n)
    (fits : child.nesting + 1 ≤ n) : (object (Entries.put entries k child)).nesting ≤ n := by
  obtain ⟨m, rfl⟩ : ∃ m, n = m + 1 := ⟨n - 1, by omega⟩
  rw [nesting] at before ⊢
  refine Nat.succ_le_succ ((nestingOfEntries_le_iff _ _).mpr ?_)
  intro e member
  rcases Entries.mem_of_mem_put member with rfl | old
  · exact Nat.le_of_succ_le_succ fits
  · exact (nestingOfEntries_le_iff _ _).mp (Nat.le_of_succ_le_succ before) e old

theorem le_nesting_put (entries : List (String × Json)) (k : String) (child : Json) :
    child.nesting + 1 ≤ (object (Entries.put entries k child)).nesting := by
  rw [nesting]
  exact Nat.succ_le_succ (nesting_le_of_mem_entries (Entries.mem_put_self entries k child))

/-- What stands under a key, or null, nests less than the object. -/
theorem nesting_get? (entries : List (String × Json)) (k : String) :
    ((Entries.get? entries k).getD null).nesting + 1 ≤ (object entries).nesting := by
  rw [nesting]
  refine Nat.succ_le_succ ?_
  cases found : Entries.get? entries k with
  | none => exact Nat.zero_le _
  | some v => exact nesting_le_of_mem_entries (Entries.mem_of_get? found)

theorem keysDiffer_put (before : (object entries).everywhere keysDiffer = true)
    (new : child.everywhere keysDiffer = true) :
    (object (Entries.put entries k child)).everywhere keysDiffer = true := by
  obtain ⟨distinct, each⟩ := (everywhere_object_iff entries).mp before
  refine (everywhere_object_iff _).mpr
    ⟨decide_eq_true (Entries.nodup_keys_put (of_decide_eq_true distinct)), ?_⟩
  intro e member
  rcases Entries.mem_of_mem_put member with rfl | old
  · exact new
  · exact each e old

theorem keysDiffer_get? (before : (object entries).everywhere keysDiffer = true) (k : String) :
    ((Entries.get? entries k).getD null).everywhere keysDiffer = true := by
  cases found : Entries.get? entries k with
  | none => rfl
  | some v => exact ((everywhere_object_iff entries).mp before).2 _ (Entries.mem_of_get? found)

theorem mem_of_mem_putItem {v : Json}
    (member : v ∈ if i = items.length then items ++ [child] else items.set i child) :
    v = child ∨ v ∈ items := by
  split at member
  · rcases List.mem_append.mp member with old | new
    · exact .inr old
    · exact .inl (List.mem_singleton.mp new)
  · exact (List.mem_or_eq_of_mem_set member).symm

theorem mem_putItem_self (within : ¬ items.length < i) :
    child ∈ if i = items.length then items ++ [child] else items.set i child := by
  split
  · exact List.mem_append_right items List.mem_cons_self
  · next other => exact List.mem_set (by omega) child

theorem nesting_putItem_le {n : Nat} (before : (array items).nesting ≤ n)
    (fits : child.nesting + 1 ≤ n) :
    (array (if i = items.length then items ++ [child] else items.set i child)).nesting ≤ n := by
  obtain ⟨m, rfl⟩ : ∃ m, n = m + 1 := ⟨n - 1, by omega⟩
  rw [nesting] at before ⊢
  refine Nat.succ_le_succ ((nestingOfItems_le_iff _ _).mpr ?_)
  intro v member
  rcases mem_of_mem_putItem member with rfl | old
  · exact Nat.le_of_succ_le_succ fits
  · exact (nestingOfItems_le_iff _ _).mp (Nat.le_of_succ_le_succ before) v old

theorem nesting_item (items : List Json) (i : Nat) :
    (items[i]?.getD null).nesting + 1 ≤ (array items).nesting := by
  rw [nesting]
  refine Nat.succ_le_succ ?_
  cases found : items[i]? with
  | none => exact Nat.zero_le _
  | some v => exact nesting_le_of_mem_items (List.mem_of_getElem? found)

theorem keysDiffer_putItem (before : (array items).everywhere keysDiffer = true)
    (new : child.everywhere keysDiffer = true) :
    (array (if i = items.length then items ++ [child] else items.set i child)).everywhere keysDiffer
      = true := by
  refine (everywhere_array_iff _).mpr ⟨rfl, ?_⟩
  intro v member
  rcases mem_of_mem_putItem member with rfl | old
  · exact new
  · exact ((everywhere_array_iff items).mp before).2 v old

theorem keysDiffer_item (before : (array items).everywhere keysDiffer = true) (i : Nat) :
    (items[i]?.getD null).everywhere keysDiffer = true := by
  cases found : items[i]? with
  | none => rfl
  | some v => exact ((everywhere_array_iff items).mp before).2 v (List.mem_of_getElem? found)

/-! ## Putting a value at a path -/

theorem keysDiffer_assign {value : Json} (new : value.everywhere keysDiffer = true)
    (place : String) (path : Path) (slot : Json) (before : slot.everywhere keysDiffer = true) :
    (assign value place path slot).1.everywhere keysDiffer = true := by
  fun_induction assign value place path slot with
  | case1 => exact new
  | case2 place k rest child outcome below ih =>
    rw [below] at ih
    have none : (object []).everywhere keysDiffer = true := rfl
    exact keysDiffer_put none (ih rfl)
  | case3 place k rest entries child outcome below ih =>
    rw [below] at ih
    exact keysDiffer_put before (ih (keysDiffer_get? before k))
  | case4 => exact before
  | case5 => exact before
  | case6 place i rest items within child outcome below ih =>
    rw [below] at ih
    exact keysDiffer_putItem before (ih (keysDiffer_item before i))
  | case7 => exact before

/-- Putting a value makes nothing nest deeper than it did, or than the path and the value
together. -/
theorem nesting_assign_le {value : Json} {n : Nat} (place : String) (path : Path) (slot : Json)
    (before : slot.nesting ≤ n) (fits : path.length + value.nesting ≤ n) :
    (assign value place path slot).1.nesting ≤ n := by
  -- Below a step everything nests one level less, so the bound goes down along the path.
  fun_induction assign value place path slot generalizing n with
  | case1 => rwa [List.length_nil, Nat.zero_add] at fits
  | case2 place k rest child outcome below ih =>
    rw [List.length_cons] at fits
    rw [below] at ih
    have shallow : child.nesting ≤ n - 1 := ih (Nat.zero_le _) (by omega)
    have none : (object []).nesting ≤ n := show 1 ≤ n by omega
    exact nesting_put_le none (by omega)
  | case3 place k rest entries child outcome below ih =>
    rw [List.length_cons] at fits
    have slot := nesting_get? entries k
    rw [below] at ih
    have shallow : child.nesting ≤ n - 1 := ih (by omega) (by omega)
    exact nesting_put_le before (by omega)
  | case4 => exact before
  | case5 => exact before
  | case6 place i rest items within child outcome below ih =>
    rw [List.length_cons] at fits
    have slot := nesting_item items i
    rw [below] at ih
    have shallow : child.nesting ≤ n - 1 := ih (by omega) (by omega)
    exact nesting_putItem_le before (by omega)
  | case7 => exact before

/-- A value that was put at a path is inside as many brackets as the path has steps. -/
theorem le_nesting_assign {value : Json} (place : String) (path : Path) (slot : Json)
    (success : (assign value place path slot).2 = .ok ()) :
    path.length + value.nesting ≤ (assign value place path slot).1.nesting := by
  fun_induction assign value place path slot with
  | case1 => exact Nat.le_of_eq (Nat.zero_add _)
  | case2 place k rest child outcome below ih =>
    rw [below] at ih
    have inside := le_nesting_put [] k child
    have deep : rest.length + value.nesting ≤ child.nesting := ih success
    rw [List.length_cons]
    exact Nat.le_trans (by omega) inside
  | case3 place k rest entries child outcome below ih =>
    rw [below] at ih
    have inside := le_nesting_put entries k child
    have deep : rest.length + value.nesting ≤ child.nesting := ih success
    rw [List.length_cons]
    exact Nat.le_trans (by omega) inside
  | case4 => cases success
  | case5 => cases success
  | case6 place i rest items within child outcome below ih =>
    rw [below] at ih
    have member : child ∈ if i = items.length then items ++ [child] else items.set i child :=
      mem_putItem_self within
    have inside := nesting_le_of_mem_items member
    have deep : rest.length + value.nesting ≤ child.nesting := ih success
    rw [List.length_cons, nesting]
    omega
  | case7 => cases success

end Json

/-! ## Patches -/

namespace Document

/-- What an edit with the outcome success did: it put a value below the field that its path starts
with. -/
theorem set_ok {d after : Document} {path : Path} {value : Json}
    (success : d.set path value = (after, .ok ())) :
    ∃ k rest, path = .key k :: rest ∧
      (Json.assign value k rest ((d.entries.get? k).getD .null)).2 = .ok () ∧
      after = ⟨d.entries.put k (Json.assign value k rest ((d.entries.get? k).getD .null)).1⟩ := by
  unfold set at success
  split at success
  · cases success
  · cases success
  · next k rest =>
    obtain ⟨rfl, outcome⟩ := Prod.mk.inj success
    exact ⟨k, rest, rfl, outcome, rfl⟩

/-- What a patch that could be applied did. -/
theorem applyPatch_ok {before after : Document} {position : Nat} {p : Patch}
    (success : before.applyPatch position p = .ok after) :
    ∃ path value, FieldPath.parse p.fieldPath = .ok path ∧ Json.parse p.value = .ok value ∧
      before.set path value = (after, .ok ()) := by
  obtain ⟨path, value, read, decoded, edited, -⟩ := applyPatch_eq_ok_iff.mp success
  exact ⟨path, value, read, (decodeValue_eq_ok_iff.mp decoded).1, edited⟩

end Document

/-- How many levels a patch makes a document nest: one for each step of its path, and those of its
payload. Zero if one of the two cannot be read. -/
def Patch.reach (p : Patch) : Nat :=
  match FieldPath.parse p.fieldPath, Json.parse p.value with
  | .ok path, .ok value => path.length + value.nesting
  | _, _ => 0

theorem Patch.reach_eq {p : Patch} {path : Path} {value : Json}
    (read : FieldPath.parse p.fieldPath = .ok path) (payload : Json.parse p.value = .ok value) :
    p.reach = path.length + value.nesting := by
  unfold reach
  rw [read, payload]

namespace Document
variable {before after : Document} {position : Nat} {p : Patch}

/-- A patch of a field that may hold anything can be applied if its payload can be put there. -/
theorem applyPatch_of_free {path : Path} {value : Json}
    (read : FieldPath.parse p.fieldPath = .ok path) (payload : Json.parse p.value = .ok value)
    (free : FieldPath.target path = .any) (edited : before.set path value = (after, .ok ()))
    (valid : after.validate = .ok ()) : before.applyPatch position p = .ok after := by
  have decoded : decodeValue p.value (FieldPath.target path) = .ok value := by
    rw [free]
    exact decodeValue_eq_ok_iff.mpr ⟨payload, trivial⟩
  exact applyPatch_eq_ok_iff.mpr ⟨path, value, read, decoded, edited, valid⟩

/-- A patch makes no object repeat a key. -/
theorem keysDiffer_applyPatch (success : before.applyPatch position p = .ok after)
    (differ : before.toJson.everywhere keysDiffer = true) :
    after.toJson.everywhere keysDiffer = true := by
  obtain ⟨path, value, -, payload, edited⟩ := applyPatch_ok success
  obtain ⟨k, rest, rfl, -, rfl⟩ := set_ok edited
  have new := (Json.legible_of_parse payload).keys
  exact Json.keysDiffer_put differ
    (Json.keysDiffer_assign new k rest _ (Json.keysDiffer_get? differ k))

/-- A patched document nests no deeper than it did, or than the patch reaches. -/
theorem nesting_applyPatch_le (success : before.applyPatch position p = .ok after) {n : Nat}
    (shallow : before.toJson.nesting ≤ n) (reach : p.reach ≤ n) : after.toJson.nesting ≤ n := by
  obtain ⟨path, value, read, payload, edited⟩ := applyPatch_ok success
  obtain ⟨k, rest, rfl, -, rfl⟩ := set_ok edited
  have slot := Json.nesting_get? before.entries k
  have levels : (Json.object before.entries).nesting ≤ n := shallow
  rw [Patch.reach_eq read payload, List.length_cons] at reach
  have room : rest.length + value.nesting ≤ n - 1 := by omega
  have child := Json.nesting_assign_le k rest ((before.entries.get? k).getD .null) (by omega) room
  exact Json.nesting_put_le shallow (by omega)

/-- A patched document nests as deep as the patch reaches. -/
theorem reach_le_nesting_applyPatch (success : before.applyPatch position p = .ok after) :
    p.reach ≤ after.toJson.nesting := by
  obtain ⟨path, value, read, payload, edited⟩ := applyPatch_ok success
  obtain ⟨k, rest, rfl, assigned, rfl⟩ := set_ok edited
  have deep := Json.le_nesting_assign k rest _ assigned
  rw [Patch.reach_eq read payload, List.length_cons]
  exact Nat.le_trans (by omega) (Json.le_nesting_put before.entries k _)

/-! ## Prepared documents -/

/-- A document is prepared by reading a text and applying the patches to it. -/
theorem prepare_ok {raw : String} {patches : List Patch} {d : Document}
    (success : prepare raw patches = .ok d) :
    ∃ read, parse raw = .ok read ∧ applyPatchesFrom 0 patches read = .ok d := by
  unfold prepare at success
  split at success
  · cases success
  · next read parsed => exact ⟨read, parsed, success⟩

/-- A document that was read is legible. -/
theorem legible_of_parse {raw : String} {d : Document} (success : parse raw = .ok d) :
    Json.Legible Json.depthLimit d.toJson := by
  unfold parse ofGlyphs at success
  split at success
  · next v read =>
    obtain rfl : v = d.toJson := by
      unfold ofJson at success
      split at success
      · obtain ⟨-, -, done⟩ := Json.ok_of_bind success
        cases done
        rfl
      · cases success
    exact Json.legible_of_parse read
  · cases success

variable {raw : String} {patches : List Patch} {d : Document}

theorem keysDiffer_of_prepare (success : prepare raw patches = .ok d) :
    d.toJson.everywhere keysDiffer = true := by
  obtain ⟨read, parsed, patched⟩ := prepare_ok success
  exact applyPatchesFrom_keeps (fun d => d.toJson.everywhere keysDiffer = true)
    (fun _ _ _ _ _ => keysDiffer_applyPatch) patched (legible_of_parse parsed).keys

theorem nesting_le_of_prepare (success : prepare raw patches = .ok d) {n : Nat} (limit : 127 ≤ n)
    (reach : ∀ p ∈ patches, p.reach ≤ n) : d.toJson.nesting ≤ n := by
  obtain ⟨read, parsed, patched⟩ := prepare_ok success
  exact applyPatchesFrom_keeps (fun d => d.toJson.nesting ≤ n)
    (fun p member _ _ _ applied shallow => nesting_applyPatch_le applied shallow (reach p member))
    patched (Nat.le_trans (legible_of_parse parsed).fits limit)

theorem reach_le_nesting_of_prepare {earlier : List Patch}
    (success : prepare raw (earlier ++ [p]) = .ok d) : p.reach ≤ d.toJson.nesting := by
  obtain ⟨read, -, patched⟩ := prepare_ok success
  obtain ⟨position, between, applied⟩ := applyPatchesFrom_last patched
  exact reach_le_nesting_applyPatch applied

end Document
end ClusterGraph
