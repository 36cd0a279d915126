import ClusterGraph.Json.Basic
import Mathlib.Algebra.Group.Int.Defs

/-!
# The shape of JSON values

How deep the brackets of a value nest, and what is true of a value and of all that is inside it:
that no object repeats a key, and that every number is an integer. What an edit does to this shape
is told entry by entry: an entry that was put is the only new one, and no key comes twice.
-/
namespace ClusterGraph

namespace Entries
variable {α : Type} {entries : Entries α} {key : String} {value : α}

theorem mem_of_get? (found : entries.get? key = some value) : (key, value) ∈ entries := by
  induction entries with
  | nil => cases found
  | cons e rest ih =>
    obtain ⟨k, v⟩ := e
    unfold get? at found
    split at found
    · next same =>
      cases found
      exact same ▸ List.mem_cons_self
    · exact List.mem_cons_of_mem _ (ih found)

theorem mem_of_mem_put {e : String × α} (member : e ∈ entries.put key value) :
    e = (key, value) ∨ e ∈ entries := by
  induction entries with
  | nil => exact .inl (List.mem_singleton.mp member)
  | cons first rest ih =>
    obtain ⟨k, v⟩ := first
    unfold put at member
    split at member
    · next same =>
      rcases List.mem_cons.mp member with rfl | later
      · exact .inl (by rw [same])
      · exact .inr (List.mem_cons_of_mem _ later)
    · rcases List.mem_cons.mp member with rfl | later
      · exact .inr List.mem_cons_self
      · exact (ih later).imp_right (List.mem_cons_of_mem _)

theorem mem_put_self (entries : Entries α) (key : String) (value : α) :
    (key, value) ∈ entries.put key value :=
  mem_of_get? (get?_put_self entries key value)

/-- A key that is not there yet comes last. -/
theorem put_of_not_mem (absent : key ∉ entries.keys) :
    entries.put key value = entries ++ [(key, value)] := by
  induction entries with
  | nil => rfl
  | cons e rest ih =>
    obtain ⟨k, v⟩ := e
    have different : k ≠ key := fun same => absent (same ▸ List.mem_cons_self)
    unfold put
    rw [if_neg different, ih fun member => absent (List.mem_cons_of_mem k member)]
    rfl

theorem put_put (entries : Entries α) (key : String) (first last : α) :
    (entries.put key first).put key last = entries.put key last := by
  induction entries with
  | nil => simp [put]
  | cons e rest ih =>
    obtain ⟨k, v⟩ := e
    by_cases same : k = key
    · simp [put, same]
    · simp [put, same, ih]

theorem put_of_get? (found : entries.get? key = some value) : entries.put key value = entries := by
  induction entries with
  | nil => cases found
  | cons e rest ih =>
    obtain ⟨k, v⟩ := e
    by_cases same : k = key
    · simp only [get?, same, if_true, Option.some.injEq] at found
      simp [put, same, found]
    · simp only [get?, same, if_false] at found
      simp [put, same, ih found]

/-- Two keys that are both new come in the order in which they were put. -/
theorem put_comm_perm (entries : Entries α) {other : String} (different : key ≠ other)
    (value more : α) :
    ((entries.put key value).put other more).Perm ((entries.put other more).put key value) := by
  induction entries with
  | nil =>
    simp only [put, if_neg different, if_neg different.symm]
    exact .swap _ _ _
  | cons e rest ih =>
    obtain ⟨k, v⟩ := e
    by_cases first : k = key
    · simp [put, first, different]
    · by_cases second : k = other
      · simp [put, second, different.symm]
      · simp only [put, if_neg first, if_neg second]
        exact ih.cons _

theorem nodup_keys_put (distinct : entries.keys.Nodup) : (entries.put key value).keys.Nodup := by
  rw [keys_put]
  split
  · exact distinct
  · next absent =>
    refine List.nodup_append.mpr ⟨distinct, by simp, ?_⟩
    rintro k member k' singleton rfl
    exact absent (List.mem_singleton.mp singleton ▸ member)

/-! ### Entries put one after another -/

theorem mem_of_mem_foldl_put (more entries : Entries α) {e : String × α}
    (member : e ∈ more.foldl (fun acc e => acc.put e.1 e.2) entries) :
    e ∈ more ∨ e ∈ entries := by
  induction more generalizing entries with
  | nil => exact .inr member
  | cons first rest ih =>
    rcases ih _ member with later | here
    · exact .inl (List.mem_cons_of_mem first later)
    · rcases mem_of_mem_put here with rfl | before
      · exact .inl List.mem_cons_self
      · exact .inr before

theorem nodup_keys_foldl_put (more entries : Entries α) (distinct : entries.keys.Nodup) :
    (more.foldl (fun acc e => acc.put e.1 e.2) entries).keys.Nodup := by
  induction more generalizing entries with
  | nil => exact distinct
  | cons first rest ih => exact ih _ (nodup_keys_put distinct)

theorem foldl_put_of_distinct (more entries : Entries α) (distinct : (entries ++ more).keys.Nodup) :
    more.foldl (fun acc e => acc.put e.1 e.2) entries = entries ++ more := by
  induction more generalizing entries with
  | nil => exact (List.append_nil entries).symm
  | cons first rest ih =>
    obtain ⟨key, value⟩ := first
    have together : entries ++ (key, value) :: rest = entries ++ [(key, value)] ++ rest := by simp
    have absent : key ∉ entries.keys := by
      intro member
      simp only [keys, List.map_append, List.map_cons, List.nodup_append] at distinct
      exact distinct.2.2 key member key List.mem_cons_self rfl
    rw [List.foldl_cons, put_of_not_mem absent, together]
    exact ih _ (together ▸ distinct)

/-- Only entries that were put are there. -/
theorem mem_of_mem_collect {e : String × α} (member : e ∈ collect entries) : e ∈ entries := by
  rcases mem_of_mem_foldl_put entries [] member with put | none
  · exact put
  · cases none

theorem nodup_keys_collect (entries : Entries α) : (collect entries).keys.Nodup :=
  nodup_keys_foldl_put entries [] List.nodup_nil

/-- Entries with distinct keys stay as they are. -/
theorem collect_of_distinct (distinct : entries.keys.Nodup) : collect entries = entries :=
  foldl_put_of_distinct entries [] distinct

end Entries

namespace Json

/-! ## Nesting -/

mutual
def nesting : Json → Nat
  | array items => nestingOfItems items + 1
  | object entries => nestingOfEntries entries + 1
  | _ => 0

def nestingOfItems : List Json → Nat
  | [] => 0
  | v :: rest => max (nesting v) (nestingOfItems rest)

def nestingOfEntries : List (String × Json) → Nat
  | [] => 0
  | (_, v) :: rest => max (nesting v) (nestingOfEntries rest)
end

theorem nestingOfItems_le_iff (items : List Json) (n : Nat) :
    nestingOfItems items ≤ n ↔ ∀ v ∈ items, v.nesting ≤ n := by
  induction items with
  | nil => simp [nestingOfItems]
  | cons v rest ih =>
    unfold nestingOfItems
    rw [Nat.max_le, ih, List.forall_mem_cons]

theorem nestingOfEntries_le_iff (entries : List (String × Json)) (n : Nat) :
    nestingOfEntries entries ≤ n ↔ ∀ e ∈ entries, e.2.nesting ≤ n := by
  induction entries with
  | nil => simp [nestingOfEntries]
  | cons e rest ih =>
    obtain ⟨key, v⟩ := e
    unfold nestingOfEntries
    rw [Nat.max_le, ih, List.forall_mem_cons]

theorem nesting_le_of_mem_items {items : List Json} {v : Json} (member : v ∈ items) :
    v.nesting ≤ nestingOfItems items :=
  (nestingOfItems_le_iff items _).mp (Nat.le_refl _) v member

theorem nesting_le_of_mem_entries {entries : List (String × Json)} {e : String × Json}
    (member : e ∈ entries) : e.2.nesting ≤ nestingOfEntries entries :=
  (nestingOfEntries_le_iff entries _).mp (Nat.le_refl _) e member

/-! ## Tests of all that is inside -/

mutual
/-- A value passes a test, and so does every value inside it. -/
def everywhere (test : Json → Bool) : Json → Bool
  | array items => test (array items) && everywhereInItems test items
  | object entries => test (object entries) && everywhereInEntries test entries
  | v => test v

@[inherit_doc everywhere]
def everywhereInItems (test : Json → Bool) : List Json → Bool
  | [] => true
  | v :: rest => everywhere test v && everywhereInItems test rest

@[inherit_doc everywhere]
def everywhereInEntries (test : Json → Bool) : List (String × Json) → Bool
  | [] => true
  | (_, v) :: rest => everywhere test v && everywhereInEntries test rest
end

section Everywhere
variable {test : Json → Bool}

theorem everywhereInItems_iff (items : List Json) :
    everywhereInItems test items = true ↔ ∀ v ∈ items, v.everywhere test = true := by
  induction items with
  | nil => simp [everywhereInItems]
  | cons v rest ih => simp [everywhereInItems, ih]

theorem everywhereInEntries_iff (entries : List (String × Json)) :
    everywhereInEntries test entries = true ↔ ∀ e ∈ entries, e.2.everywhere test = true := by
  induction entries with
  | nil => simp [everywhereInEntries]
  | cons e rest ih => simp [everywhereInEntries, ih]

theorem everywhere_array_iff (items : List Json) :
    (array items).everywhere test = true ↔
      test (array items) = true ∧ ∀ v ∈ items, v.everywhere test = true := by
  simp [everywhere, everywhereInItems_iff]

theorem everywhere_object_iff (entries : List (String × Json)) :
    (object entries).everywhere test = true ↔
      test (object entries) = true ∧ ∀ e ∈ entries, e.2.everywhere test = true := by
  simp [everywhere, everywhereInEntries_iff]

end Everywhere

/-- No two entries of an object have the same key. -/
def keysDiffer : Json → Bool
  | object entries => decide (Entries.keys entries).Nodup
  | _ => true

/-- A number is an integer of the signed or the unsigned 64-bit range. -/
def isWhole : Json → Bool
  | number (.integer n) => decide (-2 ^ 63 ≤ n ∧ n < 2 ^ 64)
  | number (.double _ _) => false
  | _ => true

end Json
end ClusterGraph
