import ClusterGraph.Document.Edit
import ClusterGraph.Proofs.Document.Expression
import ClusterGraph.Proofs.Json.Shape

/-!
# Putting a value at a path

* Whether a value can be put at a path is told from the document as it was: the value on the way to
  each step has to admit that step. The first that does not is reported, with the path to it
  (`Document.set_outcome`).
* A value that was put at a path stands there, nothing beside the path changes, and the objects and
  arrays on the way keep their keys and items in order and gain at most one, at their end
  (`Document.set_writes`).

Both are shown for one step and carried along the path. An edit goes on at null where nothing stands
below a step; as nothing stands below null, this cannot be told from what is there.
-/
namespace ClusterGraph

namespace Json

/-! ## Steps -/

/-- A step can be taken in place of what stands there: a key in an object, in null or where there is
nothing, and an index in an array, up to the position after its last. -/
def Admits : Option Json → Step → Prop
  | none, .key _ => True
  | some .null, .key _ => True
  | some (.object _), .key _ => True
  | some (.array items), .index i => i ≤ items.length
  | _, _ => False

/-- The error for what stands at a place and does not admit a step. -/
def obstacle (place : String) : Option Json → Step → PathError
  | _, .key _ => .notAnObject place
  | some (.array items), .index i => .indexOutOfRange place i items.length
  | _, .index _ => .notAnArray place

/-- A value with a child put below a step that it admits. -/
def placed (s : Step) (child : Json) (slot : Json) : Json :=
  match s, slot with
  | .key k, .null => .object [(k, child)]
  | .key k, .object entries => .object (Entries.put entries k child)
  | .index i, .array items =>
    .array (if i = items.length then items ++ [child] else items.set i child)
  | _, slot => slot

/-- What a path goes through before and after a value was put at its end: an object that was made
for a key, an object with its keys in order and then the key if it is new, or an array with its
positions and then one more if the index comes after the last. -/
inductive Grown : Step → Option Json → Option Json → Prop where
  | made {k : String} {child : Json} {before : Option Json}
      (missing : before = none ∨ before = some .null) :
      Grown (.key k) before (some (.object [(k, child)]))
  | object {k : String} {entries more : Entries Json}
      (keys : more.keys = if k ∈ entries.keys then entries.keys else entries.keys ++ [k]) :
      Grown (.key k) (some (.object entries)) (some (.object more))
  | array {i : Nat} {items more : List Json} (within : i ≤ items.length)
      (length : more.length = if i < items.length then items.length else items.length + 1) :
      Grown (.index i) (some (.array items)) (some (.array more))

/-- One value is another with a value put at a path, and nothing else. -/
structure Written (value : Json) (path : Path) (before after : Json) : Prop where
  here : after.at? path = some value
  elsewhere : ∀ q, ¬ q <+: path → ¬ path <+: q → after.at? q = before.at? q
  grown : ∀ u s, u ++ [s] <+: path → Grown s (before.at? u) (after.at? u)

section Steps
variable {s t : Step} {slot child value : Json} {place : String} {path rest u : Path}

@[simp] theorem at?_nil (v : Json) : at? [] v = some v := by
  unfold at?
  rfl

/-- Reading along a path is reading step by step. -/
theorem at?_cons (s : Step) (rest : Path) (v : Json) :
    at? (s :: rest) v = (at? [s] v).bind (at? rest) := by
  cases s with
  | key k =>
    cases v with
    | object entries => cases found : Entries.get? entries k <;> simp [at?, found]
    | _ => rfl
  | index i =>
    cases v with
    | array items => cases found : items[i]? <;> simp [at?, found]
    | _ => rfl

/-- Nothing stands below null. -/
theorem at?_null (some_ : path ≠ []) : at? path null = none := by
  cases path with
  | nil => exact absurd rfl some_
  | cons s rest => cases s <;> rfl

/-- What stands further below a step stands below the value there, or null. -/
theorem at?_cons_of_ne_nil (more : u ≠ []) :
    at? (s :: u) slot = at? u ((at? [s] slot).getD null) := by
  rw [at?_cons]
  cases at? [s] slot with
  | some v => rfl
  | none => exact (at?_null more).symm

/-- At the step itself null may stand for nothing. -/
theorem at?_cons_cases (s : Step) (u : Path) (slot : Json) :
    at? (s :: u) slot = at? u ((at? [s] slot).getD null) ∨
      at? (s :: u) slot = none ∧ at? u ((at? [s] slot).getD null) = some null := by
  cases u with
  | nil => cases found : at? [s] slot <;> simp
  | cons t rest => exact .inl (at?_cons_of_ne_nil nofun)

theorem admits_null_iff : Admits (some null) s ↔ Admits none s := by
  cases s <;> exact Iff.rfl

theorem obstacle_null : obstacle place (some null) s = obstacle place none s := by
  cases s <;> rfl

theorem Grown.of_null {after : Option Json} (grown : Grown s (some null) after) :
    Grown s none after := by
  cases grown with
  | made => exact .made (.inl rfl)

theorem admits_cons_iff :
    Admits (at? (s :: u) slot) t ↔ Admits (at? u ((at? [s] slot).getD null)) t := by
  rcases at?_cons_cases s u slot with same | ⟨nothing, null⟩
  · rw [same]
  · rw [nothing, null]
    exact admits_null_iff.symm

theorem obstacle_cons : obstacle place (at? (s :: u) slot) t =
    obstacle place (at? u ((at? [s] slot).getD null)) t := by
  rcases at?_cons_cases s u slot with same | ⟨nothing, null⟩
  · rw [same]
  · rw [nothing, null]
    exact obstacle_null.symm

theorem Grown.cons {after : Option Json}
    (grown : Grown t (at? u ((at? [s] slot).getD null)) after) :
    Grown t (at? (s :: u) slot) after := by
  rcases at?_cons_cases s u slot with same | ⟨nothing, null⟩
  · rw [same]
    exact grown
  · rw [null] at grown
    rw [nothing]
    exact grown.of_null

/-! ## One step of an edit -/

/-- The three values that admit a step. -/
theorem Admits.cases (admits : Admits (some slot) s) :
    (∃ k, s = .key k ∧ slot = null) ∨ (∃ k entries, s = .key k ∧ slot = object entries) ∨
      ∃ i items, s = .index i ∧ slot = array items ∧ i ≤ items.length := by
  cases s with
  | key k =>
    cases slot with
    | null => exact .inl ⟨k, rfl, rfl⟩
    | object entries => exact .inr (.inl ⟨k, entries, rfl, rfl⟩)
    | _ => exact admits.elim
  | index i =>
    cases slot with
    | array items => exact .inr (.inr ⟨i, items, rfl, rfl, admits⟩)
    | _ => exact admits.elim

/-- An edit takes a step that is admitted and goes on below it. -/
theorem assign_of_admits (admits : Admits (some slot) s) :
    assign value place (s :: rest) slot =
      (placed s (assign value (place ++ s.text) rest ((at? [s] slot).getD null)).1 slot,
        (assign value (place ++ s.text) rest ((at? [s] slot).getD null)).2) := by
  rcases admits.cases with ⟨k, rfl, rfl⟩ | ⟨k, entries, rfl, rfl⟩ | ⟨i, items, rfl, rfl, within⟩
  · rfl
  · cases found : Entries.get? entries k <;> simp [assign, placed, at?, found]
  · have inside : ¬ items.length < i := Nat.not_lt.mpr within
    cases found : items[i]? <;> simp [assign, placed, at?, inside, found]

/-- An edit ends before a step that is not admitted. -/
theorem assign_of_not_admits (refused : ¬ Admits (some slot) s) :
    assign value place (s :: rest) slot = (slot, .error (obstacle place (some slot) s)) := by
  cases s with
  | key k =>
    cases slot with
    | null => exact absurd trivial refused
    | object entries => exact absurd trivial refused
    | _ => rfl
  | index i =>
    cases slot with
    | array items =>
      have beyond : items.length < i := Nat.not_le.mp refused
      simp [assign, obstacle, beyond]
    | _ => rfl

theorem at?_placed_self (admits : Admits (some slot) s) :
    at? [s] (placed s child slot) = some child := by
  rcases admits.cases with ⟨k, rfl, rfl⟩ | ⟨k, entries, rfl, rfl⟩ | ⟨i, items, rfl, rfl, within⟩
  · simp [placed, at?, Entries.get?]
  · simp [placed, at?]
  · by_cases last : i = items.length
    · simp [placed, at?, last]
    · have inside : i < items.length := by omega
      simp [placed, at?, last, inside]

theorem at?_placed_of_ne (admits : Admits (some slot) s) (different : s ≠ t) :
    at? [t] (placed s child slot) = at? [t] slot := by
  rcases admits.cases with ⟨k, rfl, rfl⟩ | ⟨k, entries, rfl, rfl⟩ | ⟨i, items, rfl, rfl, within⟩
  · cases t with
    | index j => rfl
    | key other =>
      have different : k ≠ other := fun same => different (congrArg Step.key same)
      simp [placed, at?, Entries.get?, different]
  · cases t with
    | index j => rfl
    | key other =>
      have different : k ≠ other := fun same => different (congrArg Step.key same)
      simp [placed, at?, Entries.get?_put_of_ne entries different]
  · cases t with
    | key k => rfl
    | index j =>
      have different : i ≠ j := fun same => different (congrArg Step.index same)
      by_cases last : i = items.length
      · have same : (items ++ [child])[j]? = items[j]? := by grind
        simp [placed, at?, last, same]
      · simp [placed, at?, last, List.getElem?_set_ne different]

theorem grown_placed (admits : Admits (some slot) s) :
    Grown s (some slot) (some (placed s child slot)) := by
  rcases admits.cases with ⟨k, rfl, rfl⟩ | ⟨k, entries, rfl, rfl⟩ | ⟨i, items, rfl, rfl, within⟩
  · exact .made (.inr rfl)
  · exact .object (Entries.keys_put entries k child)
  · apply Grown.array within
    split
    · simp
      omega
    · simp
      omega

/-- What admits one key admits every key. -/
theorem Admits.any_key {before : Option Json} {k : String} (admits : Admits before (.key k))
    (other : String) : Admits before (.key other) := by
  match before with
  | none => trivial
  | some .null => trivial
  | some (.object _) => trivial

theorem admits_placed (admits : Admits (some slot) s) : Admits (some (placed s child slot)) s := by
  rcases admits.cases with ⟨k, rfl, rfl⟩ | ⟨k, entries, rfl, rfl⟩ | ⟨i, items, rfl, rfl, within⟩
  · trivial
  · trivial
  · by_cases last : i = items.length
    · simp [placed, Admits, last]
    · simpa [placed, Admits, last] using within

/-- Of two children put below one step the last stays. -/
theorem placed_placed (admits : Admits (some slot) s) (child last : Json) :
    placed s last (placed s child slot) = placed s last slot := by
  rcases admits.cases with ⟨k, rfl, rfl⟩ | ⟨k, entries, rfl, rfl⟩ | ⟨i, items, rfl, rfl, within⟩
  · simp [placed, Entries.put]
  · simp [placed, Entries.put_put]
  · by_cases end_ : i = items.length <;> simp [placed, end_]

/-- Putting the child that is there already changes nothing. -/
theorem placed_of_at? (found : at? [s] slot = some child) : placed s child slot = slot := by
  cases s with
  | key k =>
    cases slot with
    | object entries =>
      cases here : Entries.get? entries k with
      | none => simp [at?, here] at found
      | some v =>
        simp only [at?, here, Option.some.injEq] at found
        simp [placed, Entries.put_of_get? (found ▸ here)]
    | _ => cases found
  | index i =>
    cases slot with
    | array items =>
      cases here : items[i]? with
      | none => simp [at?, here] at found
      | some v =>
        simp only [at?, here, Option.some.injEq] at found
        obtain ⟨inside, rfl⟩ := List.getElem?_eq_some_iff.mp here
        have before : i ≠ items.length := Nat.ne_of_lt inside
        simp [placed, before, ← found]
    | _ => cases found

end Steps

/-! ## Whole paths -/

/-- A step of a path is the first that is not admitted by what stands before it. -/
structure Blocked (start : Json) (path u : Path) (s : Step) : Prop where
  within : u ++ [s] <+: path
  refused : ¬ Admits (start.at? u) s
  before : ∀ w t, w ++ [t] <+: u → Admits (start.at? w) t

section Paths
variable {s t : Step} {start slot child value : Json} {path rest u w : Path}

/-- The steps of a path are its first one and those of the rest. -/
theorem forall_prefix_cons {holds : Path → Step → Prop} :
    (∀ u t, u ++ [t] <+: s :: rest → holds u t) ↔
      holds [] s ∧ ∀ u t, u ++ [t] <+: rest → holds (s :: u) t := by
  constructor
  · intro each
    constructor
    · exact each [] s (by simp)
    · intro u t step
      exact each (s :: u) t (by simpa using step)
  · rintro ⟨first, later⟩ u t step
    cases u with
    | nil =>
      have same : t = s := by simpa using step
      exact same ▸ first
    | cons s' u =>
      obtain ⟨rfl, inside⟩ := List.cons_prefix_cons.mp step
      exact later u t inside

theorem Blocked.first (refused : ¬ Admits (some slot) s) : Blocked slot (s :: rest) [] s where
  within := by simp
  refused := refused
  before := by simp

theorem Blocked.cons (admits : Admits (some slot) s)
    (blocked : Blocked ((at? [s] slot).getD null) rest u t) :
    Blocked slot (s :: rest) (s :: u) t where
  within := by simpa using blocked.within
  refused := fun admitted => blocked.refused (admits_cons_iff.mp admitted)
  before := forall_prefix_cons.mpr
    ⟨admits, fun w t step => admits_cons_iff.mpr (blocked.before w t step)⟩

theorem Blocked.unique (one : Blocked start path u s) (other : Blocked start path w t) :
    u = w ∧ s = t := by
  have earlier {u w : Path} {s t : Step} (one : Blocked start path u s)
      (other : Blocked start path w t) (shorter : u ++ [s] <+: w ++ [t]) : u = w ∧ s = t := by
    rcases List.prefix_concat_iff.mp shorter with same | inside
    · simpa using same
    · exact absurd (other.before u s inside) one.refused
  rcases List.prefix_or_prefix_of_prefix one.within other.within with shorter | longer
  · exact earlier one other shorter
  · obtain ⟨same, step⟩ := earlier other one longer
    exact ⟨same.symm, step.symm⟩

/-- An edit succeeds if each step is admitted by what stood before it; else it reports the first
that is not. -/
theorem assign_cases (value : Json) (place : String) (path : Path) (slot : Json) :
    (∀ u s, u ++ [s] <+: path → Admits (at? u slot) s) ∧
        (assign value place path slot).2 = .ok () ∨
      ∃ u s, Blocked slot path u s ∧ (assign value place path slot).2 =
        .error (obstacle (place ++ String.join (u.map Step.text)) (at? u slot) s) := by
  -- Below a step the edit goes on in what stands there, so the slot changes along the path.
  induction path generalizing place slot with
  | nil =>
    left
    constructor
    · simp
    · rfl
  | cons s rest ih =>
    by_cases admits : Admits (some slot) s
    · rw [assign_of_admits admits]
      rcases ih (place ++ s.text) ((at? [s] slot).getD null) with
        ⟨each, done⟩ | ⟨u, t, blocked, failed⟩
      · left
        constructor
        · exact forall_prefix_cons.mpr
            ⟨admits, fun u t step => admits_cons_iff.mpr (each u t step)⟩
        · exact done
      · right
        refine ⟨s :: u, t, blocked.cons admits, ?_⟩
        rw [obstacle_cons, failed, List.map_cons, String.join_cons, String.append_assoc]
    · right
      refine ⟨[], s, .first admits, ?_⟩
      rw [assign_of_not_admits admits]
      simp

/-- What is written below a step is written below the whole path. -/
theorem Written.cons (admits : Admits (some slot) s)
    (below : Written value rest ((at? [s] slot).getD null) child) :
    Written value (s :: rest) slot (placed s child slot) := by
  have inside (u : Path) : at? (s :: u) (placed s child slot) = at? u child := by
    rw [at?_cons, at?_placed_self admits, Option.bind_some]
  constructor
  · rw [inside]
    exact below.here
  · intro q before behind
    cases q with
    | nil => exact absurd List.nil_prefix before
    | cons t q =>
      by_cases same : s = t
      · subst same
        have before : ¬ q <+: rest := fun short => before (List.cons_prefix_cons.mpr ⟨rfl, short⟩)
        have behind : ¬ rest <+: q := fun long => behind (List.cons_prefix_cons.mpr ⟨rfl, long⟩)
        have more : q ≠ [] := fun none => before (none ▸ List.nil_prefix)
        rw [inside, at?_cons_of_ne_nil more]
        exact below.elsewhere q before behind
      · rw [at?_cons, at?_placed_of_ne admits same, ← at?_cons]
  · refine forall_prefix_cons.mpr ⟨?_, ?_⟩
    · rw [at?_nil, at?_nil]
      exact grown_placed admits
    · intro u t step
      rw [inside]
      exact (below.grown u t step).cons

theorem written_of_assign {place : String} (success : (assign value place path slot).2 = .ok ()) :
    Written value path slot (assign value place path slot).1 := by
  induction path generalizing place slot with
  | nil =>
    rw [assign]
    constructor
    · exact at?_nil value
    · exact fun q _ behind => absurd List.nil_prefix behind
    · simp
  | cons s rest ih =>
    by_cases admits : Admits (some slot) s
    · rw [assign_of_admits admits] at success ⊢
      exact .cons admits (ih success)
    · rw [assign_of_not_admits admits] at success
      cases success

end Paths
end Json

/-! ## Documents -/

namespace Document
open Json (Admits Blocked Written obstacle)

variable {d after : Document} {path : Path} {value : Json}

/-- A document admits every key, and an edit goes on below the key that its path starts with. -/
theorem set_key (d : Document) (k : String) (rest : Path) (value : Json) :
    Admits (some d.toJson) (.key k) ∧ d.set (.key k :: rest) value =
      (⟨d.entries.put k (Json.assign value k rest ((d.toJson.at? [.key k]).getD .null)).1⟩,
        (Json.assign value k rest ((d.toJson.at? [.key k]).getD .null)).2) := by
  constructor
  · trivial
  · cases found : d.entries.get? k <;> simp [set, toJson, Json.at?, found]

theorem set_cases (d : Document) (k : String) (rest : Path) (value : Json) :
    (∀ u s, u ++ [s] <+: .key k :: rest → Admits (d.toJson.at? u) s) ∧
        (d.set (.key k :: rest) value).2 = .ok () ∨
      ∃ (u : Path) (s : Step), u ≠ [] ∧ Blocked d.toJson (.key k :: rest) u s ∧
        (d.set (.key k :: rest) value).2 = .error (obstacle u.text (d.toJson.at? u) s) := by
  obtain ⟨admits, edit⟩ := set_key d k rest value
  rw [edit]
  rcases Json.assign_cases value k rest ((d.toJson.at? [.key k]).getD .null) with
    ⟨each, done⟩ | ⟨u, s, blocked, failed⟩
  · left
    constructor
    · exact Json.forall_prefix_cons.mpr
        ⟨admits, fun u s step => Json.admits_cons_iff.mpr (each u s step)⟩
    · exact done
  · right
    refine ⟨.key k :: u, s, nofun, blocked.cons admits, ?_⟩
    rw [Json.obstacle_cons, failed]
    rfl

/-- An edit along a path that starts with a key succeeds exactly when what the document holds before
each later step admits it. Else it reports what stands before the first step that is not admitted,
and the path to it, which reads back if the edit's path was read. A path that starts with no key is
refused. -/
theorem set_outcome (d : Document) (value : Json) :
    (∀ k rest, (d.set (.key k :: rest) value).2 = .ok () ↔
      ∀ u s, u ≠ [] → u ++ [s] <+: .key k :: rest → Admits (d.toJson.at? u) s) ∧
    (∀ k rest e, (d.set (.key k :: rest) value).2 = .error e ↔
      ∃ (u : Path) (s : Step), u ≠ [] ∧ Blocked d.toJson (.key k :: rest) u s ∧
        e = obstacle u.text (d.toJson.at? u) s) ∧
    (∀ expr path, FieldPath.parse expr = .ok path → ∀ u : Path, u ≠ [] → u <+: path →
      FieldPath.parse u.text = .ok u) ∧
    (d.set [] value).2 = .error .empty ∧
    ∀ i rest, (d.set (.index i :: rest) value).2 = .error (.notAnArray "") := by
  refine ⟨?_, ?_, ?_, rfl, fun i rest => rfl⟩
  · intro k rest
    rcases set_cases d k rest value with ⟨each, done⟩ | ⟨u, s, some_, blocked, failed⟩
    · constructor
      · exact fun _ u s _ step => each u s step
      · exact fun _ => done
    · rw [failed]
      constructor
      · nofun
      · exact fun each => absurd (each u s some_ blocked.within) blocked.refused
  · intro k rest e
    rcases set_cases d k rest value with ⟨each, done⟩ | ⟨u, s, some_, blocked, failed⟩
    · rw [done]
      constructor
      · nofun
      · rintro ⟨u, s, -, blocked, -⟩
        exact absurd (each u s blocked.within) blocked.refused
    · rw [failed]
      constructor
      · rintro ⟨⟩
        exact ⟨u, s, some_, blocked, rfl⟩
      · rintro ⟨w, t, -, other, rfl⟩
        obtain ⟨rfl, rfl⟩ := blocked.unique other
        rfl
  · rintro expr path parsed u some_ ⟨more, rfl⟩
    exact FieldPath.parse_text ((FieldPath.printable_of_parse parsed).of_append some_)

def listing : Document := ⟨[("data", .object [("list", .array [.ofNat 1]), ("note", .null)])]⟩

/-- There are no containers, so none of them has an image. -/
theorem set_outcome_of_listing :
    FieldPath.parse "data.note.containers[0].image" = .ok
        [.key "data", .key "note", .key "containers", .index 0, .key "image"] ∧
      (listing.set [.key "data", .key "note", .key "containers", .index 0, .key "image"] .null).2 =
        .error (.notAnArray "data.note.containers") ∧
      FieldPath.parse "data.note.containers" =
        .ok [.key "data", .key "note", .key "containers"] := by
  have parsed : FieldPath.parse "data.note.containers[0].image" = .ok
      [.key "data", .key "note", .key "containers", .index 0, .key "image"] := by decide +kernel
  have outcome := set_outcome listing .null
  refine ⟨parsed, rfl, ?_⟩
  have place : Path.text [.key "data", .key "note", .key "containers"] =
      "data.note.containers" := by decide +kernel
  rw [← place]
  exact outcome.2.2.1 _ _ parsed _ nofun ⟨_, rfl⟩

/-- An edit that succeeds puts the value at its path and changes nothing beside the path. What the
path goes through keeps its keys and positions and gains at most the last one. -/
theorem set_writes (success : d.set path value = (after, .ok ())) :
    Written value path d.toJson after.toJson := by
  cases path with
  | nil => cases success
  | cons s rest =>
    cases s with
    | index i => cases success
    | key k =>
      obtain ⟨admits, edit⟩ := set_key d k rest value
      rw [edit] at success
      obtain ⟨rfl, assigned⟩ := Prod.mk.inj success
      exact .cons admits (Json.written_of_assign assigned)

/-- Putting an item at the end of a list. -/
theorem set_writes_of_listing :
    (listing.set [.key "data", .key "list", .index 1] (.ofNat 2)).2 = .ok () ∧
      (listing.set [.key "data", .key "list", .index 1] (.ofNat 2)).1.toJson.at?
        [.key "data", .key "list", .index 1] = some (.ofNat 2) ∧
      (listing.set [.key "data", .key "list", .index 1] (.ofNat 2)).1.toJson.at?
        [.key "data", .key "list", .index 0] = some (.ofNat 1) := by
  have success : listing.set [.key "data", .key "list", .index 1] (.ofNat 2) =
      ((listing.set [.key "data", .key "list", .index 1] (.ofNat 2)).1, .ok ()) := rfl
  have written := set_writes success
  refine ⟨rfl, written.here, ?_⟩
  rw [written.elsewhere [.key "data", .key "list", .index 0] (by decide) (by decide)]
  rfl

end Document
end ClusterGraph
