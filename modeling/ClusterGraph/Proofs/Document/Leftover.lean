import ClusterGraph.Proofs.Document.Effect

/-!
# What an edit that fails leaves

Nothing is taken back when an edit fails. Still it leaves the document as it was, unless it wants an
array at a place where nothing stood: then it leaves what an edit does that puts null at that place
(`Document.set_fails`).

The reason is that an edit makes something only where nothing stands, and below what it has made
there is null: a key is admitted there, so only an index can be refused.
-/
namespace ClusterGraph

/-! ## The written forms of the beginnings of a path -/

section Texts
variable {path u w : Path}

theorem Step.text_ne_empty (s : Step) : s.text ≠ "" := by
  intro empty
  have none : s.text.toList = [] := by rw [empty]; rfl
  cases s <;> simp [Step.text] at none

theorem Path.text_append (some_ : u ≠ []) (more : Path) :
    Path.text (u ++ more) = u.text ++ String.join (more.map Step.text) := by
  cases u with
  | nil => exact absurd rfl some_
  | cons s rest => cases s <;> simp [Path.text, String.join_append, String.append_assoc]

/-- Two beginnings of a path are told apart by their written forms. -/
theorem Path.eq_of_text (some_ : u ≠ []) (some' : w ≠ []) (one : u <+: path) (two : w <+: path)
    (same : u.text = w.text) : u = w := by
  have shorter {u w : Path} (some_ : u ≠ []) (inside : u <+: w) (same : u.text = w.text) :
      u = w := by
    obtain ⟨more, rfl⟩ := inside
    rw [text_append some_] at same
    cases more with
    | nil => exact (List.append_nil u).symm
    | cons s more =>
      have none : (s.text ++ String.join (more.map Step.text)).toList = [] := by
        simpa using congrArg String.toList same
      rw [String.toList_append, List.append_eq_nil_iff] at none
      exact absurd (String.toList_inj.mp none.1) s.text_ne_empty
  rcases List.prefix_or_prefix_of_prefix one two with inside | inside
  · exact shorter some_ inside same
  · exact (shorter some' inside same.symm).symm

end Texts

/-! ## Values -/

namespace Json
variable {s t : Step} {slot before after left child other v : Json} {path rest u q : Path}

/-- What an edit leaves that cannot go on after a place: the value as it was, if something stands at
the place, and else the value with null put there. -/
structure Left (u : Path) (before left : Json) : Prop where
  kept : at? u before ≠ none → left = before
  made : at? u before = none → Edited null u before left

theorem Left.cons (admits : Admits (some slot) s) (below : Left u ((at? [s] slot).getD null) child) :
    Left (s :: u) slot (placed s child slot) := by
  constructor
  · intro present
    cases found : at? [s] slot with
    | none =>
      rw [at?_cons, found] at present
      exact absurd rfl present
    | some c =>
      rw [at?_cons, found, Option.bind_some] at present
      rw [found, Option.getD_some] at below
      rw [below.kept present, placed_of_at? found]
  · intro absent
    refine .step admits ?_
    cases u with
    | nil =>
      -- The edit has made null here and got no further.
      rw [absent, Option.getD_none] at below
      exact edited_nil_iff.mpr (below.kept (by simp))
    | cons t u =>
      rw [at?_cons_of_ne_nil (List.cons_ne_nil t u)] at absent
      exact below.made absent

theorem Blocked.tail (blocked : Blocked slot (s :: rest) (s :: u) t) :
    Blocked ((at? [s] slot).getD null) rest u t where
  within := by simpa using blocked.within
  refused := fun admitted => blocked.refused (admits_cons_iff.mpr admitted)
  before := fun w t step => admits_cons_iff.mp (blocked.before (s :: w) t (by simpa using step))

theorem left_of_blocked {place : String} {value : Json} (blocked : Blocked slot path u t) :
    Left u slot (assign value place path slot).1 := by
  -- The edit takes the steps up to the place where it is blocked, so the induction is on these.
  induction u generalizing place slot path with
  | nil =>
    obtain ⟨rest, rfl⟩ := blocked.within
    have refused := blocked.refused
    rw [at?_nil] at refused
    rw [List.nil_append, List.cons_append, assign_of_not_admits refused]
    exact ⟨fun _ => rfl, fun absent => nomatch (at?_nil slot).symm.trans absent⟩
  | cons s u ih =>
    obtain ⟨rest, rfl⟩ := blocked.within
    have admits : Admits (some slot) s := blocked.before [] s (by simp)
    simp only [List.cons_append] at blocked ⊢
    rw [assign_of_admits admits]
    exact .cons admits (ih blocked.tail)

theorem Left.unique (one : Left u before left) (two : Left u before other) : left = other := by
  by_cases absent : at? u before = none
  · exact (one.made absent).unique (two.made absent)
  · rw [one.kept absent, two.kept absent]

theorem Edited.written {value : Json} (edited : Edited value path before after) :
    Written value path before after := by
  have assigned := (edited_iff "").mp edited
  have written := written_of_assign (congrArg Prod.snd assigned)
  rwa [assigned] at written

/-- What stands below a place stands below what stands there. -/
theorem at?_append (u more : Path) (v : Json) : at? (u ++ more) v = (at? u v).bind (at? more) := by
  induction u generalizing v with
  | nil => simp
  | cons s u ih =>
    rw [List.cons_append, at?_cons, at?_cons s u]
    cases at? [s] v with
    | none => rfl
    | some c => exact ih c

/-- Everything that stood somewhere still stands there, but what the place is reached through may
have gained an entry or an item at its end. -/
theorem Left.survives (left : Left u before after) (found : at? q before = some v) :
    at? q after = some v ∨ ∃ s, q ++ [s] <+: u ∧ Grown s (some v) (at? q after) := by
  by_cases absent : at? u before = none
  · have written := (left.made absent).written
    by_cases through : q <+: u
    · obtain ⟨more, rfl⟩ := through
      cases more with
      | nil =>
        rw [List.append_nil, found] at absent
        cases absent
      | cons s more =>
        have step : q ++ [s] <+: q ++ s :: more := ⟨more, by simp⟩
        have grown := written.grown q s step
        rw [found] at grown
        exact .inr ⟨s, step, grown⟩
    · by_cases below : u <+: q
      · obtain ⟨more, rfl⟩ := below
        rw [at?_append, absent] at found
        cases found
      · rw [written.elsewhere q through below]
        exact .inl found
  · rw [left.kept absent]
    exact .inl found

/-- An edit that is refused where nothing stands wants an array there. -/
theorem obstacle_none {place : String} (refused : ¬ Admits none s) :
    obstacle place none s = .notAnArray place := by
  cases s with
  | key k => exact absurd trivial refused
  | index i => rfl

theorem eq_of_obstacle {place at_ : String} {found : Option Json}
    (same : obstacle place found s = .notAnArray at_) : place = at_ := by
  unfold obstacle at same
  split at same
  · cases same
  · cases same
  · cases same
    rfl

end Json

/-! ## Documents -/

namespace Document
open Json (Blocked Left Grown obstacle)

variable {d left : Document} {path : Path} {value : Json} {e : PathError}

/-- An edit fails where a place does not admit the next step, and leaves what it has made; the value
is not looked at. -/
theorem set_of_blocked {k : String} {rest u : Path} {s : Step} (some_ : u ≠ [])
    (blocked : Blocked d.toJson (.key k :: rest) u s) (value : Json) :
    Left u d.toJson (d.set (.key k :: rest) value).1.toJson ∧
      (d.set (.key k :: rest) value).2 = .error (obstacle u.text (d.toJson.at? u) s) := by
  obtain ⟨admits, edit⟩ := set_key d k rest value
  constructor
  · cases u with
    | nil => exact absurd rfl some_
    | cons t u =>
      obtain rfl : t = .key k := (List.cons_prefix_cons.mp blocked.within).1
      rw [edit]
      exact .cons admits (Json.left_of_blocked blocked.tail)
  · rcases set_cases d k rest value with ⟨each, -⟩ | ⟨w, t, -, other, failed⟩
    · exact absurd (each u s blocked.within) blocked.refused
    · obtain ⟨rfl, rfl⟩ := blocked.unique other
      exact failed

/-- An edit fails because its path starts with no key, or at the first place that does not admit the
next step. -/
theorem set_error (failure : d.set path value = (left, .error e)) :
    left = d ∧ (∀ u : Path, u ≠ [] → u <+: path → e ≠ .notAnArray u.text) ∧
        (∀ other, d.set path other = (left, .error e)) ∨
      ∃ (u : Path) (s : Step), u ≠ [] ∧ Blocked d.toJson path u s ∧
        e = obstacle u.text (d.toJson.at? u) s ∧ Left u d.toJson left.toJson ∧
        ∀ other, d.set path other = (left, .error e) := by
  match path with
  | [] =>
    cases failure
    exact .inl ⟨rfl, fun u some_ inside => absurd (List.prefix_nil.mp inside) some_, fun _ => rfl⟩
  | .index i :: rest =>
    cases failure
    refine .inl ⟨rfl, ?_, fun _ => rfl⟩
    rintro (_ | ⟨s, u⟩) some_ inside same
    · exact absurd rfl some_
    · obtain rfl : s = .index i := (List.cons_prefix_cons.mp inside).1
      have none := congrArg String.toList (PathError.notAnArray.inj same)
      simp [Path.text] at none
  | .key k :: rest =>
    rcases set_cases d k rest value with ⟨-, done⟩ | ⟨u, s, some_, blocked, failed⟩
    · rw [failure] at done
      cases done
    · right
      rw [failure] at failed
      obtain ⟨remains, -⟩ := set_of_blocked some_ blocked value
      rw [failure] at remains
      refine ⟨u, s, some_, blocked, Except.error.inj failed, remains, fun other => ?_⟩
      obtain ⟨remains', failed'⟩ := set_of_blocked some_ blocked other
      exact Prod.ext (toJson_inj.mp (remains'.unique remains)) (failed'.trans failed.symm)

/-- An edit that fails leaves the document as it was, unless it wants an array where nothing stood;
then it leaves the document with null put there. So everything that stood somewhere stays, up to one
entry or item more on the way, and the value that was to be put makes no difference. -/
theorem set_fails (failure : d.set path value = (left, .error e)) :
    (∀ u : Path, u ≠ [] → u <+: path → e = .notAnArray u.text → d.toJson.at? u = none →
      d.set u .null = (left, .ok ())) ∧
    ((∀ u : Path, u ≠ [] → u <+: path → e = .notAnArray u.text → d.toJson.at? u ≠ none) →
      left = d) ∧
    (∀ q v, d.toJson.at? q = some v → left.toJson.at? q = some v ∨
      ∃ s, q ++ [s] <+: path ∧ Grown s (some v) (left.toJson.at? q)) ∧
    ∀ other, d.set path other = (left, .error e) := by
  rcases set_error failure with ⟨rfl, different, alike⟩ |
    ⟨u, s, some_, blocked, rfl, remains, alike⟩
  · exact ⟨fun u some_ inside same => absurd same (different u some_ inside), fun _ => rfl,
      fun q v found => .inl found, alike⟩
  · have inside : u <+: path := (List.prefix_append u [s]).trans blocked.within
    refine ⟨?_, ?_, ?_, alike⟩
    · intro w some' inside' same absent
      obtain rfl := Path.eq_of_text some_ some' inside inside' (Json.eq_of_obstacle same)
      exact set_eq_ok_iff.mpr ⟨some_, remains.made absent⟩
    · intro present
      refine toJson_inj.mp (remains.kept fun absent => ?_)
      have refused := blocked.refused
      rw [absent] at refused present
      exact present u some_ inside (Json.obstacle_none refused) absent
    · intro q v found
      rcases remains.survives found with same | ⟨t, step, grown⟩
      · exact .inl same
      · exact .inr ⟨t, step.trans inside, grown⟩

/-- A note is made for its containers, which are then missed. -/
theorem set_fails_of_listing :
    listing.set [.key "data", .key "note", .key "containers", .index 0, .key "image"] (.ofNat 7) =
        (⟨[("data", .object [("list", .array [.ofNat 1]),
          ("note", .object [("containers", .null)])])]⟩,
          .error (.notAnArray "data.note.containers")) ∧
      listing.set [.key "data", .key "note", .key "containers"] .null =
        (⟨[("data", .object [("list", .array [.ofNat 1]),
          ("note", .object [("containers", .null)])])]⟩, .ok ()) := by
  have failure : listing.set
      [.key "data", .key "note", .key "containers", .index 0, .key "image"] (.ofNat 7) =
        (⟨[("data", .object [("list", .array [.ofNat 1]),
          ("note", .object [("containers", .null)])])]⟩,
          .error (.notAnArray "data.note.containers")) := rfl
  have place : "data.note.containers" =
      Path.text [.key "data", .key "note", .key "containers"] := by decide +kernel
  exact ⟨failure, (set_fails failure).1 [.key "data", .key "note", .key "containers"] nofun
    ⟨_, rfl⟩ (congrArg PathError.notAnArray place) rfl⟩

end Document
end ClusterGraph
