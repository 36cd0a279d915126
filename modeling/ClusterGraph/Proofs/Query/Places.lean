import ClusterGraph.Proofs.Query.Answer
import Mathlib.Data.List.Nodup

/-!
# Where answers stand

The answer of every field that a query reaches stands at the place of the field, if the fields that
are selected together have distinct keys (`Setting.dataAt?_of_reaches`). The errors of a query are
those that its fields leave (`Setting.mem_allErrors`), no two of them for one place
(`Setting.owned_allErrors`).
-/
namespace ClusterGraph
namespace Query

def dataAt? : List PathStep → Json → Option Json
  | [], data => some data
  | .key key :: rest, data => (data.get? key).bind (dataAt? rest)
  | .index i :: rest, .array items => items[i]?.bind (dataAt? rest)
  | .index _ :: _, _ => none

/-! ## Distinct keys -/

theorem keys_of_allKeysDistinct (fields : List PlannedField)
    (distinct : PlannedField.allKeysDistinct fields = true) :
    (fields.map PlannedField.key).Nodup ∧ ∀ f ∈ fields, f.keysDistinct = true := by
  induction fields with
  | nil => exact ⟨List.nodup_nil, fun _ => nofun⟩
  | cons f rest ih =>
    unfold PlannedField.allKeysDistinct at distinct
    simp only [Bool.and_eq_true, Bool.not_eq_true', List.contains_eq_mem,
      decide_eq_false_iff_not] at distinct
    obtain ⟨⟨new, here⟩, later⟩ := distinct
    obtain ⟨keys, below⟩ := ih later
    refine ⟨List.nodup_cons.mpr ⟨new, keys⟩, ?_⟩
    intro g member
    rcases List.mem_cons.mp member with rfl | among
    · exact here
    · exact below g among

theorem allKeysDistinct_selected (f : PlannedField) (distinct : f.keysDistinct = true) :
    PlannedField.allKeysDistinct f.selected = true := by
  cases f
  exact distinct

theorem get?_eq_none {α : Type} (entries : Entries α) (key : String)
    (absent : key ∉ entries.keys) : entries.get? key = none := by
  induction entries with
  | nil => rfl
  | cons e rest ih =>
    obtain ⟨k, v⟩ := e
    have different : k ≠ key := fun same => absent (same ▸ List.mem_cons_self)
    unfold Entries.get?
    rw [if_neg different]
    exact ih fun member => absent (List.mem_cons_of_mem k member)

theorem get?_of_mem {α : Type} (entries : Entries α) (distinct : entries.keys.Nodup)
    (key : String) (value : α) (member : (key, value) ∈ entries) :
    entries.get? key = some value := by
  induction entries with
  | nil => cases member
  | cons e rest ih =>
    obtain ⟨k, v⟩ := e
    obtain ⟨new, later⟩ := List.nodup_cons.mp distinct
    unfold Entries.get?
    rcases List.mem_cons.mp member with here | among
    · cases here
      rw [if_pos rfl]
    · have different : k ≠ key := by
        rintro rfl
        exact new (List.mem_map.mpr ⟨(k, value), among, rfl⟩)
      rw [if_neg different]
      exact ih later among

/-- Fields with distinct keys are kept as they are. -/
theorem mergeEntries_of_distinct (fields : List (String × Json)) (target : Entries Json)
    (distinct : (Entries.keys (target ++ fields)).Nodup) :
    mergeEntries fields target = target ++ fields := by
  induction fields generalizing target with
  | nil =>
    unfold mergeEntries
    rw [List.append_nil]
  | cons f rest ih =>
    obtain ⟨key, data⟩ := f
    have absent : key ∉ target.keys := by
      intro member
      simp only [Entries.keys, List.map_append, List.map_cons, List.nodup_append] at distinct
      exact distinct.2.2 key member key List.mem_cons_self rfl
    have same : target ++ (key, data) :: rest = target ++ [(key, data)] ++ rest := by simp
    unfold mergeEntries
    rw [get?_eq_none target key absent, same, ih]
    rwa [← same]

/-- Data whose fields have distinct keys is these fields. -/
theorem gathered_of_distinct (fields : List (String × Json))
    (distinct : (Entries.keys fields).Nodup) : gathered fields = .object fields := by
  unfold gathered
  rw [mergeEntries_of_distinct fields [] distinct, List.nil_append]

/-- Data whose fields have distinct keys holds each field under its key. -/
theorem get?_gathered (fields : List (String × Json)) (distinct : (Entries.keys fields).Nodup)
    (key : String) (data : Json) (member : (key, data) ∈ fields) :
    (gathered fields).get? key = some data := by
  rw [gathered_of_distinct fields distinct]
  exact get?_of_mem fields distinct key data member

namespace Setting
variable {β : Type} {s : Setting β} {w : World β} {e : Entity} {path : List PathStep} {site : Site}

/-! ## Data -/

/-- The data under the key of a field is that of the field. -/
theorem get?_gather (fields : List PlannedField)
    (distinct : PlannedField.allKeysDistinct fields = true) (f : PlannedField)
    (member : f ∈ fields) :
    (Answer.gather (s.answerAll w e path fields)).get? f.key =
      some (s.answer w e path f).data := by
  have keys := (keys_of_allKeysDistinct fields distinct).1
  rw [s.answerAll_eq_map]
  unfold Answer.gather
  refine get?_gathered _ ?_ _ _ ?_
  · simpa [Entries.keys, Function.comp_def] using keys
  · simpa using ⟨f, member, rfl, rfl⟩

/-- At the place of a field stands its answer. -/
theorem dataAt?_of_reaches {fields : List PlannedField} (reaches : s.Reaches w e path fields site)
    (distinct : PlannedField.allKeysDistinct fields = true) :
    ∃ rest, site.place.path = path ++ rest ∧
      dataAt? rest (Answer.gather (s.answerAll w e path fields)) =
        some (s.answer w site.entity site.path site.field).data := by
  induction reaches with
  | @here e path fields f member =>
    refine ⟨[.key f.key], rfl, ?_⟩
    simp only [dataAt?, get?_gather fields distinct f member]
    rfl
  | @inside e below path fields f site member gives rest ih =>
    have nested := (keys_of_allKeysDistinct fields distinct).2 f member
    obtain ⟨rest, place, data⟩ := ih (allKeysDistinct_selected f nested)
    refine ⟨.key f.key :: rest, by simpa using place, ?_⟩
    simp only [dataAt?, get?_gather fields distinct f member, s.answer_of_entity gives]
    exact data
  | @item e below path fields f es i site member gives at_index rest ih =>
    have nested := (keys_of_allKeysDistinct fields distinct).2 f member
    obtain ⟨rest, place, data⟩ := ih (allKeysDistinct_selected f nested)
    refine ⟨.key f.key :: .index i :: rest, by simpa using place, ?_⟩
    simp only [dataAt?, get?_gather fields distinct f member, s.answer_of_entities gives,
      Option.bind_some, List.getElem?_map, List.getElem?_zipIdx, at_index, Option.map_some,
      Nat.zero_add]
    exact data

/-! ## Errors -/

theorem mem_allErrors_iff (err : ResponseError) (fields : List PlannedField) :
    err ∈ Answer.allErrors (s.answerAll w e path fields) ↔
      ∃ f ∈ fields, err ∈ (s.answer w e path f).errors := by
  simp [Answer.allErrors, s.answerAll_eq_map]

/-- What a field gives to select from, and at which paths. -/
def given (s : Setting β) (w : World β) (site : Site) : List (Entity × List PathStep) :=
  match s.value w site with
  | .entity? (some below) => [(below, site.place.path)]
  | .entities es => es.zipIdx.map fun (below, i) => (below, site.place.path ++ [.index i])
  | _ => []

/-- A field leaves the error of its own call, if that fails, and then those of what is selected from
what it gives. -/
theorem errors_answer (f : PlannedField) :
    (s.answer w e path f).errors = s.errors w ⟨e, path, f⟩ ++
      (s.given w ⟨e, path, f⟩).flatMap fun (below, path) =>
        Answer.allErrors (s.answerAll w below path f.selected) := by
  unfold given
  cases gives : s.value w ⟨e, path, f⟩ with
  | leaf v => simp [s.answer_of_leaf gives]
  | entity? entity =>
    cases entity with
    | none => simp [s.answer_of_null gives]
    | some below => simp [s.answer_of_entity gives, Site.place]
  | entities es => simp [s.answer_of_entities gives, Site.place, List.flatMap_map]

theorem Reaches.of_given {f : PlannedField} {below : Entity} {path' : List PathStep}
    (reaches : s.Reaches w below path' f.selected site)
    (member : (below, path') ∈ s.given w ⟨e, path, f⟩) : s.Reaches w e path [f] site := by
  unfold given at member
  cases gives : s.value w ⟨e, path, f⟩ with
  | leaf v => simp [gives] at member
  | entity? entity =>
    cases entity with
    | none => simp [gives] at member
    | some entity =>
      simp only [gives, List.mem_singleton] at member
      cases member
      exact reaches.of_inside gives
  | entities es =>
    simp only [gives] at member
    obtain ⟨⟨entity, i⟩, at_index, same⟩ := List.mem_map.mp member
    cases same
    exact reaches.of_item gives (List.mem_zipIdx_iff_getElem?.mp at_index)

/-- Whoever leaves an error below a field is reached from it. -/
theorem reaches_of_mem_errors (err : ResponseError) (f : PlannedField) (e : Entity)
    (path : List PathStep) (left : err ∈ (s.answer w e path f).errors) :
    ∃ site, s.Reaches w e path [f] site ∧ err ∈ s.errors w site := by
  induction f using PlannedField.induction generalizing e path with
  | step f ih =>
    rw [errors_answer] at left
    rcases List.mem_append.mp left with own | later
    · exact ⟨_, .here (List.mem_singleton_self f), own⟩
    · obtain ⟨⟨below, path'⟩, given, later⟩ := List.mem_flatMap.mp later
      obtain ⟨g, selected, later⟩ := (mem_allErrors_iff err f.selected).mp later
      obtain ⟨site, reaches, leaves⟩ := ih g selected below path' later
      have among : s.Reaches w below path' f.selected site := reaches.mono (by simpa using selected)
      exact ⟨site, among.of_given given, leaves⟩

/-- The errors of a query are those of the calls at the sites that it reaches. -/
theorem mem_allErrors (err : ResponseError) (fields : List PlannedField) :
    err ∈ Answer.allErrors (s.answerAll w e path fields) ↔
      ∃ site, s.Reaches w e path fields site ∧ err ∈ s.errors w site := by
  constructor
  · intro left
    obtain ⟨f, member, left⟩ := (mem_allErrors_iff err fields).mp left
    obtain ⟨site, reaches, leaves⟩ := reaches_of_mem_errors err f e path left
    exact ⟨site, reaches.mono (by simpa using member), leaves⟩
  · rintro ⟨site, reaches, leaves⟩
    rw [mem_allErrors_iff]
    induction reaches with
    | here member =>
      refine ⟨_, member, ?_⟩
      rw [errors_answer]
      exact List.mem_append_left _ leaves
    | inside member gives _ ih =>
      refine ⟨_, member, ?_⟩
      rw [s.answer_of_entity gives]
      exact List.mem_append_right _ ((mem_allErrors_iff err _).mpr (ih leaves))
    | @item e below path fields f es i site member gives at_index _ ih =>
      refine ⟨_, member, ?_⟩
      rw [s.answer_of_entities gives]
      refine List.mem_append_right _ (List.mem_flatMap.mpr ⟨(below, i), ?_, ?_⟩)
      · exact List.mem_zipIdx_iff_getElem?.mpr at_index
      · exact (mem_allErrors_iff err _).mpr (ih leaves)

end Setting

/-! ## One error for each place -/

/-- The errors are for different places, all of them at a path or below it. -/
structure Owned (base : List PathStep) (errors : List ResponseError) : Prop where
  once : (errors.map ResponseError.path).Nodup
  below : ∀ err ∈ errors, base <+: err.path

theorem owned_nil (base : List PathStep) : Owned base [] := ⟨List.nodup_nil, fun _ => nofun⟩

/-- Two steps from one path lead to different places. -/
theorem same_step (base path : List PathStep) (first second : PathStep)
    (left : base ++ [first] <+: path) (right : base ++ [second] <+: path) : first = second := by
  have same := List.prefix_of_prefix_length_le left right (by simp)
  simpa using (List.prefix_append_right_inj base).mp same

theorem ne_base_of_below (base path : List PathStep) (step : PathStep)
    (below : base ++ [step] <+: path) : path ≠ base := by
  rintro rfl
  have short := below.length_le
  simp only [List.length_append, List.length_singleton] at short
  omega

/-- The errors of things that stand under different steps. -/
theorem owned_flatMap {ι : Type} (base : List PathStep) (items : List ι) (step : ι → PathStep)
    (distinct : (items.map step).Nodup) (errors : ι → List ResponseError)
    (each : ∀ i ∈ items, Owned (base ++ [step i]) (errors i)) :
    Owned base (items.flatMap errors) ∧ ∀ err ∈ items.flatMap errors, err.path ≠ base := by
  refine ⟨⟨?_, ?_⟩, ?_⟩
  · rw [List.map_flatMap, List.nodup_flatMap]
    refine ⟨fun i member => (each i member).once, ?_⟩
    refine (List.pairwise_map.mp distinct).imp_of_mem ?_
    intro i j first second different path left right
    obtain ⟨err, among, rfl⟩ := List.mem_map.mp left
    obtain ⟨err', among', same⟩ := List.mem_map.mp right
    have beside := (each j second).below err' among'
    rw [same] at beside
    exact different (same_step base err.path _ _ ((each i first).below err among) beside)
  · intro err member
    obtain ⟨i, among, left⟩ := List.mem_flatMap.mp member
    exact (List.prefix_append base _).trans ((each i among).below err left)
  · intro err member
    obtain ⟨i, among, left⟩ := List.mem_flatMap.mp member
    exact ne_base_of_below base err.path _ ((each i among).below err left)

namespace Setting
variable {β : Type} {s : Setting β} {w : World β}

/-- The call of a field leaves one error at most, at the place of the field. -/
theorem errors_cases (site : Site) :
    s.errors w site = [] ∨ ∃ err, s.errors w site = [err] ∧ err.path = site.place.path := by
  unfold Setting.errors
  cases s.failure? w site with
  | none => exact .inl rfl
  | some f => exact .inr ⟨_, rfl, rfl⟩

/-- The error of a field and those that are left below it. -/
theorem owned_append (site : Site) (errors : List ResponseError)
    (below : Owned site.place.path errors ∧ ∀ err ∈ errors, err.path ≠ site.place.path) :
    Owned site.place.path (s.errors w site ++ errors) := by
  rcases s.errors_cases (w := w) site with none | ⟨err, one, place⟩
  · rw [none]
    exact below.1
  · rw [one]
    refine ⟨List.nodup_cons.mpr ⟨?_, below.1.once⟩, ?_⟩
    · intro member
      obtain ⟨other, among, same⟩ := List.mem_map.mp member
      exact below.2 other among (same.trans place)
    · intro other member
      rcases List.mem_cons.mp member with rfl | among
      · exact place ▸ List.prefix_rfl
      · exact below.1.below other among

/-- The errors of fields with distinct keys, if those of each field are for different places. -/
theorem owned_fields (e : Entity) (path : List PathStep) (fields : List PlannedField)
    (distinct : PlannedField.allKeysDistinct fields = true)
    (each : ∀ f ∈ fields, f.keysDistinct = true →
      Owned (path ++ [.key f.key]) (s.answer w e path f).errors) :
    Owned path (Answer.allErrors (s.answerAll w e path fields)) ∧
      ∀ err ∈ Answer.allErrors (s.answerAll w e path fields), err.path ≠ path := by
  obtain ⟨keys, nested⟩ := keys_of_allKeysDistinct fields distinct
  have steps : (fields.map fun f => PathStep.key f.key).Nodup := by
    have apart := keys.map fun _ _ same => PathStep.key.inj same
    rwa [List.map_map] at apart
  rw [s.answerAll_eq_map]
  unfold Answer.allErrors
  rw [List.flatMap_map]
  exact owned_flatMap path fields _ steps _ fun f member => each f member (nested f member)

theorem owned_answer (f : PlannedField) (e : Entity) (path : List PathStep)
    (distinct : f.keysDistinct = true) :
    Owned (path ++ [.key f.key]) (s.answer w e path f).errors := by
  induction f using PlannedField.induction generalizing e path with
  | step f ih =>
    have below (below : Entity) (path' : List PathStep) :=
      s.owned_fields (w := w) below path' f.selected (allKeysDistinct_selected f distinct)
        fun g member distinct => ih g member below path' distinct
    have own := s.owned_append (w := w) ⟨e, path, f⟩
    have alone : Owned (path ++ [.key f.key]) (s.errors w ⟨e, path, f⟩) := by
      have only := own [] ⟨owned_nil _, fun _ => nofun⟩
      rwa [List.append_nil] at only
    cases gives : s.value w ⟨e, path, f⟩ with
    | leaf v =>
      rw [s.answer_of_leaf gives]
      exact alone
    | entity? entity =>
      cases entity with
      | none =>
        rw [s.answer_of_null gives]
        exact alone
      | some entity =>
        rw [s.answer_of_entity gives]
        exact own _ (below entity (path ++ [.key f.key]))
    | entities es =>
      rw [s.answer_of_entities gives]
      refine own _ (owned_flatMap _ es.zipIdx (fun item => .index item.2) ?_ _ ?_)
      · have indices : (es.zipIdx.map Prod.snd).Nodup := by
          rw [List.zipIdx_map_snd]
          exact List.nodup_range'
        have apart := indices.map fun _ _ same => PathStep.index.inj same
        rwa [List.map_map] at apart
      · rintro ⟨entity, i⟩ -
        exact (below entity (path ++ [.key f.key] ++ [.index i])).1

/-- A query whose fields have distinct keys leaves at most one error for each place. -/
theorem owned_allErrors (e : Entity) (path : List PathStep) (fields : List PlannedField)
    (distinct : PlannedField.allKeysDistinct fields = true) :
    Owned path (Answer.allErrors (s.answerAll w e path fields)) :=
  (s.owned_fields e path fields distinct fun f _ nested => s.owned_answer f e path nested).1

end Setting
end Query
end ClusterGraph
