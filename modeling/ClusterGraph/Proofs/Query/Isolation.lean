import ClusterGraph.Proofs.Query.Places

/-!
# Failures stay in their place

In a query over a store that answers without delay, a call that fails costs its own field and no
other (`Setting.failures_stay_in_place`):

* data — every field has what it has when it is resolved alone, in whatever order its siblings are
  taken, although they share the cache of clients (`Setting.Shows`); a field whose call fails is
  null, and no other field is unless that is what its own resolver gives;
* errors — there is one for each call that fails, at the place of its field (`Setting.Reports`).

Which calls fail is told from the session in which the query is begun: a call fails if it does when
nothing else is asked (`Setting.failure?`).

Fields that are selected together have to have distinct keys, and the arguments of every field that
is reached have to be values of their types; an argument that is not fails what stands around it.
-/
namespace ClusterGraph
namespace Query

/-- Data is what a resolver gave, with something selected from it if that is possible. -/
def FieldValue.IsShownBy : FieldValue → Json → Prop
  | .leaf v, data => data = v
  | .entity? none, data => data = .null
  | .entity? (some _), data => data.isObject = true
  | .entities es, data =>
    ∃ items, data = .array items ∧ items.length = es.length ∧ ∀ item ∈ items, item.isObject = true

namespace Setting

/-- The data of a query, place by place. -/
structure Shows {β : Type} (s : Setting β) (w : World β) (data : Json) : Prop where
  /-- At the place of a field stands what the field has when it is resolved alone, and that is what
  its own resolver gives. -/
  place : ∀ site, s.Reaches w .query [] s.plan.fields site → ∃ v,
    dataAt? site.place.path data = some v ∧ s.alone w site = some v ∧ (s.value w site).IsShownBy v
  /-- Where a call fails, there is null. -/
  failed : ∀ site f, s.Reaches w .query [] s.plan.fields site → s.failure? w site = some f →
    dataAt? site.place.path data = some .null

/-- The errors of a query: one for each call that fails. -/
structure Reports {β : Type} (s : Setting β) (w : World β) (errors : List ResponseError) :
    Prop where
  /-- No two errors are for one place. -/
  once : (errors.map ResponseError.path).Nodup
  /-- The error of a call that fails says how it fails, at the place of its field. -/
  failures : ∀ err, err ∈ errors ↔ ∃ site f, s.Reaches w .query [] s.plan.fields site ∧
    s.failure? w site = some f ∧ err = site.place.error f

variable {callTimeout requestTimeout : Nat} (s : Setting Store) {w : World Store}

/-- The data of an answer is what the resolver of its field gave. -/
theorem answer_isShownBy {β : Type} (s : Setting β) (w : World β) (e : Entity)
    (path : List PathStep) (f : PlannedField) :
    (s.value w ⟨e, path, f⟩).IsShownBy (s.answer w e path f).data := by
  cases gives : s.value w ⟨e, path, f⟩ with
  | leaf v =>
    rw [s.answer_of_leaf gives]
    rfl
  | entity? entity =>
    cases entity with
    | none =>
      rw [s.answer_of_null gives]
      rfl
    | some below =>
      rw [s.answer_of_entity gives]
      rfl
  | entities es =>
    rw [s.answer_of_entities gives]
    refine ⟨_, rfl, by simp, ?_⟩
    intro item member
    obtain ⟨⟨below, i⟩, -, rfl⟩ := List.mem_map.mp member
    rfl

/-- What is reached from a site that is reached is reached as well. -/
theorem Reaches.trans {β : Type} {s : Setting β} {w : World β} {e : Entity} {path : List PathStep}
    {fields : List PlannedField} {site last : Site} (reaches : s.Reaches w e path fields site)
    (onward : s.Reaches w site.entity site.path [site.field] last) :
    s.Reaches w e path fields last := by
  induction reaches with
  | here member => exact onward.mono (by simpa using member)
  | inside member gives _ ih => exact .inside member gives (ih onward)
  | item member gives at_index _ ih => exact .item member gives at_index (ih onward)

section Query
variable (gateway : s.gateway = Gateway.ofStore callTimeout requestTimeout)
  (prompt : w.Prompt callTimeout) (uncancelled : s.Uncancelled)
include gateway prompt uncancelled

/-- No mutation is reached from a query. -/
theorem reads_of_reaches {e : Entity} {path : List PathStep} {fields : List PlannedField}
    {site : Site} (reaches : s.Reaches w e path fields site) (reads : e ≠ .mutation)
    (fits : s.Fits w e path fields) : site.entity ≠ .mutation := by
  have given (e : Entity) (path : List PathStep) (fields : List PlannedField) (f : PlannedField)
      (member : f ∈ fields) (reads : e ≠ .mutation) (fits : s.Fits w e path fields) :
      (s.value w ⟨e, path, f⟩).Reads := by
    obtain ⟨call?, asks⟩ := fits ⟨e, path, f⟩ (.here member)
    exact (s.field_settles gateway prompt uncancelled reads call? asks).2.1
  induction reaches with
  | here member => exact reads
  | @inside e below path fields f site member gives rest ih =>
    have fine := given e path fields f member reads fits
    rw [gives] at fine
    refine ih (fun same => fine (congrArg some same)) ?_
    exact fun site reaches => fits site (.inside member gives reaches)
  | @item e below path fields f es i site member gives at_index rest ih =>
    have fine := given e path fields f member reads fits
    rw [gives] at fine
    refine ih ?_ fun site reaches => fits site (.item member gives at_index reaches)
    rintro rfl
    exact fine (List.mem_of_getElem? at_index)

variable (fits : s.Fits w .query [] s.plan.fields)
include fits

/-- In whatever way siblings are taken, a query gives its answer and leaves its errors. -/
theorem runBy_settles {all : Siblings Store} (fair : all.Fair (s.Still w)) :
    Settles (s.Still w) (s.runBy all) (Answer.gather (s.answerAll w .query [] s.plan.fields))
      (Answer.allErrors (s.answerAll w .query [] s.plan.fields)) := by
  refine s.select_settles fair .query [] s.plan.fields ?_
  intro f member
  refine s.resolveBy_settles gateway prompt uncancelled fair f .query [] nofun ?_
  exact fun site reaches => fits site (reaches.mono (by simpa using member))

/-- What a field that is reached has alone is its answer. -/
theorem alone_eq {site : Site} (reaches : s.Reaches w .query [] s.plan.fields site) :
    s.alone w site = some (s.answer w site.entity site.path site.field).data := by
  have reads := s.reads_of_reaches gateway prompt uncancelled reaches nofun fits
  have settles := s.resolveBy_settles gateway prompt uncancelled
    (Siblings.fair_sideBySide (s.Still w)) site.field site.entity site.path reads
    fun last onward => fits last (reaches.trans onward)
  rw [resolveBy_sideBySide] at settles
  obtain ⟨v, left, run, -⟩ := settles.run w fun caller _ => prompt.sameFor caller
  unfold alone
  rw [run]

theorem shows (distinct : PlannedField.allKeysDistinct s.plan.fields = true) :
    s.Shows w (Answer.gather (s.answerAll w .query [] s.plan.fields)) := by
  have stands (site : Site) (reaches : s.Reaches w .query [] s.plan.fields site) :
      dataAt? site.place.path (Answer.gather (s.answerAll w .query [] s.plan.fields)) =
        some (s.answer w site.entity site.path site.field).data := by
    obtain ⟨rest, place, data⟩ := dataAt?_of_reaches reaches distinct
    rw [place]
    exact data
  refine ⟨?_, ?_⟩
  · intro site reaches
    exact ⟨_, stands site reaches, s.alone_eq gateway prompt uncancelled fits reaches,
      s.answer_isShownBy w site.entity site.path site.field⟩
  · intro site f reaches fails
    have reads := s.reads_of_reaches gateway prompt uncancelled reaches nofun fits
    obtain ⟨call?, asks⟩ := fits site reaches
    have null := (s.field_settles gateway prompt uncancelled reads call? asks).2.2 f fails
    rw [stands site reaches, s.answer_of_null null]

end Query

/-- The errors of a query are reported in whatever order they are left. -/
theorem reports (errors : List ResponseError)
    (distinct : PlannedField.allKeysDistinct s.plan.fields = true)
    (left : errors.Perm (Answer.allErrors (s.answerAll w .query [] s.plan.fields))) :
    s.Reports w errors := by
  refine ⟨?_, ?_⟩
  · have once := (s.owned_allErrors (w := w) .query [] s.plan.fields distinct).once
    exact (left.map _).nodup_iff.mpr once
  · intro err
    rw [left.mem_iff, mem_allErrors]
    constructor
    · rintro ⟨site, reaches, member⟩
      obtain ⟨f, fails, rfl⟩ := List.mem_map.mp member
      exact ⟨site, f, reaches, by simpa using fails, rfl⟩
    · rintro ⟨site, f, reaches, fails, rfl⟩
      exact ⟨site, reaches, List.mem_map.mpr ⟨f, by simpa using fails, rfl⟩⟩

/-- A call that fails costs its own field and no other, whether the fields of a query are resolved
side by side, as they are in fact, or one after another in any order. -/
theorem failures_stay_in_place (s : Setting Store) (w : World Store)
    (callTimeout requestTimeout : Nat)
    (gateway : s.gateway = Gateway.ofStore callTimeout requestTimeout)
    (prompt : w.Prompt callTimeout) (uncancelled : s.Uncancelled)
    (query : s.plan.operation.kind ≠ .mutation)
    (distinct : PlannedField.allKeysDistinct s.plan.fields = true)
    (fits : s.Fits w .query [] s.plan.fields) :
    ∃ data, s.Shows w data ∧
      (∃ v errors, s.run.run ⟨w, []⟩ = (some (.ok data), ⟨v, errors⟩) ∧ s.Reports w errors ∧
        ∀ r : Request, r.plan Schema.cluster = .ok s.plan →
          respond s.gateway s.caller? r w = (some ⟨data, errors⟩, v)) ∧
      ∀ order, ∃ v errors, (s.runIn order).run ⟨w, []⟩ = (some (.ok data), ⟨v, errors⟩) ∧
        s.Reports w errors := by
  have still : s.Still w w := fun caller _ => prompt.sameFor caller
  refine ⟨_, s.shows gateway prompt uncancelled fits distinct, ?_, ?_⟩
  · have settles := s.runBy_settles gateway prompt uncancelled fits
      (Siblings.fair_sideBySide (s.Still w))
    obtain ⟨v, errors, run, left⟩ := settles.run w still
    rw [← s.run_eq_runBy query] at run
    refine ⟨v, errors, run, s.reports errors distinct left, ?_⟩
    intro r planned
    unfold respond
    rw [planned]
    simp only [run]
    rfl
  · intro order
    have settles := s.runBy_settles gateway prompt uncancelled fits
      (Siblings.fair_inOrder (s.Still w) order)
    obtain ⟨v, errors, run, left⟩ := settles.run w still
    exact ⟨v, errors, run, s.reports errors distinct left⟩

/-! ## A query in which some calls fail -/

/-- A session with a definition in its store, in which nothing can be listed. -/
def unlistable : World Store :=
  World.start ⟨0, 0⟩ (Cache.empty 600000 256)
    { Store.empty with
      objects := [⟨[("apiVersion", .string "apiextensions.k8s.io/v1"),
        ("kind", .string "CustomResourceDefinition"),
        ("metadata", .object [("name", .string "widgets.example.io")])]⟩]
      failures := [(.list, .internal "down")] }

/-- A query that asks for all definitions, and for one of them with the objects of its kind. -/
def lookingAround : Setting Store where
  gateway := Gateway.ofStore 30000 60000
  caller? := some ⟨⟨.bearer "token-a", none⟩, ⟨none⟩, none, none⟩
  plan :=
    { operation := ⟨.start, .query, none, [], [], .start, []⟩
      values := []
      fields :=
        [.mk .start "all" "customResourceDefinitions" []
            [.mk .start "totalCount" "totalCount" [] []],
          .mk .start "one" "customResourceDefinition"
            [⟨.start, "name", .start, .string "widgets.example.io"⟩]
            [.mk .start "name" "name" [] [],
              .mk .start "resources" "resources" []
                [.mk .start "totalCount" "totalCount" [] []]]] }

theorem fits_lookingAround :
    lookingAround.Fits unlistable .query [] lookingAround.plan.fields := by
  refine fits_of_each ?_
  intro f member
  rcases List.mem_pair.mp member with rfl | rfl
  · refine fits_of_selected (asks_of_bare _ _ _ rfl (by decide)) fun e path => ?_
    exact fits_of_bare e path _ (by decide)
  · refine fits_of_selected ⟨_, rfl⟩ fun e path => fits_of_each ?_
    intro g member
    rcases List.mem_pair.mp member with rfl | rfl
    · exact fits_of_bare e path _ (by decide)
    · refine fits_of_selected (asks_of_bare e path _ rfl (by decide)) fun e path => ?_
      exact fits_of_bare e path _ (by decide)

/-- All definitions and the objects of the one that is found cannot be had; the name of that one
can. -/
theorem failures_stay_in_place_of_unlistable :
    ∃ data, lookingAround.Shows unlistable data ∧
      (∃ v errors,
        lookingAround.run.run ⟨unlistable, []⟩ = (some (.ok data), ⟨v, errors⟩) ∧
        lookingAround.Reports unlistable errors ∧
        errors.map ResponseError.path = [[.key "all"], [.key "one", .key "resources"]]) ∧
      ∀ order, ∃ v errors,
        (lookingAround.runIn order).run ⟨unlistable, []⟩ = (some (.ok data), ⟨v, errors⟩) ∧
        lookingAround.Reports unlistable errors := by
  have prompt : unlistable.Prompt 30000 :=
    ⟨rfl, rfl, fun key => Cache.idle_empty 600000 256 .asCame key 0, by decide, by decide⟩
  have uncancelled : lookingAround.Uncancelled := by
    rintro caller ⟨⟩
    rfl
  obtain ⟨data, shows, ⟨v, errors, run, reports, -⟩, others⟩ :=
    failures_stay_in_place lookingAround unlistable 30000 60000 rfl prompt uncancelled nofun
      (by decide) fits_lookingAround
  have paths : (lookingAround.run.run ⟨unlistable, []⟩).2.errors.map ResponseError.path =
      [[.key "all"], [.key "one", .key "resources"]] := by decide +kernel
  rw [run] at paths
  exact ⟨data, shows, ⟨v, errors, run, reports, paths⟩, others⟩

end Setting
end Query
end ClusterGraph
