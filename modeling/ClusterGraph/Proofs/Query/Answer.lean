import ClusterGraph.Proofs.Query.Reading

/-!
# What a query answers

The data of a query and the errors that it leaves, told from what each field gives alone
(`Setting.answer`). Resolving the fields gives just that, in whatever way siblings are taken as long
as each of them is taken once (`Setting.resolveBy_settles`).
-/
namespace ClusterGraph
namespace Query

/-- The data of a field, and the errors that it and what is selected below it leave. -/
structure Answer where
  data : Json
  errors : List ResponseError

/-- The answers of several fields, under their keys, as data. -/
def Answer.gather (fields : List (String × Answer)) : Json :=
  gathered (fields.map fun f => (f.1, f.2.data))

def Answer.allErrors (fields : List (String × Answer)) : List ResponseError :=
  fields.flatMap fun f => f.2.errors

namespace Setting
variable {β : Type} (s : Setting β) (w : World β)

mutual
def answer (e : Entity) (path : List PathStep) : PlannedField → Answer
  | .mk position key name arguments selected =>
    let site : Site := ⟨e, path, .mk position key name arguments selected⟩
    let path := path ++ [.key key]
    match s.value w site with
    | .leaf v => ⟨v, s.errors w site⟩
    | .entity? none => ⟨.null, s.errors w site⟩
    | .entity? (some below) =>
      let fields := answerAll below path selected
      ⟨Answer.gather fields, s.errors w site ++ Answer.allErrors fields⟩
    | .entities es =>
      let items := es.zipIdx.map fun (below, i) => answerAll below (path ++ [.index i]) selected
      ⟨.array (items.map Answer.gather), s.errors w site ++ items.flatMap Answer.allErrors⟩

def answerAll (e : Entity) (path : List PathStep) : List PlannedField → List (String × Answer)
  | [] => []
  | f :: rest => (f.key, answer e path f) :: answerAll e path rest
end

theorem answerAll_eq_map (e : Entity) (path : List PathStep) (fields : List PlannedField) :
    s.answerAll w e path fields = fields.map fun f => (f.key, s.answer w e path f) := by
  induction fields with
  | nil => rfl
  | cons f rest ih =>
    unfold answerAll
    rw [ih, List.map_cons]

section Cases
variable {w} {e : Entity} {path : List PathStep} {f : PlannedField}

theorem answer_of_leaf {v : Json} (gives : s.value w ⟨e, path, f⟩ = .leaf v) :
    s.answer w e path f = ⟨v, s.errors w ⟨e, path, f⟩⟩ := by
  cases f
  unfold answer
  simp only [gives]

theorem answer_of_null (gives : s.value w ⟨e, path, f⟩ = .entity? none) :
    s.answer w e path f = ⟨.null, s.errors w ⟨e, path, f⟩⟩ := by
  cases f
  unfold answer
  simp only [gives]

theorem answer_of_entity {below : Entity} (gives : s.value w ⟨e, path, f⟩ = .entity? (some below)) :
    s.answer w e path f =
      ⟨Answer.gather (s.answerAll w below (path ++ [.key f.key]) f.selected),
        s.errors w ⟨e, path, f⟩ ++
          Answer.allErrors (s.answerAll w below (path ++ [.key f.key]) f.selected)⟩ := by
  cases f
  unfold answer
  simp only [gives]
  rfl

theorem answer_of_entities {es : List Entity} (gives : s.value w ⟨e, path, f⟩ = .entities es) :
    s.answer w e path f =
      ⟨.array (es.zipIdx.map fun (below, i) =>
          Answer.gather (s.answerAll w below (path ++ [.key f.key] ++ [.index i]) f.selected)),
        s.errors w ⟨e, path, f⟩ ++ es.zipIdx.flatMap fun (below, i) => Answer.allErrors
          (s.answerAll w below (path ++ [.key f.key] ++ [.index i]) f.selected)⟩ := by
  cases f
  unfold answer
  simp only [gives, List.map_map, List.flatMap_map]
  rfl

end Cases

/-! ## Sites -/

section Sites
variable {s w} {e : Entity} {path : List PathStep} {site : Site}

theorem Reaches.mono {fields more : List PlannedField} (reaches : s.Reaches w e path fields site)
    (among : fields ⊆ more) : s.Reaches w e path more site := by
  cases reaches with
  | here member => exact .here (among member)
  | inside member gives rest => exact .inside (among member) gives rest
  | item member gives at_index rest => exact .item (among member) gives at_index rest

theorem Reaches.of_inside {f : PlannedField} {below : Entity}
    (reaches : s.Reaches w below (path ++ [.key f.key]) f.selected site)
    (gives : s.value w ⟨e, path, f⟩ = .entity? (some below)) : s.Reaches w e path [f] site :=
  .inside (List.mem_singleton_self f) gives reaches

theorem Reaches.of_item {f : PlannedField} {below : Entity} {es : List Entity} {i : Nat}
    (reaches : s.Reaches w below (path ++ [.key f.key] ++ [.index i]) f.selected site)
    (gives : s.value w ⟨e, path, f⟩ = .entities es) (at_index : es[i]? = some below) :
    s.Reaches w e path [f] site :=
  .item (List.mem_singleton_self f) gives at_index reaches

end Sites
end Setting

/-! ## Resolving -/

/-- Siblings that are settled are settled together. -/
def Siblings.Fair {β : Type} (good : World β → Prop) (all : Siblings β) : Prop :=
  ∀ (ι α : Type) (path : List PathStep) (items : List ι) (f : ι → Resolution β α) (value : ι → α)
    (errors : ι → List ResponseError), (∀ i ∈ items, Settles good (f i) (value i) (errors i)) →
    Settles good (all α path (items.map f)) (items.map value) (items.flatMap errors)

theorem Siblings.fair_sideBySide {β : Type} (good : World β → Prop) :
    (Siblings.sideBySide (β := β)).Fair good :=
  fun _ _ _ items _ _ _ each => settles_tryAll items each

theorem Siblings.fair_inOrder {β : Type} (good : World β → Prop) (order : Order) :
    (Siblings.inOrder (β := β) order).Fair good := by
  intro ι α path items f value errors each
  unfold inOrder
  rw [List.length_map]
  exact settles_tryIn items _ (order.each_once path items.length) each

theorem resolveAllBy_eq_map {β : Type} (all : Siblings β) (s : Setting β) (e : Entity)
    (path : List PathStep) (fields : List PlannedField) :
    resolveAllBy all s e path fields = fields.map (resolveBy all s e path) := by
  induction fields with
  | nil => rfl
  | cons f rest ih =>
    unfold resolveAllBy
    rw [ih, List.map_cons]

namespace Setting
variable {callTimeout requestTimeout : Nat} (s : Setting Store) {w : World Store}
  {all : Siblings Store}

/-- The fields that are selected from an entity, if each of them is settled. -/
theorem select_settles {good : World Store → Prop} (fair : all.Fair good) (e : Entity)
    (path : List PathStep) (fields : List PlannedField)
    (each : ∀ f ∈ fields, Settles good (resolveBy all s e path f)
      (f.key, (s.answer w e path f).data) (s.answer w e path f).errors) :
    Settles good (selectBy all s e path fields) (Answer.gather (s.answerAll w e path fields))
      (Answer.allErrors (s.answerAll w e path fields)) := by
  unfold selectBy
  rw [resolveAllBy_eq_map, s.answerAll_eq_map]
  have together := fair _ _ path fields _ _ _ each
  unfold Answer.gather Answer.allErrors
  rw [List.map_map, List.flatMap_map]
  exact together.map rfl

/-- The items of a list, if what is selected from each of them is settled. -/
theorem items_settle {good : World Store → Prop} (fair : all.Fair good) (es : List Entity)
    (path : List PathStep) (fields : List PlannedField)
    (each : ∀ below i, es[i]? = some below →
      Settles good (selectBy all s below (path ++ [.index i]) fields)
        (Answer.gather (s.answerAll w below (path ++ [.index i]) fields))
        (Answer.allErrors (s.answerAll w below (path ++ [.index i]) fields))) :
    Settles good
      (all _ path (es.zipIdx.map fun (below, i) =>
        itemAt (path ++ [.index i]) (selectBy all s below (path ++ [.index i]) fields)))
      (es.zipIdx.map fun (below, i) =>
        Answer.gather (s.answerAll w below (path ++ [.index i]) fields))
      (es.zipIdx.flatMap fun (below, i) =>
        Answer.allErrors (s.answerAll w below (path ++ [.index i]) fields)) := by
  refine fair _ _ path es.zipIdx _ _ _ ?_
  rintro ⟨below, i⟩ member
  exact (each below i (List.mem_zipIdx_iff_getElem?.mp member)).itemAt _

/-- A field below the root of queries gives its answer and leaves its errors, in whatever way
siblings are taken. -/
theorem resolveBy_settles (gateway : s.gateway = Gateway.ofStore callTimeout requestTimeout)
    (prompt : w.Prompt callTimeout) (uncancelled : s.Uncancelled) (fair : all.Fair (s.Still w))
    (f : PlannedField) (e : Entity) (path : List PathStep) (reads : e ≠ .mutation)
    (fits : s.Fits w e path [f]) :
    Settles (s.Still w) (resolveBy all s e path f) (f.key, (s.answer w e path f).data)
      (s.answer w e path f).errors := by
  induction f using PlannedField.induction generalizing e path with
  | step f ih =>
    obtain ⟨call?, asks⟩ := fits ⟨e, path, f⟩ (.here (List.mem_singleton_self f))
    obtain ⟨settles, fine, -⟩ := s.field_settles gateway prompt uncancelled reads call? asks
    -- What is selected below the field is settled, wherever it is reached.
    have below (below : Entity) (path' : List PathStep) (still_reads : below ≠ .mutation)
        (reached : ∀ site, s.Reaches w below path' f.selected site → s.Reaches w e path [f] site) :=
      s.select_settles (w := w) fair below path' f.selected fun g member =>
        ih g member below path' still_reads fun site reaches =>
          fits site (reached site (reaches.mono (by simpa using member)))
    obtain ⟨position, key, name, arguments, selected⟩ := f
    unfold resolveBy
    cases gives : s.value w ⟨e, path, .mk position key name arguments selected⟩ with
    | leaf v =>
      rw [gives] at settles
      rw [s.answer_of_leaf gives, ← List.append_nil (s.errors w _)]
      exact settles.bind (settles_done _)
    | entity? entity =>
      rw [gives] at settles fine
      cases entity with
      | none =>
        rw [s.answer_of_null gives, ← List.append_nil (s.errors w _)]
        exact settles.bind (settles_done _)
      | some entity =>
        have inside := below entity (path ++ [.key key]) (fun same => fine (congrArg some same))
          fun site reaches => reaches.of_inside gives
        rw [s.answer_of_entity gives]
        exact settles.bind (inside.nullable.map rfl)
    | entities es =>
      rw [gives] at settles fine
      rw [s.answer_of_entities gives]
      have together := s.items_settle (w := w) fair es (path ++ [.key key]) selected ?_
      swap
      · intro entity i at_index
        have still_reads : entity ≠ .mutation := by
          rintro rfl
          exact fine (List.mem_of_getElem? at_index)
        exact below entity (path ++ [.key key] ++ [.index i]) still_reads fun site reaches =>
          reaches.of_item gives at_index
      have listed := together.map (k := fun r => r.map fun items => (key, Json.array items)) rfl
      exact settles.bind listed

end Setting
end Query
end ClusterGraph
