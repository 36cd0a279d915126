import ClusterGraph.Proofs.Query.Sites

/-!
# Work of an execution that is settled

Some work gives the same value and leaves the same errors from every state of the session that is
good enough, and leaves the session good enough for the next. Pieces of such work can be taken in
any order: the values are those of the pieces, and the errors are those of the pieces too, in the
order in which the pieces were taken.
-/
namespace ClusterGraph
namespace Query
variable {β α γ ι : Type} {good : World β → Prop}

/-- From every good session the work ends at once with a value, leaves errors, in some order, and
leaves the session good. -/
def Settles (good : World β → Prop) (work : Resolution β α) (value : α)
    (errors : List ResponseError) : Prop :=
  ∀ x : Execution β, good x.world → Work.AtOnce (fun result y => result = .ok value ∧
    good y.world ∧ ∃ left, left.Perm errors ∧ y.errors = x.errors ++ left) work x

theorem settles_done (value : α) : Settles good (.done (.ok value)) value [] :=
  fun _ fine => .done ⟨rfl, fine, [], .refl _, (List.append_nil _).symm⟩

theorem settles_leave (e : ResponseError) (value : α) :
    Settles good (.act (Execution.leave e) fun _ => .done (.ok value)) value [e] :=
  fun _ fine => .act (.done ⟨rfl, fine, [e], .refl _, rfl⟩)

theorem Settles.bind {first : Resolution β α} {value : α} {errors errors' : List ResponseError}
    {value' : γ} {k : Except ResponseError α → Resolution β γ}
    (begun : Settles good first value errors) (rest : Settles good (k (.ok value)) value' errors') :
    Settles good (Work.bind first k) value' (errors ++ errors') := by
  intro x fine
  refine (begun x fine).bind ?_
  rintro _ y ⟨rfl, still, left, among, errors_y⟩
  refine (rest y still).mono ?_
  rintro _ z ⟨rfl, last, left', among', errors_z⟩
  refine ⟨rfl, last, left ++ left', among.append among', ?_⟩
  rw [errors_z, errors_y, List.append_assoc]

/-- What goes on without an effect after settled work. -/
theorem Settles.map {first : Resolution β α} {value : α} {errors : List ResponseError} {value' : γ}
    {k : Except ResponseError α → Except ResponseError γ} (begun : Settles good first value errors)
    (result : k (.ok value) = .ok value') :
    Settles good (Work.bind first fun r => .done (k r)) value' errors := by
  have done : Settles good (.done (k (.ok value))) value' [] := by
    rw [result]
    exact settles_done value'
  rw [← List.append_nil errors]
  exact begun.bind (k := fun r => .done (k r)) done

theorem Settles.nullable {work : Resolution β Json} {value : Json} {errors : List ResponseError}
    (settles : Settles good work value errors) : Settles good (nullable work) value errors := by
  rw [← List.append_nil errors]
  exact settles.bind (settles_done value)

theorem Settles.itemAt {work : Resolution β Json} {value : Json} {errors : List ResponseError}
    (settles : Settles good work value errors) (path : List PathStep) :
    Settles good (itemAt path work) value errors :=
  settles.map rfl

theorem Settles.perm {work : Resolution β α} {value : α} {errors errors' : List ResponseError}
    (settles : Settles good work value errors) (same : errors.Perm errors') :
    Settles good work value errors' := by
  intro x fine
  refine (settles x fine).mono ?_
  rintro result y ⟨ok, still, left, among, errors_y⟩
  exact ⟨ok, still, left, among.trans same, errors_y⟩

/-- What settled work gives and leaves in a run. -/
theorem Settles.run {work : Resolution β α} {value : α} {errors : List ResponseError}
    (settles : Settles good work value errors) (w : World β) (fine : good w) :
    ∃ v left, work.run ⟨w, []⟩ = (some (.ok value), ⟨v, left⟩) ∧ left.Perm errors := by
  obtain ⟨_, ⟨v, left⟩, run, rfl, -, left', among, errors_y⟩ := (settles ⟨w, []⟩ fine).run
  obtain rfl : left = left' := errors_y
  exact ⟨v, left, run, among⟩

/-! ## Several pieces -/

section Several
variable {f : ι → Resolution β α} {value : ι → α} {errors : ι → List ResponseError}

theorem settles_tryAll (items : List ι)
    (each : ∀ i ∈ items, Settles good (f i) (value i) (errors i)) :
    Settles good (Work.tryAll (items.map f)) (items.map value) (items.flatMap errors) := by
  induction items with
  | nil => exact settles_done []
  | cons i rest ih =>
    intro x fine
    refine (each i List.mem_cons_self x fine).par ?_
    rintro _ y ⟨rfl, still, left, among, errors_y⟩
    refine ⟨rfl, ?_⟩
    refine (ih (fun j member => each j (List.mem_cons_of_mem i member)) y still).mono ?_
    rintro _ z ⟨rfl, last, left', among', errors_z⟩
    refine ⟨rfl, last, left ++ left', ?_, ?_⟩
    · rw [List.flatMap_cons]
      exact among.append among'
    · rw [errors_z, errors_y, List.append_assoc]

theorem settles_trySeq (items : List ι)
    (each : ∀ i ∈ items, Settles good (f i) (value i) (errors i)) :
    Settles good (Work.trySeq (items.map f)) (items.map value) (items.flatMap errors) := by
  induction items with
  | nil => exact settles_done []
  | cons i rest ih =>
    rw [List.flatMap_cons]
    refine (each i List.mem_cons_self).bind ?_
    have later := ih fun j member => each j (List.mem_cons_of_mem i member)
    rw [← List.append_nil (rest.flatMap errors)]
    exact later.bind (settles_done _)

/-- In any order the values are those of the pieces, each at its own position. -/
theorem settles_tryIn (items : List ι) (turns : List Nat)
    (each_once : turns.Perm (List.range items.length))
    (each : ∀ i ∈ items, Settles good (f i) (value i) (errors i)) :
    Settles good (Work.tryIn turns (items.map f)) (items.map value) (items.flatMap errors) := by
  have taken : (turns.filterMap fun i => (items.map f)[i]?) =
      (turns.filterMap fun i => items[i]?).map f := by
    rw [List.map_filterMap]
    exact List.filterMap_congr fun i _ => List.getElem?_map
  have same := Work.perm_filterMap_getElem? items turns each_once
  have begun := settles_trySeq (turns.filterMap fun i => items[i]?) fun i member =>
    each i (same.mem_iff.mp member)
  have back : (List.range items.length).filterMap (fun i =>
      ((turns.filterMap fun i => items[i]?).map value)[turns.idxOf i]?) = items.map value := by
    have values := Work.filterMap_getElem?_idxOf items turns each_once
    calc (List.range items.length).filterMap (fun i =>
          ((turns.filterMap fun i => items[i]?).map value)[turns.idxOf i]?)
        = (List.range items.length).filterMap (fun i =>
            ((turns.filterMap fun i => items[i]?)[turns.idxOf i]?).map value) :=
          List.filterMap_congr fun i _ => List.getElem?_map
      _ = ((List.range items.length).filterMap fun i =>
            (turns.filterMap fun i => items[i]?)[turns.idxOf i]?).map value :=
          List.map_filterMap.symm
      _ = items.map value := by rw [values]
  unfold Work.tryIn
  rw [taken, List.length_map]
  refine (begun.map ?_).perm (same.flatMap_right errors)
  rw [← back]
  rfl

end Several
end Query
end ClusterGraph
