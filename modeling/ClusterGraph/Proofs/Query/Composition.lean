import ClusterGraph.Proofs.Gateway.Errand
import ClusterGraph.Proofs.Query.Sites
import ClusterGraph.Proofs.Work.Upholds

/-!
# What the execution of a plan is made of

However the fields of a plan are nested, all that is done for it is put together from operations of
the gateway for its caller, one after another or side by side, and from errors that are left
(`Query.Setting.composed_run`). What holds of the parts, and of whatever is put together from what
it holds of, holds of the execution, by induction on `Query.Setting.Composed`.
-/
namespace ClusterGraph
namespace Query
namespace Setting
variable {β α γ : Type} {s : Setting β}

/-- Work on an execution that is put together from operations of the gateway for the caller. -/
inductive Composed (s : Setting β) : {α : Type} → Work (Execution β) α → Prop where
  | done {α : Type} (a : α) : Composed s (.done a)
  | leave {α : Type} (e : ResponseError) {next : Execution β → Work (Execution β) α}
      (rest : ∀ x, Composed s (next x)) : Composed s (.act (Execution.leave e) next)
  | operation {α : Type} {caller : ClusterGraph.Request} (given : s.caller? = some caller)
      {operation : Gateway.Operation β α} (offers : s.gateway.Offers caller operation) :
      Composed s (operation.within Execution.world fun w x => { x with world := w })
  | bind {α γ : Type} {w : Work (Execution β) α} {k : α → Work (Execution β) γ}
      (first : Composed s w) (rest : ∀ a, Composed s (k a)) : Composed s (w.bind k)
  | tryAll {α ε : Type} {works : List (Work (Execution β) (Except ε α))}
      (each : ∀ w ∈ works, Composed s w) : Composed s (Work.tryAll works)

namespace Composed

theorem map {w : Work (Execution β) α} (composed : Composed s w) (f : α → γ) :
    Composed s (w.bind fun a => .done (f a)) :=
  composed.bind fun _ => .done _

theorem nullable {w : Resolution β Json} (composed : Composed s w) :
    Composed s (Query.nullable w) := by
  refine composed.bind ?_
  rintro (e | v)
  · exact .leave e fun _ => .done _
  · exact .done _

theorem trySeq {ε : Type} {works : List (Work (Execution β) (Except ε α))}
    (each : ∀ w ∈ works, Composed s w) : Composed s (Work.trySeq works) := by
  induction works with
  | nil => exact .done _
  | cons w rest ih =>
    refine (each w List.mem_cons_self).bind ?_
    rintro (e | a)
    · exact .done _
    refine (ih fun v member => each v (List.mem_cons_of_mem w member)).bind ?_
    rintro (e | as)
    · exact .done _
    · exact .done _

/-- What is composed of operations upholds what each of them does. -/
theorem upholds {inv : World β → Prop} {w : Work (Execution β) α} (composed : Composed s w)
    (each : ∀ (α : Type) (caller : ClusterGraph.Request) (operation : Gateway.Operation β α),
      s.caller? = some caller → s.gateway.Offers caller operation → Work.Upholds inv operation) :
    Work.Upholds (fun x => inv x.world) w := by
  induction composed with
  | done a => exact .done a
  | leave e _ ih => exact .act (fun _ holds => holds) fun x _ => ih x
  | operation given offers => exact (each _ _ _ given offers).within fun _ _ => rfl
  | bind _ _ first rest => exact first.bind rest
  | tryAll _ each => exact .tryAll each

end Composed

/-! ## Fields -/

theorem composed_call (place : FieldPlace) (entity : α → Entity)
    {operation : ClusterGraph.Request → Gateway.Operation β α}
    (offers : ∀ caller, s.gateway.Offers caller (operation caller)) :
    s.Composed (s.call place entity operation) := by
  unfold call
  dsimp only
  split
  · exact .leave _ fun _ => .done _
  · next caller given =>
    refine (Composed.operation given (offers caller)).bind ?_
    rintro (f | a)
    · exact .leave _ fun _ => .done _
    · exact .done _

theorem composed_callWith (place : FieldPlace) (arguments : Except ResponseError γ)
    (entity : α → Entity) {operation : γ → ClusterGraph.Request → Gateway.Operation β α}
    (offers : ∀ a caller, s.gateway.Offers caller (operation a caller)) :
    s.Composed (s.callWith place arguments entity operation) := by
  unfold callWith
  split
  · exact .done _
  · exact composed_call place entity (offers _)

theorem composed_queryField (place : FieldPlace) (given : List Argument) (name : String) :
    s.Composed (s.queryField place given name) := by
  unfold queryField
  split
  · exact composed_call place _ fun _ => .list _ _ _
  · exact composed_callWith place _ _ fun name _ => .definition name
  · exact composed_callWith place _ _ fun r _ => .get r
  · exact .done _
  · exact .done _
  · exact .done _

theorem composed_mutationField (place : FieldPlace) (given : List Argument) (name : String) :
    s.Composed (s.mutationField place given name) := by
  unfold mutationField
  split
  · exact composed_callWith place _ _ fun a _ => .create a.1 a.2
  · exact composed_callWith place _ _ fun a _ => .update a.1 a.2.1 a.2.2
  · exact composed_callWith place _ _ fun r _ => .delete r
  · exact .done _

theorem composed_field (e : Entity) (place : FieldPlace) (name : String) (given : List Argument) :
    s.Composed (s.field e place name given) := by
  unfold field
  split
  · exact .done _
  · split
    · exact composed_queryField place given name
    · exact composed_mutationField place given name
    · exact composed_callWith place _ _ fun _ _ => .list _ _ _
    · exact .done _

theorem composed_resolveAll {e : Entity} {path : List PathStep} {fields : List PlannedField}
    (each : ∀ f ∈ fields, s.Composed (resolve s e path f)) :
    ∀ w ∈ resolveAll s e path fields, s.Composed w := by
  induction fields with
  | nil => exact nofun
  | cons f rest ih =>
    intro w member
    unfold resolveAll at member
    rcases List.mem_cons.mp member with rfl | later
    · exact each f List.mem_cons_self
    · exact ih (fun g inside => each g (List.mem_cons_of_mem f inside)) w later

/-- A field, with all that is selected below it. -/
theorem composed_resolve (f : PlannedField) (e : Entity) (path : List PathStep) :
    s.Composed (resolve s e path f) := by
  induction f using PlannedField.induction generalizing e path with
  | step f ih =>
    obtain ⟨position, key, name, arguments, selected⟩ := f
    have below (e : Entity) (path : List PathStep) : s.Composed
        ((Work.tryAll (resolveAll s e path selected)).bind fun r => .done (collected r)) :=
      (Composed.tryAll (composed_resolveAll fun g member => ih g member e path)).map _
    unfold resolve
    refine (composed_field e _ name arguments).bind ?_
    rintro (err | v | (_ | entity) | es)
    · exact .done _
    · exact .done _
    · exact .done _
    · exact (below entity _).nullable.map _
    · refine (Composed.tryAll fun w member => ?_).map _
      obtain ⟨⟨entity, i⟩, -, rfl⟩ := List.mem_map.mp member
      exact (below entity _).map _

/-- All that is done for a plan. -/
theorem composed_run (s : Setting β) : s.Composed s.run := by
  have each (e : Entity) : ∀ w ∈ resolveAll s e [] s.plan.fields, s.Composed w :=
    composed_resolveAll fun f _ => composed_resolve f e []
  unfold Setting.run
  dsimp only
  refine Composed.map ?_ _
  split
  · exact Composed.trySeq (each .mutation)
  · exact Composed.tryAll (each .query)

end Setting
end Query
end ClusterGraph
