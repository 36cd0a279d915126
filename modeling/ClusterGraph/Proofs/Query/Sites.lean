import ClusterGraph.Proofs.Work.AtOnce
import ClusterGraph.Query.Execution

/-!
# Where fields are resolved

A site is a planned field and the entity it is selected from, at a path of the data. Which sites a
plan reaches depends on what its fields give, so it is told from each field alone: what its resolver
gives in the session in which the whole plan is begun, before anything else has been resolved.

The fields of an object, and the items of a list, are resolved side by side in `resolve`. They may
be taken in any other order as well, and in a different one at every path (`Setting.runIn`).
-/
namespace ClusterGraph
namespace Query
variable {β : Type}

/-! ## Planned fields -/

namespace PlannedField

def key : PlannedField → String
  | mk _ key _ _ _ => key

def position : PlannedField → Position
  | mk position _ _ _ _ => position

def name : PlannedField → String
  | mk _ _ name _ _ => name

def arguments : PlannedField → List Argument
  | mk _ _ _ arguments _ => arguments

/-- The fields that are selected from what a field gives. -/
def selected : PlannedField → List PlannedField
  | mk _ _ _ _ selected => selected

mutual
/-- No two fields that are selected from one thing below a field have the same key. -/
def keysDistinct : PlannedField → Bool
  | mk _ _ _ _ selected => allKeysDistinct selected

@[inherit_doc keysDistinct]
def allKeysDistinct : List PlannedField → Bool
  | [] => true
  | f :: rest => !(rest.map key).contains f.key && f.keysDistinct && allKeysDistinct rest
end

/-- What holds of a field if it holds of all that are selected below it holds of every field. -/
theorem induction {motive : PlannedField → Prop}
    (step : ∀ f : PlannedField, (∀ g ∈ f.selected, motive g) → motive f) (f : PlannedField) :
    motive f :=
  @PlannedField.rec motive (fun fs => ∀ f ∈ fs, motive f)
    (fun position key name arguments selected below =>
      step (.mk position key name arguments selected) below)
    (fun _ => nofun)
    (fun f rest here below g member => by
      rcases List.mem_cons.mp member with rfl | later
      · exact here
      · exact below g later)
    f

end PlannedField

/-! ## Calls of fields -/

inductive BridgeCall where
  | definitions
  | definition (name : String)
  | resource (r : Reference)
  | resources (d : Descriptor) (version nspace : Option String)

/-- The operation of the gateway that answers a field, and gives what is selected from. -/
def BridgeCall.operation (g : Gateway β) (caller : ClusterGraph.Request) :
    BridgeCall → Gateway.Operation β Entity
  | definitions => Gateway.next (g.definitions caller) fun c => .done (.ok (.definitions c))
  | definition name => Gateway.next (g.definition caller name) fun d => .done (.ok (.definition d))
  | resource r => Gateway.next (g.get caller r) fun r => .done (.ok (.resource r))
  | resources d version nspace =>
    Gateway.next (g.resources caller d version nspace) fun c => .done (.ok (.resources c))

structure Site where
  entity : Entity
  path : List PathStep
  field : PlannedField

def Site.place (site : Site) : FieldPlace :=
  ⟨site.field.position, site.path ++ [.key site.field.key]⟩

namespace Setting
variable (s : Setting β)

/-- What a field of the root of queries asks of the gateway. -/
def queryAsks (place : FieldPlace) (given : List Argument) :
    String → Except ResponseError (Option BridgeCall)
  | "customResourceDefinitions" => .ok (some .definitions)
  | "customResourceDefinition" =>
    (s.argument place given "name" Coercion.text).map fun name => some (.definition name)
  | "resource" =>
    (s.argument place given "reference" Coercion.reference).map fun r => some (.resource r)
  | "__type" => (s.argument place given "name" Coercion.text).map fun _ => none
  | _ => .ok none

/-- What the objects of the kind that a definition declares are asked for with. -/
def resourcesAsks (place : FieldPlace) (given : List Argument) (d : Definition) :
    Except ResponseError (Option BridgeCall) := do
  let version ← s.argument place given "version" Coercion.text?
  let nspace ← s.argument place given "namespace" Coercion.text?
  return some (.resources d.descriptor version nspace)

/-- What a field asks of the gateway, if it asks for anything, or which of its arguments is no value
of its type. -/
def asks (site : Site) : Except ResponseError (Option BridgeCall) :=
  match site.entity.field? Schema.cluster site.field.name with
  | some _ => (s.checkFlag site.place site.field.arguments).map fun _ => none
  | none =>
    match site.entity with
    | .query => s.queryAsks site.place site.field.arguments site.field.name
    | .definition d => s.resourcesAsks site.place site.field.arguments d
    | _ => .ok none

/-- What the gateway answers a call in a session, when nothing else is asked of it. -/
def outcome (w : World β) (c : BridgeCall) : Option (Except Failure Entity) :=
  match s.caller? with
  | none => some (.error noCaller)
  | some caller => ((c.operation s.gateway caller).run w).1

/-- How the call of a field fails in a session, if it is a field with a call that does. -/
def failure? (w : World β) (site : Site) : Option Failure :=
  match s.asks site with
  | .ok (some c) =>
    match s.outcome w c with
    | some (.error f) => some f
    | _ => none
  | _ => none

/-- What the resolver of a field gives in a session, when it runs alone. -/
def value (w : World β) (site : Site) : FieldValue :=
  match ((s.field site.entity site.place site.field.name site.field.arguments).run ⟨w, []⟩).1 with
  | some (.ok v) => v
  | _ => .leaf .null

/-- The data of a field, with all that is selected below it, when nothing else is resolved. -/
def alone (w : World β) (site : Site) : Option Json :=
  match ((resolve s site.entity site.path site.field).run ⟨w, []⟩).1 with
  | some (.ok (_, data)) => some data
  | _ => none

/-- The sites that are reached from fields which are selected from an entity at a path. -/
inductive Reaches (w : World β) : Entity → List PathStep → List PlannedField → Site → Prop where
  | here {e : Entity} {path : List PathStep} {fields : List PlannedField} {f : PlannedField}
      (member : f ∈ fields) : Reaches w e path fields ⟨e, path, f⟩
  | inside {e below : Entity} {path : List PathStep} {fields : List PlannedField}
      {f : PlannedField} {site : Site} (member : f ∈ fields)
      (gives : s.value w ⟨e, path, f⟩ = .entity? (some below))
      (rest : Reaches w below (path ++ [.key f.key]) f.selected site) :
      Reaches w e path fields site
  | item {e below : Entity} {path : List PathStep} {fields : List PlannedField} {f : PlannedField}
      {es : List Entity} {i : Nat} {site : Site} (member : f ∈ fields)
      (gives : s.value w ⟨e, path, f⟩ = .entities es) (at_index : es[i]? = some below)
      (rest : Reaches w below (path ++ [.key f.key] ++ [.index i]) f.selected site) :
      Reaches w e path fields site

/-- The arguments of every field that is reached are values of their types. -/
def Fits (w : World β) (e : Entity) (path : List PathStep) (fields : List PlannedField) : Prop :=
  ∀ site, s.Reaches w e path fields site → ∃ call?, s.asks site = .ok call?

section Fits
variable {s} {w : World β}

/-- A field fits if its own arguments do and what is selected from it fits wherever it is. -/
theorem fits_of_selected {e : Entity} {path : List PathStep} {f : PlannedField}
    (own : ∃ call?, s.asks ⟨e, path, f⟩ = .ok call?)
    (below : ∀ e path, s.Fits w e path f.selected) : s.Fits w e path [f] := by
  intro site reaches
  cases reaches with
  | here member =>
    cases List.mem_singleton.mp member
    exact own
  | inside member gives rest =>
    cases List.mem_singleton.mp member
    exact below _ _ site rest
  | item member gives at_index rest =>
    cases List.mem_singleton.mp member
    exact below _ _ site rest

theorem fits_of_each {e : Entity} {path : List PathStep} {fields : List PlannedField}
    (each : ∀ f ∈ fields, s.Fits w e path [f]) : s.Fits w e path fields := by
  intro site reaches
  cases reaches with
  | here member => exact each _ member _ (.here (List.mem_singleton_self _))
  | inside member gives rest =>
    exact each _ member _ (.inside (List.mem_singleton_self _) gives rest)
  | item member gives at_index rest =>
    exact each _ member _ (.item (List.mem_singleton_self _) gives at_index rest)

/-- Nothing is wrong with the arguments of a field that has none and needs none. -/
theorem asks_of_bare (e : Entity) (path : List PathStep) (f : PlannedField)
    (bare : f.arguments = [])
    (needs_none : f.name ∉ ["customResourceDefinition", "resource", "__type"]) :
    ∃ call?, s.asks ⟨e, path, f⟩ = .ok call? := by
  unfold asks
  simp only [bare]
  cases e.field? Schema.cluster f.name with
  | some v => exact ⟨none, rfl⟩
  | none =>
    cases e with
    | query =>
      dsimp only [queryAsks]
      split
      · exact ⟨_, rfl⟩
      · next name => simp [name] at needs_none
      · next name => simp [name] at needs_none
      · next name => simp [name] at needs_none
      · exact ⟨_, rfl⟩
    | _ => exact ⟨_, rfl⟩

/-- Fields without arguments and without anything selected from them fit if they need none. -/
theorem fits_of_bare (e : Entity) (path : List PathStep) (fields : List PlannedField)
    (bare : ∀ f ∈ fields, f.arguments = [] ∧ f.selected = [] ∧
      f.name ∉ ["customResourceDefinition", "resource", "__type"]) : s.Fits w e path fields := by
  refine fits_of_each fun f member => ?_
  obtain ⟨no_arguments, no_selected, needs_none⟩ := bare f member
  refine fits_of_selected (asks_of_bare e path f no_arguments needs_none) fun e path => ?_
  rw [no_selected]
  exact fits_of_each fun _ => nofun

end Fits

end Setting

/-! ## Orders -/

/-- How siblings at a path are resolved together: the fields of an object, or the items of a
list. -/
abbrev Siblings (β : Type) :=
  (α : Type) → List PathStep → List (Resolution β α) → Resolution β (List α)

mutual
/-- A planned field of an entity, as in `resolve`, but with the siblings below it resolved in a
given way. -/
def resolveBy (all : Siblings β) (s : Setting β) (e : Entity) (path : List PathStep) :
    PlannedField → Resolution β (String × Json)
  | .mk position key name arguments selected =>
    let path := path ++ [.key key]
    let select (e : Entity) (path : List PathStep) : Resolution β Json :=
      (all _ path (resolveAllBy all s e path selected)).bind fun r => .done (collected r)
    (s.field e ⟨position, path⟩ name arguments).bind fun
      | .error err => .done (.error err)
      | .ok (.leaf v) => .done (.ok (key, v))
      | .ok (.entity? none) => .done (.ok (key, .null))
      | .ok (.entity? (some e)) =>
        (nullable (select e path)).bind fun r => .done (r.map (Prod.mk key))
      | .ok (.entities es) =>
        (all _ path (es.zipIdx.map fun (e, i) =>
          let path := path ++ [.index i]
          itemAt path (select e path))).bind fun r =>
            .done (r.map fun items => (key, .array items))

@[inherit_doc resolveBy]
def resolveAllBy (all : Siblings β) (s : Setting β) (e : Entity) (path : List PathStep) :
    List PlannedField → List (Resolution β (String × Json))
  | [] => []
  | f :: rest => resolveBy all s e path f :: resolveAllBy all s e path rest
end

/-- What is selected from an entity, as data, with siblings resolved in a given way. -/
def selectBy (all : Siblings β) (s : Setting β) (e : Entity) (path : List PathStep)
    (fields : List PlannedField) : Resolution β Json :=
  (all _ path (resolveAllBy all s e path fields)).bind fun r => .done (collected r)

/-- The query of a plan, with siblings resolved in a given way. -/
def Setting.runBy (s : Setting β) (all : Siblings β) : Resolution β Json :=
  selectBy all s .query [] s.plan.fields

/-- Siblings side by side, as they are resolved in fact. -/
def Siblings.sideBySide : Siblings β := fun _ _ => Work.tryAll

/-- In which order siblings are taken: at every path, each of them once. -/
structure Order where
  turns : (path : List PathStep) → (count : Nat) → List Nat
  each_once : ∀ path count, (turns path count).Perm (List.range count)

def Siblings.inOrder (order : Order) : Siblings β := fun _ path ws =>
  Work.tryIn (order.turns path ws.length) ws

/-- The query of a plan, with siblings taken in an order. -/
def Setting.runIn (s : Setting β) (order : Order) : Resolution β Json := s.runBy (.inOrder order)

mutual
theorem resolveBy_sideBySide (s : Setting β) (e : Entity) (path : List PathStep) :
    (f : PlannedField) → resolveBy .sideBySide s e path f = resolve s e path f
  | .mk position key name arguments selected => by
    unfold resolveBy resolve
    have same (e : Entity) (path : List PathStep) := resolveAllBy_sideBySide s e path selected
    simp only [same]
    rfl

theorem resolveAllBy_sideBySide (s : Setting β) (e : Entity) (path : List PathStep) :
    (fields : List PlannedField) →
      resolveAllBy .sideBySide s e path fields = resolveAll s e path fields
  | [] => by
    unfold resolveAllBy resolveAll
    rfl
  | f :: rest => by
    unfold resolveAllBy resolveAll
    rw [resolveBy_sideBySide s e path f, resolveAllBy_sideBySide s e path rest]
end

/-- What is run in fact is the query with siblings side by side. -/
theorem Setting.run_eq_runBy (s : Setting β) (reads : s.plan.operation.kind ≠ .mutation) :
    s.run = s.runBy .sideBySide := by
  unfold run runBy selectBy
  rw [resolveAllBy_sideBySide]
  split
  · next mutates => exact absurd mutates reads
  · rfl

end Query
end ClusterGraph
