import ClusterGraph.Proofs.Gateway.InTurn
import ClusterGraph.Proofs.Query.Places

/-!
# Mutations of a document

The fields of a mutation are resolved one after another, in the order of the document. What they
answer is what the gateway answers to the mutations that they ask for, asked one after another by
the same caller, and the session that they leave is the same as well
(`Setting.mutations_in_turn`). A field whose mutation fails is null and leaves one error; it does
not keep the later ones from being carried out.

Only an argument that is no value of its type ends a mutation. Nothing can be asked for then, and
there is no data; what the fields before it have done stays done.
-/
namespace ClusterGraph
namespace Query
variable {β α : Type}

def PlannedField.ofMutation (f : PlannedField) : Site := ⟨.mutation, [], f⟩

namespace Setting
variable (s : Setting β)

/-! ## What is asked for -/

/-- What a field of the root of mutations asks of the gateway. -/
def mutationAsks (place : FieldPlace) (given : List Argument) :
    String → Except ResponseError (Json ⊕ Mutation)
  | "createResource" => do
    let document ← s.argument place given "document" Coercion.text
    return .inr (.create document (← s.patches place given))
  | "updateResource" => do
    let r ← s.argument place given "reference" Coercion.reference
    let document ← s.argument place given "document" Coercion.text
    return .inr (.update r document (← s.patches place given))
  | "deleteResource" =>
    (s.argument place given "reference" Coercion.reference).map fun r => .inr (.delete r)
  | _ => .ok (.inl .null)

/-- What a field of a mutation has without a call, or what it asks of the gateway, or which of its
arguments is no value of its type. -/
def asksToDo (f : PlannedField) : Except ResponseError (Json ⊕ Mutation) :=
  if f.name = "__typename" then
    (s.checkFlag f.ofMutation.place f.arguments).map fun _ =>
      .inl (.string Entity.mutation.typeName)
  else s.mutationAsks f.ofMutation.place f.arguments f.name

def mutations : List PlannedField → List Mutation
  | [] => []
  | f :: rest =>
    match s.asksToDo f with
    | .error _ => []
    | .ok (.inl _) => mutations rest
    | .ok (.inr m) => m :: mutations rest

/-- The first argument that is no value of its type. -/
def misfit? : List PlannedField → Option ResponseError
  | [] => none
  | f :: rest =>
    match s.asksToDo f with
    | .error e => some e
    | .ok _ => misfit? rest

/-- What earlier fields ask for comes first, unless one of them ends the mutation. -/
theorem mutations_append {before : List PlannedField} (fits : s.misfit? before = none)
    (later : List PlannedField) :
    s.mutations (before ++ later) = s.mutations before ++ s.mutations later := by
  induction before with
  | nil => rfl
  | cons f rest ih =>
    simp only [List.cons_append, mutations]
    unfold misfit? at fits
    rcases asks : s.asksToDo f with e | data | m
    · rw [asks] at fits
      cases fits
    · rw [asks] at fits
      exact ih fits
    · rw [asks] at fits
      simp only [ih fits, List.cons_append]

/-! ## What is answered -/

/-- A field that is selected from an object of the cluster. -/
def entry (r : Resource) (path : List PathStep) (g : PlannedField) :
    Except ResponseError (String × Json) :=
  match (Entity.resource r).field? Schema.cluster g.name with
  | some (.leaf v) =>
    (s.checkFlag ⟨g.position, path ++ [.key g.key]⟩ g.arguments).map fun _ => (g.key, v)
  | _ => .ok (g.key, .null)

/-- The answer of a field for what the gateway answers to its mutation: what is selected from the
object, or null and the error. -/
def answerTo (f : PlannedField) : Except Failure Resource → Answer
  | .ok r =>
    match f.selected.mapM (s.entry r [.key f.key]) with
    | .ok entries => ⟨gathered entries, []⟩
    | .error e => ⟨.null, [e]⟩
  | .error failure => ⟨.null, [f.ofMutation.place.error failure]⟩

/-- The answers of fields, under their keys, for what the gateway answers to their mutations. -/
def answersTo : List PlannedField → List (Except Failure Resource) → List (String × Answer)
  | [], _ => []
  | f :: rest, answers =>
    match s.asksToDo f, answers with
    | .ok (.inl v), answers => (f.key, ⟨v, []⟩) :: answersTo rest answers
    | .ok (.inr _), answer :: later => (f.key, s.answerTo f answer) :: answersTo rest later
    | _, _ => []

/-- The response to a mutation for what the gateway answers. -/
def reply (fields : List PlannedField) (answers : List (Except Failure Resource)) : Response :=
  let shown := s.answersTo fields answers
  match s.misfit? fields with
  | none => ⟨.object (shown.map fun a => (a.1, a.2.data)), Answer.allErrors shown⟩
  | some e => ⟨.null, e :: Answer.allErrors shown⟩

end Setting

/-! ## Runs -/

/-- A run of work on the session of an execution. -/
theorem run_within (work : Work (World β) α) (x : Execution β) :
    (work.within Execution.world fun w x => { x with world := w }).run x =
      ((work.run x.world).1, { x with world := (work.run x.world).2 }) := by
  induction work generalizing x with
  | done a => rfl
  | act update next ih => exact ih x.world { x with world := update x.world }
  | wait ready abandon timers next ih =>
    have timer : ((Work.upcoming timers x).find? fun t => ready (Clocked.setNow t x).world) =
        (Work.upcoming timers x.world).find? fun t => ready (Clocked.setNow t x.world) := rfl
    simp only [Work.within, Work.run, timer]
    split
    · exact ih x
    · cases (Work.upcoming timers x.world).find? fun t => ready (Clocked.setNow t x.world) with
      | none => rfl
      | some t => exact ih (Clocked.setNow t x)

/-- Pieces of work that are done already give their values, or the first error. -/
theorem tryAll_done {σ ε ι : Type} (items : List ι) (value : ι → Except ε α) (t : σ) :
    Work.AtOnce (fun r u => r = items.mapM value ∧ u = t)
      (Work.tryAll (items.map fun i => .done (value i))) t := by
  induction items with
  | nil => exact .done ⟨rfl, rfl⟩
  | cons i rest ih =>
    rw [List.mapM_cons]
    cases first : value i with
    | error e =>
      simp only [List.map_cons, first]
      exact .act (.done ⟨rfl, ih.undo⟩)
    | ok a =>
      simp only [List.map_cons, first]
      have here : Work.AtOnce (fun b u => b = .ok a ∧ u = t)
          (.done (.ok a) : Work σ (Except ε α)) t := .done ⟨rfl, rfl⟩
      refine here.par ?_
      rintro _ _ ⟨rfl, rfl⟩
      refine ⟨rfl, ih.mono ?_⟩
      rintro r u ⟨rfl, rfl⟩
      refine ⟨?_, rfl⟩
      cases rest.mapM value with
      | ok as => rfl
      | error e => rfl

namespace Setting
variable (s : Setting β)

/-- A field at the root of mutations, by what it asks for. -/
def bridgeToDo (place : FieldPlace) :
    Except ResponseError (Json ⊕ Mutation) → Resolution β FieldValue
  | .error e => .done (.error e)
  | .ok (.inl v) => .done (.ok (.leaf v))
  | .ok (.inr m) => s.call place .resource fun caller => s.gateway.carryOut caller m

theorem mutationField_eq (place : FieldPlace) (given : List Argument) (name : String) :
    s.mutationField place given name = s.bridgeToDo place (s.mutationAsks place given name) := by
  unfold mutationField
  split
  · unfold mutationAsks
    cases s.argument place given "document" Coercion.text with
    | error e => rfl
    | ok document =>
      cases s.patches place given with
      | error e => rfl
      | ok patches => rfl
  · unfold mutationAsks
    cases s.argument place given "reference" Coercion.reference with
    | error e => rfl
    | ok r =>
      cases s.argument place given "document" Coercion.text with
      | error e => rfl
      | ok document =>
        cases s.patches place given with
        | error e => rfl
        | ok patches => rfl
  · unfold mutationAsks
    cases s.argument place given "reference" Coercion.reference with
    | error e => rfl
    | ok r => rfl
  · next no_create no_update no_delete =>
    have asks : s.mutationAsks place given name = .ok (.inl .null) := by
      unfold mutationAsks
      split
      · exact absurd rfl no_create
      · exact absurd rfl no_update
      · exact absurd rfl no_delete
      · rfl
    rw [asks]
    rfl

theorem field_of_mutation (f : PlannedField) :
    s.field .mutation f.ofMutation.place f.name f.arguments =
      s.bridgeToDo f.ofMutation.place (s.asksToDo f) := by
  unfold field asksToDo
  by_cases named : f.name = "__typename"
  · have gives : Entity.mutation.field? Schema.cluster f.name =
        some (.leaf (.string Entity.mutation.typeName)) := by
      unfold Entity.field?
      rw [if_pos named]
      rfl
    rw [gives, if_pos named]
    cases s.checkFlag f.ofMutation.place f.arguments with
    | error e => rfl
    | ok flag => rfl
  · have gives : Entity.mutation.field? Schema.cluster f.name = none := by
      unfold Entity.field?
      rw [if_neg named]
    rw [gives, if_neg named]
    exact s.mutationField_eq _ _ _

/-- The fields of an object of the cluster are plain data. -/
theorem leaf_of_resource {r : Resource} {name : String} {v : FieldValue}
    (gives : (Entity.resource r).field? Schema.cluster name = some v) : ∃ data, v = .leaf data := by
  unfold Entity.field? at gives
  split at gives
  · cases gives
    exact ⟨_, rfl⟩
  · dsimp only at gives
    unfold Entity.resourceField at gives
    split at gives <;> cases gives <;> exact ⟨_, rfl⟩

theorem resolve_resource (r : Resource) (path : List PathStep) (g : PlannedField) :
    resolve s (.resource r) path g = .done (s.entry r path g) := by
  obtain ⟨position, key, name, arguments, selected⟩ := g
  unfold resolve entry field
  dsimp only [PlannedField.name, PlannedField.key, PlannedField.position, PlannedField.arguments]
  cases gives : (Entity.resource r).field? Schema.cluster name with
  | none => rfl
  | some v =>
    obtain ⟨data, rfl⟩ := leaf_of_resource gives
    dsimp only
    cases s.checkFlag ⟨position, path ++ [.key key]⟩ arguments with
    | error e => rfl
    | ok flag => rfl

theorem resolveAll_resource (r : Resource) (path : List PathStep) (fields : List PlannedField) :
    resolveAll s (.resource r) path fields = fields.map fun g => .done (s.entry r path g) := by
  induction fields with
  | nil =>
    unfold resolveAll
    rfl
  | cons g rest ih =>
    unfold resolveAll
    rw [resolve_resource, ih, List.map_cons]

/-- What is selected from the object of a mutation. -/
theorem run_select_resource (f : PlannedField) (r : Resource) (x : Execution β) :
    (nullable ((Work.tryAll (resolveAll s (.resource r) [.key f.key] f.selected)).bind fun r =>
      .done (collected r))).run x =
      (some (.ok (s.answerTo f (.ok r)).data),
        { x with errors := x.errors ++ (s.answerTo f (.ok r)).errors }) := by
  rw [resolveAll_resource]
  obtain ⟨_, _, run, rfl, rfl⟩ := (tryAll_done f.selected (s.entry r [.key f.key]) x).run
  unfold nullable answerTo
  rw [Work.run_bind, Work.run_bind, run]
  dsimp only
  cases f.selected.mapM (s.entry r [.key f.key]) with
  | ok entries => simp [collected, Work.run, Except.map]
  | error e => rfl

variable {s}

/-- A field with an argument that is no value of its type. -/
theorem resolve_of_misfit {f : PlannedField} {e : ResponseError}
    (misfit : s.asksToDo f = .error e) : resolve s .mutation [] f = .done (.error e) := by
  have field := s.field_of_mutation f
  rw [misfit] at field
  cases f
  unfold resolve
  exact congrArg (Work.bind · _) field

/-- A field that asks for no mutation. -/
theorem resolve_of_data {f : PlannedField} {v : Json} (has : s.asksToDo f = .ok (.inl v)) :
    resolve s .mutation [] f = .done (.ok (f.key, v)) := by
  have field := s.field_of_mutation f
  rw [has] at field
  cases f
  unfold resolve
  exact congrArg (Work.bind · _) field

section Run
variable {caller : ClusterGraph.Request} (given : s.caller? = some caller)
include given

/-- What a field gives and leaves once its call has been answered. -/
theorem run_call (place : FieldPlace) (entity : α → Entity)
    (operation : ClusterGraph.Request → Gateway.Operation β α) (x : Execution β)
    {answer : Except Failure α} {v : World β}
    (answered : (operation caller).run x.world = (some answer, v)) :
    (s.call place entity operation).run x =
      (some (.ok (.ofOutcome (answer.map entity))),
        ⟨v, x.errors ++ place.errors (answer.map entity)⟩) := by
  unfold call
  rw [given]
  dsimp only
  rw [Work.run_bind, run_within, answered]
  cases answer with
  | ok a => simp [Work.run, FieldValue.ofOutcome, FieldPlace.errors, Except.map, Except.toOption]
  | error f => rfl

/-- A field that asks for a mutation, once that has been answered. -/
theorem run_resolve_of_asks {f : PlannedField} {m : Mutation}
    (asks : s.asksToDo f = .ok (.inr m)) (x : Execution β) {answer : Except Failure Resource}
    {v : World β} (answered : (s.gateway.carryOut caller m).run x.world = (some answer, v)) :
    (resolve s .mutation [] f).run x =
      (some (.ok (f.key, (s.answerTo f answer).data)),
        ⟨v, x.errors ++ (s.answerTo f answer).errors⟩) := by
  have called : (s.field .mutation f.ofMutation.place f.name f.arguments).run x =
      (some (.ok (.ofOutcome (answer.map .resource))),
        ⟨v, x.errors ++ f.ofMutation.place.errors (answer.map .resource)⟩) := by
    rw [s.field_of_mutation, asks]
    exact run_call given f.ofMutation.place .resource
      (fun caller => s.gateway.carryOut caller m) x answered
  cases answer with
  | ok r =>
    have selected := s.run_select_resource f r ⟨v, x.errors ++ []⟩
    cases f
    unfold resolve
    refine (Work.run_bind_of_some called _).trans ?_
    refine (Work.run_bind_of_some selected _).trans ?_
    simp only [Work.run, Except.map, List.append_nil]
    rfl
  | error failure =>
    cases f
    unfold resolve
    exact Work.run_bind_of_some called _

/-- Fields one after another. -/
theorem run_trySeq_of_mutation (fields : List PlannedField) (x : Execution β)
    {answers : List (Except Failure Resource)} {v : World β}
    (answered : s.gateway.inTurn caller (s.mutations fields) x.world = (some answers, v)) :
    (Work.trySeq (resolveAll s .mutation [] fields)).run x =
      (some (match s.misfit? fields with
        | none => .ok ((s.answersTo fields answers).map fun a => (a.1, a.2.data))
        | some e => .error e),
        ⟨v, x.errors ++ Answer.allErrors (s.answersTo fields answers)⟩) := by
  induction fields generalizing x answers with
  | nil =>
    cases answered
    unfold resolveAll
    simp [Work.trySeq, Work.run, misfit?, answersTo, Answer.allErrors]
  | cons f rest ih =>
    unfold resolveAll Work.trySeq
    unfold mutations at answered
    unfold misfit? answersTo
    rcases asks : s.asksToDo f with e | data | m
    · rw [asks] at answered
      cases answered
      rw [resolve_of_misfit asks]
      simp [Work.bind, Work.run, Answer.allErrors]
    · rw [asks] at answered
      rw [resolve_of_data asks]
      have later := ih x answered
      refine (Work.run_bind_of_some later _).trans ?_
      cases s.misfit? rest with
      | none => rfl
      | some e => rfl
    · rw [asks] at answered
      obtain ⟨answer, u, later, first, others, rfl⟩ := Gateway.answered_of_inTurn answered
      refine (Work.run_bind_of_some (run_resolve_of_asks given asks x first) _).trans ?_
      refine (Work.run_bind_of_some (ih _ others) _).trans ?_
      cases s.misfit? rest with
      | none => simp [Work.run, Answer.allErrors]
      | some e => simp [Work.run, Answer.allErrors]

end Run

variable (s)

theorem keys_answersTo (fields : List PlannedField) (answers : List (Except Failure Resource)) :
    ((s.answersTo fields answers).map Prod.fst).Sublist (fields.map PlannedField.key) := by
  induction fields generalizing answers with
  | nil => exact .slnil
  | cons f rest ih =>
    unfold answersTo
    rcases s.asksToDo f with e | data | m
    · exact List.nil_sublist _
    · exact (ih answers).cons_cons f.key
    · cases answers with
      | nil => exact List.nil_sublist _
      | cons answer later => exact (ih later).cons_cons f.key

/-- Every field asks for a mutation, with arguments that are values of their types. -/
def AllAsk (fields : List PlannedField) : Prop :=
  ∀ f ∈ fields, ∃ m, s.asksToDo f = .ok (.inr m)

theorem answersTo_of_allAsk (fields : List PlannedField) (all : s.AllAsk fields)
    (answers : List (Except Failure Resource))
    (length : answers.length = (s.mutations fields).length) :
    s.misfit? fields = none ∧ s.answersTo fields answers =
      (fields.zip answers).map fun a => (a.1.key, s.answerTo a.1 a.2) := by
  induction fields generalizing answers with
  | nil => exact ⟨rfl, rfl⟩
  | cons f rest ih =>
    obtain ⟨m, asks⟩ := all f List.mem_cons_self
    unfold mutations at length
    rw [asks] at length
    obtain ⟨answer, later, rfl⟩ := List.exists_cons_of_length_eq_add_one length
    obtain ⟨fits, shown⟩ := ih (fun g member => all g (List.mem_cons_of_mem f member)) later
      (Nat.succ.inj length)
    unfold misfit? answersTo
    rw [asks]
    refine ⟨fits, ?_⟩
    dsimp only
    rw [shown, List.zip_cons_cons, List.map_cons]

/-- If every field asks for a mutation, every one of them has its place in the data, and what stands
there and which error is left is told from the answer to its own mutation. -/
theorem reply_of_allAsk (fields : List PlannedField) (all : s.AllAsk fields)
    (answers : List (Except Failure Resource))
    (length : answers.length = (s.mutations fields).length) :
    s.reply fields answers =
      { data := .object ((fields.zip answers).map fun a => (a.1.key, (s.answerTo a.1 a.2).data))
        errors := (fields.zip answers).flatMap fun a => (s.answerTo a.1 a.2).errors } := by
  obtain ⟨fits, shown⟩ := s.answersTo_of_allAsk fields all answers length
  unfold reply Answer.allErrors
  rw [fits, shown]
  dsimp only
  rw [List.map_map, List.flatMap_map]
  rfl

/-! ## Responses -/

/-- The response to a plan, and the session that is left. -/
def response (w : World β) : Option Response × World β :=
  match s.run.run ⟨w, []⟩ with
  | (result?, x) =>
    (result?.map fun
      | .ok data => ⟨data, x.errors⟩
      | .error e => ⟨.null, e :: x.errors⟩, x.world)

theorem respond_of_plan (w : World β) (r : Request)
    (planned : r.plan Schema.cluster = .ok s.plan) :
    respond s.gateway s.caller? r w = s.response w := by
  unfold respond
  rw [planned]
  rfl

/-- The response to a mutation is told from what the gateway answers. -/
theorem response_of_mutation (mutates : s.plan.operation.kind = .mutation)
    (distinct : (s.plan.fields.map PlannedField.key).Nodup) {caller : ClusterGraph.Request}
    (given : s.caller? = some caller) {w v : World β} {answers : List (Except Failure Resource)}
    (answered : s.gateway.inTurn caller (s.mutations s.plan.fields) w = (some answers, v)) :
    s.response w = (some (s.reply s.plan.fields answers), v) := by
  have succession := run_trySeq_of_mutation given s.plan.fields ⟨w, []⟩ answered
  have ran := Work.run_bind_of_some succession fun r => .done (collected r)
  have run : s.run = (Work.trySeq (resolveAll s .mutation [] s.plan.fields)).bind fun r =>
      .done (collected r) := by
    unfold run
    rw [mutates]
  unfold response reply
  rw [run, ran]
  cases s.misfit? s.plan.fields with
  | none =>
    have keys : (Entries.keys
        ((s.answersTo s.plan.fields answers).map fun a => (a.1, a.2.data))).Nodup := by
      have among := (s.keys_answersTo s.plan.fields answers).nodup distinct
      simpa [Entries.keys, Function.comp_def] using among
    simp [collected, Except.map, Work.run, gathered_of_distinct _ keys]
  | some e => rfl

/-- A mutation answers what the gateway answers to the mutations that its fields ask for, one after
another, and leaves the session that these leave. A field with a mutation that fails is null and has
one error, and the later ones are carried out all the same. -/
theorem mutations_in_turn (s : Setting Store) (w : World Store) (callTimeout requestTimeout : Nat)
    (gateway : s.gateway = Gateway.ofStore callTimeout requestTimeout)
    (prompt : w.Prompt callTimeout) (caller : ClusterGraph.Request)
    (given : s.caller? = some caller) (uncancelled : caller.cancelAt = none)
    (mutates : s.plan.operation.kind = .mutation)
    (distinct : (s.plan.fields.map PlannedField.key).Nodup) :
    ∃ answers v, s.gateway.inTurn caller (s.mutations s.plan.fields) w = (some answers, v) ∧
      answers.length = (s.mutations s.plan.fields).length ∧
      s.response w = (some (s.reply s.plan.fields answers), v) ∧
      (∀ r : Request, r.plan Schema.cluster = .ok s.plan →
        respond s.gateway s.caller? r w = (some (s.reply s.plan.fields answers), v)) ∧
      (s.AllAsk s.plan.fields → s.reply s.plan.fields answers =
        { data := .object
            ((s.plan.fields.zip answers).map fun a => (a.1.key, (s.answerTo a.1 a.2).data))
          errors :=
            (s.plan.fields.zip answers).flatMap fun a => (s.answerTo a.1 a.2).errors }) := by
  obtain ⟨answers, v, answered, length⟩ := Gateway.inTurn_answers requestTimeout
    (prompt.readyFor caller) uncancelled (s.mutations s.plan.fields)
  rw [← gateway] at answered
  have response := s.response_of_mutation mutates distinct given answered
  refine ⟨answers, v, answered, length, response, ?_, ?_⟩
  · intro r planned
    exact (s.respond_of_plan w r planned).trans response
  · intro all
    exact s.reply_of_allAsk s.plan.fields all answers length

/-! ## A mutation in which some fields fail -/

/-- A session with an empty store in which nothing can be deleted. -/
def undeletable : World Store :=
  World.start ⟨0, 0⟩ (Cache.empty 600000 256)
    { Store.empty with failures := [(.delete, .internal "down")] }

/-- A field that creates an object, and asks for its name. -/
def creation (key document : String) : PlannedField :=
  .mk .start key "createResource" [⟨.start, "document", .start, .string document⟩]
    [.mk .start "name" "name" [] []]

def namelessWidget : Document :=
  ⟨[("apiVersion", .string "v1"), ("kind", .string "Widget"),
    ("metadata", .object [("generateName", .string "w-")])]⟩

/-- A widget with the name that the first one gets. -/
def firstWidget : Document :=
  ⟨[("apiVersion", .string "v1"), ("kind", .string "Widget"),
    ("metadata", .object [("name", .string "w-1")])]⟩

def widgetMaker : ClusterGraph.Request := ⟨⟨.bearer "token-a", none⟩, ⟨none⟩, none, none⟩

/-- A widget is created, and then another one after a document that is none, a widget whose name is
taken, and a deletion. -/
def widgetMaking : Setting Store where
  gateway := Gateway.ofStore 30000 60000
  caller? := some widgetMaker
  plan :=
    { operation := ⟨.start, .mutation, none, [], [], .start, []⟩
      values := []
      fields :=
        [creation "first" namelessWidget.raw,
          creation "broken" "",
          creation "again" firstWidget.raw,
          .mk .start "gone" "deleteResource"
            [⟨.start, "reference", .start, .object [("apiVersion", .string "v1"),
              ("kind", .string "Widget"), ("name", .string "w-1")]⟩]
            [.mk .start "name" "name" [] []],
          creation "last" namelessWidget.raw] }

theorem allAsk_widgetMaking : widgetMaking.AllAsk widgetMaking.plan.fields := by
  intro f member
  simp only [widgetMaking, List.mem_cons, List.not_mem_nil, or_false] at member
  rcases member with rfl | rfl | rfl | rfl | rfl <;> exact ⟨_, rfl⟩

/-- Three fields fail, each in its place. The last widget has the third number, since the second one
went to the widget whose name was taken. -/
theorem mutations_in_turn_of_widgets :
    ∃ answers v,
      widgetMaking.gateway.inTurn widgetMaker (widgetMaking.mutations widgetMaking.plan.fields)
        undeletable = (some answers, v) ∧
      (∃ errors, widgetMaking.response undeletable =
        (some ⟨.object ((widgetMaking.plan.fields.zip answers).map fun a =>
          (a.1.key, (widgetMaking.answerTo a.1 a.2).data)), errors⟩, v) ∧
        errors.map ResponseError.path = [[.key "broken"], [.key "again"], [.key "gone"]]) ∧
      v.backend.objects.map Document.name? = [some "w-1", some "w-3"] := by
  have prompt : undeletable.Prompt 30000 :=
    ⟨rfl, rfl, fun key => Cache.idle_empty 600000 256 .asCame key 0, by decide, by decide⟩
  obtain ⟨answers, v, answered, -, response, -, shown⟩ := mutations_in_turn widgetMaking
    undeletable 30000 60000 rfl prompt widgetMaker rfl rfl rfl (by decide)
  have paths : (widgetMaking.response undeletable).1.map
      (fun r => r.errors.map ResponseError.path) =
        some [[.key "broken"], [.key "again"], [.key "gone"]] := by decide +kernel
  have names : (widgetMaking.response undeletable).2.backend.objects.map Document.name? =
      [some "w-1", some "w-3"] := by decide +kernel
  rw [shown allAsk_widgetMaking] at response
  rw [response] at paths names
  exact ⟨answers, v, answered, ⟨_, response, Option.some.inj paths⟩, names⟩

end Setting
end Query
end ClusterGraph
