import ClusterGraph.Proofs.Gateway.Coherence
import ClusterGraph.Proofs.Query.Succession

/-!
# Addressing what has been created

A resource that has been given back tells how to refer to its object: by its `apiVersion`, kind,
namespace and name. An input made of these finds the object, and deletes it and nothing else, if the
reference that it becomes is that of the resource (`Gateway.Holds.get_iff`,
`Gateway.Appended.delete_iff`). An empty namespace is none in an input, but is kept in a document
that is created. So an object is out of reach of the inputs made of it exactly if its namespace is
empty (`Query.Setting.addressed_iff`).
-/
namespace ClusterGraph

/-- A reference is what its input becomes unless its namespace is empty. -/
theorem Reference.normalized_eq_iff (q : Reference) : q.normalized = q ↔ q.nspace ≠ some "" := by
  obtain ⟨apiVersion, kind, nspace, name⟩ := q
  cases nspace with
  | none => simp [normalized]
  | some ns =>
    by_cases empty : ns = "" <;> simp [normalized, empty]

/-- A document that a reference names describes a resource of that reference. -/
theorem Document.reference_of_isNamedBy {d : Document} {resource : Resource} {q : Reference}
    (remodelled : Resource.ofDocument d = .ok resource) (named : d.isNamedBy q = true) :
    q = resource.reference := by
  have there := (identity_of_ofDocument remodelled).symm.trans ((d.isNamedBy_iff q).mp named)
  simp only [Prod.mk.injEq, Option.some.injEq] at there
  obtain ⟨apiVersion, kind, nspace, name⟩ := there
  unfold Resource.reference
  rw [apiVersion, kind, nspace, name]

namespace Gateway
variable {callTimeout : Nat} {r : Request} {w v : World Store} {resource : Resource}

/-- What a reference finds is the resource exactly if the reference is its own. -/
theorem Holds.get_iff (holds : Holds callTimeout r resource w) (q : Reference) :
    staged .get Resource.ofDocument (w.backend.get r.scope.normalized.nspace q) = .ok resource ↔
      q = resource.reference := by
  constructor
  · intro answered
    cases got : w.backend.get r.scope.normalized.nspace q with
    | error e =>
      rw [got] at answered
      cases answered
    | ok d =>
      rw [got] at answered
      have found := (Store.get_eq_ok_iff.mp got).2
      exact Document.reference_of_isNamedBy answered
        (List.find?_some (p := fun o : Document => o.isNamedBy q) found)
  · rintro rfl
    obtain ⟨d, found, remodelled⟩ := holds.stored
    rw [Store.get_eq_ok_iff.mpr ⟨holds.permitted, found⟩]
    exact remodelled

namespace Appended
variable {before : List Document}

theorem sameFor (appended : Appended callTimeout r before resource w) (same : World.SameFor r w v) :
    Appended callTimeout r before resource v where
  serves := appended.serves.sameFor same
  permitted := appended.permitted
  stored := by
    rw [same.backend]
    exact appended.stored

/-- Deleting what a reference names succeeds and leaves the objects that were there before exactly
if the reference is that of the resource. -/
theorem delete_iff (appended : Appended callTimeout r before resource w) (q : Reference) :
    (w.backend.delete r.scope.normalized.nspace q).1 = .ok () ∧
        (w.backend.delete r.scope.normalized.nspace q).2.objects = before ↔
      q = resource.reference := by
  obtain ⟨d, objects, fresh, remodelled⟩ := appended.stored
  have member : d ∈ w.backend.objects := by simp [objects]
  constructor
  · rintro ⟨-, left⟩
    cases named : d.isNamedBy q with
    | true => exact Document.reference_of_isNamedBy remodelled named
    | false =>
      -- An object that the reference does not name stays, and it was not there before.
      have stays : d ∈ (w.backend.delete r.scope.normalized.nspace q).2.objects := by
        rcases outcome : w.backend.delete r.scope.normalized.nspace q with ⟨e | done, after⟩
        · rw [Store.objects_of_delete_error outcome]
          exact member
        · rw [(Store.deleted_of_delete outcome).objects]
          exact List.mem_filter.mpr ⟨member, by simp [named]⟩
      rw [left] at stays
      exact absurd (List.mem_map_of_mem stays) fresh
  · rintro rfl
    have there := Document.identity_of_ofDocument remodelled
    have named : d.isNamedBy resource.reference = true := (d.isNamedBy_iff _).mpr there
    obtain ⟨after, outcome⟩ := Store.delete_of_named appended.permitted ⟨d, member, named⟩
    have others : ∀ o ∈ before, o.isNamedBy resource.reference = false := by
      intro o among
      refine eq_false_of_ne_true fun same => fresh ?_
      exact (there.trans ((o.isNamedBy_iff _).mp same).symm) ▸ List.mem_map_of_mem among
    rw [outcome, (Store.deleted_of_delete outcome).objects, objects, List.filter_append,
      List.filter_eq_self.mpr fun o among => by simp [others o among]]
    exact ⟨rfl, by simp [named]⟩

end Appended
end Gateway

namespace Query
variable {β : Type}

/-- An input that is made of a resource: its `apiVersion`, kind, namespace and name. The namespace
may be left out if there is none. -/
structure IsInputFor (resource : Resource) (input : Entries Constant) : Prop where
  apiVersion : Coercion.text (input.get? "apiVersion") = .ok resource.apiVersion
  kind : Coercion.text (input.get? "kind") = .ok resource.kind
  nspace : Coercion.text? (input.get? "namespace") = .ok resource.nspace
  name : Coercion.text (input.get? "name") = .ok resource.name

theorem IsInputFor.reference {resource : Resource} {input : Entries Constant}
    (made : IsInputFor resource input) :
    Coercion.reference (some (.object input)) = .ok resource.reference.normalized := by
  unfold Coercion.reference
  dsimp only
  rw [made.apiVersion, made.kind, made.nspace, made.name]
  rfl

def PlannedField.ofQuery (f : PlannedField) : Site := ⟨.query, [], f⟩

namespace Setting

/-- The reference of a field is given by an input that is made of a resource. -/
def RefersTo (s : Setting β) (f : PlannedField) (resource : Resource) : Prop :=
  ∃ input, s.plan.argument f.arguments "reference" .ok = .ok (some (.object input)) ∧
    IsInputFor resource input

variable {s : Setting β}

/-- The value of an argument is what the value that is given for it becomes. -/
theorem argument_of_given (place : FieldPlace) {given : List Argument} {name : String}
    {found : Constant} (raw : s.plan.argument given name .ok = .ok (some found)) {α : Type}
    {coerce : Coercion α} {a : α} (fits : coerce (some found) = .ok a) :
    s.argument place given name coerce = .ok a := by
  unfold argument
  unfold Plan.argument at raw ⊢
  cases present : given.find? (·.name = name) with
  | none =>
    rw [present] at raw
    cases raw
  | some argument =>
    rw [present] at raw
    dsimp only at raw ⊢
    generalize argument.value.resolve _ = value at raw ⊢
    cases value with
    | error e => cases raw
    | ok c =>
      cases raw
      simp only [Except.bind, fits]
      rfl

theorem RefersTo.argument {f : PlannedField} {resource : Resource} (refers : s.RefersTo f resource)
    (place : FieldPlace) : s.argument place f.arguments "reference" Coercion.reference =
      .ok resource.reference.normalized := by
  obtain ⟨input, raw, made⟩ := refers
  exact argument_of_given place raw made.reference

/-- A field of a mutation that gives an object has been given it by the gateway. -/
theorem carried_of_field {caller : ClusterGraph.Request} (given : s.caller? = some caller)
    {f : PlannedField} {x y : Execution β} {resource : Resource}
    (gives : (s.field .mutation f.ofMutation.place f.name f.arguments).run x =
      (some (.ok (.entity? (some (.resource resource)))), y)) :
    ∃ m, s.asksToDo f = .ok (.inr m) ∧
      (s.gateway.carryOut caller m).run x.world = (some (.ok resource), y.world) := by
  rw [s.field_of_mutation] at gives
  rcases asks : s.asksToDo f with e | data | m
  · rw [asks] at gives
    cases gives
  · rw [asks] at gives
    cases gives
  · rw [asks] at gives
    refine ⟨m, rfl, ?_⟩
    rcases carried : (s.gateway.carryOut caller m).run x.world with ⟨_ | answer, v⟩
    · unfold bridgeToDo call at gives
      rw [given] at gives
      dsimp only at gives
      rw [Work.run_bind, run_within, carried] at gives
      cases gives
    · have ran := run_call given f.ofMutation.place .resource
        (fun caller => s.gateway.carryOut caller m) x carried
      obtain ⟨value, rfl⟩ := Prod.mk.inj (gives.symm.trans ran)
      cases answer with
      | error failure => cases value
      | ok other =>
        cases value
        rfl

/-- Only a creation is asked for by a field that creates. -/
theorem create_of_asks {f : PlannedField} {m : Mutation} (creates : f.name = "createResource")
    (asks : s.asksToDo f = .ok (.inr m)) : ∃ raw patches, m = .create raw patches := by
  unfold asksToDo at asks
  rw [creates, if_neg (by decide)] at asks
  unfold mutationAsks at asks
  cases document : s.argument f.ofMutation.place f.arguments "document" Coercion.text with
  | error e =>
    rw [document] at asks
    cases asks
  | ok raw =>
    cases patches : s.patches f.ofMutation.place f.arguments with
    | error e =>
      rw [document, patches] at asks
      cases asks
    | ok patches' =>
      rw [document, patches] at asks
      cases asks
      exact ⟨raw, patches', rfl⟩

/-! ## Finding and deleting -/

section Store
variable {callTimeout requestTimeout : Nat} {s : Setting Store} {caller : ClusterGraph.Request}
  {w : World Store} {f : PlannedField} {q : Reference}
  (gateway : s.gateway = Gateway.ofStore callTimeout requestTimeout)
  (given : s.caller? = some caller) (serves : w.Serves callTimeout caller)
  (argument : ∀ place, s.argument place f.arguments "reference" Coercion.reference = .ok q)
include gateway given serves argument

/-- From every session that is still the same for its caller, a field of a query gives what the
store has under the reference of the field. -/
theorem resource_settles (finds : f.name = "resource") :
    ∃ errors, Settles (s.Still w) (s.field .query f.ofQuery.place f.name f.arguments)
      (.ofOutcome ((Gateway.staged .get Resource.ofDocument
        (w.backend.get caller.scope.normalized.nspace q)).map .resource)) errors := by
  have still : s.Still w w := by
    intro other other?
    cases given.symm.trans other?
    exact .refl serves.ready.idle
  have running (other : ClusterGraph.Request) (other? : s.caller? = some other) :
      cancelled other.cancelAt w = false := by
    cases given.symm.trans other?
    exact serves.uncancelled
  have asks : s.asks f.ofQuery = .ok (some (.resource q)) := by
    have unanswered : Entity.query.field? Schema.cluster f.name = none := by
      rw [finds]
      rfl
    unfold Setting.asks PlannedField.ofQuery
    dsimp only
    rw [unanswered, finds]
    change (s.argument _ f.arguments "reference" _).map _ = _
    rw [argument]
    rfl
  have swift := serves.ready.swift
  obtain ⟨outcome, answered, settles, -⟩ := s.bridge_settles gateway still swift running
    f.ofQuery.place (.resource q)
  obtain ⟨u, ran, -⟩ := Gateway.get_of_serves requestTimeout serves q
  have operation : ((BridgeCall.resource q).operation s.gateway caller).run w =
      (some ((Gateway.staged .get Resource.ofDocument
        (w.backend.get caller.scope.normalized.nspace q)).map .resource), u) := by
    unfold BridgeCall.operation
    rw [gateway, Gateway.run_next, ran]
    cases Gateway.staged .get Resource.ofDocument
      (w.backend.get caller.scope.normalized.nspace q) <;> rfl
  unfold Setting.outcome at answered
  rw [given] at answered
  dsimp only at answered
  rw [operation] at answered
  cases answered
  have reads : f.ofQuery.entity ≠ .mutation := fun same => by cases same
  have does : s.field .query f.ofQuery.place f.name f.arguments =
      s.bridge f.ofQuery.place (.resource q) := s.does_field reads _ asks
  rw [does]
  exact ⟨_, settles⟩

/-- A field of a mutation deletes in the store what its reference names. -/
theorem run_delete (deletes : f.name = "deleteResource") (x : Execution Store)
    (world : x.world = w) :
    ∃ snapshot? y, (s.field .mutation f.ofMutation.place f.name f.arguments).run x =
        (some (.ok (.entity? snapshot?)), y) ∧
      (snapshot?.isSome ↔ (w.backend.delete caller.scope.normalized.nspace q).1 = .ok ()) ∧
      y.world.backend.objects =
        (w.backend.delete caller.scope.normalized.nspace q).2.objects := by
  subst world
  obtain ⟨snapshot, remodelled, -⟩ := Resource.ofDocument_ofReference q
  obtain ⟨u, ran, same⟩ := Gateway.mutate_of_serves requestTimeout serves .delete "delete"
    (.delete q) (fun restriction => Store.plain_delete restriction q)
    fun _ => (.ok snapshot : Except Failure Resource)
  rw [← Gateway.delete_eq callTimeout requestTimeout caller q snapshot remodelled,
    ← gateway] at ran
  have asks : s.asksToDo f = .ok (.inr (.delete q)) := by
    unfold asksToDo
    rw [deletes, if_neg (by decide)]
    change (s.argument _ f.arguments "reference" _).map _ = _
    rw [argument]
    rfl
  have called := run_call given f.ofMutation.place .resource
    (fun caller => s.gateway.carryOut caller (.delete q)) x ran
  rw [s.field_of_mutation, asks]
  refine ⟨_, _, called, ?_, ?_⟩
  · rcases (x.world.backend.delete caller.scope.normalized.nspace q).1 with e | done
    · simp [Gateway.staged, Except.map, Except.toOption]
    · simp [Gateway.staged, Except.map, Except.toOption]
  · rw [same.backend]
    rfl

end Store

/-- If calls take no time and none is made to fail, what a field of a mutation has created is found
by a later field of a query through an input that is made of what it gave, and can be deleted
through such an input with nothing else, exactly if its namespace is not empty. -/
theorem addressed_iff (callTimeout requestTimeout : Nat) (caller : ClusterGraph.Request)
    (m : Setting Store) (gateway : m.gateway = Gateway.ofStore callTimeout requestTimeout)
    (given : m.caller? = some caller) (f : PlannedField) (creates : f.name = "createResource")
    (x y : Execution Store) (resource : Resource) (ready : x.world.ReadyFor callTimeout caller)
    (working : ∀ kind, x.world.backend.failure? kind = none)
    (created : (m.field .mutation f.ofMutation.place f.name f.arguments).run x =
      (some (.ok (.entity? (some (.resource resource)))), y))
    (s : Setting Store) (same_gateway : s.gateway = m.gateway) (same_caller : s.caller? = m.caller?)
    (g : PlannedField) (refers : s.RefersTo g resource) :
    World.SameFor caller y.world y.world ∧
    (g.name = "resource" → ∃ value errors,
      Settles (s.Still y.world) (s.field .query g.ofQuery.place g.name g.arguments) value errors ∧
        (value = .entity? (some (.resource resource)) ↔ resource.nspace ≠ some "")) ∧
    (g.name = "deleteResource" → ∀ z : Execution Store, World.SameFor caller y.world z.world →
      ∃ snapshot? z', (s.field .mutation g.ofMutation.place g.name g.arguments).run z =
          (some (.ok (.entity? snapshot?)), z') ∧
        (snapshot?.isSome ∧ z'.world.backend.objects = x.world.backend.objects ↔
          resource.nspace ≠ some "")) := by
  have gateway' := same_gateway.trans gateway
  have given' := same_caller.trans given
  have normal : resource.reference.normalized = resource.reference ↔ resource.nspace ≠ some "" :=
    resource.reference.normalized_eq_iff
  -- What was created stands after the objects that were there before.
  have appended : Gateway.Appended callTimeout caller x.world.backend.objects resource y.world := by
    obtain ⟨mutation, asks, carried⟩ := carried_of_field given created
    obtain ⟨raw, patches, rfl⟩ := create_of_asks creates asks
    rw [gateway] at carried
    exact Gateway.appended_of_create ready working carried
  refine ⟨.refl appended.serves.ready.idle, ?_, ?_⟩
  · intro finds
    obtain ⟨errors, settles⟩ := resource_settles gateway' given' appended.serves refers.argument
      finds
    refine ⟨_, errors, settles, ?_⟩
    rw [← normal, ← appended.holds.get_iff]
    cases Gateway.staged .get Resource.ofDocument
      (y.world.backend.get caller.scope.normalized.nspace resource.reference.normalized) <;>
      simp [FieldValue.ofOutcome, Except.map, Except.toOption]
  · intro deletes z same
    have still := appended.sameFor same
    obtain ⟨snapshot?, z', ran, answered, objects⟩ := run_delete gateway' given' still.serves
      refers.argument deletes z rfl
    refine ⟨snapshot?, z', ran, ?_⟩
    rw [answered, objects, still.delete_iff]
    exact normal

/-! ## A widget in a namespace, and one in an empty one -/

def asking (kind : OperationKind) (f : PlannedField) : Setting Store where
  gateway := Gateway.ofStore 30000 60000
  caller? := some widgetMaker
  plan := { operation := ⟨.start, kind, none, [], [], .start, []⟩, values := [], fields := [f] }

def widgetIn (nspace : String) : Document :=
  ⟨[("apiVersion", .string "example.io/v1"), ("kind", .string "Widget"),
    ("metadata", .object [("name", .string "w"), ("namespace", .string nspace)])]⟩

/-- A field with a reference to that widget, as it is shown. -/
def mention (name nspace : String) : PlannedField :=
  .mk .start name name
    [⟨.start, "reference", .start, .object [("apiVersion", .string "example.io/v1"),
      ("kind", .string "Widget"), ("namespace", .string nspace), ("name", .string "w")]⟩]
    [.mk .start "name" "name" [] []]

theorem refersTo_mention (kind : OperationKind) (name nspace : String) {resource : Resource}
    (shown : resource.reference = ⟨"example.io/v1", "Widget", some nspace, "w"⟩) :
    (asking kind (mention name nspace)).RefersTo (mention name nspace) resource := by
  obtain ⟨apiVersion, kind, nspace, name⟩ := Reference.mk.inj shown
  refine ⟨_, rfl, ?_, ?_, ?_, ?_⟩
  · rw [apiVersion]
    rfl
  · rw [kind]
    rfl
  · rw [nspace]
    rfl
  · rw [name]
    rfl

/-- The reference of the object that a field gives, if it gives one. -/
def givenReference? : Except ResponseError FieldValue → Option Reference
  | .ok (.entity? (some (.resource r))) => some r.reference
  | _ => none

theorem resource_of_givenReference? {result : Except ResponseError FieldValue} {q : Reference}
    (gives : givenReference? result = some q) :
    ∃ resource : Resource, result = .ok (.entity? (some (.resource resource))) ∧
      resource.reference = q := by
  unfold givenReference? at gives
  split at gives
  · next resource => exact ⟨resource, rfl, Option.some.inj gives⟩
  · cases gives

/-- What the field that creates the widget gives in a session without objects. -/
def makingWidget (nspace : String) : Option (Except ResponseError FieldValue) × Execution Store :=
  let f := creation "made" (widgetIn nspace).raw
  ((asking .mutation f).field .mutation f.ofMutation.place f.name f.arguments).run
    ⟨Store.Move.emptySession, []⟩

theorem made_widget (nspace : String) (gives : (makingWidget nspace).1.bind givenReference? =
      some ⟨"example.io/v1", "Widget", some nspace, "w"⟩) :
    ∃ resource y, makingWidget nspace = (some (.ok (.entity? (some (.resource resource)))), y) ∧
      resource.reference = ⟨"example.io/v1", "Widget", some nspace, "w"⟩ := by
  rcases made : makingWidget nspace with ⟨_ | result, y⟩
  · rw [made] at gives
    cases gives
  · rw [made] at gives
    obtain ⟨resource, rfl, shown⟩ := resource_of_givenReference? gives
    exact ⟨resource, y, rfl, shown⟩

/-- A widget in a namespace is found, and deleted, through what was given back. -/
theorem addressed_iff_of_widget :
    Store.Move.emptySession.ReadyFor 30000 widgetMaker ∧
      (∀ kind, Store.Move.emptySession.backend.failure? kind = none) ∧
      ∃ resource y,
        makingWidget "team-a" = (some (.ok (.entity? (some (.resource resource)))), y) ∧
        (∃ left, ((asking .query (mention "resource" "team-a")).field .query
            (mention "resource" "team-a").ofQuery.place "resource"
            (mention "resource" "team-a").arguments).run y =
          (some (.ok (.entity? (some (.resource resource)))), left)) ∧
        ∃ snapshot? left, ((asking .mutation (mention "deleteResource" "team-a")).field .mutation
            (mention "deleteResource" "team-a").ofMutation.place "deleteResource"
            (mention "deleteResource" "team-a").arguments).run y =
            (some (.ok (.entity? snapshot?)), left) ∧
          snapshot?.isSome ∧ left.world.backend.objects = [] := by
  have ready : Store.Move.emptySession.ReadyFor 30000 widgetMaker :=
    ⟨⟨rfl, rfl, by decide +kernel, by decide +kernel⟩, Cache.idle_empty _ _ _ _ _⟩
  have working : ∀ kind, Store.Move.emptySession.backend.failure? kind = none := fun _ => rfl
  obtain ⟨resource, y, made, shown⟩ := made_widget "team-a" (by decide +kernel)
  have spaced : resource.nspace ≠ some "" := by
    rw [show resource.nspace = some "team-a" from congrArg Reference.nspace shown]
    decide
  have addressed (kind : OperationKind) (name : String) :=
    addressed_iff 30000 60000 widgetMaker
      (asking .mutation (creation "made" (widgetIn "team-a").raw)) rfl rfl
      (creation "made" (widgetIn "team-a").raw) rfl ⟨Store.Move.emptySession, []⟩ y resource ready
      working made (asking kind (mention name "team-a")) rfl rfl (mention name "team-a")
      (refersTo_mention kind name "team-a" shown)
  obtain ⟨same, find, -⟩ := addressed .query "resource"
  obtain ⟨-, -, delete⟩ := addressed .mutation "deleteResource"
  refine ⟨ready, working, resource, y, made, ?_, ?_⟩
  · obtain ⟨value, errors, settles, found⟩ := find rfl
    obtain rfl := found.mpr spaced
    obtain ⟨_, left, ran, rfl, -⟩ := (settles y fun caller given => by
      cases given
      exact same).run
    exact ⟨left, ran⟩
  · obtain ⟨snapshot?, left, ran, deleted⟩ := delete rfl y same
    exact ⟨snapshot?, left, ran, deleted.mpr spaced⟩

/-- A widget whose namespace is empty is given back, and can neither be found nor deleted by what
was given back. -/
theorem widget_out_of_reach :
    ∃ resource y, makingWidget "" = (some (.ok (.entity? (some (.resource resource)))), y) ∧
      (asking .query (mention "resource" "")).RefersTo (mention "resource" "") resource ∧
      ((asking .query (mention "resource" "")).response y.world).1.map
          (fun r => r.errors.map ResponseError.message) =
        some ["unable to get resource: not found: example.io/v1/Widget w"] ∧
      (asking .mutation (mention "deleteResource" "")).RefersTo (mention "deleteResource" "")
        resource ∧
      ((asking .mutation (mention "deleteResource" "")).response y.world).1.map
          (fun r => r.errors.map ResponseError.message) =
        some ["unable to delete resource: not found: example.io/v1/Widget w"] := by
  have found : ((asking .query (mention "resource" "")).response (makingWidget "").2.world).1.map
      (fun r => r.errors.map ResponseError.message) =
        some ["unable to get resource: not found: example.io/v1/Widget w"] := by decide +kernel
  have deleted : ((asking .mutation (mention "deleteResource" "")).response
      (makingWidget "").2.world).1.map (fun r => r.errors.map ResponseError.message) =
        some ["unable to delete resource: not found: example.io/v1/Widget w"] := by decide +kernel
  obtain ⟨resource, y, made, shown⟩ := made_widget "" (by decide +kernel)
  rw [made] at found deleted
  exact ⟨resource, y, made, refersTo_mention .query "resource" "" shown, found,
    refersTo_mention .mutation "deleteResource" "" shown, deleted⟩

end Setting
end Query
end ClusterGraph
