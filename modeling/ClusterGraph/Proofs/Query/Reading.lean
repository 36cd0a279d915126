import ClusterGraph.Proofs.Gateway.Prompt
import ClusterGraph.Proofs.Query.Settled

/-!
# Fields of a query over a prompt store

Every field that a query reaches is settled by the session in which the query is begun: its value,
and the error that it leaves if its call fails, are what they are when the field is resolved alone
(`Setting.field_settles`). What is given is never the root of mutations, so nothing below a query
can change an object.
-/
namespace ClusterGraph
namespace Query

/-! ## Nothing below a query is a mutation -/

/-- What is given is not the root of mutations, nor holds it. -/
def FieldValue.Reads : FieldValue → Prop
  | .leaf _ => True
  | .entity? e => e ≠ some .mutation
  | .entities es => Entity.mutation ∉ es

namespace Entity
variable {name : String} {v : FieldValue}

theorem reads_definitionField (d : Definition) (gives : definitionField d name = some v) :
    v.Reads := by
  unfold definitionField at gives
  split at gives <;> cases gives
  all_goals first | trivial | simp [FieldValue.Reads]

theorem reads_versionField (d : VersionDecl) (gives : versionField d name = some v) : v.Reads := by
  unfold versionField at gives
  split at gives <;> cases gives <;> trivial

theorem reads_resourceField (r : Resource) (gives : resourceField r name = some v) : v.Reads := by
  unfold resourceField at gives
  split at gives <;> cases gives <;> trivial

theorem reads_listField {α : Type} (c : Connection α) (entity : α → Entity)
    (reads : ∀ a, entity a ≠ .mutation) (gives : listField c entity name = some v) : v.Reads := by
  unfold listField at gives
  split at gives <;> cases gives
  · simp [FieldValue.Reads, reads]
  · trivial

theorem reads_list? {α : Type} (entity : α → Entity) (reads : ∀ a, entity a ≠ .mutation)
    (items : Option (List α)) : (list? entity items).Reads := by
  cases items with
  | none => trivial
  | some items => simp [list?, FieldValue.Reads, reads]

theorem reads_deprecationField (gives : deprecationField name = some v) : v.Reads := by
  unfold deprecationField at gives
  split at gives <;> cases gives <;> trivial

theorem reads_schemaField (s : Schema) (gives : schemaField s name = some v) : v.Reads := by
  unfold schemaField at gives
  split at gives <;> cases gives
  all_goals first | trivial | simp [FieldValue.Reads]

theorem reads_typeField (s : Schema) (t : TypeRef) (gives : typeField s t name = some v) :
    v.Reads := by
  unfold typeField at gives
  split at gives <;> cases gives
  all_goals first | trivial | (apply reads_list?; exact fun _ => nofun) | simp [FieldValue.Reads]

theorem reads_fieldField (f : FieldDef) (gives : fieldField f name = some v) : v.Reads := by
  unfold fieldField at gives
  split at gives
  case h_5 => exact reads_deprecationField gives
  all_goals cases gives
  all_goals first | trivial | simp [FieldValue.Reads]

theorem reads_inputField (i : InputDef) (gives : inputField i name = some v) : v.Reads := by
  unfold inputField at gives
  split at gives
  case h_5 => exact reads_deprecationField gives
  all_goals cases gives
  all_goals first | trivial | simp [FieldValue.Reads]

theorem reads_choiceField (c : ChoiceDef) (gives : choiceField c name = some v) : v.Reads := by
  unfold choiceField at gives
  split at gives
  case h_3 => exact reads_deprecationField gives
  all_goals
    cases gives
    trivial

theorem reads_directiveField (d : DirectiveDef) (gives : directiveField d name = some v) :
    v.Reads := by
  unfold directiveField at gives
  split at gives <;> cases gives
  all_goals first | trivial | simp [FieldValue.Reads]

/-- What needs no call is no mutation either. -/
theorem reads_field? (s : Schema) (e : Entity) (gives : e.field? s name = some v) : v.Reads := by
  unfold field? at gives
  split at gives
  · cases gives
    trivial
  · cases e with
    | query | mutation => cases gives
    | definitions c => exact reads_listField c definition (fun _ => nofun) gives
    | definition d => exact reads_definitionField d gives
    | version d => exact reads_versionField d gives
    | resources c => exact reads_listField c resource (fun _ => nofun) gives
    | resource r => exact reads_resourceField r gives
    | schema => exact reads_schemaField s gives
    | type t => exact reads_typeField s t gives
    | fieldDef f => exact reads_fieldField f gives
    | inputDef i => exact reads_inputField i gives
    | choiceDef c => exact reads_choiceField c gives
    | directiveDef d => exact reads_directiveField d gives

end Entity

/-! ## Calls -/

/-- What a field with a call gives for the answer of the gateway. -/
def FieldValue.ofOutcome (outcome : Except Failure Entity) : FieldValue :=
  .entity? outcome.toOption

/-- What a field with a call leaves for the answer of the gateway. -/
def FieldPlace.errors (place : FieldPlace) : Except Failure Entity → List ResponseError
  | .ok _ => []
  | .error f => [place.error f]

namespace Setting
variable {callTimeout requestTimeout : Nat} (s : Setting Store) {w : World Store} {site : Site}
  {α : Type}

/-- For the caller of a query, if it has one, the session is the same as another one. -/
def Still (s : Setting Store) (w v : World Store) : Prop :=
  ∀ caller, s.caller? = some caller → World.SameFor caller w v

/-- An operation whose answer is settled by the session in which the query is begun. -/
def Reading (s : Setting Store) (w : World Store)
    (operation : ClusterGraph.Request → Gateway.Operation Store α) : Prop :=
  ∀ caller, s.caller? = some caller → ∃ result, ∀ v, World.SameFor caller w v →
    Work.AtOnce (fun answer u => World.SameFor caller w u ∧ answer = result) (operation caller) v

theorem call_settles (still : s.Still w w) (place : FieldPlace) (entity : α → Entity)
    (reads : ∀ a, entity a ≠ .mutation)
    {operation : ClusterGraph.Request → Gateway.Operation Store α} (reading : s.Reading w operation)
    (c : BridgeCall) (calls : ∀ caller, c.operation s.gateway caller =
      Gateway.next (operation caller) fun a => .done (.ok (entity a))) :
    ∃ outcome, s.outcome w c = some outcome ∧
      Settles (s.Still w) (s.call place entity operation) (.ofOutcome outcome)
        (place.errors outcome) ∧
      (FieldValue.ofOutcome outcome).Reads := by
  cases caller? : s.caller? with
  | none =>
    refine ⟨.error noCaller, by simp [outcome, caller?], ?_, nofun⟩
    unfold call
    rw [caller?]
    exact settles_leave _ _
  | some caller =>
    obtain ⟨result, settled⟩ := reading caller caller?
    have alone : Work.AtOnce (fun answer _ => answer = result.map entity)
        (c.operation s.gateway caller) w := by
      rw [calls caller]
      refine (settled w (still caller caller?)).bind ?_
      rintro answer u ⟨-, same⟩
      rw [same]
      cases result with
      | ok a => exact .done rfl
      | error f => exact .done rfl
    obtain ⟨_, u, run, rfl⟩ := alone.run
    refine ⟨result.map entity, by simp [outcome, caller?, run], ?_, ?_⟩
    swap
    · cases result with
      | ok a => exact fun same => reads a (Option.some.inj same)
      | error f => exact nofun
    unfold call
    rw [caller?]
    intro x still
    have within : Work.AtOnce
        (fun answer y => ∃ v, y = { x with world := v } ∧ World.SameFor caller w v ∧
          answer = result)
        ((operation caller).within Execution.world fun v x => { x with world := v }) x :=
      Work.AtOnce.within Execution.world (fun v x => { x with world := v }) (fun _ _ => rfl)
        (fun _ _ _ => rfl) (fun _ => rfl) (settled x.world (still caller caller?))
    refine within.bind ?_
    rintro answer y ⟨v, rfl, same, rfl⟩
    have still' : s.Still w v := by
      intro other other?
      rw [caller?] at other?
      cases other?
      exact same
    cases answer with
    | ok a => exact .done ⟨rfl, still', [], .refl _, (List.append_nil _).symm⟩
    | error f => exact .act (.done ⟨rfl, still', [place.error f], .refl _, rfl⟩)

/-- The caller, if there is one, has not been told to cancel. -/
def Uncancelled {β : Type} (s : Setting β) : Prop :=
  ∀ caller, s.caller? = some caller → caller.cancelAt = none

section Reading
variable (swift : w.Swift callTimeout)
  (running : ∀ caller, s.caller? = some caller → cancelled caller.cancelAt w = false)
include swift running

theorem reading_fetch (stage : Stage) (operation : String) (call : RecordedCall) {γ : Type}
    {f : Option String → Store → Except BackendError α}
    (blind : ∀ restriction (s : Store) calls builds,
      f restriction { s with calls := calls, builds := builds } = f restriction s)
    (remodel : α → Except Failure γ) :
    s.Reading w fun caller => (Gateway.ofStore callTimeout requestTimeout).fetch caller stage
      operation call f remodel := by
  intro caller caller?
  refine ⟨Gateway.fetched w caller stage call f remodel, fun v same => ?_⟩
  exact Gateway.fetch_atOnce same swift (running caller caller?) stage operation call blind remodel

theorem reading_get {γ : Type} (reference : Reference) (remodel : Document → Except Failure γ) :
    s.Reading w fun caller => (Gateway.ofStore callTimeout requestTimeout).fetch caller .get "get"
      (.get reference) (fun restriction store => store.get restriction reference) remodel :=
  s.reading_fetch swift running .get "get" (.get reference) (fun _ _ _ _ => rfl) remodel

theorem reading_list (request : ListRequest) (remodel : Document → Except Failure α)
    (key : α → NodeKey) :
    s.Reading w fun caller =>
      (Gateway.ofStore callTimeout requestTimeout).list caller request remodel key := by
  simp only [Gateway.list_eq]
  exact s.reading_fetch swift running .list "list" (.list request) (fun _ _ _ _ => rfl)
    (Gateway.remodelAll remodel key)

end Reading

/-! ## Fields -/

def bridge {β : Type} (s : Setting β) (place : FieldPlace) : BridgeCall → Resolution β FieldValue
  | .definitions => s.call place .definitions s.gateway.definitions
  | .definition name => s.call place .definition fun caller => s.gateway.definition caller name
  | .resource r => s.call place .resource fun caller => s.gateway.get caller r
  | .resources d version nspace =>
    s.call place .resources fun caller => s.gateway.resources caller d version nspace

theorem map_eq_ok {ε α β : Type} {x : Except ε α} {f : α → β} {b : β} (ok : x.map f = .ok b) :
    ∃ a, x = .ok a ∧ f a = b := by
  cases x with
  | error e => cases ok
  | ok a => exact ⟨a, rfl, Except.ok.inj ok⟩

/-- What a field does once its arguments are values of their types: it gives what it has, or what
the gateway answers. -/
def Does (s : Setting β) (place : FieldPlace) (work : Resolution β FieldValue) :
    Option BridgeCall → Prop
  | none => ∃ v, work = .done (.ok v) ∧ v.Reads
  | some c => work = s.bridge place c

theorem does_queryField (place : FieldPlace) (given : List Argument) (name : String)
    (call? : Option BridgeCall) (asks : s.queryAsks place given name = .ok call?) :
    s.Does place (s.queryField place given name) call? := by
  unfold queryAsks at asks
  unfold queryField
  split at asks
  · cases asks
    rfl
  · obtain ⟨name, argument, rfl⟩ := map_eq_ok asks
    rw [argument]
    rfl
  · obtain ⟨r, argument, rfl⟩ := map_eq_ok asks
    rw [argument]
    rfl
  · obtain ⟨name, argument, rfl⟩ := map_eq_ok asks
    rw [argument]
    refine ⟨_, rfl, ?_⟩
    simp [FieldValue.Reads]
  · next no_definitions no_definition no_resource no_type =>
    cases asks
    split
    · exact absurd rfl no_definitions
    · exact absurd rfl no_definition
    · exact absurd rfl no_resource
    · exact ⟨_, rfl, nofun⟩
    · exact absurd rfl no_type
    · exact ⟨_, rfl, trivial⟩

theorem does_resourcesField (place : FieldPlace) (given : List Argument) (d : Definition)
    (call? : Option BridgeCall) (asks : s.resourcesAsks place given d = .ok call?) :
    s.Does place (s.resourcesField place given d) call? := by
  unfold resourcesAsks at asks
  unfold resourcesField
  cases version : s.argument place given "version" Coercion.text? with
  | error e =>
    rw [version] at asks
    cases asks
  | ok version =>
    cases nspace : s.argument place given "namespace" Coercion.text? with
    | error e =>
      simp only [version, nspace] at asks
      cases asks
    | ok nspace =>
      simp only [version, nspace] at asks
      cases asks
      rfl

theorem does_field (reads : site.entity ≠ .mutation) (call? : Option BridgeCall)
    (asks : s.asks site = .ok call?) :
    s.Does site.place (s.field site.entity site.place site.field.name site.field.arguments)
      call? := by
  obtain ⟨e, path, f⟩ := site
  unfold Setting.asks at asks
  unfold Setting.field
  dsimp only at asks ⊢
  cases gives : e.field? Schema.cluster f.name with
  | some v =>
    rw [gives] at asks
    obtain ⟨_, flag, rfl⟩ := map_eq_ok asks
    refine ⟨v, ?_, e.reads_field? _ gives⟩
    simp only [flag]
    rfl
  | none =>
    rw [gives] at asks
    cases e with
    | mutation => exact absurd rfl reads
    | query => exact s.does_queryField _ _ _ call? asks
    | definition d => exact s.does_resourcesField _ _ d call? asks
    | _ =>
      cases asks
      exact ⟨.leaf .null, rfl, trivial⟩

/-- What the gateway answers a field is settled by the session in which the query is begun. -/
theorem bridge_settles (gateway : s.gateway = Gateway.ofStore callTimeout requestTimeout)
    (still : s.Still w w) (swift : w.Swift callTimeout)
    (running : ∀ caller, s.caller? = some caller → cancelled caller.cancelAt w = false)
    (place : FieldPlace) (c : BridgeCall) :
    ∃ outcome, s.outcome w c = some outcome ∧
      Settles (s.Still w) (s.bridge place c) (.ofOutcome outcome) (place.errors outcome) ∧
      (FieldValue.ofOutcome outcome).Reads := by
  cases c with
  | definitions =>
    refine s.call_settles still place .definitions (fun _ => nofun) ?_ .definitions fun _ => rfl
    rw [gateway]
    exact s.reading_list swift running _ Definition.ofDocument Definition.key
  | definition name =>
    refine s.call_settles still place .definition (fun _ => nofun) ?_ (.definition name)
      fun _ => rfl
    simp only [gateway, Gateway.definition_eq]
    exact s.reading_get swift running (Definition.reference name) Definition.ofDocument
  | resource r =>
    refine s.call_settles still place .resource (fun _ => nofun) ?_ (.resource r) fun _ => rfl
    simp only [gateway, Gateway.get_eq]
    exact s.reading_get swift running r Resource.ofDocument
  | resources d version nspace =>
    refine s.call_settles still place .resources (fun _ => nofun) ?_
      (.resources d version nspace) fun _ => rfl
    rw [gateway]
    exact s.reading_list swift running _ Resource.ofDocument Resource.key

/-- The errors that the call of a field leaves: one if it fails. -/
def errors {β : Type} (s : Setting β) (w : World β) (site : Site) : List ResponseError :=
  (s.failure? w site).toList.map site.place.error

/-- A field of a query gives what it gives alone, and leaves an error if its call fails alone. -/
theorem field_settles (gateway : s.gateway = Gateway.ofStore callTimeout requestTimeout)
    (prompt : w.Prompt callTimeout) (uncancelled : s.Uncancelled) (reads : site.entity ≠ .mutation)
    (call? : Option BridgeCall) (asks : s.asks site = .ok call?) :
    Settles (s.Still w) (s.field site.entity site.place site.field.name site.field.arguments)
        (s.value w site) (s.errors w site) ∧ (s.value w site).Reads ∧
      ∀ f, s.failure? w site = some f → s.value w site = .entity? none := by
  have still : s.Still w w := fun caller _ => prompt.sameFor caller
  have does := s.does_field reads call? asks
  cases call? with
  | none =>
    obtain ⟨v, done, fine⟩ := does
    have value : s.value w site = v := by
      unfold Setting.value
      rw [done]
      rfl
    have failure : s.failure? w site = none := by
      unfold failure?
      rw [asks]
    unfold Setting.errors
    rw [done, value, failure]
    exact ⟨settles_done v, fine, fun _ => nofun⟩
  | some c =>
    obtain ⟨outcome, answered, settles, fine⟩ :=
      s.bridge_settles gateway still prompt.swift
        (fun caller given => World.cancelled_of_eq_none (uncancelled caller given) w) site.place c
    have does : s.field site.entity site.place site.field.name site.field.arguments =
        s.bridge site.place c := does
    have value : s.value w site = .ofOutcome outcome := by
      obtain ⟨v, left, run, -⟩ := settles.run w still
      unfold Setting.value
      rw [does, run]
    have failed : s.failure? w site = match outcome with
        | .error f => some f
        | .ok _ => none := by
      unfold failure?
      rw [asks]
      simp only [answered]
      cases outcome <;> rfl
    unfold Setting.errors
    rw [does, value, failed]
    cases outcome with
    | ok entity => exact ⟨settles, fine, fun _ same => nomatch same⟩
    | error f => exact ⟨settles, fine, fun _ _ => rfl⟩

end Setting
end Query
end ClusterGraph
