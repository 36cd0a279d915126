import ClusterGraph.Gateway.Basic
import ClusterGraph.Query.Coercion
import ClusterGraph.Query.Entity

/-!
# Execution

The fields of a plan are resolved against the gateway: those of a query side by side, those of a
mutation one after another, and what is selected from an object or from the items of a list always
side by side.

A gateway operation that fails leaves an error for its field, which becomes null. An argument that
is no value of its type fails everything up to the nearest object that may be null; that object
becomes null, or, if there is none, all the data.
-/
namespace ClusterGraph.Query

structure Execution (β : Type) where
  world : World β
  errors : List ResponseError

instance {β : Type} : Clocked (Execution β) where
  now x := x.world.now
  setNow t x := { x with world := Clocked.setNow t x.world }

/-- Work on an execution; the error fails everything up to the nearest object that may be null. -/
abbrev Resolution (β α : Type) := Work (Execution β) (Except ResponseError α)

/-- What every field of an execution needs: the gateway, the caller if the request carries one, and
the plan. -/
structure Setting (β : Type) where
  gateway : Gateway β
  caller? : Option ClusterGraph.Request
  plan : Plan

structure FieldPlace where
  position : Position
  path : List PathStep

variable {β : Type}

def Execution.leave (e : ResponseError) (x : Execution β) : Execution β :=
  { x with errors := x.errors ++ [e] }

def FieldPlace.error (place : FieldPlace) (f : Failure) : ResponseError :=
  ⟨f.message, [place.position], place.path, f.extensions⟩

def noCaller : Failure := .of .clientAcquisition (.other "request carries no caller identity")

namespace Setting
variable (s : Setting β)

def call {α : Type} (place : FieldPlace) (entity : α → Entity)
    (operation : ClusterGraph.Request → Gateway.Operation β α) : Resolution β FieldValue :=
  let fail (f : Failure) : Resolution β FieldValue :=
    .act (Execution.leave (place.error f)) fun _ => .done (.ok (.entity? none))
  match s.caller? with
  | none => fail noCaller
  | some caller =>
    ((operation caller).within Execution.world fun w x => { x with world := w }).bind fun
      | .ok a => .done (.ok (.entity? (some (entity a))))
      | .error f => fail f

def argument {α : Type} (place : FieldPlace) (given : List Argument) (name : String)
    (coerce : Coercion α) : Except ResponseError α :=
  (s.plan.argument given name coerce).mapError fun e => { e with path := place.path }

def patches (place : FieldPlace) (given : List Argument) : Except ResponseError (List Patch) :=
  (s.plan.patches given).mapError fun e => { e with path := place.path }

/-- A field whose value is that of a gateway operation with arguments. -/
def callWith {γ α : Type} (place : FieldPlace) (arguments : Except ResponseError γ)
    (entity : α → Entity) (operation : γ → ClusterGraph.Request → Gateway.Operation β α) :
    Resolution β FieldValue :=
  match arguments with
  | .error e => .done (.error e)
  | .ok a => s.call place entity (operation a)

def queryField (place : FieldPlace) (given : List Argument) : String → Resolution β FieldValue
  | "customResourceDefinitions" => s.call place .definitions s.gateway.definitions
  | "customResourceDefinition" =>
    s.callWith place (s.argument place given "name" Coercion.text) .definition
      fun name caller => s.gateway.definition caller name
  | "resource" =>
    s.callWith place (s.argument place given "reference" Coercion.reference) .resource
      fun r caller => s.gateway.get caller r
  | "__schema" => .done (.ok (.entity? (some .schema)))
  | "__type" =>
    .done ((s.argument place given "name" Coercion.text).map fun name =>
      .entity? ((Schema.cluster.type? name).map fun t => .type (.named t.name false)))
  | _ => .done (.ok (.leaf .null))

def mutationField (place : FieldPlace) (given : List Argument) : String → Resolution β FieldValue
  | "createResource" =>
    s.callWith place (do
      let document ← s.argument place given "document" Coercion.text
      return (document, ← s.patches place given)) .resource
      fun a caller => s.gateway.create caller a.1 a.2
  | "updateResource" =>
    s.callWith place (do
      let r ← s.argument place given "reference" Coercion.reference
      let document ← s.argument place given "document" Coercion.text
      return (r, document, ← s.patches place given)) .resource
      fun a caller => s.gateway.update caller a.1 a.2.1 a.2.2
  | "deleteResource" =>
    s.callWith place (s.argument place given "reference" Coercion.reference) .resource
      fun r caller => s.gateway.delete caller r
  | _ => .done (.ok (.leaf .null))

def resourcesField (place : FieldPlace) (given : List Argument) (d : Definition) :
    Resolution β FieldValue :=
  s.callWith place (do
    let version ← s.argument place given "version" Coercion.text?
    return (version, ← s.argument place given "namespace" Coercion.text?)) .resources
    fun a caller => s.gateway.resources caller d.descriptor a.1 a.2

/-- The arguments of a field that needs no call. The only one there is asks for what should no
longer be used as well, and there is nothing of that. -/
def checkFlag (place : FieldPlace) (given : List Argument) : Except ResponseError Unit :=
  if given.isEmpty then .ok ()
  else (s.argument place given "includeDeprecated" Coercion.flag).map fun _ => ()

def field (e : Entity) (place : FieldPlace) (name : String) (given : List Argument) :
    Resolution β FieldValue :=
  match e.field? Schema.cluster name with
  | some v => .done ((s.checkFlag place given).map fun _ => v)
  | none =>
    match e with
    | .query => s.queryField place given name
    | .mutation => s.mutationField place given name
    | .definition d => s.resourcesField place given d
    | _ => .done (.ok (.leaf .null))

end Setting

mutual
/-- Brings data under a key that already has data: entries of objects are brought together, also of
objects at one position of two lists. All else stays as it is. -/
def merge : (new old : Json) → Json
  | .object entries, .object target => .object (mergeEntries entries target)
  | .array items, .array target => .array (mergeItems items target)
  | _, old => old

@[inherit_doc merge]
def mergeEntries : List (String × Json) → Entries Json → Entries Json
  | [], target => target
  | (k, v) :: rest, target =>
    mergeEntries rest (match target.get? k with
      | some old => target.put k (merge v old)
      | none => target ++ [(k, v)])

@[inherit_doc merge]
def mergeItems : List Json → List Json → List Json
  | v :: rest, old :: target =>
    (if old.isObject then merge v old else old) :: mergeItems rest target
  | _, target => target
end

def gathered (fields : List (String × Json)) : Json := .object (mergeEntries fields [])

def collected (r : Except ResponseError (List (String × Json))) : Except ResponseError Json :=
  r.map gathered

/-- An object that may be null: what fails in it leaves its error, and the object is null. -/
def nullable (w : Resolution β Json) : Resolution β Json :=
  w.bind fun
    | .ok v => .done (.ok v)
    | .error e => .act (Execution.leave e) fun _ => .done (.ok .null)

/-- An item of a list: what fails in it fails at the place of the item. -/
def itemAt (path : List PathStep) (w : Resolution β Json) : Resolution β Json :=
  w.bind fun r => .done (r.mapError fun e => { e with path := path })

mutual
/-- A planned field of an entity: its key and its data. -/
def resolve (s : Setting β) (e : Entity) (path : List PathStep) :
    PlannedField → Resolution β (String × Json)
  | .mk position key name arguments selected =>
    let path := path ++ [.key key]
    let select (e : Entity) (path : List PathStep) : Resolution β Json :=
      (Work.tryAll (resolveAll s e path selected)).bind fun r => .done (collected r)
    (s.field e ⟨position, path⟩ name arguments).bind fun
      | .error err => .done (.error err)
      | .ok (.leaf v) => .done (.ok (key, v))
      | .ok (.entity? none) => .done (.ok (key, .null))
      | .ok (.entity? (some e)) =>
        (nullable (select e path)).bind fun r => .done (r.map (Prod.mk key))
      | .ok (.entities es) =>
        (Work.tryAll (es.zipIdx.map fun (e, i) =>
          let path := path ++ [.index i]
          itemAt path (select e path))).bind fun r =>
            .done (r.map fun items => (key, .array items))

def resolveAll (s : Setting β) (e : Entity) (path : List PathStep) :
    List PlannedField → List (Resolution β (String × Json))
  | [] => []
  | f :: rest => resolve s e path f :: resolveAll s e path rest
end

/-- All fields of a plan. Subscriptions are refused before they are planned. -/
def Setting.run (s : Setting β) : Resolution β Json :=
  let fields := match s.plan.operation.kind with
    | .mutation => Work.trySeq (resolveAll s .mutation [] s.plan.fields)
    | _ => Work.tryAll (resolveAll s .query [] s.plan.fields)
  fields.bind fun r => .done (collected r)

/-- Answers a request on behalf of a caller. There is no response if the session halts. -/
def respond (g : Gateway β) (caller? : Option ClusterGraph.Request) (r : Request) (w : World β) :
    Option Response × World β :=
  match r.plan Schema.cluster with
  | .error errors => (some (.ofErrors errors), w)
  | .ok plan =>
    let (result, x) := (Setting.run ⟨g, caller?, plan⟩).run ⟨w, []⟩
    let response := result.map fun
      | .ok data => ⟨data, x.errors⟩
      | .error e => ⟨.null, e :: x.errors⟩
    (response, x.world)

end ClusterGraph.Query
