import ClusterGraph.Document.Edit
import ClusterGraph.Gateway.World
import ClusterGraph.Time.Rfc3339

/-!
# The in-memory object store

A list of documents that answers the calls of clients. It numbers creations and updates, stamps the
objects it stores, records every call, and can be told to delay calls, to fail them and to refuse
to build clients. A client that is restricted to a namespace is refused every call outside it.
-/
namespace ClusterGraph

inductive CallKind where
  | list
  | get
  | create
  | update
  | delete
  deriving DecidableEq, Repr

inductive RecordedCall where
  | list (request : ListRequest)
  | get (reference : Reference)
  | create (document : Document)
  | update (reference : Reference) (document : Document)
  | delete (reference : Reference)
  deriving Repr

def RecordedCall.kind : RecordedCall → CallKind
  | list _ => .list
  | get _ => .get
  | create _ => .create
  | update _ _ => .update
  | delete _ => .delete

/-- The objects and the settings of the store. -/
structure Store where
  objects : List Document
  calls : List RecordedCall
  /-- The failure of every call of a kind. -/
  failures : List (CallKind × BackendError)
  /-- Creations and updates so far. -/
  sequence : Nat
  /-- Milliseconds that a call takes. -/
  delay : Nat
  /-- Clients that were asked for so far. -/
  builds : Nat
  /-- Milliseconds that building a client takes. -/
  buildDelay : Nat
  /-- Building a client fails. -/
  refuseBuilds : Bool

def Document.isNamedBy (d : Document) (r : Reference) : Bool :=
  d.apiVersion = r.apiVersion && d.kind = r.kind && d.nspace? = r.nspace && d.name? = some r.name

namespace Store

def empty : Store := ⟨[], [], [], 0, 0, 0, 0, false⟩

/-- A client that is restricted to a namespace may only act there. -/
def checkNamespace (restriction nspace : Option String) : Except BackendError Unit :=
  match restriction with
  | none => .ok ()
  | some r =>
    if nspace = some r then .ok ()
    else .error (.forbidden ("restricted to namespace " ++ r))

/-- The namespace of a list call: the one asked for, else the restriction. -/
def listNamespace (restriction : Option String) (request : ListRequest) : Option String :=
  match restriction, request.nspace with
  | some r, none => some r
  | _, ns => ns

def list (s : Store) (restriction : Option String) (request : ListRequest) :
    Except BackendError (List Document) := do
  let ns := listNamespace restriction request
  checkNamespace restriction ns
  return s.objects.filter fun d =>
    d.apiVersion = request.apiVersion && d.kind = request.kind
      && (ns.isNone || d.nspace? = ns)

def get (s : Store) (restriction : Option String) (r : Reference) :
    Except BackendError Document := do
  checkNamespace restriction r.nspace
  match s.objects.find? (·.isNamedBy r) with
  | some d => return d
  | none => .error (.notFound r.text)

def epoch : Int := 1704067200

def creationTime (sequence : Nat) : String :=
  (Time.Instant.mk (epoch + sequence) 0).secondsText

/-- The document with a name: its own, or one made of its prefix and the sequence number. -/
def named (d : Document) (sequence : Nat) : String × Document :=
  match d.name? with
  | some name => (name, d)
  | none =>
    let stem := (d.metaText? "generateName").getD "obj-"
    let name := stem ++ toString sequence
    (name, d.setMeta "name" (.string name))

/-- The document as it is stored when it is created. -/
def stamped (d : Document) (sequence : Nat) : Document :=
  ((d.setMeta "uid" (.string ("uid-" ++ toString sequence))).setMeta "creationTimestamp"
    (.string (creationTime sequence))).setMeta "resourceVersion" (.string (toString sequence))

def create (s : Store) (restriction : Option String) (d : Document) :
    Except BackendError Document × Store :=
  match checkNamespace restriction d.nspace? with
  | .error e => (.error e, s)
  | .ok () =>
    let seq := s.sequence + 1
    let s' := { s with sequence := seq }
    let (name, d) := named d seq
    let taken := s.objects.any fun o =>
      o.apiVersion = d.apiVersion && o.kind = d.kind && o.nspace? = d.nspace? && o.name? = some name
    if taken then (.error (.status 409 "AlreadyExists" (name ++ " already exists")), s')
    else
      let stored := stamped d seq
      (.ok stored, { s' with objects := s.objects ++ [stored] })

/-- The document as it is stored in place of another one. -/
def replacing (d previous : Document) (sequence : Nat) : Document :=
  let keep (d : Document) (field : String) : Document :=
    match previous.metadata? field with
    | some v => d.setMeta field v
    | none => d
  (keep (keep d "uid") "creationTimestamp").setMeta "resourceVersion" (.string (toString sequence))

def update (s : Store) (restriction : Option String) (r : Reference) (d : Document) :
    Except BackendError Document × Store :=
  match checkNamespace restriction r.nspace with
  | .error e => (.error e, s)
  | .ok () =>
    let seq := s.sequence + 1
    let s' := { s with sequence := seq }
    match s.objects.findIdx? (·.isNamedBy r) with
    | none => (.error (.notFound r.text), s')
    | some i =>
      let stored := replacing d (s.objects[i]?.getD d) seq
      (.ok stored, { s' with objects := s.objects.set i stored })

def delete (s : Store) (restriction : Option String) (r : Reference) :
    Except BackendError Unit × Store :=
  match checkNamespace restriction r.nspace with
  | .error e => (.error e, s)
  | .ok () =>
    let kept := s.objects.filter fun d => !d.isNamedBy r
    if kept.length = s.objects.length then (.error (.notFound r.text), s)
    else (.ok (), { s with objects := kept })

def setFailure (s : Store) (kind : CallKind) (e : BackendError) : Store :=
  { s with failures := (s.failures.filter fun f => f.1 ≠ kind) ++ [(kind, e)] }

def failure? (s : Store) (kind : CallKind) : Option BackendError :=
  (s.failures.find? fun f => f.1 = kind).map Prod.snd

end Store
end ClusterGraph
