import ClusterGraph.Json.Fault

/-!
# Failures

Causes of failure, from the innermost outwards: a document that is not of the required shape, a
field path that is malformed or cannot be applied, a backend that refuses or does not answer, and
the failure of a whole operation, which names the stage that failed and, within a batch, the patch.
Each cause is a constructor; the words for it are in its `message`.
-/
namespace ClusterGraph

inductive DecodeError where
  | malformed (fault : Json.Fault)
  | notAnObject
  | missingField (field : String)
  | wrongType (field expected : String)
  deriving DecidableEq, Repr

def DecodeError.message : DecodeError → String
  | malformed fault => "invalid json: " ++ fault.message
  | notAnObject => "document is not an object"
  | missingField field => "missing field " ++ field
  | wrongType field expected => "field " ++ field ++ " must be " ++ expected

/-- Why a field path is refused, or cannot be applied to a document. The place `at` is a path in
its written form. -/
inductive PathError where
  | empty
  | emptySegment (position : Nat)
  | malformedIndex (segment : String)
  | notAnObject (place : String)
  | notAnArray (place : String)
  | indexOutOfRange (place : String) (index length : Nat)
  deriving DecidableEq, Repr

def PathError.message : PathError → String
  | empty => "empty field path"
  | emptySegment position => "empty segment at position " ++ toString position
  | malformedIndex segment => "malformed index in segment " ++ Text.quoted segment
  | notAnObject place => Text.quoted place ++ " is not an object"
  | notAnArray place => Text.quoted place ++ " is not an array"
  | indexOutOfRange place index length =>
    "index " ++ toString index ++ " out of range at " ++ Text.quoted place ++ " (len "
      ++ toString length ++ ")"

/-- A failure reported by the backend, or by the client layer in front of it. -/
inductive BackendError where
  | notFound (message : String)
  | timeout (message : String)
  | serverTimeout (message : String)
  | internal (message : String)
  | tooManyRequests (message : String)
  | status (code : Nat) (reason message : String)
  | invalidIdentity (message : String)
  | transport (message : String)
  deriving DecidableEq, Repr

namespace BackendError

def message : BackendError → String
  | notFound m => "not found: " ++ m
  | timeout m => "timeout: " ++ m
  | serverTimeout m => "server timeout: " ++ m
  | internal m => "internal error: " ++ m
  | tooManyRequests m => "too many requests: " ++ m
  | status code reason m => "status " ++ toString code ++ " (" ++ reason ++ "): " ++ m
  | invalidIdentity m => "invalid identity: " ++ m
  | transport m => "transport: " ++ m

/-- Classifies an answer of the API server: by its reason if that is a known one, else by its
code. -/
def ofStatus (code : Nat) (reason message : String) : BackendError :=
  if reason = "NotFound" then notFound message
  else if reason = "Timeout" then timeout message
  else if reason = "ServerTimeout" then serverTimeout message
  else if reason = "InternalError" then internal message
  else if reason = "TooManyRequests" then tooManyRequests message
  else if code = 404 then notFound message
  else if code = 504 then timeout message
  else if code = 500 then internal message
  else if code = 429 then tooManyRequests message
  else status code reason message

/-- Only a confirmed absence is final; after anything else a second attempt may succeed. -/
def isRetriable : BackendError → Bool
  | notFound _ => false
  | _ => true

def forbidden (message : String) : BackendError := status 403 "Forbidden" message

end BackendError

/-- The stage of an operation that failed. -/
inductive Stage where
  | clientAcquisition
  | list
  | get
  | unmarshal
  | patchPath
  | create
  | update
  | delete
  | remodel
  deriving DecidableEq, Repr

namespace Stage

/-- Every stage, in the order in which they are listed to callers. -/
def all : List Stage :=
  [clientAcquisition, list, get, unmarshal, patchPath, create, update, delete, remodel]

def message : Stage → String
  | clientAcquisition => "unable to acquire backend client"
  | list => "unable to list resources"
  | get => "unable to get resource"
  | unmarshal => "unable to decode document"
  | patchPath => "unable to apply patch"
  | create => "unable to create resource"
  | update => "unable to update resource"
  | delete => "unable to delete resource"
  | remodel => "unable to remodel resource"

def code : Stage → String
  | clientAcquisition => "CLIENT_ACQUISITION"
  | list => "LIST"
  | get => "GET"
  | unmarshal => "UNMARSHAL"
  | patchPath => "PATCH_PATH"
  | create => "CREATE"
  | update => "UPDATE"
  | delete => "DELETE"
  | remodel => "REMODEL"

def name : Stage → String
  | clientAcquisition => "ClientAcquisition"
  | list => "List"
  | get => "Get"
  | unmarshal => "Unmarshal"
  | patchPath => "PatchPath"
  | create => "Create"
  | update => "Update"
  | delete => "Delete"
  | remodel => "Remodel"

def ofName? (s : String) : Option Stage := all.find? fun stage => stage.name = s

end Stage

inductive Cause where
  | backend (e : BackendError)
  | decode (e : DecodeError)
  | path (e : PathError)
  | other (message : String)
  deriving DecidableEq, Repr

def Cause.message : Cause → String
  | backend e => e.message
  | decode e => e.message
  | path e => e.message
  | other m => m

/-- The failure of an operation: the stage, the position of the patch in its batch if a patch
failed, and the cause. -/
structure Failure where
  stage : Stage
  patch : Option Nat
  cause : Cause
  deriving DecidableEq, Repr

namespace Failure

def of (stage : Stage) (cause : Cause) : Failure := ⟨stage, none, cause⟩

def ofPatch (stage : Stage) (index : Nat) (cause : Cause) : Failure := ⟨stage, some index, cause⟩

def message (f : Failure) : String :=
  match f.patch with
  | some i => f.stage.message ++ ": patch " ++ toString i ++ ": " ++ f.cause.message
  | none => f.stage.message ++ ": " ++ f.cause.message

def backend? (f : Failure) : Option BackendError :=
  match f.cause with
  | .backend e => some e
  | _ => none

/-- A backend failure decides for itself; all other failures count as retriable. -/
def isRetriable (f : Failure) : Bool :=
  match f.backend? with
  | some e => e.isRetriable
  | none => true

/-- The machine-readable part of a field error: the code, whether a second attempt may succeed, and
the position of the failing patch as a signed 32-bit number. -/
def extensions (f : Failure) : Entries Json :=
  let base : Entries Json := [("code", .string f.stage.code), ("retriable", .bool f.isRetriable)]
  match f.patch with
  | some i => base ++ [("patchIndex", .number (.integer (Int.bmod i (Nat.pow 2 32))))]
  | none => base

end Failure
end ClusterGraph
