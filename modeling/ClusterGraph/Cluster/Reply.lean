import ClusterGraph.Cluster.Dialogue
import ClusterGraph.Json.Reader

/-!
# Answers of an API server

An answer with an error status is a failure. Its body may describe it; if not, the body itself is
the message. Any other answer counts by its body alone.
-/
namespace ClusterGraph

def word16? : Json → Option Nat
  | .number (.integer n) => if 0 ≤ n ∧ n < Nat.pow 2 16 then some n.toNat else none
  | _ => none

/-- A text in entries, empty if absent. None if it is given twice or is no text. -/
def textIn? (entries : List (String × Json)) (key : String) : Option String :=
  match entries.filter fun e => e.1 = key with
  | [] => some ""
  | [(_, .string s)] => some s
  | _ => none

/-- The failure that a body describes: a status and a code, perhaps a reason and a message. -/
def describedFailure? (body : String) : Option BackendError := do
  let entries ← Json.parseEntries? body
  guard (entries.any fun e => e.1 = "status")
  let _ ← textIn? entries "status"
  let reason ← textIn? entries "reason"
  let message ← textIn? entries "message"
  match entries.filter fun e => e.1 = "code" with
  | [(_, v)] => return .ofStatus (← word16? v) reason message
  | _ => none

namespace ServerReply

def isError (r : ServerReply) : Bool := 400 ≤ r.status && r.status < 600

def failure (r : ServerReply) : BackendError :=
  (describedFailure? r.body).getD
    (.ofStatus r.status "Failed to parse error data" (Text.quoted r.body))

def content : Except String ServerReply → Except BackendError String
  | .error text => .error (.transport ("ServiceError: " ++ text))
  | .ok r => if r.isError then .error r.failure else .ok r.body

end ServerReply

def undecodable : BackendError := .transport "Error deserializing response"

def ServerRequest.ask {α : Type} (r : ServerRequest) (read : String → Option α) : Consultation α :=
  .send r fun reply => .done do
    let body ← ServerReply.content reply
    match read body with
    | some a => return a
    | none => .error undecodable

end ClusterGraph
