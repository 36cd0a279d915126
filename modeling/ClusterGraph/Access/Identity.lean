import ClusterGraph.Text.Blank
import ClusterGraph.Text.Quoted
import ClusterGraph.Time.Instant

/-!
# Identities and scopes

Who calls, and within which namespace. A client belongs to one identity and one scope. The written
form of an identity, for logs, never shows a token.
-/
namespace ClusterGraph

inductive Credential where
  | bearer (token : String)
  | impersonate (user : String) (groups : List String)
  deriving DecidableEq, Repr

structure Identity where
  credential : Credential
  expiresAt : Option Time.Instant
  deriving DecidableEq, Repr

namespace Identity

/-- The credential has expired by a moment; at the moment of expiry it has. -/
def isExpiredAt (i : Identity) (now : Time.Instant) : Bool :=
  match i.expiresAt with
  | some moment => moment.notAfter now
  | none => false

/-- The token, or the user, holds nothing visible. -/
def isBlank (i : Identity) : Bool :=
  match i.credential with
  | .bearer token => Text.isBlank token
  | .impersonate user _ => Text.isBlank user

def shown (i : Identity) : String :=
  let expiry := match i.expiresAt with
    | some moment => "Some(" ++ moment.zuluText ++ ")"
    | none => "None"
  let caller := match i.credential with
    | .bearer _ => "bearer: " ++ Text.quoted "<redacted>"
    | .impersonate user groups =>
      "user: " ++ Text.quoted user ++ ", groups: " ++ Text.bracketed (groups.map Text.quoted)
  "Identity \x7b " ++ caller ++ ", expires_at: " ++ expiry ++ " \x7d"

end Identity

structure Scope where
  /-- Every call stays in this namespace. -/
  nspace : Option String
  deriving DecidableEq, Repr

/-- A blank namespace restricts nothing. -/
def Scope.normalized (s : Scope) : Scope := ⟨s.nspace.filter fun ns => !Text.isBlank ns⟩

def Scope.ofNamespace (ns : String) : Scope := Scope.normalized ⟨some ns⟩

end ClusterGraph
