import ClusterGraph.Access.Identity
import ClusterGraph.Failure

/-!
# Credentials of a client

The settings with which a client reaches the API server on behalf of a caller. A token replaces
every credential of the base settings; impersonation is added to them.
-/
namespace ClusterGraph

structure AuthInfo where
  token : Option String
  username : Option String
  impersonate : Option String
  groups : Option (List String)
  deriving DecidableEq, Repr

/-- Where the API server is, and as whom and in which namespace it is called. -/
structure ClientConfig where
  server : String
  auth : AuthInfo
  defaultNamespace : String
  deriving DecidableEq, Repr

def ClientConfig.forCaller (base : ClientConfig) (identity : Identity) (scope : Scope) :
    Except BackendError ClientConfig :=
  if identity.isBlank then .error (.invalidIdentity "empty credential")
  else
    let auth : AuthInfo :=
      match identity.credential with
      | .bearer token => ⟨some token, none, none, none⟩
      | .impersonate user groups =>
        { base.auth with
          impersonate := some user
          groups := if groups.isEmpty then none else some groups }
    .ok { base with auth := auth, defaultNamespace := scope.nspace.getD base.defaultNamespace }

/-- A text that may be sent as the value of a header: no control characters but the tabulator. -/
def isHeaderText (s : String) : Bool :=
  s.toList.all fun c => (0x20 ≤ c.toNat && c.toNat != 0x7F) || c = '\t'

/-- What becomes of building a client: a token that cannot be sent is fatal, an impersonation that
cannot be sent is an invalid identity. -/
inductive Built where
  | client
  | refused (e : BackendError)
  | fatal
  deriving DecidableEq, Repr

def ClientConfig.build (c : ClientConfig) : Built :=
  if !(c.auth.token.all isHeaderText) then .fatal
  else if !(c.auth.impersonate.all isHeaderText && (c.auth.groups.getD []).all isHeaderText) then
    .refused (.invalidIdentity "HttpError: failed to parse header value")
  else .client

end ClusterGraph
