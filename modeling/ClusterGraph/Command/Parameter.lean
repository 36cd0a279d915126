import ClusterGraph.Command.SocketAddress

/-!
# Parameters of the command line

The named parameters, at which level of the command line each is known, where else its value may
come from, and which values it takes. Some are known at every level; the others belong to a query.
-/
namespace ClusterGraph

inductive Refusal where
  | helpAsked
  | versionAsked
  /-- Nothing at all was given. -/
  | nothingGiven
  | missingCommand
  | unknownCommand
  | unknownArgument
  /-- Two things that exclude each other, or one thing twice. -/
  | conflict
  /-- Something that another parameter needs. -/
  | missingCompanion
  | missingValue
  | badValue
  /-- A value for what takes none. -/
  | needlessValue
  deriving DecidableEq, Repr

/-- Asking for a text is no error. -/
def Refusal.exitCode : Refusal → Nat
  | helpAsked | versionAsked => 0
  | _ => 2

inductive Parameter where
  | callTimeout
  | requestTimeout
  | cacheTtl
  | cacheEntries
  | log
  | metricsAddress
  | file
  | values
  | token
  | user
  | group
  | nspace
  deriving DecidableEq, Repr

namespace Parameter

def shared : List Parameter :=
  [callTimeout, requestTimeout, cacheTtl, cacheEntries, log, metricsAddress]

def ofQuery : List Parameter := [file, values, token, user, group, nspace]

def word : Parameter → String
  | callTimeout => "call-timeout-secs"
  | requestTimeout => "request-timeout-secs"
  | cacheTtl => "cache-ttl-secs"
  | cacheEntries => "cache-max-entries"
  | log => "log"
  | metricsAddress => "metrics-addr"
  | file => "file"
  | values => "variables"
  | token => "token"
  | user => "as"
  | group => "as-group"
  | nspace => "ns"

/-- The variable of the environment that gives a value where the command line gives none. -/
def environmentName? : Parameter → Option String
  | callTimeout => some "KUBEQL_CALL_TIMEOUT_SECS"
  | requestTimeout => some "KUBEQL_REQUEST_TIMEOUT_SECS"
  | cacheTtl => some "KUBEQL_CACHE_TTL_SECS"
  | cacheEntries => some "KUBEQL_CACHE_MAX_ENTRIES"
  | log => some "KUBEQL_LOG"
  | metricsAddress => some "KUBEQL_METRICS_ADDR"
  | token => some "KUBEQL_TOKEN"
  | user => some "KUBEQL_AS"
  | nspace => some "KUBEQL_NAMESPACE"
  | file | values | group => none

def repeats (p : Parameter) : Bool := p = group

def number? (value : String) : Option Nat := Text.unsigned? 64 value.toList

/-- Refuses a value that a parameter does not take. -/
def accept (p : Parameter) (value : String) : Except Refusal Unit :=
  match p with
  | callTimeout | requestTimeout | cacheTtl | cacheEntries =>
    if (number? value).isSome then .ok () else .error .badValue
  | metricsAddress => if (SocketAddress.parse? value).isSome then .ok () else .error .badValue
  | file => if value.isEmpty then .error .missingValue else .ok ()
  | _ => .ok ()

end Parameter

abbrev Assignments := List (Parameter × String)

namespace Assignments

def has (a : Assignments) (p : Parameter) : Bool := a.any fun e => e.1 = p

def value? (a : Assignments) (p : Parameter) : Option String :=
  (a.find? fun e => e.1 = p).map (·.2)

def values (a : Assignments) (p : Parameter) : List String :=
  (a.filter fun e => e.1 = p).map (·.2)

/-- Gives a parameter a value that it takes, if it may have one more. -/
def assign (a : Assignments) (p : Parameter) (value : String) : Except Refusal Assignments := do
  if a.has p && !p.repeats then .error .conflict
  else
    p.accept value
    return a ++ [(p, value)]

end Assignments
end ClusterGraph
