import ClusterGraph.Cluster.Backend
import ClusterGraph.Command.Invocation
import ClusterGraph.Command.LogFilter
import ClusterGraph.Json.Reader
import ClusterGraph.Query.Execution
import ClusterGraph.Schema.Printer

/-!
# Running a command

What the program writes and how it ends. Everything outside the program is given to it: the
environment, files and the cluster, and of the machine its clock and whether it can listen on an
address. A query that was answered with errors still writes its response, but ends with a code of
its own.

Left out is what no later step reads and no answer shows: lines of the log, the metrics themselves
once their address is taken, and the texts of help and of refused command lines. An interruption
from the keyboard is left out too, so the request of a command is never cancelled here, and so is a
cluster that is known without a file of configuration.
-/
namespace ClusterGraph

structure Surroundings where
  environment : String → Option String
  /-- The text of a file, or why it cannot be read. -/
  readFile : String → Except String String
  /-- How the cluster is reached, or why that is not known. -/
  cluster : Except BackendError (ClientConfig × Server)

structure Machine where
  /-- For how many milliseconds the clock has been running when a query starts. -/
  uptime : Nat := 1000
  /-- Takes an address to serve metrics on, or tells why it cannot be taken, the nearest cause
  first. -/
  listen : SocketAddress → Except (List String) Unit := fun _ => .ok ()

/-- Why no cluster is known: the file of its configuration cannot be read. -/
def BackendError.unknownCluster (file cause : String) : BackendError :=
  .transport ("inferring kube config: failed to infer config: in-cluster: (failed to read an " ++
    "incluster environment variable: environment variable not found), kubeconfig: (failed to " ++
    "read kubeconfig from '" ++ Text.quoted file ++ "': " ++ cause ++ ")")

def missingFile : String := "No such file or directory (os error 2)"

/-- Why the program failed, from the outermost message to the innermost cause. -/
structure Report where
  message : String
  causes : List String
  deriving DecidableEq, Repr

namespace Report

/-- The lines for causes: one stands alone, several are numbered from zero. -/
def causeLines : List String → List String
  | [] => []
  | [cause] => ["    " ++ cause]
  | causes => causes.zipIdx.map fun (cause, i) =>
    let number := toString i
    String.ofList (List.replicate (5 - number.length) ' ') ++ number ++ ": " ++ cause

def text (r : Report) : String :=
  let causes := match r.causes with
    | [] => []
    | causes => ["", "Caused by:"] ++ causeLines causes
  "\n".intercalate (("Error: " ++ r.message) :: causes)

end Report

/-- How a run of the program ends, and what has reached the cluster by then. -/
structure Outcome where
  exitCode : Nat
  output : String
  report : Option Report
  received : List (AuthInfo × ServerRequest)

namespace Outcome

def failed (message : String) (causes : List String) : Outcome :=
  ⟨1, "", some ⟨message, causes⟩, []⟩

/-- The program stops without a word: what it was asked for cannot be. -/
def halted : Outcome := ⟨101, "", none, []⟩

end Outcome

/-- The limits that settings put on calls and requests, and an empty cache, both in
milliseconds. -/
def Settings.gateway (s : Settings) : Gateway Cluster :=
  ⟨Cluster.backend, s.callTimeout * 1000, s.requestTimeout * 1000⟩

/-- The state in which a query starts, some time after the clock did. No caller of a command
expires, so any time of day will do. All operations of a query are for one caller, so there is never
a choice among clients that are to be evicted. -/
def Settings.world (s : Settings) (uptime : Nat) (base : ClientConfig) (server : Server) :
    World Cluster :=
  Clocked.setNow uptime
    (.start ⟨0, 0⟩ (.empty (s.cacheTtl * 1000) s.cacheEntries) (.start base server))

/-- What keeps metrics from being served as settings ask for it. -/
def Settings.metricsFault? (s : Settings) (machine : Machine) : Option Report :=
  s.metricsAddress.bind fun address =>
    match machine.listen address with
    | .ok () => none
    | .error causes => some ⟨"serving metrics on " ++ address.text, causes⟩

namespace QueryArguments

def text (q : QueryArguments) (surroundings : Surroundings) : Except Report String :=
  match q.document, q.file with
  | some document, _ => .ok document
  | none, some path =>
    (surroundings.readFile path).mapError fun cause => ⟨"reading " ++ path, [cause]⟩
  | none, none => .error ⟨"a document or --file is required", []⟩

def identity (q : QueryArguments) : Except Report Identity :=
  match q.token, q.user with
  | some token, _ => .ok ⟨.bearer token, none⟩
  | none, some user => .ok ⟨.impersonate user q.groups, none⟩
  | none, none => .error ⟨"no caller identity: pass --token or --as", []⟩

/-- The values of the variables; a value that is no object gives none. -/
def assignments (q : QueryArguments) : Except Report (List (String × Query.Constant)) :=
  match q.values with
  | none => .ok []
  | some text =>
    match Json.parse text with
    | .error fault => .error ⟨"parsing --variables", [fault.message]⟩
    | .ok (.object entries) => .ok (Query.Constant.ofEntries entries)
    | .ok _ => .ok []

def prepare (q : QueryArguments) (surroundings : Surroundings) :
    Except Report (Identity × Query.Request × ClientConfig × Server) := do
  let text ← q.text surroundings
  let identity ← q.identity
  let values ← q.assignments
  let cluster ← surroundings.cluster.mapError fun e =>
    ⟨"building kube client factory", [e.message]⟩
  return (identity, ⟨text, none, values⟩, cluster)

def run (q : QueryArguments) (settings : Settings) (surroundings : Surroundings)
    (machine : Machine) : Outcome :=
  match q.prepare surroundings with
  | .error report => .failed report.message report.causes
  | .ok (identity, query, base, server) =>
    let gateway := settings.gateway
    let world := settings.world machine.uptime base server
    match gateway.request identity ⟨q.nspace⟩ world.now with
    | none => .halted
    | some caller =>
      match Query.respond gateway (some caller) query world with
      | (some response, w) =>
        if w.halted then { Outcome.halted with received := w.backend.received }
        else
          ⟨if response.errors.isEmpty then 0 else 2, response.json.pretty ++ "\n", none,
            w.backend.received⟩
      | (none, w) => { Outcome.halted with received := w.backend.received }

end QueryArguments

def versionText : String := "kubeqlctl 0.0.0"

/-- What is written when the command line is refused: only the version is asked for by words whose
answer is short. -/
def Refusal.output : Refusal → String
  | versionAsked => versionText ++ "\n"
  | _ => ""

/-- Carries out an invocation: first the log is set up, then metrics are served, whatever the
command is. -/
def Invocation.run (i : Invocation) (surroundings : Surroundings) (machine : Machine) : Outcome :=
  match LogFilter.fault? i.settings.log with
  | some fault => .failed (LogFilter.faultMessage i.settings.log) fault.messages
  | none =>
    match i.settings.metricsFault? machine with
    | some report => .failed report.message report.causes
    | none =>
      match i.command with
      | .schema => ⟨0, Schema.cluster.text ++ "\n", none, []⟩
      | .query arguments => arguments.run i.settings surroundings machine

def Surroundings.run (surroundings : Surroundings) (words : List String)
    (machine : Machine := {}) : Outcome :=
  match Invocation.read surroundings.environment words with
  | .error refusal => ⟨refusal.exitCode, refusal.output, none, []⟩
  | .ok invocation => invocation.run surroundings machine

end ClusterGraph
