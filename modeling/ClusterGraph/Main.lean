import ClusterGraph.Command.Run

/-!
# The program

Words, environment, files and the clock come from the system. The cluster is the one of the client
configuration that `KUBECONFIG` names; where that file can be read, the server behind it is taken to
be out of reach, since this program opens no connections. Nor does it take the address on which it
is to serve metrics, so nothing is found to be wrong with that.
-/
namespace ClusterGraph.Console

def environment : IO (String → Option String) := do
  let known := (Parameter.shared ++ Parameter.ofQuery).filterMap Parameter.environmentName?
  let values ← known.mapM fun name => return (name, ← IO.getEnv name)
  return fun name => (values.find? fun e => e.1 = name).bind (·.2)

def failure : IO.Error → String
  | .noFileOrDirectory .. => missingFile
  | .permissionDenied _ code _ => "Permission denied (os error " ++ toString code ++ ")"
  | .inappropriateType _ code _ => "Is a directory (os error " ++ toString code ++ ")"
  | e => toString e

def read (file : String) : IO (Except String String) := do
  try return .ok (← IO.FS.readFile file)
  catch e => return .error (failure e)

def cluster (file : String) : IO (Except BackendError (ClientConfig × Server)) := do
  match ← read file with
  | .error cause => return .error (.unknownCluster file cause)
  | .ok _ => return .ok (⟨"", ⟨none, none, none, none⟩, "default"⟩, .unreachable)

def surroundings (words : List String) : IO Surroundings := do
  let environment ← environment
  let cluster ← cluster ((← IO.getEnv "KUBECONFIG").getD ".kube/config")
  let text ← match Invocation.read environment words with
    | .ok ⟨_, .query ⟨_, some file, _, _, _, _, _⟩⟩ => read file
    | _ => pure (.error missingFile)
  return ⟨environment, fun _ => text, cluster⟩

end ClusterGraph.Console

def main (words : List String) : IO UInt32 := do
  let surroundings ← ClusterGraph.Console.surroundings words
  let outcome := surroundings.run words { uptime := ← IO.monoMsNow }
  IO.print outcome.output
  match outcome.report with
  | some report => IO.eprintln report.text
  | none => pure ()
  return UInt32.ofNat outcome.exitCode
