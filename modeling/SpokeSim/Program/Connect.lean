import SpokeSim.Kubeconfig.Client
import SpokeSim.Log
import SpokeSim.Simulator.Error

/-!
# Connecting

The way to the hub is told by a kubeconfig: the file that the program is given, or else the files
that the surroundings list.

* `connectBy`: the connection of the file at a path.
* `inferConnection`: the connection that the surroundings tell.
* `connect`: either of them, with what the log says about it.
-/

namespace SpokeSim

/-- Where a program looks for files and kubeconfigs. -/
structure Surroundings where
  files : Files
  /-- The paths of kubeconfigs, with colons between them. -/
  listed : Option String := none
  /-- The path of the kubeconfig that is used when none is listed. -/
  usual : Option String := none
  /-- Tokens that expire before this time count as expired. -/
  horizon : Time.Timestamp

/-- Use a connection. -/
def useConnection (s : Surroundings) (c : Connection) : Except SimError Connection :=
  match c.check s.files s.horizon with
  | .ok () => .ok c
  | .error f => .error (.kubeconfig ("Failed to create client: " ++ f.message))

/-- The connection of the kubeconfig with some text. -/
def connectByText (s : Surroundings) (text : String) : Except SimError Connection :=
  match Kubeconfig.ofText text with
  | none => .error (.kubeconfig "Failed to parse kubeconfig: the text does not fit")
  | some k =>
    match k.connection s.files with
    | .error f => .error (.kubeconfig ("Failed to create config: " ++ f.message))
    | .ok c => useConnection s c

/-- The connection of the kubeconfig at a path. -/
def connectBy (s : Surroundings) (path : String) : Except SimError Connection :=
  match s.files path with
  | .error f => .error (.kubeconfig ("Failed to read " ++ path ++ ": " ++ f.message))
  | .ok text => connectByText s text

/-- Why nothing can be told about the connection.  There is no cluster around the program either. -/
def inferenceFailure (f : Kubeconfig.Fault) : String :=
  "Failed to infer config: failed to infer config: in-cluster: (failed to read an incluster "
    ++ "environment variable: environment variable not found), kubeconfig: (" ++ f.message ++ ")"

/-- The connection that the surroundings tell. -/
def inferConnection (s : Surroundings) : Except SimError Connection :=
  match (Kubeconfig.ofFiles s.files s.listed s.usual).bind (·.connection s.files) with
  | .error f => .error (.kubeconfig (inferenceFailure f))
  | .ok c => useConnection s c

/-- Connect by the kubeconfig at a path, or by what the surroundings tell; the log says first what
is done, and then the surroundings are looked at. -/
def connect {σ : Type} [LogSink σ] (around : σ → Surroundings) :
    Option String → StateM σ (Except SimError Connection)
  | some path => do
    log .info .hubClient ("Loading hub kubeconfig from " ++ path)
    return connectBy (around (← get)) path
  | none => do
    log .debug .hubClient "No hub kubeconfig given, inferring client configuration"
    return inferConnection (around (← get))

end SpokeSim
