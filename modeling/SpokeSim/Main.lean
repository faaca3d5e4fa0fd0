import SpokeSim.Program.Run
import Std.Time.DateTime

/-!
# The command

`main` gathers what a run finds around it, runs, and shows what came of it.  There is no transport
to a hub here, so the hub is always out of reach.
-/

namespace SpokeSim

/-- Whether the system's code of an error is a number, with either sign. -/
def isCode (code number : UInt32) : Bool := code == number || code == 0 - number

/-- What is wrong about a file, by the error that the system reports. -/
def FileFault.ofError : IO.Error → FileFault
  | .noFileOrDirectory .. => .notFound
  | .permissionDenied .. => .forbidden
  | .inappropriateType _ code _ => if isCode code 20 then .notDirectory else .isDirectory
  | .invalidArgument _ code _ => if isCode code 36 then .tooLong else .zeroInPath
  | e => .other (toString e)

/-- Try something with a file. -/
def attempt {α : Type} (act : IO α) : IO (Except FileFault α) := do
  try
    return .ok (← act)
  catch e => return .error (.ofError e)

/-- Read files. -/
def readAll (paths : List String) : IO (List (String × Except FileFault String)) :=
  paths.mapM fun (path : String) => return (path, ← attempt (IO.FS.readFile path))

/-- The files that have been read. -/
def filesOf (read : List (String × Except FileFault String)) : Files := fun path =>
  (read.lookup path).getD (.error .notFound)

/-- Read the kubeconfigs at some paths, and the files that they mention. -/
def gather (paths : List String) : IO Files := do
  let first ← readAll paths
  let mentioned := first.flatMap fun (path, text) =>
    match text with
    | .ok text => Kubeconfig.mentionedFiles path text
    | .error _ => []
  return filesOf (first ++ (← readAll mentioned))

/-- A minute from now. -/
def soon : IO Time.Timestamp := do
  let seconds := (← Std.Time.Timestamp.now).toSecondsSinceUnixEpoch.val + 60
  return (Time.Timestamp.ofSeconds? seconds.toNat).getD .epoch

/-- Draw random bits for identifiers. -/
def drawIds : IO (Nat → ClusterId) := do
  let seed ← IO.rand 0 (BitVec.allOnes 128).toNat
  return fun n => .ofRandom (seed + n * 0x9E3779B97F4A7C15F39CC0605CEDC835)

/-- Show the log, in its file or on standard output. -/
def showLog (o : Program.Outcome) : IO Unit := do
  let text := Program.logText o.shown
  match o.logFile with
  | some path => IO.FS.writeFile path text
  | none => IO.print text

end SpokeSim

open SpokeSim in
/-- Run the program. -/
def main (args : List String) : IO UInt32 := do
  let settings := (CommandLine.parse args).toOption
  let listed ← IO.getEnv "KUBECONFIG"
  let usual := (← IO.getEnv "HOME").map (· ++ "/.kube/config")
  let paths := match settings.bind (·.hubConfig) with
    | some path => [path]
    | none => Kubeconfig.pathsOf (listed.getD "") ++ usual.toList
  let files ← gather paths
  let created ← match settings.bind (·.logFile) with
    | some path => attempt (IO.FS.writeFile path "")
    | none => pure (.ok ())
  let outcome := Program.run {
    args
    logFilter := ← IO.getEnv "RUST_LOG"
    surroundings := { files, listed, usual, horizon := ← soon }
    createLog := fun _ => created
    hub := .error .noNetwork
    ids := ← drawIds
    patience := 0 }
  if let some text := outcome.told then IO.print text
  showLog outcome
  if outcome.complaint ≠ "" then IO.eprintln outcome.complaint
  return outcome.exit.toUInt32
