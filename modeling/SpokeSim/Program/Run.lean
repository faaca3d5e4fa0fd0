import SpokeSim.Addon
import SpokeSim.Cleanup
import SpokeSim.CommandLine.Parser
import SpokeSim.LogFilter
import SpokeSim.Program.Connect
import SpokeSim.Program.Spans

/-!
# The program

The program reads its command line, opens its log, connects to the hub, and then either cleans up or
watches.  Before it watches it makes sure that the add-on is up.

Everything outside is in its `Environment`, and everything that comes of a run is in its `Outcome`,
so that a run is a function from one to the other.
-/

namespace SpokeSim.Program

/-- What a run finds around it. -/
structure Environment where
  args : List String := []
  /-- The text of the log filter. -/
  logFilter : Option String := none
  surroundings : Surroundings
  /-- Whether a log file can be made at a path. -/
  createLog : String → Except FileFault Unit
  /-- The hub, or why it is out of reach. -/
  hub : Except Outage Hub
  /-- The identifiers to be drawn. -/
  ids : Nat → ClusterId
  /-- How many steps the hub is watched at most. -/
  patience : Nat

/-- What comes of a run. -/
structure Outcome where
  exit : Nat
  /-- What is told on demand. -/
  told : Option String := none
  /-- What is said about a failure. -/
  complaint : String := ""
  /-- The file that takes the log. -/
  logFile : Option String := none
  /-- The lines of the log that are shown. -/
  shown : List LogLine := []
  /-- The exchanges with the hub. -/
  exchanges : List (Request × Answer) := []

/-! ## Complaints -/

/-- A text whose further lines are indented. -/
def indent (margin : Nat) (s : String) : String :=
  ("\n" ++ String.ofList (List.replicate margin ' ')).intercalate (s.splitOn "\n")

/-- The causes of a failure: a single one without a number, several numbered from 0. -/
def causeLines : List String → List String
  | [] => []
  | [cause] => ["    " ++ indent 4 cause]
  | causes => causes.zipIdx.map fun (cause, i) =>
    "    " ++ toString i ++ ": " ++ indent 7 cause

/-- What is said about a failure with its causes. -/
def complain (message : String) (causes : List String) : String :=
  "Error: " ++ message ++
    (if causes.isEmpty then "" else
      "\n\nCaused by:\n" ++ "\n".intercalate (causeLines causes))

/-! ## Work -/

/-- How the work ends: well, badly, or with an error to complain about. -/
inductive Ending where
  | success
  | failure
  | raised (e : SimError)

/-- The lists of which the work asks for one first. -/
structure Opening where
  clusters : Sim (Except ApiError (Api.Listing .managedCluster))
  pods : Sim (Except ApiError (Api.Listing .pod))

/-- The lists of the hub. -/
def Opening.ofHub : Opening := ⟨listClusters, listAddonPods⟩

/-- A hub out of reach gives no list. -/
def Opening.unreached (o : Outage) : Opening :=
  ⟨return .error (.unreached o), return .error (.unreached o)⟩

/-- Remove the simulators of all clusters in scope. -/
def cleanUp (first : Opening) (s : Settings) : Sim Ending := do
  match ← inSpan (.cleaningUp s.scope)
      (reapAll first.clusters Handler.simulator.spanned s.scope) with
  | .ok _ => return .success
  | .error e =>
    log .error .program ("failed to clean up the simulators, err " ++ e.message)
    return .failure

/-- Watch the clusters, provided that the add-on is up. -/
def watch (first : Opening) (s : Settings) (patience : Nat) : Sim Ending := do
  match ← inSpan .lookingForAddon (isAddonUpBy first.pods) with
  | .error e => return .raised (.api e)
  | .ok false =>
    log .error .program "Observability add-on is not up, cannot read the simulator templates"
    return .failure
  | .ok true =>
    match ← s.reconciler.serve Handler.simulator.spanned patience with
    | (.error e, _) => return .raised e
    | (.ok (), _) =>
      log .warn .program "Cluster watch stopped"
      return .success

/-- Do what the settings ask for. -/
def work (first : Opening) (s : Settings) (patience : Nat) : Sim Ending :=
  if s.clean then cleanUp first s else watch first s patience

/-! ## Runs -/

/-- The lines of a log that are shown. -/
def Environment.shown (env : Environment) (ls : List LogLine) : List LogLine :=
  ls.filter (LogFilter.ofText env.logFilter).shows

/-- The text of lines in a log. -/
def logText (ls : List LogLine) : String := String.join (ls.map fun l => l.printed ++ "\n")

/-- What is around a run that has written a log so far: the log file holds what is shown of it. -/
def Environment.around (env : Environment) (s : Settings) (ls : List LogLine) : Surroundings :=
  { env.surroundings with
    files := fun path =>
      if some path = s.logFile then .ok (logText (env.shown ls)) else env.surroundings.files path }

/-- Tell what is run, and connect to the hub. -/
def openHub (env : Environment) (s : Settings) : Sim (Except SimError Connection) := do
  log .info .program "Starting metrics collector simulator"
  log .info .program ("Configuration loaded: prefix='" ++ s.scope ++ "', clean="
    ++ toString s.clean ++ ", seen_policy=" ++ s.policy.name)
  let span : Span := .connecting s.hubConfig
  let around (w : World) : Surroundings :=
    env.around s (w.lines.map fun l => if l.component = .hubClient then l.inside span else l)
  inSpan span (connect around s.hubConfig)

/-- Connect to the hub and work. -/
def main (env : Environment) (s : Settings) : Sim Ending := do
  match ← openHub env s with
  | .error e => return .raised e
  | .ok _ =>
    log .info .program "Connected to hub cluster"
    match env.hub with
    | .ok _ => work .ofHub s env.patience
    | .error o => work (.unreached o) s env.patience

/-- The world in which a run begins. -/
def Environment.world (env : Environment) : World where
  hub := env.hub.toOption.getD default
  ids := env.ids

/-- What comes of an ending. -/
def outcomeOf (env : Environment) (s : Settings) (e : Ending) (w : World) : Outcome :=
  let outcome : Outcome :=
    { exit := 1
      logFile := s.logFile
      shown := env.shown w.lines
      exchanges := w.exchanges }
  match e with
  | .success => { outcome with exit := 0 }
  | .failure => outcome
  | .raised e => { outcome with complaint := complain e.message e.causes }

/-- Run with settings. -/
def runWith (env : Environment) (s : Settings) : Outcome :=
  let (e, w) := main env s env.world
  outcomeOf env s e w

/-- Make the log file, if one is asked for. -/
def openLog (env : Environment) (s : Settings) : Except (String × FileFault) Unit :=
  match s.logFile with
  | none => .ok ()
  | some path => (env.createLog path).mapError fun f => (path, f)

/-- Run the program. -/
def run (env : Environment) : Outcome :=
  match CommandLine.parse env.args with
  | .error .help => { exit := 0, told := some CommandLine.helpText }
  | .error .version => { exit := 0, told := some CommandLine.versionText }
  | .error (.fault f) => { exit := 2, complaint := f.message }
  | .ok s =>
    match openLog env s with
    | .error (path, f) =>
      { exit := 1, complaint := complain ("Failed to create log file " ++ path) [f.message] }
    | .ok () => runWith env s

end SpokeSim.Program
