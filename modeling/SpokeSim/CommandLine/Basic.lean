import SpokeSim.Reconciler

/-!
# Options

What can be set on the command line, by which options, and what can be wrong about it.  A *setting*
is an option that takes a value, a *switch* one that takes none.

* `Settings`: what is set in the end.
* `truth?`: the words for yes and no.
* `Stop`: why the program does not run with settings: it is asked for help or for its version, or
  there is a fault in its arguments.
-/

namespace SpokeSim

/-- What the command line sets. -/
structure Settings where
  /-- The file that tells how to reach the hub. -/
  hubConfig : Option String := none
  /-- Only clusters whose name starts with this are handled. -/
  scope : String := defaultScope
  /-- Clean up instead of watching. -/
  clean : Bool := false
  /-- The file that takes the log. -/
  logFile : Option String := none
  /-- Forget deleted clusters. -/
  forgetDeleted : Bool := false
deriving DecidableEq, Repr, Inhabited

/-- The policy that is set. -/
def Settings.policy (s : Settings) : SeenPolicy := if s.forgetDeleted then .forget else .retain

/-- The reconciler that is set. -/
def Settings.reconciler (s : Settings) : Reconciler := { scope := s.scope, policy := s.policy }

namespace CommandLine

/-! ## Options -/

/-- An option that takes a value. -/
inductive Setting where
  | hubConfig
  | scope
  | clean
  | logFile
deriving DecidableEq, Repr, Inhabited

namespace Setting

/-- All settings. -/
def all : List Setting := [hubConfig, scope, clean, logFile]

/-- The name of a setting. -/
def name : Setting → String
  | hubConfig => "hub-config"
  | scope => "prefix"
  | clean => "clean"
  | logFile => "log-file"

/-- A setting as it is shown, with its value. -/
def shown : Setting → String
  | hubConfig => "--hub-config <HUB_CONFIG>"
  | scope => "--prefix <PREFIX>"
  | clean => "--clean [<CLEAN>]"
  | logFile => "--log-file <LOG_FILE>"

/-- The setting of a name. -/
def ofName? (s : String) : Option Setting := all.find? fun o => o.name == s

end Setting

/-- An option that takes no value. -/
inductive Switch where
  | forgetDeleted
  | help
  | version
deriving DecidableEq, Repr, Inhabited

namespace Switch

/-- All switches. -/
def all : List Switch := [forgetDeleted, help, version]

/-- The name of a switch. -/
def name : Switch → String
  | forgetDeleted => "forget-deleted"
  | help => "help"
  | version => "version"

/-- A switch as it is shown. -/
def shown (s : Switch) : String := "--" ++ s.name

/-- The switch of a name. -/
def ofName? (s : String) : Option Switch := all.find? fun o => o.name == s

/-- The switch of a letter. -/
def ofLetter? : Char → Option Switch
  | 'h' => some help
  | 'V' => some version
  | _ => none

end Switch

/-- The words for yes. -/
def yesWords : List String := ["y", "yes", "t", "true", "on", "1"]

/-- The words for no. -/
def noWords : List String := ["n", "no", "f", "false", "off", "0"]

/-- The truth value of a word, in letters of either case. -/
def truth? (word : String) : Option Bool :=
  let word := String.ofList (word.toList.map Char.toLower)
  if word ∈ yesWords then some true else if word ∈ noWords then some false else none

/-! ## Faults -/

/-- What is wrong about the arguments. -/
inductive Fault where
  /-- An argument that is no option and no value. -/
  | unexpected (arg : String)
  /-- An option that is given again. -/
  | repeated (shown : String)
  /-- A setting without its value. -/
  | missingValue (o : Setting)
  /-- A switch with a value. -/
  | superfluousValue (value : String) (o : Switch)
  /-- A value of `clean` that is no truth value. -/
  | notTruth (value : String)
deriving DecidableEq, Repr

/-- The wording of a fault. -/
def Fault.message : Fault → String
  | unexpected arg => "error: unexpected argument '" ++ arg ++ "' found"
  | repeated shown => "error: the argument '" ++ shown ++ "' cannot be used multiple times"
  | missingValue o => "error: a value is required for '" ++ o.shown ++ "' but none was supplied"
  | superfluousValue value o =>
    "error: unexpected value '" ++ value ++ "' for '" ++ o.shown
      ++ "' found; no more were expected"
  | notTruth value =>
    "error: invalid value '" ++ value ++ "' for '" ++ Setting.clean.shown
      ++ "': value was not a boolean"

/-- Why the program does not run with settings. -/
inductive Stop where
  | help
  | version
  | fault (f : Fault)
deriving DecidableEq, Repr

/-! ## Texts -/

/-- What is told about the version. -/
def versionText : String := "metrics-collector-simulator 0.1.0\n"

/-- What is told about the options. -/
def helpText : String :=
  "Watches ManagedCluster resources on the hub and runs a metrics-collector simulator in the "
  ++ "namespace of every added cluster. With `--clean` the simulators of all matching clusters are "
  ++ "removed instead\n"
  ++ "\n"
  ++ "Usage: metrics-collector-simulator [OPTIONS]\n"
  ++ "\n"
  ++ "Options:\n"
  ++ "      --hub-config <HUB_CONFIG>  Hub cluster kubeconfig. Without it the configuration is "
  ++ "inferred, honouring every path listed in KUBECONFIG\n"
  ++ "      --prefix <PREFIX>          Only managed clusters whose name starts with this prefix "
  ++ "are processed [default: " ++ defaultScope ++ "]\n"
  ++ "      --clean [<CLEAN>]          Clean up the simulators instead of watching (accepts True, "
  ++ "yes, 1, ...) [default: false] [possible values: true, false]\n"
  ++ "      --log-file <LOG_FILE>      Write logs to this file instead of stderr\n"
  ++ "      --forget-deleted           Forget a deleted cluster so it is provisioned again when "
  ++ "re-added\n"
  ++ "  -h, --help                     Print help\n"
  ++ "  -V, --version                  Print version\n"

end CommandLine

end SpokeSim
