import SpokeSim.CommandLine.Basic

/-!
# Reading the command line

`CommandLine.parse` reads the arguments from left to right.

* `--name=value` gives a setting its value at once; `--name` leaves it *open* for the next
  argument, which is its value unless it looks like an option.  A lone hyphen looks like none.
* An open setting is closed, and its value looked at, when the next option comes or the arguments
  end.  An argument that nobody expects is therefore reported before a bad value in front of it.
* `--` ends the options; nothing may follow it.
* Every option may be given once.  `clean` may do without a value and is then true; the two files
  may not have an empty name.
-/

namespace SpokeSim.CommandLine

/-- What has been given. -/
structure Given where
  hubConfig : Option String := none
  scope : Option String := none
  clean : Option Bool := none
  logFile : Option String := none
  forgetDeleted : Bool := false
deriving DecidableEq, Repr, Inhabited

namespace Given

/-- Whether a setting has been given. -/
def has (g : Given) : Setting → Bool
  | .hubConfig => g.hubConfig.isSome
  | .scope => g.scope.isSome
  | .clean => g.clean.isSome
  | .logFile => g.logFile.isSome

/-- Give a setting a value that fits. -/
def put (g : Given) (o : Setting) (value : String) : Except Fault Given :=
  match o with
  | .scope => .ok { g with scope := some value }
  | .hubConfig =>
    if value = "" then .error (.missingValue o) else .ok { g with hubConfig := some value }
  | .logFile =>
    if value = "" then .error (.missingValue o) else .ok { g with logFile := some value }
  | .clean =>
    match truth? value with
    | some b => .ok { g with clean := some b }
    | none => .error (.notTruth value)

/-- The value of a setting that has been given without one. -/
def impliedValue? : Setting → Option String
  | .clean => some "true"
  | .hubConfig | .scope | .logFile => none

/-- Give a setting, with a value or without one. -/
def set (g : Given) (o : Setting) (value : Option String) : Except Fault Given :=
  match value.or (impliedValue? o) with
  | none => .error (.missingValue o)
  | some value => if g.has o then .error (.repeated o.shown) else g.put o value

/-- Turn on the switch for deleted clusters. -/
def forget (g : Given) : Except Fault Given :=
  if g.forgetDeleted then .error (.repeated Switch.forgetDeleted.shown)
  else .ok { g with forgetDeleted := true }

/-- The settings, with defaults for what has not been given. -/
def settings (g : Given) : Settings where
  hubConfig := g.hubConfig
  scope := g.scope.getD defaultScope
  clean := g.clean.getD false
  logFile := g.logFile
  forgetDeleted := g.forgetDeleted

end Given

/-- A setting that is still open, and its value if it has come. -/
abbrev Pending := Option (Setting × Option String)

/-- Close an open setting. -/
def close (g : Given) : Pending → Except Stop Given
  | none => .ok g
  | some (o, value) => (g.set o value).mapError .fault

/-- Flip a switch. -/
def flip (g : Given) : Switch → Except Stop Given
  | .forgetDeleted => g.forget.mapError .fault
  | .help => .error .help
  | .version => .error .version

/-- The name of a long option, and the value behind its equals sign. -/
def cutValue (cs : List Char) : String × Option String :=
  match cs.span (· ≠ '=') with
  | (name, []) => (String.ofList name, none)
  | (name, _ :: value) => (String.ofList name, some (String.ofList value))

/-- An argument that nobody expects. -/
def unexpected {α : Type} (arg : String) : Except Stop α := .error (.fault (.unexpected arg))

/-- Read a long option; `cs` follows its hyphens. -/
def long (g : Given) (p : Pending) (cs : List Char) : Except Stop (Given × Pending) :=
  let (name, value) := cutValue cs
  match Setting.ofName? name, Switch.ofName? name with
  | some o, _ => do
    let g ← close g p
    match value with
    | none => return (g, some (o, none))
    | some value => return (← close g (some (o, some value)), none)
  | none, some o =>
    match value with
    | some value => .error (.fault (.superfluousValue value o))
    | none => do return (← flip (← close g p) o, none)
  | none, none => unexpected ("--" ++ name)

/-- Read the first letter of short options; each option that has one stops the program. -/
def short (g : Given) (p : Pending) (c : Char) : Except Stop (Given × Pending) :=
  match Switch.ofLetter? c with
  | some o => do return (← flip (← close g p) o, none)
  | none => unexpected (String.ofList ['-', c])

/-- Read an argument that looks like no option: the value of an open setting. -/
def plain (g : Given) (p : Pending) (arg : String) : Except Stop (Given × Pending) :=
  match p with
  | some (o, none) => .ok (g, some (o, some arg))
  | some (_, some _) | none => unexpected arg

/-- Read one argument. -/
def readArg (g : Given) (p : Pending) (arg : String) : Except Stop (Given × Pending) :=
  match arg.toList with
  | '-' :: '-' :: cs => long g p cs
  | '-' :: c :: _ => short g p c
  | _ => plain g p arg

/-- Read arguments. -/
def readArgs (g : Given) (p : Pending) : List String → Except Stop Given
  | [] => close g p
  | arg :: args =>
    if arg = "--" then
      match args with
      | [] => close g p
      | arg :: _ => unexpected arg
    else do
      let (g, p) ← readArg g p arg
      readArgs g p args

/-- The settings of a command line. -/
def parse (args : List String) : Except Stop Settings := (readArgs {} none args).map Given.settings

end SpokeSim.CommandLine
