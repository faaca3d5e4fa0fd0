/-!
# Log lines

What the program tells about its work: each line has a level, the part of the program that wrote it,
a message, and the spans in which it was written, which are stretches of work with a name.  A state
that keeps log lines is a `LogSink`; `log` adds a line to it, and `inSpan` sets lines in a span.
-/

namespace SpokeSim

/-- How grave a line is. -/
inductive Level where
  | error
  | warn
  | info
  | debug
  | trace
deriving DecidableEq, Repr, Inhabited

namespace Level

/-- The name of a level. -/
def name : Level → String
  | error => "ERROR"
  | warn => "WARN"
  | info => "INFO"
  | debug => "DEBUG"
  | trace => "TRACE"

/-- Levels by growing detail, from 1 on. -/
def detail : Level → Nat
  | error => 1
  | warn => 2
  | info => 3
  | debug => 4
  | trace => 5

end Level

/-- The parts of the program that write to the log. -/
inductive Component where
  | program
  | hubClient
  | addon
  | provisioner
  | reaper
  | reconciler
  | cleanup
deriving DecidableEq, Repr, Inhabited

/-- The name by which a log filter selects a part of the program. -/
def Component.target : Component → String
  | program => "metrics_collector_simulator"
  | hubClient => "metrics_collector_simulator::kubernetes::client"
  | addon => "metrics_collector_simulator::kubernetes::addon"
  | provisioner => "metrics_collector_simulator::simulator::provisioner"
  | reaper => "metrics_collector_simulator::simulator::reaper"
  | reconciler => "metrics_collector_simulator::reconcilers::cluster"
  | cleanup => "metrics_collector_simulator::reconcilers::cleanup"

/-- A stretch of work. -/
structure Span where
  name : String
  component : Component
  /-- The names of what is told about the work, and how it shows. -/
  fields : List (String × String) := []
deriving DecidableEq, Repr, Inhabited

/-- A line of the log. -/
structure LogLine where
  level : Level
  component : Component
  message : String
  /-- The spans around the line, the outermost one first. -/
  spans : List Span := []
deriving DecidableEq, Repr, Inhabited

namespace LogLine

/-- A line as it is shown. -/
def text (l : LogLine) : String := l.level.name ++ " " ++ l.message

/-- A character as it is printed: one that could steer a terminal is spelled out. -/
def printedChar (c : Char) : List Char :=
  let n := c.toNat
  let hex := Nat.toDigits 16 n
  if n = 0x7 ∨ n = 0x8 ∨ n = 0xC then ['\\', 'x', '0'] ++ hex
  else if n = 0x1B ∨ n = 0x7F then ['\\', 'x'] ++ hex
  else if 0x80 ≤ n ∧ n ≤ 0x9F then ['\\', 'u', '\x7b'] ++ hex ++ ['\x7d']
  else [c]

/-- A line as it is printed. -/
def printed (l : LogLine) : String := String.ofList (l.text.toList.flatMap printedChar)

/-- A line inside one more span. -/
def inside (s : Span) (l : LogLine) : LogLine := { l with spans := s :: l.spans }

end LogLine

/-! ## States that keep a log -/

/-- A state that keeps log lines, the oldest one first. -/
class LogSink (σ : Type) where
  lines : σ → List LogLine
  /-- The state with other lines. -/
  setLines : List LogLine → σ → σ

/-- Nothing but the log. -/
instance : LogSink (List LogLine) := ⟨id, fun ls _ => ls⟩

/-- The log of the first part of a state. -/
instance {σ τ : Type} [LogSink σ] : LogSink (σ × τ) :=
  ⟨fun s => LogSink.lines s.1, fun ls s => (LogSink.setLines ls s.1, s.2)⟩

variable {σ α : Type} [LogSink σ]

/-- Write a line. -/
def log (level : Level) (component : Component) (message : String) : StateM σ Unit :=
  modify fun s => LogSink.setLines (LogSink.lines s ++ [⟨level, component, message, []⟩]) s

/-- Do some work in a span: the lines that it writes stand inside. -/
def inSpan (span : Span) (act : StateM σ α) : StateM σ α := fun s =>
  let (a, s') := act s
  let (before, written) := (LogSink.lines s').splitAt (LogSink.lines s).length
  (a, LogSink.setLines (before ++ written.map (·.inside span)) s')

end SpokeSim
