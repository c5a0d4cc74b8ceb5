import WorkflowLaunch.Log.Event
import WorkflowLaunch.Log.Filter

set_option autoImplicit false

/-!
Loggers: a format and a filter. The coloured logger shows a backtrace behind every error.
-/

namespace WorkflowLaunch.Log

inductive Format where
  | json
  | pretty
  deriving DecidableEq, Repr

namespace Format

def all : List Format := [.json, .pretty]

/-- The format of a server for which none was asked. -/
def standard : Format := .json

def name : Format → String
  | json => "json"
  | pretty => "pretty"

def ofName? (name : String) : Option Format := all.find? (·.name == name)

end Format

/-- A line of the log. -/
inductive Line where
  | json (value : Json.Value)
  | text (line : String)

/-- A line as it is printed, with the time of its event in front. -/
def Line.stamped (time : String) : Line → String
  | json (.object members) =>
    String.ofList (Json.Value.object (("timestamp", .string time) :: members)).compact
  | json value => String.ofList value.compact
  | text line => Text.styled "2" time ++ " " ++ line

structure Logger where
  format : Format
  filter : Filter
  deriving DecidableEq, Repr

namespace Logger

/-- A logger with the filter that the environment asks for. -/
def ofEnvironment (format : Format) (directives : Option String) : Except FilterFault Logger :=
  (Filter.ofEnvironment directives).map (⟨format, ·⟩)

def enables (logger : Logger) (event : Event) : Bool :=
  logger.filter.enables event.level event.target event.fieldNames

/-- The events that the logger writes. -/
def written (logger : Logger) (events : List Event) : List Event := events.filter logger.enables

/-- An event inside some spans as the logger writes it. -/
def lineInside (logger : Logger) (spans : List Span) (event : Event) : Line :=
  match logger.format with
  | .json => .json (event.toJson spans)
  | .pretty => .text (event.line spans)

/-- An event as the logger writes it. -/
def line (logger : Logger) (event : Event) : Line := logger.lineInside [] event

/-- Whether a backtrace follows an event. -/
def showsBacktrace (logger : Logger) (event : Event) : Bool :=
  logger.format = .pretty && event.level = .error && logger.enables event

end Logger

end WorkflowLaunch.Log
