import WorkflowLaunch.CommandLine.Setting
import WorkflowLaunch.Text.Integer
import WorkflowLaunch.Text.Paragraph
import WorkflowLaunch.Text.Terminal

set_option autoImplicit false

/-!
What can be wrong with a command line. A message is one paragraph, cut at its first blank line, and
steers no terminal. What it quotes from the command line stands in a style of its own, so that a
control sequence in there does not reach beyond the quote.
-/

namespace WorkflowLaunch.CommandLine

inductive PortFault where
  | unreadable (fault : Text.IntegerFault)
  | outOfRange (value : Int)
  deriving DecidableEq, Repr

def PortFault.message : PortFault → String
  | unreadable fault => fault.message
  | outOfRange value => s!"{value} is not in 0..=65535"

inductive Fault where
  | unknownArgument (text : String)
  | unknownCommand (text : String)
  | valueRequired (setting : Setting)
  | emptyFlag
  | invalidFlag (text : String)
  | invalidPort (text : String) (fault : PortFault)
  | repeated (setting : Setting)
  | unexpectedValue (text option : String)
  | notText
  deriving DecidableEq, Repr

namespace Fault

def possibleValues : String := "\n  [possible values: true, false]"

/-- A quote from the command line. -/
def quoted (text : String) : String := "'" ++ Text.styled "33" text ++ "'"

/-- The message with its styles. -/
def text : Fault → String
  | unknownArgument text => s!"error: unexpected argument {quoted text} found"
  | unknownCommand text => s!"error: unrecognized subcommand {quoted text}"
  | valueRequired setting =>
    s!"error: a value is required for '{setting.usage}' but none was supplied"
  | emptyFlag =>
    s!"error: a value is required for '{Setting.ephemeral.usage}' but none was supplied" ++
      possibleValues
  | invalidFlag text =>
    s!"error: invalid value {quoted text} for '{Setting.ephemeral.usage}'" ++ possibleValues
  | invalidPort text fault =>
    s!"error: invalid value {quoted text} for '{Setting.port.usage}': {fault.message}"
  | repeated setting => s!"error: the argument '{setting.usage}' cannot be used multiple times"
  | unexpectedValue text option =>
    s!"error: unexpected value {quoted text} for '{option}' found; no more were expected"
  | notText => "error: invalid UTF-8 was detected in one or more arguments"

def message (fault : Fault) : String := Text.firstParagraph (Text.withoutControls fault.text)

end Fault

/-- Why no request comes of a command line: the user asked for something to read, or gave nothing
to do, or made a mistake. -/
inductive Refusal where
  | help (text : String)
  | version (text : String)
  | nothingToDo (help : String)
  | fault (fault : Fault)
  deriving DecidableEq, Repr

namespace Refusal

def message : Refusal → String
  | help shown => Text.withoutControls shown
  | version shown => shown
  | nothingToDo shown => Text.withoutControls shown
  | fault cause => cause.message

/-- Whether the message is what the user asked to see. -/
def isDisplay : Refusal → Bool
  | fault _ => false
  | _ => true

end Refusal

end WorkflowLaunch.CommandLine
