import WorkflowLaunch.Text.Octets

set_option autoImplicit false

/-!
The settings that the `start` command takes from its options, and how the options are written.
-/

namespace WorkflowLaunch.CommandLine

inductive Setting where
  | attributeNames
  | attributeTypes
  | ephemeral
  | filename
  | port
  | ip
  | logFormat
  | namespaces
  deriving DecidableEq, Repr

namespace Setting

def all : List Setting :=
  [.attributeNames, .attributeTypes, .ephemeral, .filename, .port, .ip, .logFormat, .namespaces]

/-- The name of the long option. -/
def long : Setting → String
  | attributeNames => "search-attributes-key"
  | attributeTypes => "search-attributes-type"
  | ephemeral => "ephemeral"
  | filename => "filename"
  | port => "port"
  | ip => "ip"
  | logFormat => "log-format"
  | namespaces => "namespace"

/-- The letter of the short option, if there is one. -/
def short? : Setting → Option Char
  | filename => some 'f'
  | port => some 'p'
  | namespaces => some 'n'
  | _ => none

/-- What stands for the value in messages. -/
def placeholder : Setting → String
  | attributeNames => "KEY"
  | attributeTypes => "TYPE"
  | ephemeral => "BOOL"
  | filename => "PATH"
  | port => "PORT"
  | ip => "ADDR"
  | logFormat => "FORMAT"
  | namespaces => "NAME"

/-- Whether a value must be attached to the option and may be left out. -/
def valueOptional : Setting → Bool
  | ephemeral => true
  | _ => false

/-- How the value is written behind the name of the option. -/
def valueUsage (setting : Setting) : String :=
  if setting.valueOptional then s!"[=<{setting.placeholder}>]" else s!" <{setting.placeholder}>"

/-- The option as messages show it. -/
def usage (setting : Setting) : String := s!"--{setting.long}{setting.valueUsage}"

def ofLong? (name : Octets) : Option Setting :=
  all.find? fun setting => Octets.ofString setting.long = name

def ofShort? (letter : Char) : Option Setting :=
  all.find? fun setting => setting.short? = some letter

end Setting

end WorkflowLaunch.CommandLine
