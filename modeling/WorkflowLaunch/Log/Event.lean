import WorkflowLaunch.Json.Value
import WorkflowLaunch.Log.Level
import WorkflowLaunch.Text.Terminal

set_option autoImplicit false

/-!
Log events and their two written forms: a JSON object, and a coloured line in which control
characters of the message are shown by their codes.
-/

namespace WorkflowLaunch.Log

inductive Datum where
  | text (value : String)
  | count (value : Nat)
  | flag (value : Bool)
  deriving DecidableEq, Repr

/-- An event with its fields, also some that it has but does not show. -/
structure Event where
  level : Level
  target : String
  message : String
  fields : List (String × Datum)
  hidden : List String
  deriving DecidableEq, Repr

/-- A span that an event happens in. -/
structure Span where
  name : String
  fields : List (String × String)
  deriving DecidableEq, Repr

def Datum.toJson : Datum → Json.Value
  | text value => .string value
  | count value => .integer value
  | flag value => .bool value

def Datum.display : Datum → String
  | text value => value
  | count value => toString value
  | flag value => toString value

namespace Event

/-- The names of an event's fields, the message being one of them. -/
def fieldNames (event : Event) : List String :=
  "message" :: event.fields.map Prod.fst ++ event.hidden

def toJson (event : Event) (spans : List Span) : Json.Value :=
  let fields := ("message", Json.Value.string event.message) ::
    event.fields.map fun (name, datum) => (name, datum.toJson)
  let inside := spans.map fun span => Json.Value.object <|
    ("name", .string span.name) :: span.fields.map fun (name, value) => (name, .string value)
  .object <| [("level", .string event.level.name), ("fields", .object fields),
    ("target", .string event.target)] ++ if inside.isEmpty then [] else [("spans", .array inside)]

end Event

def Level.color : Level → String
  | error => "31"
  | warn => "33"
  | info => "32"
  | debug => "34"
  | trace => "35"

/-- The name of a level, five characters wide. -/
def Level.label (level : Level) : String :=
  Text.styled level.color (String.ofList (List.replicate (5 - level.name.length) ' ') ++ level.name)

/-- Characters that would steer a terminal are shown by their codes. -/
def visibleChar (c : Char) : List Char :=
  if c = '\x1b' then "\\x1b".toList
  else if c = '\x07' then "\\x07".toList
  else if c = '\x08' then "\\x08".toList
  else if c = '\x0c' then "\\x0c".toList
  else if c = '\x7f' then "\\x7f".toList
  else if '\u0080' ≤ c && c ≤ '\u009f' then
    "\\u\x7b".toList ++ Nat.toDigits 16 c.toNat ++ ['}']
  else [c]

def visible (text : String) : String := String.ofList (text.toList.flatMap visibleChar)

/-- A field of a coloured line. -/
def fieldText (name value : String) : String := Text.styled "3" name ++ Text.styled "2" "=" ++ value

/-- A span as it stands in front of a message. -/
def Span.label (span : Span) : String :=
  let fields := span.fields.map fun (name, value) => fieldText name value
  let inner :=
    if fields.isEmpty then ""
    else Text.styled "1" "\x7b" ++ " ".intercalate fields ++ Text.styled "1" "\x7d"
  Text.styled "1" span.name ++ inner ++ Text.styled "2" ":"

/-- The coloured line of an event inside some spans. -/
def Event.line (event : Event) (spans : List Span) : String :=
  let inside := if spans.isEmpty then "" else String.join (spans.map Span.label) ++ " "
  event.level.label ++ " " ++ inside ++ visible event.message ++
    String.join (event.fields.map fun (name, datum) => " " ++ fieldText name datum.display)

end WorkflowLaunch.Log
