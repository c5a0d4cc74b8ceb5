import WorkflowLaunch.CommandLine.Fault
import WorkflowLaunch.Request.Basic
import WorkflowLaunch.Text.Pieces

set_option autoImplicit false

/-!
What the words of a command line have given so far. A second value for a setting that may be given
once is refused unread.
-/

namespace WorkflowLaunch.CommandLine

structure Given where
  words : List String
  ephemeral : Option Bool
  filename : Option Path
  port : Option UInt16
  ip : Option String
  logFormat : Option String
  namespaces : Option (List String)
  attributeNames : Option (List String)
  attributeTypes : Option (List String)
  deriving DecidableEq

def readText (value : Octets) : Except Fault String :=
  match Octets.text? value with
  | some text => .ok text
  | none => .error .notText

def readTexts : List Octets → Except Fault (List String)
  | [] => .ok []
  | value :: rest => do
    let text ← readText value
    return text :: (← readTexts rest)

/-- The items of a list, between commas. -/
def readItems (value : Octets) : Except Fault (List String) := readTexts (Text.pieces 44 value)

def readFlag (value : Octets) : Except Fault Bool :=
  if value = Octets.ofString "true" then .ok true
  else if value = Octets.ofString "false" then .ok false
  else if value = [] then .error .emptyFlag
  else .error (.invalidFlag (Octets.lossy value))

def readPath (value : Octets) : Except Fault Path :=
  if value = [] then .error (.valueRequired .filename) else .ok ⟨value⟩

def readPort (value : Octets) : Except Fault UInt16 := do
  let text ← readText value
  match Text.signed64 text.toList with
  | .error fault => .error (.invalidPort text (.unreadable fault))
  | .ok number =>
    if 0 ≤ number && number ≤ 65535 then .ok (UInt16.ofNat number.toNat)
    else .error (.invalidPort text (.outOfRange number))

namespace Given

def nothing : Given := ⟨[], none, none, none, none, none, none, none, none⟩

/-- Reads a value into the place of a setting that may be given once. -/
def once {α : Type} (setting : Setting) (held : Option α) (read : Except Fault α) :
    Except Fault (Option α) :=
  match held with
  | none => read.map some
  | some _ => .error (.repeated setting)

/-- Appends items to those that were given before. -/
def more (held : Option (List String)) (items : List String) : Option (List String) :=
  some (held.getD [] ++ items)

def enter (given : Given) (setting : Setting) (value : Octets) : Except Fault Given := do
  match setting with
  | .ephemeral =>
    return { given with ephemeral := ← once setting given.ephemeral (readFlag value) }
  | .filename =>
    return { given with filename := ← once setting given.filename (readPath value) }
  | .port => return { given with port := ← once setting given.port (readPort value) }
  | .ip => return { given with ip := ← once setting given.ip (readText value) }
  | .logFormat =>
    return { given with logFormat := ← once setting given.logFormat (readText value) }
  | .namespaces => return { given with namespaces := more given.namespaces (← readItems value) }
  | .attributeNames =>
    return { given with attributeNames := more given.attributeNames (← readItems value) }
  | .attributeTypes =>
    return { given with attributeTypes := more given.attributeTypes (← readItems value) }

def request (given : Given) (standard : Standard) : Request where
  words := given.words
  ephemeral := .resolve given.ephemeral standard.ephemeral
  filename := .resolve given.filename standard.databaseFile
  port := .resolve given.port standard.port
  ip := .resolve given.ip standard.ip
  logFormat := .resolve given.logFormat standard.logFormat
  namespaces := .resolve given.namespaces []
  attributeNames := .resolve given.attributeNames []
  attributeTypes := .resolve given.attributeTypes []

end Given

end WorkflowLaunch.CommandLine
