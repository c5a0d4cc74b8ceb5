import WorkflowLaunch.Text.Octets

set_option autoImplicit false

/-!
Why a JSON text is refused, and where. A fault counts the octets that were not yet read; its place
is reported as a line and a column, the column in octets.
-/

namespace WorkflowLaunch.Json

inductive Cause where
  | endInValue
  | endInList
  | endInObject
  | endInString
  | expectedValue
  | expectedWord
  | expectedColon
  | expectedListSeparator
  | expectedObjectSeparator
  | keyNotString
  | trailingComma
  | trailingCharacters
  | invalidNumber
  | numberOutOfRange
  | invalidEscape
  | brokenSurrogatePair
  | loneSurrogate
  | controlCharacter
  | wrongKind (found expected : String)
  | unknownVariant (name : String) (variants : List String)
  | duplicateMember (name : String)
  deriving DecidableEq, Repr

def Cause.message : Cause → String
  | endInValue => "EOF while parsing a value"
  | endInList => "EOF while parsing a list"
  | endInObject => "EOF while parsing an object"
  | endInString => "EOF while parsing a string"
  | expectedValue => "expected value"
  | expectedWord => "expected ident"
  | expectedColon => "expected `:`"
  | expectedListSeparator => "expected `,` or `]`"
  | expectedObjectSeparator => "expected `,` or `\x7d`"
  | keyNotString => "key must be a string"
  | trailingComma => "trailing comma"
  | trailingCharacters => "trailing characters"
  | invalidNumber => "invalid number"
  | numberOutOfRange => "number out of range"
  | invalidEscape => "invalid escape"
  | brokenSurrogatePair => "unexpected end of hex escape"
  | loneSurrogate => "lone leading surrogate in hex escape"
  | controlCharacter => "control character (\\u0000-\\u001F) found while parsing a string"
  | wrongKind found expected => "invalid type: " ++ found ++ ", expected " ++ expected
  | unknownVariant name variants =>
    "unknown variant `" ++ name ++ "`, expected one of " ++
      ", ".intercalate (variants.map fun variant => "`" ++ variant ++ "`")
  | duplicateMember name => "duplicate field `" ++ name ++ "`"

structure Fault where
  cause : Cause
  unread : Nat
  deriving DecidableEq, Repr

/-- The number of octets of a text. -/
def octetSize (text : List Char) : Nat := text.foldr (fun c size => c.utf8Size + size) 0

/-- A fault in front of the rest of the text. -/
def Fault.before (cause : Cause) (rest : List Char) : Fault := ⟨cause, octetSize rest⟩

/-- A fault seen at the first octet of the rest, which counts as read; at the end of the text it is
reported there. -/
def Fault.within (cause : Cause) (rest : List Char) : Fault := ⟨cause, octetSize rest - 1⟩

/-- A refused text: why, and the line and column behind the last octet read. -/
structure Rejection where
  cause : Cause
  line : Nat
  column : Nat
  deriving DecidableEq, Repr

def Rejection.message (rejection : Rejection) : String :=
  s!"{rejection.cause.message} at line {rejection.line} column {rejection.column}"

/-- The line and column behind some octets. -/
def place (octets : Octets) : Nat × Nat :=
  octets.foldl (fun (line, column) (octet : UInt8) =>
    if octet = 10 then (line + 1, 0) else (line, column + 1)) (1, 0)

def Fault.locate (fault : Fault) (text : String) : Rejection :=
  let octets := Octets.ofString text
  let (line, column) := place (octets.take (octets.length - fault.unread))
  ⟨fault.cause, line, column⟩

/-- What reading the front of a text gives: a value and the rest of the text. -/
abbrev Front (α : Type) := α × List Char

def isBlank (c : Char) : Bool := c == ' ' || c == '\t' || c == '\n' || c == '\r'

def skipBlanks (text : List Char) : List Char := text.dropWhile isBlank

end WorkflowLaunch.Json
