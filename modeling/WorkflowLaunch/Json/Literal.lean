import WorkflowLaunch.Json.Fault
import WorkflowLaunch.Text.Hexadecimal

set_option autoImplicit false

/-!
String literals. Writing escapes quotes, backslashes and the characters below the space; reading
accepts every escape of the format, surrogate pairs included, and refuses raw control characters.
-/

namespace WorkflowLaunch.Json

/-- A character as it stands inside a string literal. -/
def escape (c : Char) : List Char :=
  match c with
  | '"' => ['\\', '"']
  | '\\' => ['\\', '\\']
  | '\x08' => ['\\', 'b']
  | '\x0c' => ['\\', 'f']
  | '\n' => ['\\', 'n']
  | '\r' => ['\\', 'r']
  | '\t' => ['\\', 't']
  | c =>
    if c < ' ' then
      ['\\', 'u', '0', '0', Text.hexDigit (c.toNat / 16), Text.hexDigit (c.toNat % 16)]
    else [c]

def writeString (text : String) : List Char := '"' :: text.toList.flatMap escape ++ ['"']

def fourDigits? (a b c d : Char) : Option Nat := do
  return (((← Text.hexValue? a) * 16 + (← Text.hexValue? b)) * 16 + (← Text.hexValue? c)) * 16 +
    (← Text.hexValue? d)

/-- The four digits of a `\u` escape. Four octets are taken before they are looked at. -/
def readUnit (text : List Char) : Except Fault (Front Nat) :=
  let fault :=
    if octetSize text < 4 then ⟨.endInString, 0⟩ else ⟨.invalidEscape, octetSize text - 4⟩
  match text with
  | a :: b :: c :: d :: rest =>
    match fourDigits? a b c d with
    | some unit => .ok (unit, rest)
    | none => .error fault
  | _ => .error fault

def isHighSurrogate (unit : Nat) : Bool := 0xD800 ≤ unit && unit ≤ 0xDBFF

def isLowSurrogate (unit : Nat) : Bool := 0xDC00 ≤ unit && unit ≤ 0xDFFF

/-- The second half of a surrogate pair, from its backslash on. -/
def readLowSurrogate (high : Nat) (text : List Char) : Except Fault (Front Char) :=
  match text with
  | [] | ['\\'] => .error ⟨.endInString, 0⟩
  | '\\' :: 'u' :: rest => do
    let (low, rest) ← readUnit rest
    if isLowSurrogate low then
      return (Char.ofNat (0x10000 + (high - 0xD800) * 0x400 + (low - 0xDC00)), rest)
    else .error (.before .loneSurrogate rest)
  | '\\' :: rest => .error (.within .brokenSurrogatePair rest)
  | rest => .error (.within .brokenSurrogatePair rest)

def shortEscape? (c : Char) : Option Char :=
  match c with
  | '"' => some '"'
  | '\\' => some '\\'
  | '/' => some '/'
  | 'b' => some '\x08'
  | 'f' => some '\x0c'
  | 'n' => some '\n'
  | 'r' => some '\r'
  | 't' => some '\t'
  | _ => none

/-- An escape behind its backslash. -/
def readEscape (text : List Char) : Except Fault (Front Char) :=
  match text with
  | [] => .error ⟨.endInString, 0⟩
  | 'u' :: rest => do
    let (unit, rest) ← readUnit rest
    if isLowSurrogate unit then .error (.before .loneSurrogate rest)
    else if isHighSurrogate unit then readLowSurrogate unit rest
    else return (Char.ofNat unit, rest)
  | c :: rest => match shortEscape? c with
    | some character => .ok (character, rest)
    | none => .error (.within .invalidEscape (c :: rest))

/-- The characters of a string behind its opening quote. -/
def readCharacters : Nat → List Char → Except Fault (Front (List Char))
  | _, [] | 0, _ => .error ⟨.endInString, 0⟩
  | fuel + 1, c :: rest =>
    if c = '"' then .ok ([], rest)
    else if c = '\\' then do
      let (character, rest) ← readEscape rest
      let (characters, rest) ← readCharacters fuel rest
      return (character :: characters, rest)
    else if c < ' ' then .error (.before .controlCharacter rest)
    else do
      let (characters, rest) ← readCharacters fuel rest
      return (c :: characters, rest)

/-- A string behind its opening quote. -/
def readString (text : List Char) : Except Fault (Front String) := do
  let (characters, rest) ← readCharacters text.length text
  return (String.ofList characters, rest)

/-- An escape whose value does not matter: any four digits will do. -/
def skipEscape (text : List Char) : Except Fault (List Char) :=
  match text with
  | [] => .error ⟨.endInString, 0⟩
  | 'u' :: rest => (readUnit rest).map Prod.snd
  | c :: rest => match shortEscape? c with
    | some _ => .ok rest
    | none => .error (.within .invalidEscape (c :: rest))

/-- Passes over a string behind its opening quote. -/
def skipString : Nat → List Char → Except Fault (List Char)
  | _, [] | 0, _ => .error ⟨.endInString, 0⟩
  | fuel + 1, c :: rest =>
    if c = '"' then .ok rest
    else if c = '\\' then do skipString fuel (← skipEscape rest)
    else if c < ' ' then .error (.before .controlCharacter (c :: rest))
    else skipString fuel rest

end WorkflowLaunch.Json
