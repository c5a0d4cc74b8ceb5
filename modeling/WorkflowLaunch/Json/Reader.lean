import WorkflowLaunch.Json.Skip
import WorkflowLaunch.Text.Quoted

set_option autoImplicit false

/-!
Reading values of an expected kind: strings, lists and objects. A value of another kind is read far
enough to be named in the fault.
-/

namespace WorkflowLaunch.Json

/-- A word, number or string behind which `kind` was found. -/
def wrongKindBehind (expected kind : String) (rest : List Char) : Fault :=
  .before (.wrongKind kind expected) rest

def Number.kind : Number → String
  | .integer value => s!"integer `{value}`"
  | .float negative value => "floating point `" ++ String.ofList (floatText negative value) ++ "`"

/-- The fault of a value that is not of the expected kind, and is not blank before. -/
def wrongKind (expected : String) (text : List Char) : Fault :=
  let behind (read : Except Fault (List Char)) (kind : String) : Fault := match read with
    | .ok rest => wrongKindBehind expected kind rest
    | .error fault => fault
  let number (read : Except Fault (Front Number)) : Fault := match read with
    | .ok (number, rest) => wrongKindBehind expected number.kind rest
    | .error fault => fault
  match text with
  | [] => .within .endInValue []
  | 'n' :: rest => behind (readWord ['u', 'l', 'l'] rest) "null"
  | 't' :: rest => behind (readWord ['r', 'u', 'e'] rest) "boolean `true`"
  | 'f' :: rest => behind (readWord ['a', 'l', 's', 'e'] rest) "boolean `false`"
  | '-' :: rest => number (readNumber true rest)
  | '"' :: rest => match readString rest with
    | .ok (text, rest) => wrongKindBehind expected ("string " ++ Text.quoted text) rest
    | .error fault => fault
  | '[' :: rest => .before (.wrongKind "sequence" expected) ('[' :: rest)
  | '{' :: rest => .before (.wrongKind "map" expected) ('{' :: rest)
  | c :: rest =>
    if isDigit c then number (readNumber false (c :: rest))
    else .within .expectedValue (c :: rest)

/-- A string, with the blanks before it. -/
def readText (expected : String) (text : List Char) : Except Fault (Front String) :=
  match skipBlanks text with
  | '"' :: rest => readString rest
  | rest => .error (wrongKind expected rest)

/-- Elements of a list up to its closing bracket, which is read. `first` holds before the first
element. -/
def readElements {α : Type} (element : List Char → Except Fault (Front α)) :
    Nat → (first : Bool) → List Char → Except Fault (Front (List α))
  | 0, _, text => .error (.within .endInList text)
  | fuel + 1, first, text =>
    let item (rest : List Char) : Except Fault (Front (List α)) := do
      let (head, rest) ← element rest
      let (tail, rest) ← readElements element fuel false rest
      return (head :: tail, rest)
    match skipBlanks text with
    | [] => .error (.within .endInList [])
    | ']' :: rest => .ok ([], rest)
    | c :: rest =>
      if first then item (c :: rest)
      else if c = ',' then
        match skipBlanks rest with
        | [] => .error (.within .endInValue [])
        | ']' :: rest => .error (.within .trailingComma (']' :: rest))
        | rest => item rest
      else .error (.within .expectedListSeparator (c :: rest))

def readList {α : Type} (element : List Char → Except Fault (Front α)) (text : List Char) :
    Except Fault (Front (List α)) :=
  match skipBlanks text with
  | '[' :: rest => readElements element (rest.length + 1) true rest
  | rest => .error (wrongKind "a sequence" rest)

/-- The colon between a key and its value. -/
def readColon (text : List Char) : Except Fault (List Char) :=
  match skipBlanks text with
  | ':' :: rest => .ok rest
  | [] => .error (.within .endInObject [])
  | rest => .error (.within .expectedColon rest)

/-- Members of an object up to its closing brace, which is read. `member` takes the state, the key
and the text from the colon on. -/
def readMembers {σ : Type} (member : σ → String → List Char → Except Fault (Front σ)) :
    Nat → (first : Bool) → σ → List Char → Except Fault (Front σ)
  | 0, _, _, text => .error (.within .endInObject text)
  | fuel + 1, first, state, text =>
    let next (rest : List Char) : Except Fault (Front σ) := do
      let (key, rest) ← readString rest
      let (state, rest) ← member state key rest
      readMembers member fuel false state rest
    match skipBlanks text with
    | [] => .error (.within .endInObject [])
    | '}' :: rest => .ok (state, rest)
    | c :: rest =>
      if first then
        if c = '"' then next rest else .error (.within .keyNotString (c :: rest))
      else if c = ',' then
        match skipBlanks rest with
        | [] => .error (.within .endInValue [])
        | '"' :: rest => next rest
        | '}' :: rest => .error (.within .trailingComma ('}' :: rest))
        | rest => .error (.within .keyNotString rest)
      else .error (.within .expectedObjectSeparator (c :: rest))

/-- An object behind its opening brace. -/
def readObject {σ : Type} (member : σ → String → List Char → Except Fault (Front σ)) (state : σ)
    (text : List Char) : Except Fault (Front σ) :=
  readMembers member (text.length + 1) true state text

end WorkflowLaunch.Json
