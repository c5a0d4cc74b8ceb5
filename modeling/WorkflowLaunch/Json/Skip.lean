import WorkflowLaunch.Json.Literal
import WorkflowLaunch.Json.Number

set_option autoImplicit false

/-!
Passing over a value whose content does not matter. The lists and objects that are open form a
stack, so that values may be nested to any depth.
-/

namespace WorkflowLaunch.Json

/-- The letters of `null`, `true` or `false` behind the first one. -/
def readWord : List Char → List Char → Except Fault (List Char)
  | [], rest => .ok rest
  | _ :: _, [] => .error ⟨.endInValue, 0⟩
  | letter :: letters, c :: rest =>
    if c = letter then readWord letters rest else .error (.within .expectedWord (c :: rest))

inductive Frame where
  | list
  | object
  deriving DecidableEq, Repr

namespace Frame

def closing : Frame → Char
  | list => ']'
  | object => '}'

def unfinished : Frame → Cause
  | list => .endInList
  | object => .endInObject

def expectedSeparator : Frame → Cause
  | list => .expectedListSeparator
  | object => .expectedObjectSeparator

end Frame

/-- What comes next: a value, or in the innermost frame a first item, or a separator. -/
inductive Expecting where
  | value
  | firstItem
  | separator
  deriving DecidableEq, Repr

/-- A key of an object and its colon, passed over; nothing in a list. -/
def skipKey : Frame → List Char → Except Fault (List Char)
  | .list, text => .ok text
  | .object, text => match skipBlanks text with
    | '"' :: rest => do
      match skipBlanks (← skipString rest.length rest) with
      | ':' :: rest => .ok rest
      | [] => .error (.within .endInObject [])
      | rest => .error (.within .expectedColon rest)
    | [] => .error (.within .endInObject [])
    | rest => .error (.within .keyNotString rest)

/-- A value without parts, passed over, or the frame that a list or an object opens. -/
def skipScalar (text : List Char) : Except Fault (Option Frame × List Char) :=
  let scalar (rest : Except Fault (List Char)) := rest.map fun rest => (none, rest)
  match text with
  | [] => .error (.within .endInValue [])
  | '[' :: rest => .ok (some .list, rest)
  | '{' :: rest => .ok (some .object, rest)
  | '"' :: rest => scalar (skipString rest.length rest)
  | 'n' :: rest => scalar (readWord ['u', 'l', 'l'] rest)
  | 't' :: rest => scalar (readWord ['r', 'u', 'e'] rest)
  | 'f' :: rest => scalar (readWord ['a', 'l', 's', 'e'] rest)
  | '-' :: rest => scalar (skipNumber rest)
  | c :: rest =>
    if isDigit c then scalar (skipNumber (c :: rest))
    else .error (.within .expectedValue (c :: rest))

def skipFrom : Nat → Expecting → List Frame → List Char → Except Fault (List Char)
  | 0, _, _, text => .error (.within .endInValue text)
  | fuel + 1, .value, frames, text => do
    match ← skipScalar (skipBlanks text) with
    | (some frame, rest) => skipFrom fuel .firstItem (frame :: frames) rest
    | (none, rest) => skipFrom fuel .separator frames rest
  | _ + 1, _, [], text => .ok text
  | fuel + 1, .firstItem, frame :: frames, text => do
    match skipBlanks text with
    | [] => .error (.within frame.unfinished [])
    | c :: rest =>
      if c = frame.closing then skipFrom fuel .separator frames rest
      else skipFrom fuel .value (frame :: frames) (← skipKey frame (c :: rest))
  | fuel + 1, .separator, frame :: frames, text => do
    match skipBlanks text with
    | [] => .error (.within frame.unfinished [])
    | c :: rest =>
      if c = ',' then skipFrom fuel .value (frame :: frames) (← skipKey frame rest)
      else if c = frame.closing then skipFrom fuel .separator frames rest
      else .error (.within frame.expectedSeparator (c :: rest))

/-- Passes over a value and the blanks before it. Each octet is the reason for at most two steps. -/
def skipValue (text : List Char) : Except Fault (List Char) :=
  skipFrom (2 * text.length + 2) .value [] text

end WorkflowLaunch.Json
