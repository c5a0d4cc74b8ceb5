import WorkflowLaunch.Text.Octets

set_option autoImplicit false

/-!
Text with styles for a terminal, and text without what would steer one. Control sequences are left
out as a whole; of the other control characters only tabs, line ends and form feeds stay. Where a
style is set, a control sequence that was begun before is given up.
-/

namespace WorkflowLaunch.Text

/-- A control sequence that was begun, by what may follow. -/
inductive Sequence where
  | escape
  | shift
  | command
  | deviceStart
  | deviceParameter
  | deviceShift
  | string
  | title
  deriving DecidableEq, Repr

namespace Sequence

/-- The sequence behind one more character; `none` if that character ends it. A string ends with a
character one of whose octets is `9C`. -/
def next? (c : Char) : Sequence → Option Sequence
  | escape =>
    if c = '[' then some command
    else if c = ']' then some title
    else if c = 'P' then some deviceStart
    else if c = 'X' || c = '^' || c = '_' then some string
    else if ' ' ≤ c && c ≤ '/' then some shift
    else if '0' ≤ c && c ≤ '~' then none
    else some escape
  | shift => if '0' ≤ c && c ≤ '~' then none else some shift
  | command => if '@' ≤ c && c ≤ '~' then none else some command
  | deviceStart =>
    if ' ' ≤ c && c ≤ '/' then some deviceShift
    else if '0' ≤ c && c ≤ '?' then some deviceParameter
    else if '@' ≤ c && c ≤ '~' then some string
    else some deviceStart
  | deviceParameter =>
    if ' ' ≤ c && c ≤ '/' then some deviceShift
    else if '<' ≤ c && c ≤ '~' then some string
    else some deviceParameter
  | deviceShift => if '0' ≤ c && c ≤ '~' then some string else some deviceShift
  | string => if 0x9C ∈ Octets.ofString (String.singleton c) then none else some string
  | title => if c = '\x07' then none else some title

/-- Whether a blank control character ends the sequence and is shown. -/
def endsAtBlank : Sequence → Bool
  | escape | shift | command => true
  | _ => false

end Sequence

def isBlankControl (c : Char) : Bool := c = '\t' || c = '\n' || c = '\x0c' || c = '\r'

/-- `sequence` is the control sequence in front of the text, if one was begun. -/
def dropControls : (sequence : Option Sequence) → List Char → List Char
  | _, [] => []
  | sequence, c :: rest =>
    if c = '\x1b' then dropControls (some .escape) rest
    else if c = '\x18' || c = '\x1a' then dropControls none rest
    else match sequence with
      | none =>
        if isBlankControl c || (' ' ≤ c && c ≠ '\x7f') then c :: dropControls none rest
        else dropControls none rest
      | some sequence =>
        if isBlankControl c && sequence.endsAtBlank then c :: dropControls none rest
        else dropControls (sequence.next? c) rest

def withoutControls (text : String) : String := String.ofList (dropControls none text.toList)

/-- A text in a style, behind which the plain style is set again. -/
def styled (style text : String) : String := "\x1b[" ++ style ++ "m" ++ text ++ "\x1b[0m"

end WorkflowLaunch.Text
