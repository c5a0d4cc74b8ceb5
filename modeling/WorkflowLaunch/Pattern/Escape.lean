import WorkflowLaunch.Pattern.Basic
import WorkflowLaunch.Text.Blank
import WorkflowLaunch.Text.Hexadecimal

set_option autoImplicit false

/-!
The smallest parts of written patterns: single characters, and what a backslash makes of the
characters behind it. In verbose patterns blanks mean nothing and `#` begins a comment.

Patterns are written between braces, so that a closing brace never stands in one: the forms that
need one are malformed.
-/

namespace WorkflowLaunch.Pattern

/-- How a part of a pattern is to be read. Without `unicode` sets hold characters below 128 only. -/
structure Flags where
  ignoreCase : Bool
  multiLine : Bool
  dotMatchesAll : Bool
  swapGreed : Bool
  unicode : Bool
  carriage : Bool
  verbose : Bool
  deriving DecidableEq, Repr

def Flags.standard : Flags := ⟨false, false, false, false, true, false, false⟩

/-- Turns a flag on or off by its letter. -/
def Flags.set? (flags : Flags) (on : Bool) (letter : Char) : Option Flags :=
  match letter with
  | 'i' => some { flags with ignoreCase := on }
  | 'm' => some { flags with multiLine := on }
  | 's' => some { flags with dotMatchesAll := on }
  | 'U' => some { flags with swapGreed := on }
  | 'u' => some { flags with unicode := on }
  | 'R' => some { flags with carriage := on }
  | 'x' => some { flags with verbose := on }
  | _ => none

inductive Token where
  /-- A character; `octet` if it was written by two hexadecimal digits. -/
  | literal (c : Char) (octet : Bool)
  | named (characters : CharClass) (negated : Bool)
  | dot
  | lineStart
  | lineEnd
  | textStart
  | textEnd
  | word (edge : WordEdge)
  deriving DecidableEq, Repr

/-- Passes over blanks and comments. -/
def skipComments : (inComment : Bool) → List Char → List Char
  | _, [] => []
  | true, c :: rest => skipComments (c != '\n') rest
  | false, c :: rest =>
    if Text.isBlank c then skipComments false rest
    else if c = '#' then skipComments true rest
    else c :: rest

def skipSpace (verbose : Bool) (text : List Char) : List Char :=
  if verbose then skipComments false text else text

/-- A character by its number, which has some more hexadecimal digits. -/
def readNumber? (verbose : Bool) : (digits number : Nat) → List Char → Option (Char × List Char)
  | 0, number, text =>
    if number.isValidChar then some (Char.ofNat number, text) else none
  | digits + 1, number, text => match skipSpace verbose text with
    | [] => none
    | c :: rest => do readNumber? verbose digits (number * 16 + (← Text.hexValue? c)) rest

/-- What stands behind a backslash. Every sign below 128 that is no letter and no digit stands for
itself, the angle brackets aside. -/
def readEscape? (verbose : Bool) : List Char → Option (Token × List Char)
  | [] => none
  | c :: rest =>
    let literal (c : Char) : Option (Token × List Char) := some (.literal c false, rest)
    match c with
    | 'x' => (readNumber? verbose 2 0 rest).map fun (c, rest) => (.literal c true, rest)
    | 'u' => (readNumber? verbose 4 0 rest).map fun (c, rest) => (.literal c false, rest)
    | 'U' => (readNumber? verbose 8 0 rest).map fun (c, rest) => (.literal c false, rest)
    | 'd' => some (.named .digit false, rest)
    | 'D' => some (.named .digit true, rest)
    | 's' => some (.named .space false, rest)
    | 'S' => some (.named .space true, rest)
    | 'w' => some (.named .word false, rest)
    | 'W' => some (.named .word true, rest)
    | 'a' => literal '\x07'
    | 'f' => literal '\x0c'
    | 't' => literal '\t'
    | 'n' => literal '\n'
    | 'r' => literal '\r'
    | 'v' => literal '\x0b'
    | 'A' => some (.textStart, rest)
    | 'z' => some (.textEnd, rest)
    | 'b' => some (.word .either, rest)
    | 'B' => some (.word .neither, rest)
    | '<' => some (.word .start, rest)
    | '>' => some (.word .finish, rest)
    | c => if c.toNat < 128 && !c.isAlphanum then literal c else none

end WorkflowLaunch.Pattern
