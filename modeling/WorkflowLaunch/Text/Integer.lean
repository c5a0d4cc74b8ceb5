set_option autoImplicit false

/-!
Decimal integers as the command line and log filters write them: an optional sign, then digits.
-/

namespace WorkflowLaunch.Text

inductive IntegerFault where
  | empty
  | invalidDigit
  | tooLarge
  | tooSmall
  deriving DecidableEq, Repr

def IntegerFault.message : IntegerFault → String
  | .empty => "cannot parse integer from empty string"
  | .invalidDigit => "invalid digit found in string"
  | .tooLarge => "number too large to fit in target type"
  | .tooSmall => "number too small to fit in target type"

def digit? (c : Char) : Option Nat := if c.isDigit then some (c.toNat - 48) else none

/-- Reads digits from the left and stops at the first fault: a character that is no digit, or a
digit with which the value leaves the range. -/
def magnitude (limit : Nat) (overflow : IntegerFault) (value : Nat) :
    List Char → Except IntegerFault Nat
  | [] => .ok value
  | c :: rest => match digit? c with
    | none => .error .invalidDigit
    | some digit =>
      if limit < value * 10 + digit then .error overflow
      else magnitude limit overflow (value * 10 + digit) rest

/-- The number of values below zero of a signed integer of 64 bits, or of values from zero up. -/
def half64 : Nat := 1 <<< 63

/-- An integer of 64 bits, with either sign. -/
def signed64 (text : List Char) : Except IntegerFault Int :=
  match text with
  | [] => .error .empty
  | ['+'] | ['-'] => .error .invalidDigit
  | '-' :: digits => (magnitude half64 .tooSmall 0 digits).map fun n => -(n : Int)
  | '+' :: digits => (magnitude (half64 - 1) .tooLarge 0 digits).map Int.ofNat
  | digits => (magnitude (half64 - 1) .tooLarge 0 digits).map Int.ofNat

/-- A natural number of 64 bits, with an optional plus sign. -/
def unsigned64 (text : List Char) : Except IntegerFault Nat :=
  match text with
  | [] => .error .empty
  | ['+'] | ['-'] => .error .invalidDigit
  | '+' :: digits => magnitude (2 * half64 - 1) .tooLarge 0 digits
  | digits => magnitude (2 * half64 - 1) .tooLarge 0 digits

end WorkflowLaunch.Text
