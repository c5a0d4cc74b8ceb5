import WorkflowLaunch.Json.Skip
import WorkflowLaunch.Proofs.Json.Literals

set_option autoImplicit false

/-!
The format of JSON texts, said without a reader. A text in this format may have blanks at every
place where the format allows them, any escapes, numbers of any size, and values inside one another
to any depth.
-/

namespace WorkflowLaunch.Json

/-- What a string may consist of. A code unit that is escaped need not be a character. -/
inductive Piece : List Char → Prop where
  | plain {c : Char} : c ≠ '"' → c ≠ '\\' → ¬c < ' ' → Piece [c]
  | short {letter c : Char} : (letter, c) ∈ shortEscapes → Piece ['\\', letter]
  | unit {digits : List Char} {code : Nat} : CodeUnit digits code → Piece ('\\' :: 'u' :: digits)

/-- What stands between the quotes of a string. -/
inductive Content : List Char → Prop where
  | nil : Content []
  | cons {piece rest : List Char} : Piece piece → Content rest → Content (piece ++ rest)

/-- One or more digits. -/
structure DigitRun (text : List Char) : Prop where
  nonempty : text ≠ []
  digits : ∀ c ∈ text, isDigit c = true

/-- The digits in front of the point: zero, or no zero first. -/
inductive Whole : List Char → Prop where
  | zero : Whole ['0']
  | nonzero {first : Char} {rest : List Char} : isDigit first = true → first ≠ '0' →
      (∀ c ∈ rest, isDigit c = true) → Whole (first :: rest)

inductive Fraction : List Char → Prop where
  | none : Fraction []
  | some {digits : List Char} : DigitRun digits → Fraction ('.' :: digits)

inductive Exponent : List Char → Prop where
  | none : Exponent []
  | some {mark : Char} {sign digits : List Char} : mark ∈ ['e', 'E'] →
      sign ∈ [[], ['+'], ['-']] → DigitRun digits → Exponent (mark :: (sign ++ digits))

inductive Numeral : List Char → Prop where
  | number {sign whole fraction exponent : List Char} : sign ∈ [[], ['-']] → Whole whole →
      Fraction fraction → Exponent exponent →
      Numeral (sign ++ (whole ++ (fraction ++ exponent)))

def Frame.opening : Frame → Char
  | list => '['
  | object => '{'

/-- What stands in front of a value: its key with the colon in an object, nothing in a list. -/
inductive Keyed : Frame → List Char → Prop where
  | item : Keyed .list []
  | member {front key behind : List Char} : Blank front → Content key → Blank behind →
      Keyed .object (front ++ '"' :: (key ++ '"' :: (behind ++ [':'])))

mutual

/-- A value without blanks around it. -/
inductive Bare : List Char → Prop where
  | word {word : List Char} : word ∈ ["null".toList, "true".toList, "false".toList] → Bare word
  | string {content : List Char} : Content content → Bare ('"' :: (content ++ ['"']))
  | number {text : List Char} : Numeral text → Bare text
  | empty {frame : Frame} {gap : List Char} : Blank gap →
      Bare (frame.opening :: (gap ++ [frame.closing]))
  | filled {frame : Frame} {parts : List Char} : Parts frame parts →
      Bare (frame.opening :: (parts ++ [frame.closing]))

/-- The items of a list or the members of an object, with commas between them. -/
inductive Parts : Frame → List Char → Prop where
  | last {frame : Frame} {key front value behind : List Char} : Keyed frame key → Blank front →
      Bare value → Blank behind → Parts frame (key ++ (front ++ (value ++ behind)))
  | more {frame : Frame} {key front value behind rest : List Char} : Keyed frame key →
      Blank front → Bare value → Blank behind → Parts frame rest →
      Parts frame (key ++ (front ++ (value ++ (behind ++ ',' :: rest))))

end

/-- A value with blanks around it. -/
inductive WellFormed : List Char → Prop where
  | value {front text behind : List Char} : Blank front → Bare text → Blank behind →
      WellFormed (front ++ (text ++ behind))

end WorkflowLaunch.Json
