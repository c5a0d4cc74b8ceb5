import WorkflowLaunch.Decimal.Shortest
import WorkflowLaunch.Json.Fault

set_option autoImplicit false

/-!
Numbers. A number without fraction and exponent that fits 64 bits is an integer; every other one is
a floating point number, computed from its leading digits and a power of ten.
-/

namespace WorkflowLaunch.Json

open Decimal (Binary64 Digits powerOfTen)

inductive Number where
  | integer (value : Int)
  | float (negative : Bool) (value : Binary64)
  deriving DecidableEq, Repr

def isDigit (c : Char) : Bool := '0' ≤ c && c ≤ '9'

def splitDigits (text : List Char) : List Char × List Char :=
  (text.takeWhile isDigit, text.dropWhile isDigit)

/-- Appends digits to a significand while the result has 64 bits. Also gives the number of digits
that were appended. -/
def appendDigits (significand : Nat) : List Char → Nat × Nat
  | [] => (significand, 0)
  | c :: rest =>
    let next := significand * 10 + (c.toNat - 48)
    if next < 1 <<< 64 then
      let (significand, appended) := appendDigits next rest
      (significand, appended + 1)
    else (significand, 0)

/-- `value * 10 ^ exponent`, rounded at each step; steps below the range of powers of ten divide by
`10 ^ 308` until the value is zero or the rest is in range. `none` if it is too large. -/
def scale? (value : Binary64) (exponent : Int) : Nat → Option Binary64
  | 0 => some .zero
  | steps + 1 =>
    if exponent.natAbs ≤ 308 then
      let power := Binary64.ofNat (powerOfTen exponent.natAbs)
      if 0 ≤ exponent then
        match value.mul power with
        | .infinite => none
        | product => some product
      else some (value.div power)
    else if value = .zero then some .zero
    else if 0 ≤ exponent then none
    else scale? (value.div (Binary64.ofNat (powerOfTen 308))) (exponent + 308) steps

/-- Four steps take every 64-bit number to zero. -/
def ofParts (negative : Bool) (significand : Nat) (exponent : Int) (rest : List Char) :
    Except Fault (Front Number) :=
  match scale? (Binary64.ofNat significand) exponent 4 with
  | some value => .ok (.float negative value, rest)
  | none => .error (.before .numberOutOfRange rest)

/-- The digits of an exponent up to the one with which it leaves 32 bits, if it does. -/
def exponentValue (value : Nat) : List Char → Except (List Char) Nat
  | [] => .ok value
  | c :: rest =>
    let next := value * 10 + (c.toNat - 48)
    if next < 1 <<< 31 then exponentValue next rest else .error rest

/-- An exponent behind its letter; `shift` is the exponent of the significand's last digit. -/
def readExponent (negative : Bool) (significand : Nat) (shift : Int) (text : List Char) :
    Except Fault (Front Number) :=
  let (downward, text) := match text with
    | '+' :: rest => (false, rest)
    | '-' :: rest => (true, rest)
    | rest => (false, rest)
  match splitDigits text with
  | ([], []) => .error ⟨.endInValue, 0⟩
  | ([], rest) => .error (.within .invalidNumber rest)
  | (digits, rest) => match exponentValue 0 digits with
    | .ok exponent =>
      ofParts negative significand (if downward then shift - exponent else shift + exponent) rest
    | .error unread =>
      if significand ≠ 0 && !downward then
        .error (.before .numberOutOfRange (unread ++ rest))
      else .ok (.float negative .zero, rest)

def isExponentMark (c : Char) : Bool := c == 'e' || c == 'E'

/-- A fraction behind its point. -/
def readFraction (negative : Bool) (significand : Nat) (shift : Int) (text : List Char) :
    Except Fault (Front Number) :=
  match splitDigits text with
  | ([], []) => .error ⟨.endInValue, 0⟩
  | ([], rest) => .error (.within .invalidNumber rest)
  | (digits, rest) =>
    let (significand, appended) := appendDigits significand digits
    let shift := shift - appended
    match rest with
    | c :: behind =>
      if isExponentMark c then readExponent negative significand shift behind
      else ofParts negative significand shift rest
    | [] => ofParts negative significand shift rest

/-- A number behind its sign. -/
def readNumber (negative : Bool) (text : List Char) : Except Fault (Front Number) :=
  match splitDigits text with
  | ([], []) => .error ⟨.endInValue, 0⟩
  | ([], rest) => .error (.within .invalidNumber rest)
  | ('0' :: second :: digits, rest) => .error (.within .invalidNumber (second :: digits ++ rest))
  | (digits, rest) =>
    let (significand, appended) := appendDigits 0 digits
    let shift : Int := digits.length - appended
    let plain : Except Fault (Front Number) :=
      if shift ≠ 0 then ofParts negative significand shift rest
      else if !negative then .ok (.integer significand, rest)
      else if 0 < significand && significand ≤ 1 <<< 63 then .ok (.integer (-significand), rest)
      else ofParts true significand 0 rest
    match rest with
    | '.' :: behind => readFraction negative significand shift behind
    | c :: behind =>
      if isExponentMark c then readExponent negative significand shift behind else plain
    | [] => plain

/-- The digits of an exponent behind its letter, passed over. -/
def skipExponent (text : List Char) : Except Fault (List Char) :=
  let text := match text with
    | '+' :: rest => rest
    | '-' :: rest => rest
    | rest => rest
  match splitDigits text with
  | ([], rest) => .error (.within .invalidNumber rest)
  | (_, rest) => .ok rest

/-- What may follow the whole digits of a number, passed over. -/
def skipFraction (text : List Char) : Except Fault (List Char) :=
  let exponent (rest : List Char) : Except Fault (List Char) := match rest with
    | c :: behind => if isExponentMark c then skipExponent behind else .ok rest
    | [] => .ok []
  match text with
  | '.' :: rest => match splitDigits rest with
    | ([], rest) => .error (.within .invalidNumber rest)
    | (_, rest) => exponent rest
  | rest => exponent rest

/-- Passes over a number behind its sign. Its size does not matter. -/
def skipNumber (text : List Char) : Except Fault (List Char) :=
  match splitDigits text with
  | ([], rest) => .error (.within .invalidNumber rest)
  | ('0' :: second :: digits, rest) => .error (.within .invalidNumber (second :: digits ++ rest))
  | (_, rest) => skipFraction rest

/-- A floating point number is positional when its leading digit stands between the fifth place
behind the point and the sixteenth before it, and then has a point; otherwise it has an exponent
with a sign. Of two equally near texts the one with the even last digit is written. -/
def floatText (negative : Bool) (value : Binary64) : List Char :=
  let sign := if negative then ['-'] else []
  match value with
  | .infinite => sign ++ "inf".toList
  | .finite 0 _ => sign ++ "0.0".toList
  | .finite significand exponent =>
    let ⟨digits, exponent⟩ := Decimal.shortest .toEven significand exponent
    let leading := exponent + digits.length - 1
    if -5 ≤ leading && leading ≤ 15 then
      if 0 ≤ exponent then
        sign ++ digits ++ List.replicate exponent.toNat '0' ++ ['.', '0']
      else if 0 ≤ leading then
        sign ++ digits.take (leading.toNat + 1) ++ ['.'] ++ digits.drop (leading.toNat + 1)
      else sign ++ ['0', '.'] ++ List.replicate ((-leading).toNat - 1) '0' ++ digits
    else
      let behind := if digits.length = 1 then [] else '.' :: digits.drop 1
      let mark := if leading < 0 then ['e', '-'] else ['e', '+']
      sign ++ digits.take 1 ++ behind ++ mark ++ Nat.toDigits 10 leading.natAbs

end WorkflowLaunch.Json
