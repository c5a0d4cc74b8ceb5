import WorkflowLaunch.Decimal.Shortest

set_option autoImplicit false

/-!
Numbers as text: reading decimal notation with an optional sign, point and exponent, and writing a
number with its shortest digits and no exponent.
-/

namespace WorkflowLaunch.Decimal

/-- A number with its sign, or no number at all. -/
inductive Real where
  | signed (negative : Bool) (magnitude : Binary64)
  | nan
  deriving DecidableEq, Repr

def isDigit (c : Char) : Bool := '0' ≤ c && c ≤ '9'

def value (digits : List Char) : Nat :=
  digits.foldl (fun value c => value * 10 + (c.toNat - 48)) 0

/-- `digits * 10 ^ exponent` rounded. The number is less than `10 ^ top` and at least a tenth of
that, so powers far outside the range of numbers are not computed. -/
def ofDigits (digits : List Char) (exponent : Int) : Binary64 :=
  let top := exponent + (digits.dropWhile (· = '0')).length
  if value digits = 0 then .zero
  else if 400 < top then .infinite
  else if top < -400 then .zero
  else .round (value digits * powerOfTen exponent.toNat) (powerOfTen (-exponent).toNat)

/-- A sign and what follows it. -/
def splitSign : List Char → Bool × List Char
  | '+' :: rest => (false, rest)
  | '-' :: rest => (true, rest)
  | rest => (false, rest)

/-- What stands behind the mark of an exponent, all of the text. -/
def readExponent? (text : List Char) : Option Int :=
  let (negative, digits) := splitSign text
  if digits.isEmpty || !digits.all isDigit then none
  else some (if negative then -(value digits : Int) else value digits)

def lower (text : List Char) : List Char := text.map Char.toLower

def Real.ofText? (text : List Char) : Option Real :=
  let (negative, text) := splitSign text
  if lower text = "nan".toList then some .nan
  else if lower text = "inf".toList || lower text = "infinity".toList then
    some (.signed negative .infinite)
  else
    let whole := text.takeWhile isDigit
    let rest := text.drop whole.length
    let (fraction, rest) := match rest with
      | '.' :: rest => (rest.takeWhile isDigit, rest.dropWhile isDigit)
      | rest => ([], rest)
    if whole.isEmpty && fraction.isEmpty then none
    else
      let number (exponent : Int) : Real :=
        .signed negative (ofDigits (whole ++ fraction) (exponent - fraction.length))
      match rest with
      | [] => some (number 0)
      | mark :: rest => if mark.toLower = 'e' then (readExponent? rest).map number else none

def Real.text : Real → String
  | .nan => "NaN"
  | .signed negative magnitude =>
    (if negative then "-" else "") ++ match magnitude with
      | .infinite => "inf"
      | .finite 0 _ => "0"
      | .finite significand exponent =>
        let ⟨digits, exponent⟩ := shortest .up significand exponent
        let point := exponent + digits.length
        String.ofList <|
          if 0 ≤ exponent then digits ++ List.replicate exponent.toNat '0'
          else if 0 < point then digits.take point.toNat ++ '.' :: digits.drop point.toNat
          else ['0', '.'] ++ List.replicate (-point).toNat '0' ++ digits

end WorkflowLaunch.Decimal
