import WorkflowLaunch.Decimal.Binary64

set_option autoImplicit false

/-!
The fewest decimal digits that read back as a given number, and of those the ones nearest to it.
On a grid of decimal numbers the candidates are the two neighbours of the number; the first grid
with a candidate that rounds to the number wins. Where both neighbours round to it and are equally
near, the format that is written decides.
-/

namespace WorkflowLaunch.Decimal

def powerOfTen (n : Nat) : Nat := Nat.pow 10 n

/-- Which of two neighbours stands for a number halfway between them: the greater one, or the even
one. -/
inductive Tie where
  | up
  | toEven
  deriving DecidableEq, Repr

/-- Whether the lower neighbour stands for a number halfway behind it. -/
def Tie.keeps (tie : Tie) (below : Nat) : Bool :=
  match tie with
  | up => false
  | toEven => below % 2 = 0

/-- `digits` are the digits of a natural number `d`, and the number is `d * 10 ^ exponent`. -/
structure Digits where
  digits : List Char
  exponent : Int
  deriving DecidableEq, Repr

/-- The position of the leading decimal digit of a non-zero quotient, `0` being the units. -/
def leadingPosition (numerator denominator : Nat) : Int :=
  let guess : Int := ((Nat.toDigits 10 numerator).length : Int) -
    (Nat.toDigits 10 denominator).length
  if numerator * powerOfTen (-guess).toNat < denominator * powerOfTen guess.toNat then guess - 1
  else guess

/-- Whether a decimal number rounds to the given binary one. -/
def readsBack (value : Binary64) (decimal : Nat) (exponent : Int) : Bool :=
  Binary64.round (decimal * powerOfTen exponent.toNat) (powerOfTen (-exponent).toNat) = value

/-- The best candidate on the grid of multiples of `10 ^ exponent`. -/
def onGrid? (tie : Tie) (value : Binary64) (numerator denominator : Nat) (exponent : Int) :
    Option Nat :=
  let top := numerator * powerOfTen (-exponent).toNat
  let bottom := denominator * powerOfTen exponent.toNat
  let below := top / bottom
  let twice := 2 * (top % bottom)
  let nearest :=
    if twice < bottom || (twice = bottom && tie.keeps below) then [below, below + 1]
    else [below + 1, below]
  nearest.find? fun decimal => readsBack value decimal exponent

/-- Tries grids with one more digit each. Seventeen digits always suffice. -/
def shortestFrom (tie : Tie) (value : Binary64) (numerator denominator : Nat) :
    Nat → Int → Nat × Int
  | 0, exponent => (0, exponent)
  | grids + 1, exponent => match onGrid? tie value numerator denominator exponent with
    | some decimal => (decimal, exponent)
    | none => shortestFrom tie value numerator denominator grids (exponent - 1)

/-- Drops the zeros at the end of the digits. -/
def Digits.normalize (digits : List Char) (exponent : Int) : Digits :=
  let zeros := (digits.reverse.takeWhile (· == '0')).length
  ⟨digits.take (digits.length - zeros), exponent + zeros⟩

/-- The shortest digits of a finite non-zero number. -/
def shortest (tie : Tie) (significand : Nat) (exponent : Int) : Digits :=
  let (numerator, denominator) := Binary64.fraction significand exponent
  let (decimal, exponent) :=
    shortestFrom tie (.finite significand exponent) numerator denominator 17
      (leadingPosition numerator denominator)
  Digits.normalize (Nat.toDigits 10 decimal) exponent

end WorkflowLaunch.Decimal
