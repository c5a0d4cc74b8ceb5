set_option autoImplicit false

/-!
Non-negative numbers of the binary format with 53 significant bits, and rounding to them: to the
nearest one, a tie to the even neighbour.
-/

namespace WorkflowLaunch.Decimal

/-- `finite m q` stands for `m * 2 ^ q`. Of a non-zero number, `m` is below `2 ^ 53`, and at least
`2 ^ 52` unless `q` is the least exponent. -/
inductive Binary64 where
  | finite (significand : Nat) (exponent : Int)
  | infinite
  deriving DecidableEq, Repr

namespace Binary64

def leastExponent : Int := -1074

def zero : Binary64 := finite 0 leastExponent

/-- A quotient rounded to the nearest natural number, a tie to the even one. -/
def roundDiv (numerator denominator : Nat) : Nat :=
  let quotient := numerator / denominator
  let twice := 2 * (numerator % denominator)
  if twice < denominator || (twice = denominator && quotient % 2 = 0) then quotient
  else quotient + 1

/-- The exponent of the highest power of two that is at most the quotient. -/
def quotientLog (numerator denominator : Nat) : Int :=
  let guess : Int := (numerator.log2 : Int) - denominator.log2
  if numerator <<< (-guess).toNat < denominator <<< guess.toNat then guess - 1 else guess

/-- The number nearest to a quotient. -/
def round (numerator denominator : Nat) : Binary64 :=
  if numerator = 0 then zero
  else
    let exponent := max (quotientLog numerator denominator - 52) leastExponent
    let significand :=
      roundDiv (numerator <<< (-exponent).toNat) (denominator <<< exponent.toNat)
    let (significand, exponent) :=
      if significand = 1 <<< 53 then (1 <<< 52, exponent + 1) else (significand, exponent)
    if 971 < exponent then infinite else finite significand exponent

def ofNat (n : Nat) : Binary64 := round n 1

/-- The number as a quotient. -/
def fraction (significand : Nat) (exponent : Int) : Nat × Nat :=
  (significand <<< exponent.toNat, 1 <<< (-exponent).toNat)

def mul : Binary64 → Binary64 → Binary64
  | finite m q, finite n r =>
    let (a, b) := fraction m q
    let (c, d) := fraction n r
    round (a * c) (b * d)
  | _, _ => infinite

def div : Binary64 → Binary64 → Binary64
  | finite m q, finite n r =>
    let (a, b) := fraction m q
    let (c, d) := fraction n r
    round (a * d) (b * c)
  | infinite, _ => infinite
  | _, infinite => zero

end Binary64

end WorkflowLaunch.Decimal
