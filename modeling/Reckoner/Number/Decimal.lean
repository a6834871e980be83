import Reckoner.Number.Steps

namespace Reckoner.Number

/-- The number `coefficient * 10 ^ exponent`. -/
structure Decimal where
  coefficient : Nat
  exponent : Int
deriving DecidableEq, Repr

namespace Decimal

def ofDigits (whole fraction : List Char) : Decimal :=
  ⟨Nat.ofDigitChars 10 (whole ++ fraction) 0, -(fraction.length : Int)⟩

def ofText (cs : List Char) : Decimal :=
  ofDigits (cs.takeWhile Char.isDigit) ((cs.dropWhile Char.isDigit).drop 1)

def magnitude (d : Decimal) : Nat :=
  if 0 ≤ d.exponent then nearest (d.coefficient * Nat.pow 10 d.exponent.toNat * stepsPerUnit) 1
  else nearest (d.coefficient * stepsPerUnit) (Nat.pow 10 (-d.exponent).toNat)

def toFloat (d : Decimal) : Float := ofMagnitude false d.magnitude

def digits (d : Decimal) : List Char := Nat.toDigits 10 d.coefficient

def leadingPlace (d : Decimal) : Int := d.exponent + d.digits.length - 1

/-- The same number with the zeros at the end of the coefficient moved into the exponent. -/
def strip (d : Decimal) : Decimal :=
  let zeros := (d.digits.reverse.takeWhile (· == '0')).length
  ⟨d.coefficient / Nat.pow 10 zeros, d.exponent + zeros⟩

end Decimal

end Reckoner.Number
