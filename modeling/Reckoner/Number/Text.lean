import Reckoner.Number.Shortest

namespace Reckoner.Number

namespace Decimal

/-- The digits with the point where it falls, and at least one digit on each side of it. -/
def positional (d : Decimal) : List Char :=
  if 0 ≤ d.exponent then d.digits ++ List.replicate d.exponent.toNat '0' ++ ['.', '0']
  else
    let places := (-d.exponent).toNat
    let padded := List.replicate (places + 1 - d.digits.length) '0' ++ d.digits
    padded.take (padded.length - places) ++ '.' :: padded.drop (padded.length - places)

def exponentText (e : Int) : List Char :=
  let digits := Nat.toDigits 10 e.natAbs
  (if e < 0 then '-' else '+') :: List.replicate (2 - digits.length) '0' ++ digits

/-- One digit before the point, and no point if no digit follows it. -/
def scientific (d : Decimal) : List Char :=
  let point := if d.digits.length = 1 then [] else ['.']
  d.digits.take 1 ++ point ++ d.digits.drop 1 ++ 'e' :: exponentText d.leadingPlace

/-- The least and the first too great place of a first digit that is written without exponent. -/
def positionalPlaces : Int × Int := (-4, 16)

def text (d : Decimal) : List Char :=
  if positionalPlaces.1 ≤ d.leadingPlace ∧ d.leadingPlace < positionalPlaces.2 then d.positional
  else d.scientific

end Decimal

def signed (negative : Bool) (cs : List Char) : String :=
  String.ofList (if negative then '-' :: cs else cs)

def integer (n : Int) : String := signed (n < 0) (Nat.toDigits 10 n.natAbs)

def nonfinite (x : Float) : String :=
  if magnitude x = infinity then signed (isNegative x) ['i', 'n', 'f'] else "nan"

/-- A text that always shows a point or an exponent. -/
def pointed (x : Float) : String :=
  let b := magnitude x
  if infinity ≤ b then nonfinite x
  else signed (isNegative x) (if b = 0 then ['0', '.', '0'] else (shortest b).text)

/-- A text that writes whole numbers with their digits alone. -/
def plain (x : Float) : String :=
  let b := magnitude x
  if infinity ≤ b then nonfinite x
  else if steps b % stepsPerUnit = 0 then
    signed (isNegative x) (Nat.toDigits 10 (steps b / stepsPerUnit))
  else signed (isNegative x) (shortest b).text

end Reckoner.Number
