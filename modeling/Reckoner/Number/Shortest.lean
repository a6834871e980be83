import Reckoner.Number.Decimal

namespace Reckoner.Number

def leadingPlace (num den : Nat) : Int :=
  if den ≤ num then ((Nat.toDigits 10 (num / den)).length : Int) - 1
  else -((Nat.toDigits 10 ((den - 1) / num)).length : Int)

/-- `steps b` divided by as many steps as make `10 ^ place`. -/
def ratioAt (b : Nat) (place : Int) : Nat × Nat :=
  if 0 ≤ place then (steps b, stepsPerUnit * Nat.pow 10 place.toNat)
  else (steps b * Nat.pow 10 (-place).toNat, stepsPerUnit)

/-- A decimal with its last digit at `place` that reads back as the magnitude `b`: of the two
neighbours the nearer, if both do; and the even one, if both are equally near. -/
def onGrid (b : Nat) (place : Int) : Option Decimal :=
  let (num, den) := ratioAt b place
  let near := roundDiv num den
  let far := if near = num / den then num / den + 1 else num / den
  [Decimal.mk near place, Decimal.mk far place].find? (·.magnitude == b)

def exact (b : Nat) : Decimal := ⟨steps b * Nat.pow 5 1074, -1074⟩

/-- The grids of decimals with one, two, … digits are tried in turn. Seventeen digits are enough for
every double; the exact digits make this plain for the reader. -/
def shortest (b : Nat) : Decimal :=
  let lead := leadingPlace (steps b) stepsPerUnit
  let found := (List.range 17).findSome? fun (n : Nat) => onGrid b (lead - n)
  (found.getD (exact b)).strip

end Reckoner.Number
