namespace Reckoner.Number

/-- The bit pattern of a double without its sign. -/
def magnitude (x : Float) : Nat := x.toBits.toNat % Nat.pow 2 63

def isNegative (x : Float) : Bool := Nat.pow 2 63 ≤ x.toBits.toNat

def ofMagnitude (negative : Bool) (b : Nat) : Float :=
  Float.ofBits (UInt64.ofNat (if negative then Nat.pow 2 63 + b else b))

/-- The magnitude of infinity: the finite ones lie below it, the patterns above it are no numbers. -/
def infinity : Nat := 2047 * Nat.pow 2 52

def notANumber : Nat := infinity + Nat.pow 2 51

def scale (b : Nat) : Nat := b / Nat.pow 2 52 - 1

/-- The leading 53 bits of a magnitude, fewer below the least normal one. -/
def significand (b : Nat) : Nat := b - scale b * Nat.pow 2 52

/-- A finite magnitude stands for a whole number of steps of `2 ^ (-1074)`, the smallest positive
double, and a greater magnitude for more of them. -/
def steps (b : Nat) : Nat := significand b * Nat.pow 2 (scale b)

def stepsPerUnit : Nat := Nat.pow 2 1074

/-- The quotient rounded to the nearest whole number, and a half to the even one. -/
def roundDiv (num den : Nat) : Nat :=
  if 2 * (num % den) < den ∨ 2 * (num % den) = den ∧ num / den % 2 = 0 then num / den
  else num / den + 1

/-- The magnitude nearest to `num / den` steps, on a tie the one with an even significand. A
significand rounded up to `2 ^ 53` carries into the scale by itself. -/
def nearest (num den : Nat) : Nat :=
  let shift := (num / den).log2 - 52
  min infinity (shift * Nat.pow 2 52 + roundDiv num (den * Nat.pow 2 shift))

end Reckoner.Number
