import Mathlib
import Reckoner.Proofs.Number.Rounding

namespace Reckoner.Number

open Float.Model (Format UnpackedFloat)
open Float.Model.UnpackedFloat (isNaNBits unpackExponent unpackMantissa unpackSign Sign)

def exponentField (u : UInt64) : BitVec 11 := @unpackExponent .binary64 u.toBitVec

def mantissaField (u : UInt64) : BitVec 52 := @unpackMantissa .binary64 u.toBitVec

def signField (u : UInt64) : BitVec 1 := @unpackSign .binary64 u.toBitVec

theorem toNat_exponentField (u : UInt64) :
    (exponentField u).toNat = u.toNat / 2 ^ 52 % 2 ^ 11 := by
  simp [exponentField, unpackExponent, Nat.shiftRight_eq_div_pow]

theorem toNat_mantissaField (u : UInt64) : (mantissaField u).toNat = u.toNat % 2 ^ 52 := by
  simp [mantissaField, unpackMantissa]

theorem toNat_signField (u : UInt64) : (signField u).toNat = u.toNat / 2 ^ 63 := by
  have := u.toNat_lt
  simp only [signField, unpackSign, Format.numBits, BitVec.toNat_cast, BitVec.extractLsb_toNat,
    Nat.shiftRight_eq_div_pow, UInt64.toNat_toBitVec]
  omega

theorem exponentField_eq_top_iff (u : UInt64) :
    exponentField u = -1#11 ↔ infinity ≤ u.toNat % 2 ^ 63 := by
  rw [← BitVec.toNat_inj, toNat_exponentField]
  simp only [infinity, Nat.pow_eq, BitVec.neg_one_eq_allOnes, BitVec.toNat_allOnes]
  omega

theorem mantissaField_eq_zero_iff (u : UInt64) :
    mantissaField u = 0#52 ↔ u.toNat % 2 ^ 52 = 0 := by
  rw [← BitVec.toNat_inj, toNat_mantissaField, BitVec.toNat_ofNat, Nat.zero_mod]

theorem isNaNBits_iff (u : UInt64) :
    @isNaNBits .binary64 u.toBitVec = true ↔ infinity < u.toNat % 2 ^ 63 := by
  change decide (exponentField u = -1#11 ∧ mantissaField u ≠ 0#52) = true ↔ _
  rw [decide_eq_true_iff, ne_eq, exponentField_eq_top_iff, mantissaField_eq_zero_iff]
  simp only [infinity, Nat.pow_eq]
  omega

/-- The double of a pattern: how the model of doubles reads its fields. -/
def reading (u : UInt64) : UnpackedFloat := UnpackedFloat.unpack .binary64 u.toBitVec

theorem toNat_leading (m : BitVec 52) : (1#1 ++ m).toNat = 2 ^ 52 + m.toNat := by
  rw [BitVec.toNat_append, ← Nat.shiftLeft_add_eq_or_of_lt m.isLt, Nat.shiftLeft_eq]
  rfl

theorem reading_eq (u : UInt64) : reading u =
    if exponentField u = -1#11 then
      if mantissaField u = 0#52 then .infinity (.ofBitVec (signField u)) else .notANumber
    else if exponentField u = 0#11 then
      if h : mantissaField u = 0#52 then .zero (.ofBitVec (signField u))
      else .finite (.ofBitVec (signField u)) (mantissaField u).toNat
        ((exponentField u).toNat - 1075 + 1)
        (Nat.pos_of_ne_zero fun zero => h (BitVec.eq_of_toNat_eq zero))
    else .finite (.ofBitVec (signField u)) (1#1 ++ mantissaField u).toNat
      ((exponentField u).toNat - 1075) (by rw [toNat_leading]; omega) :=
  rfl

theorem isNaN_reading (u : UInt64) :
    (reading u).isNaN = true ↔ infinity < u.toNat % 2 ^ 63 := by
  rw [← isNaNBits_iff, reading_eq]
  change _ ↔ decide (exponentField u = -1#11 ∧ mantissaField u ≠ 0#52) = true
  split_ifs <;> simp_all [UnpackedFloat.isNaN]

theorem isFinite_reading (u : UInt64) :
    (reading u).isFinite = true ↔ u.toNat % 2 ^ 63 < infinity := by
  rw [← Nat.not_le, ← exponentField_eq_top_iff, reading_eq]
  split_ifs <;> simp_all [UnpackedFloat.isFinite]

theorem reading_finite {u : UInt64} {sign : Sign} {m : Nat} {e : Int} {pos : 0 < m}
    (h : reading u = .finite sign m e pos) : sign = .ofBitVec (signField u) ∧
      m = significand (u.toNat % 2 ^ 63) ∧ e = (scale (u.toNat % 2 ^ 63) : Int) - 1074 := by
  have exponent : (exponentField u).toNat = u.toNat % 2 ^ 63 / 2 ^ 52 := by
    rw [toNat_exponentField]
    omega
  have mantissa : (mantissaField u).toNat = u.toNat % 2 ^ 63 % 2 ^ 52 := by
    rw [toNat_mantissaField]
    omega
  simp only [significand, scale, Nat.pow_eq]
  generalize u.toNat % 2 ^ 63 = b at exponent mantissa ⊢
  rw [reading_eq] at h
  split_ifs at h with top inf low zero <;> cases h
  · rw [low, BitVec.toNat_ofNat, Nat.zero_mod] at exponent
    rw [low, BitVec.toNat_ofNat, Nat.zero_mod]
    refine ⟨rfl, ?_, ?_⟩ <;> omega
  · have normal : (exponentField u).toNat ≠ 0 := fun zero => low (BitVec.eq_of_toNat_eq zero)
    rw [toNat_leading]
    refine ⟨rfl, ?_, ?_⟩ <;> omega

theorem reading_neg {u v : UInt64} (sign : u.toNat / 2 ^ 63 ≠ v.toNat / 2 ^ 63)
    (rest : u.toNat % 2 ^ 63 = v.toNat % 2 ^ 63) : reading v = (reading u).neg := by
  have mantissa : mantissaField v = mantissaField u := by
    rw [← BitVec.toNat_inj, toNat_mantissaField, toNat_mantissaField]
    omega
  have exponent : exponentField v = exponentField u := by
    rw [← BitVec.toNat_inj, toNat_exponentField, toNat_exponentField]
    omega
  have flip (s t : BitVec 1) (h : s ≠ t) : Sign.ofBitVec t = -Sign.ofBitVec s := by
    rcases BitVec.eq_zero_or_eq_one s with rfl | rfl <;>
      rcases BitVec.eq_zero_or_eq_one t with rfl | rfl
    all_goals first | rfl | exact absurd rfl h
  have opposite := flip (signField u) (signField v)
    (fun same => sign (by rw [← toNat_signField, ← toNat_signField, same]))
  simp only [reading_eq, mantissa, exponent, opposite]
  split_ifs <;> rfl

theorem toNat_pattern (negative : Bool) {b : Nat} (h : b ≤ infinity) :
    (UInt64.ofNat (if negative then Nat.pow 2 63 + b else b)).toNat =
      if negative then Nat.pow 2 63 + b else b := by
  apply Nat.mod_eq_of_lt
  simp only [infinity, Nat.pow_eq] at h ⊢
  split <;> omega

theorem toBits_ofBits {u : UInt64} (h : u.toNat % 2 ^ 63 ≤ infinity) :
    (Float.ofBits u).toBits = u := by
  have number : @isNaNBits .binary64 u.toBitVec = false := by
    rw [← Bool.not_eq_true, isNaNBits_iff]
    omega
  apply UInt64.toBitVec_inj.1
  change (reading u).pack .binary64 = u.toBitVec
  rw [reading, UnpackedFloat.pack_unpack, number]
  rfl

theorem toNat_toBits_ofMagnitude (negative : Bool) {b : Nat} (h : b ≤ infinity) :
    (ofMagnitude negative b).toBits.toNat = if negative then Nat.pow 2 63 + b else b := by
  have pattern := toNat_pattern negative h
  rw [ofMagnitude, toBits_ofBits, pattern]
  rw [pattern]
  simp only [infinity, Nat.pow_eq] at h ⊢
  split <;> omega

theorem magnitude_ofMagnitude (negative : Bool) {b : Nat} (h : b ≤ infinity) :
    magnitude (ofMagnitude negative b) = b := by
  rw [magnitude, toNat_toBits_ofMagnitude negative h]
  simp only [infinity, Nat.pow_eq] at h ⊢
  split <;> omega

theorem isNegative_ofMagnitude (negative : Bool) {b : Nat} (h : b ≤ infinity) :
    isNegative (ofMagnitude negative b) = negative := by
  rw [isNegative, toNat_toBits_ofMagnitude negative h]
  simp only [infinity, Nat.pow_eq] at h ⊢
  cases negative
  · simpa using by omega
  · simp

theorem ofMagnitude_magnitude (x : Float) : ofMagnitude (isNegative x) (magnitude x) = x := by
  have whole : (if isNegative x then Nat.pow 2 63 + magnitude x else magnitude x) =
      x.toBits.toNat := by
    have := x.toBits.toNat_lt
    simp only [isNegative, magnitude, Nat.pow_eq, decide_eq_true_eq]
    split <;> omega
  rw [ofMagnitude, whole, UInt64.ofNat_toNat, Float.ofBits_toBits]

theorem eq_iff_magnitude {x y : Float} :
    x = y ↔ isNegative x = isNegative y ∧ magnitude x = magnitude y := by
  refine ⟨fun h => ⟨h ▸ rfl, h ▸ rfl⟩, fun ⟨sign, size⟩ => ?_⟩
  rw [← ofMagnitude_magnitude x, sign, size, ofMagnitude_magnitude]

theorem neg_ofMagnitude (negative : Bool) {b : Nat} (h : b ≤ infinity) :
    -(ofMagnitude negative b) = ofMagnitude (!negative) b := by
  have opposite : reading (ofMagnitude (!negative) b).toBits =
      (reading (ofMagnitude negative b).toBits).neg := by
    have here := toNat_toBits_ofMagnitude negative h
    have there := toNat_toBits_ofMagnitude (!negative) h
    simp only [infinity, Nat.pow_eq] at h here there
    apply reading_neg <;> cases negative <;> simp_all
  apply Float.toBits_inj.1
  apply UInt64.toBitVec_inj.1
  change (reading (ofMagnitude negative b).toBits).neg.pack .binary64 = _
  rw [← opposite]
  exact UnpackedFloat.pack_unpack_of_valid (ofMagnitude (!negative) b).toModel.valid

theorem isNaN_eq_false_iff (x : Float) : x.isNaN = false ↔ magnitude x ≤ infinity := by
  change (reading x.toBits).isNaN = false ↔ _
  rw [← Bool.not_eq_true, isNaN_reading, Nat.not_lt]
  rfl

theorem signField_toBits (x : Float) :
    Sign.ofBitVec (signField x.toBits) = if isNegative x then .negative else .positive := by
  have bit := toNat_signField x.toBits
  have := x.toBits.toNat_lt
  rcases BitVec.eq_zero_or_eq_one (signField x.toBits) with zero | one
  · rw [zero, BitVec.toNat_ofNat, Nat.zero_mod] at bit
    rw [zero, if_neg]
    · rfl
    · simp only [isNegative, Nat.pow_eq, decide_eq_true_eq]
      omega
  · rw [one, BitVec.toNat_ofNat] at bit
    rw [one, if_pos]
    · rfl
    · simp only [isNegative, Nat.pow_eq, decide_eq_true_eq]
      omega

theorem isFinite_iff (x : Float) : x.isFinite = true ↔ magnitude x < infinity :=
  isFinite_reading x.toBits

end Reckoner.Number
