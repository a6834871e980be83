import Mathlib.Algebra.Order.Field.Power
import Mathlib.Data.List.TakeWhile
import Mathlib.Data.Rat.Cast.Order
import Mathlib.Tactic.Positivity
import Mathlib.Tactic.Ring
import Reckoner.Number.Shortest
import Reckoner.Proofs.Number.Rounding

namespace Reckoner.Number

theorem stepsPerUnit_pos : 0 < stepsPerUnit := by decide +kernel

def amount (b : Nat) : ℚ := steps b / stepsPerUnit

/-- The exponent has a name here, as the power is too large to be worked out. -/
theorem exists_stepsPerUnit_eq : ∃ n : Nat, (n : Int) = 1074 ∧ stepsPerUnit = 2 ^ n := by
  obtain ⟨n, hn⟩ : ∃ n : Nat, n = 1074 := ⟨1074, rfl⟩
  refine ⟨n, by rw [hn]; rfl, ?_⟩
  unfold stepsPerUnit
  rw [← hn, Nat.pow_eq]

theorem stepsPerUnit_cast : (stepsPerUnit : ℚ) = 2 ^ (1074 : Int) := by
  obtain ⟨n, place, unit⟩ := exists_stepsPerUnit_eq
  rw [unit, ← place, zpow_natCast, Nat.cast_pow, Nat.cast_ofNat]

theorem amount_eq (b : Nat) : amount b = significand b * 2 ^ ((scale b : Int) - 1074) := by
  rw [amount, steps, stepsPerUnit_cast, zpow_sub₀ two_ne_zero, zpow_natCast, Nat.pow_eq,
    Nat.cast_mul, Nat.cast_pow, Nat.cast_ofNat, mul_div_assoc]

theorem amount_nonneg (b : Nat) : 0 ≤ amount b :=
  div_nonneg (Nat.cast_nonneg _) (Nat.cast_nonneg _)

theorem div_eq_div_iff_cast {a b c d : Nat} (hb : 0 < b) (hd : 0 < d) :
    (a : ℚ) / b = c / d ↔ a * d = c * b := by
  rw [div_eq_div_iff (Nat.cast_ne_zero.2 (Nat.ne_of_gt hb)) (Nat.cast_ne_zero.2 (Nat.ne_of_gt hd))]
  exact_mod_cast Iff.rfl

namespace Decimal

protected def amount (d : Decimal) : ℚ := d.coefficient * 10 ^ d.exponent

theorem exists_quotient (d : Decimal) : ∃ num den : Nat, 0 < den ∧ d.amount = num / den ∧
    d.magnitude = nearest (num * stepsPerUnit) den := by
  rcases le_or_gt 0 d.exponent with whole | part
  · obtain ⟨n, hn⟩ := Int.eq_ofNat_of_zero_le whole
    refine ⟨d.coefficient * Nat.pow 10 n, 1, Nat.one_pos, ?_, ?_⟩
    · rw [Decimal.amount, hn, zpow_natCast, Nat.pow_eq, Nat.cast_one, div_one]
      push_cast
      rfl
    · rw [magnitude, if_pos whole, hn, Int.toNat_natCast]
  · obtain ⟨n, hn⟩ := Int.eq_ofNat_of_zero_le (a := -d.exponent) (by omega)
    refine ⟨d.coefficient, Nat.pow 10 n, Nat.pow_pos (by decide), ?_, ?_⟩
    · rw [Decimal.amount, ← neg_neg d.exponent, hn, zpow_neg, zpow_natCast, Nat.pow_eq,
        Nat.cast_pow, Nat.cast_ofNat, div_eq_mul_inv]
    · rw [magnitude, if_neg (not_le.2 part), hn, Int.toNat_natCast]

theorem magnitude_of_amount {d : Decimal} {b : Nat} (hb : b ≤ infinity)
    (h : d.amount = Number.amount b) : d.magnitude = b := by
  obtain ⟨num, den, pos, value, rounded⟩ := d.exists_quotient
  rw [value, Number.amount, div_eq_div_iff_cast pos stepsPerUnit_pos] at h
  rw [rounded, nearest_congr pos Nat.one_pos (by rw [Nat.mul_one, h]), nearest_steps hb]

theorem magnitude_congr {d d' : Decimal} (h : d.amount = d'.amount) :
    d.magnitude = d'.magnitude := by
  obtain ⟨num, den, pos, value, rounded⟩ := d.exists_quotient
  obtain ⟨num', den', pos', value', rounded'⟩ := d'.exists_quotient
  rw [value, value', div_eq_div_iff_cast pos pos'] at h
  rw [rounded, rounded']
  apply nearest_congr pos pos'
  rw [Nat.mul_right_comm, h, Nat.mul_right_comm]

theorem pow_zeros_dvd (d : Decimal) :
    10 ^ (d.digits.reverse.takeWhile (· == '0')).length ∣ d.coefficient := by
  have zeros : (d.digits.reverse.takeWhile (· == '0')).reverse =
      List.replicate (d.digits.reverse.takeWhile (· == '0')).length '0' := by
    refine List.eq_replicate_iff.2 ⟨List.length_reverse, fun c hc => ?_⟩
    exact eq_of_beq (List.mem_takeWhile_imp (p := (· == '0')) (List.mem_reverse.1 hc))
  have parted : d.digits = (d.digits.reverse.dropWhile (· == '0')).reverse ++
      List.replicate (d.digits.reverse.takeWhile (· == '0')).length '0' := by
    rw [← zeros, ← List.reverse_append, List.takeWhile_append_dropWhile, List.reverse_reverse]
  have value : Nat.ofDigitChars 10 d.digits 0 = d.coefficient :=
    Nat.ofDigitChars_ten_toDigits
  rw [parted, Nat.ofDigitChars_append, Nat.ofDigitChars_replicate_zero] at value
  exact ⟨_, value.symm⟩

theorem amount_strip (d : Decimal) : d.strip.amount = d.amount := by
  obtain ⟨q, hq⟩ := d.pow_zeros_dvd
  simp only [strip, Decimal.amount, Nat.pow_eq]
  generalize (d.digits.reverse.takeWhile (· == '0')).length = zeros at hq ⊢
  rw [hq, Nat.mul_div_cancel_left _ (by positivity), zpow_add₀ (by norm_num), zpow_natCast]
  push_cast
  ring

end Decimal

theorem toDigits_bounds {n : Nat} (h : n ≠ 0) :
    10 ^ ((Nat.toDigits 10 n).length - 1) ≤ n ∧ n < 10 ^ (Nat.toDigits 10 n).length := by
  have some : 0 < (Nat.toDigits 10 n).length := Nat.length_toDigits_pos
  refine ⟨?_, (Nat.length_toDigits_le_iff (by decide) some).1 le_rfl⟩
  rcases Nat.eq_or_lt_of_le some with one | more
  · rw [← one, Nat.sub_self, Nat.pow_zero]
    exact Nat.pos_of_ne_zero h
  · refine not_lt.1 fun small => ?_
    have := (Nat.length_toDigits_le_iff (k := (Nat.toDigits 10 n).length - 1) (by decide)
      (by omega)).2 small
    omega

theorem Decimal.amount_bounds {d : Decimal} (h : d.coefficient ≠ 0) :
    10 ^ d.leadingPlace ≤ d.amount ∧ d.amount < 10 ^ (d.leadingPlace + 1) := by
  obtain ⟨low, high⟩ := toDigits_bounds h
  have some : 0 < d.digits.length := Nat.length_toDigits_pos
  have base : (0 : ℚ) < 10 ^ d.exponent := by positivity
  have lower : (10 : ℚ) ^ d.leadingPlace =
      (10 ^ (d.digits.length - 1) : Nat) * 10 ^ d.exponent := by
    rw [Nat.cast_pow, ← zpow_natCast, Nat.cast_ofNat, ← zpow_add₀ (by norm_num), leadingPlace,
      Nat.cast_sub some]
    congr 1
    push_cast
    ring
  have upper : (10 : ℚ) ^ (d.leadingPlace + 1) =
      (10 ^ d.digits.length : Nat) * 10 ^ d.exponent := by
    rw [Nat.cast_pow, ← zpow_natCast, Nat.cast_ofNat, ← zpow_add₀ (by norm_num), leadingPlace]
    congr 1
    ring
  rw [lower, upper, Decimal.amount]
  exact ⟨mul_le_mul_of_nonneg_right (Nat.cast_le.2 low) base.le,
    mul_lt_mul_of_pos_right (Nat.cast_lt.2 high) base⟩

theorem leadingPlace_bounds {num den : Nat} (hn : 0 < num) (hd : 0 < den) :
    (10 : ℚ) ^ leadingPlace num den ≤ num / den ∧
      (num / den : ℚ) < 10 ^ (leadingPlace num den + 1) := by
  have parts : (0 : ℚ) < den := Nat.cast_pos.2 hd
  rw [le_div_iff₀ parts, div_lt_iff₀ parts]
  unfold leadingPlace
  split
  case isTrue whole =>
    obtain ⟨low, high⟩ := toDigits_bounds (Nat.ne_of_gt (Nat.div_pos whole hd))
    obtain ⟨k, hk⟩ := Nat.exists_eq_add_of_lt (Nat.length_toDigits_pos (b := 10) (n := num / den))
    rw [hk, Nat.zero_add] at low high ⊢
    rw [Nat.add_sub_cancel, Nat.le_div_iff_mul_le hd] at low
    rw [Nat.div_lt_iff_lt_mul hd] at high
    rw [sub_add_cancel, zpow_natCast, Nat.cast_add, Nat.cast_one, add_sub_cancel_right,
      zpow_natCast]
    exact ⟨by exact_mod_cast low, by exact_mod_cast high⟩
  case isFalse part =>
    obtain ⟨low, high⟩ := toDigits_bounds
      (Nat.ne_of_gt (Nat.div_pos (show num ≤ den - 1 by omega) hn))
    obtain ⟨k, hk⟩ := Nat.exists_eq_add_of_lt
      (Nat.length_toDigits_pos (b := 10) (n := (den - 1) / num))
    rw [hk, Nat.zero_add] at low high ⊢
    rw [Nat.add_sub_cancel, Nat.le_div_iff_mul_le hn] at low
    rw [Nat.div_lt_iff_lt_mul hn] at high
    have tens (n : Nat) : (0 : ℚ) < 10 ^ n := by positivity
    rw [Nat.cast_add, Nat.cast_one, neg_add, neg_add_cancel_right, ← neg_add, ← Nat.cast_succ,
      zpow_neg, zpow_neg, zpow_natCast, zpow_natCast, inv_mul_le_iff₀ (tens _),
      ← div_eq_inv_mul, lt_div_iff₀ (tens _)]
    have lower : den ≤ 10 ^ (k + 1) * num := by omega
    have upper : num * 10 ^ k < den := by rw [Nat.mul_comm]; omega
    exact ⟨by exact_mod_cast lower, by exact_mod_cast upper⟩

end Reckoner.Number
