import Mathlib.Algebra.Ring.Nat
import Reckoner.Number.Steps

namespace Reckoner.Number

theorem roundDiv_mul (num den : Nat) {k : Nat} (hk : 0 < k) :
    roundDiv (num * k) (den * k) = roundDiv num den := by
  have less : 2 * (num % den * k) < den * k ↔ 2 * (num % den) < den := by
    rw [← Nat.mul_assoc, Nat.mul_lt_mul_right hk]
  have tie : 2 * (num % den * k) = den * k ↔ 2 * (num % den) = den := by
    rw [← Nat.mul_assoc, Nat.mul_left_inj (Nat.ne_of_gt hk)]
  simp only [roundDiv, Nat.mul_mod_mul_right, Nat.mul_div_mul_right num den hk, less, tie]

theorem roundDiv_of_dvd {num den : Nat} (hd : 0 < den) (h : den ∣ num) :
    roundDiv num den = num / den := by
  rw [roundDiv, Nat.mod_eq_zero_of_dvd h, if_pos (Or.inl (by simpa using hd))]

theorem nearest_mul (num den : Nat) {k : Nat} (hk : 0 < k) :
    nearest (num * k) (den * k) = nearest num den := by
  simp only [nearest, Nat.mul_div_mul_right num den hk, Nat.mul_right_comm den k,
    roundDiv_mul num _ hk]

theorem nearest_congr {num den num' den' : Nat} (hd : 0 < den) (hd' : 0 < den')
    (h : num * den' = num' * den) : nearest num den = nearest num' den' := by
  calc
    nearest num den = nearest (num * den') (den * den') := (nearest_mul num den hd').symm
    _ = nearest (num' * den) (den' * den) := by rw [h, Nat.mul_comm den]
    _ = nearest num' den' := nearest_mul num' den' hd

theorem nearest_le (num den : Nat) : nearest num den ≤ infinity := Nat.min_le_left _ _

theorem scale_significand (b : Nat) :
    b = scale b * 2 ^ 52 + significand b ∧ significand b < 2 ^ 53 ∧
      (2 ^ 52 ≤ significand b ∨ scale b = 0) := by
  have whole : b / 2 ^ 52 * 2 ^ 52 + b % 2 ^ 52 = b := Nat.div_add_mod' b (2 ^ 52)
  simp only [significand, scale, Nat.pow_eq]
  omega

theorem log2_significand {m : Nat} (low : 2 ^ 52 ≤ m) (high : m < 2 ^ 53) (k : Nat) :
    (m * 2 ^ k).log2 = 52 + k := by
  have pos : 0 < 2 ^ k := Nat.two_pow_pos k
  rw [Nat.log2_eq_iff (Nat.ne_of_gt (Nat.mul_pos (by omega) pos)), Nat.pow_add]
  refine ⟨Nat.mul_le_mul_right _ low, ?_⟩
  rw [Nat.add_right_comm, Nat.pow_add]
  exact Nat.mul_lt_mul_of_pos_right high pos

theorem shift_steps (b : Nat) : (steps b).log2 - 52 = scale b := by
  obtain ⟨-, high, low | flat⟩ := scale_significand b
  · rw [steps, Nat.pow_eq, log2_significand low high]
    omega
  · rw [steps, flat, Nat.pow_eq, Nat.pow_zero, Nat.mul_one]
    have small : (significand b).log2 ≤ 52 := by
      by_cases zero : significand b = 0
      · simp [zero]
      · exact Nat.le_of_lt_succ ((Nat.log2_lt zero).2 high)
    omega

theorem nearest_steps {b : Nat} (h : b ≤ infinity) : nearest (steps b) 1 = b := by
  have whole := (scale_significand b).1
  have pos : 0 < 2 ^ scale b := Nat.two_pow_pos _
  have exact : roundDiv (steps b) (2 ^ scale b) = significand b := by
    rw [steps, Nat.pow_eq, roundDiv_of_dvd pos (Nat.dvd_mul_left _ _), Nat.mul_div_cancel _ pos]
  simp only [nearest, Nat.div_one, Nat.one_mul, shift_steps, Nat.pow_eq, exact, ← whole,
    Nat.min_eq_right h]

theorem steps_pos {b : Nat} (h : b ≠ 0) : 0 < steps b := by
  obtain ⟨whole, -, low | flat⟩ := scale_significand b
  · exact Nat.mul_pos (by omega) (Nat.two_pow_pos _)
  · exact Nat.mul_pos (by omega) (Nat.two_pow_pos _)

end Reckoner.Number
