import Reckoner.Proofs.Number.Amount

namespace Reckoner.Number

theorem ratioAt_pos (b : Nat) (place : Int) : 0 < (ratioAt b place).2 := by
  unfold ratioAt
  split
  · exact Nat.mul_pos stepsPerUnit_pos (Nat.pow_pos (by decide))
  · dsimp only
    exact stepsPerUnit_pos

theorem ratioAt_eq (b : Nat) (place : Int) :
    ((ratioAt b place).1 : ℚ) / (ratioAt b place).2 = amount b / 10 ^ place := by
  unfold ratioAt amount
  split
  case isTrue whole =>
    obtain ⟨n, rfl⟩ := Int.eq_ofNat_of_zero_le whole
    rw [Int.toNat_natCast, Nat.pow_eq, zpow_natCast]
    push_cast
    rw [div_div]
  case isFalse part =>
    obtain ⟨n, hn⟩ := Int.eq_ofNat_of_zero_le (a := -place) (by omega)
    rw [hn, ← neg_neg place, hn, Int.toNat_natCast, Nat.pow_eq, zpow_neg, zpow_natCast]
    push_cast
    rw [div_inv_eq_mul, mul_div_right_comm]

theorem of_onGrid {b : Nat} {place : Int} {d : Decimal} (h : onGrid b place = some d) :
    d.magnitude = b ∧ d.exponent = place ∧
      ∃ q : Nat, q = (ratioAt b place).1 / (ratioAt b place).2 ∧
        (d.coefficient = q ∨ d.coefficient = q + 1) := by
  unfold onGrid at h
  dsimp only at h
  have reads := List.find?_some h
  have member := List.mem_of_find?_eq_some h
  refine ⟨eq_of_beq reads, ?_⟩
  generalize (ratioAt b place).1 = num at member ⊢
  generalize (ratioAt b place).2 = den at member ⊢
  have near : roundDiv num den = num / den ∨ roundDiv num den = num / den + 1 := by
    unfold roundDiv
    split <;> simp
  rcases List.mem_pair.1 member with rfl | rfl
  · exact ⟨rfl, _, rfl, near⟩
  · refine ⟨rfl, _, rfl, ?_⟩
    dsimp only
    split <;> simp

theorem amount_exact (b : Nat) : (exact b).amount = amount b := by
  obtain ⟨n, hn⟩ : ∃ n : Nat, n = 1074 := ⟨1074, rfl⟩
  have tens : (10 : ℚ) = 5 * 2 := by norm_num
  have place : (-1074 : Int) = -(n : Int) := by rw [hn]; rfl
  unfold exact Decimal.amount amount stepsPerUnit
  rw [place, ← hn, zpow_neg, zpow_natCast, Nat.pow_eq, Nat.pow_eq, tens, mul_pow]
  push_cast
  rw [mul_inv, mul_assoc, mul_inv_cancel_left₀ (by positivity), div_eq_mul_inv]

def lead (b : Nat) : Int := leadingPlace (steps b) stepsPerUnit

theorem shortest_eq (b : Nat) :
    ∃ d, shortest b = d.strip ∧ (d = exact b ∨ ∃ n : Nat, onGrid b (lead b - n) = some d) := by
  refine ⟨_, rfl, ?_⟩
  change let found := (List.range 17).findSome? fun n : Nat => onGrid b (lead b - n)
    found.getD (exact b) = exact b ∨ ∃ n : Nat, onGrid b (lead b - n) = some (found.getD (exact b))
  intro found
  cases h : found with
  | none => exact .inl rfl
  | some d =>
      obtain ⟨n, -, hn⟩ := List.exists_of_findSome?_eq_some h
      exact .inr ⟨n, hn⟩

theorem magnitude_shortest {b : Nat} (hb : b ≤ infinity) : (shortest b).magnitude = b := by
  obtain ⟨d, hd, rfl | ⟨n, hn⟩⟩ := shortest_eq b
  · rw [hd]
    exact Decimal.magnitude_of_amount hb ((Decimal.amount_strip _).trans (amount_exact b))
  · rw [hd, Decimal.magnitude_congr (Decimal.amount_strip d), (of_onGrid hn).1]

theorem amount_bounds {b : Nat} (h : b ≠ 0) :
    10 ^ lead b ≤ amount b ∧ amount b < 10 ^ (lead b + 1) :=
  leadingPlace_bounds (steps_pos h) stepsPerUnit_pos

theorem pow_mul_grid (p : Int) (n : Nat) : (10 : ℚ) ^ n * 10 ^ (p - n) = 10 ^ p := by
  rw [← zpow_natCast, ← zpow_add₀ (by norm_num), add_sub_cancel]

theorem pow_succ_mul_grid (p : Int) (n : Nat) :
    (10 : ℚ) ^ (n + 1) * 10 ^ (p - n) = 10 ^ (p + 1) := by
  rw [pow_succ', mul_assoc, pow_mul_grid, mul_comm, zpow_add_one₀ (by norm_num)]

/-- On a grid with `n` places after the first, the neighbours have `n + 1` digits, or the upper one
is the next power of ten. -/
theorem neighbour_bounds {b n q : Nat} (h : b ≠ 0)
    (hq : q = (ratioAt b (lead b - n)).1 / (ratioAt b (lead b - n)).2) :
    10 ^ n ≤ q ∧ q < 10 ^ (n + 1) := by
  have ratio := ratioAt_eq b (lead b - n)
  have pos := ratioAt_pos b (lead b - n)
  generalize (ratioAt b (lead b - n)).1 = num at hq ratio
  generalize (ratioAt b (lead b - n)).2 = den at hq ratio pos
  have parts : (0 : ℚ) < den := Nat.cast_pos.2 pos
  have unit : (0 : ℚ) < 10 ^ (lead b - n) := by positivity
  obtain ⟨low, high⟩ := amount_bounds h
  rw [← pow_mul_grid _ n, ← le_div_iff₀ unit, ← ratio, le_div_iff₀ parts] at low
  rw [← pow_succ_mul_grid _ n, ← div_lt_iff₀ unit, ← ratio, div_lt_iff₀ parts] at high
  rw [hq, Nat.le_div_iff_mul_le pos, Nat.div_lt_iff_lt_mul pos]
  constructor
  · exact_mod_cast low
  · exact_mod_cast high

theorem amount_shortest {b : Nat} (h : b ≠ 0) :
    10 ^ lead b ≤ (shortest b).amount ∧ (shortest b).amount ≤ 10 ^ (lead b + 1) := by
  obtain ⟨d, hd, rfl | ⟨n, hn⟩⟩ := shortest_eq b
  · rw [hd, Decimal.amount_strip, amount_exact]
    exact ⟨(amount_bounds h).1, (amount_bounds h).2.le⟩
  · obtain ⟨-, place, q, hq, near⟩ := of_onGrid hn
    obtain ⟨low, high⟩ := neighbour_bounds h hq
    have unit : (0 : ℚ) ≤ 10 ^ (lead b - n) := by positivity
    have least : 10 ^ n ≤ d.coefficient := by omega
    have greatest : d.coefficient ≤ 10 ^ (n + 1) := by omega
    rw [hd, Decimal.amount_strip, Decimal.amount, place, ← pow_mul_grid _ n,
      ← pow_succ_mul_grid _ n]
    constructor
    · exact mul_le_mul_of_nonneg_right (by exact_mod_cast least) unit
    · exact mul_le_mul_of_nonneg_right (by exact_mod_cast greatest) unit

theorem mod_stepsPerUnit_eq_zero_iff (b : Nat) :
    steps b % stepsPerUnit = 0 ↔ ∃ n : Nat, amount b = n := by
  have unit : (stepsPerUnit : ℚ) ≠ 0 := Nat.cast_ne_zero.2 (Nat.ne_of_gt stepsPerUnit_pos)
  rw [← Nat.dvd_iff_mod_eq_zero]
  refine exists_congr fun n => ?_
  rw [amount, div_eq_iff unit, Nat.mul_comm]
  exact_mod_cast Iff.rfl

theorem scale_lt_of_not_dvd {b n : Nat} (h : ¬ 2 ^ n ∣ steps b) : scale b < n := by
  refine not_le.1 fun large => h ?_
  rw [steps, Nat.pow_eq]
  exact Dvd.dvd.mul_left (Nat.pow_dvd_pow 2 large) _

theorem amount_lt_of_part {b : Nat} (h : steps b % stepsPerUnit ≠ 0) :
    amount b < 10 ^ (16 : Int) := by
  obtain ⟨n, -, unit⟩ := exists_stepsPerUnit_eq
  have bound : steps b < 10 ^ 16 * stepsPerUnit := by
    rw [unit] at h ⊢
    have small := scale_lt_of_not_dvd (mt Nat.mod_eq_zero_of_dvd h)
    calc
      steps b < 2 ^ 53 * 2 ^ scale b :=
        Nat.mul_lt_mul_of_pos_right (scale_significand b).2.1 (Nat.two_pow_pos _)
      _ ≤ 10 ^ 16 * 2 ^ n := Nat.mul_le_mul (by decide) (Nat.pow_le_pow_right (by decide) small.le)
  rw [amount, div_lt_iff₀ (Nat.cast_pos.2 stepsPerUnit_pos)]
  exact_mod_cast bound

theorem coefficient_shortest_ne_zero {b : Nat} (h : b ≠ 0) : (shortest b).coefficient ≠ 0 := by
  intro zero
  have low := (amount_shortest h).1
  rw [Decimal.amount, zero, Nat.cast_zero, zero_mul] at low
  exact absurd low (not_le.2 (by positivity))

/-- Where the shortest decimal starts at a higher place than its magnitude, it is a power of ten. -/
theorem eq_magnitude_of_place {b : Nat} (hb : b ≤ infinity) (h : b ≠ 0) {p : Int}
    (below : lead b < p) (above : p ≤ (shortest b).leadingPlace) :
    b = (Decimal.mk 1 p).magnitude := by
  have ten : (1 : ℚ) < 10 := by norm_num
  -- the amount is at most `10 ^ p`, and its first digit does not stand below that place
  have power : (shortest b).amount = (Decimal.mk 1 p).amount := by
    rw [Decimal.amount, Decimal.amount, Nat.cast_one, one_mul]
    apply le_antisymm
    · exact (amount_shortest h).2.trans ((zpow_le_zpow_iff_right₀ ten).2 below)
    · exact ((zpow_le_zpow_iff_right₀ ten).2 above).trans
        (Decimal.amount_bounds (coefficient_shortest_ne_zero h)).1
  rw [← Decimal.magnitude_congr power, magnitude_shortest hb]

theorem leadingPlace_shortest_lt {b : Nat} (hb : b ≤ infinity) (h0 : b ≠ 0)
    (h : steps b % stepsPerUnit ≠ 0) : (shortest b).leadingPlace < 16 := by
  have place : lead b < 16 := (zpow_lt_zpow_iff_right₀ (by norm_num)).1
    ((amount_bounds h0).1.trans_lt (amount_lt_of_part h))
  refine not_le.1 fun above => h ?_
  rw [eq_magnitude_of_place hb h0 place above]
  decide +kernel

theorem le_leadingPlace_shortest_iff {b : Nat} (hb : b ≤ infinity) (h : b ≠ 0) :
    -4 ≤ (shortest b).leadingPlace ↔ 1 / 10 ^ 4 ≤ amount b := by
  have ten : (1 : ℚ) < 10 := by norm_num
  have edge : (1 : ℚ) / 10 ^ 4 = 10 ^ (-4 : Int) := by norm_num
  constructor
  · intro above
    refine not_lt.1 fun small => ?_
    have place : lead b < -4 := (zpow_lt_zpow_iff_right₀ ten).1
      ((amount_bounds h).1.trans_lt (edge ▸ small))
    have least : stepsPerUnit ≤ steps (Decimal.mk 1 (-4)).magnitude * 10 ^ 4 := by decide +kernel
    rw [← eq_magnitude_of_place hb h place above] at least
    rw [amount, div_lt_div_iff₀ (Nat.cast_pos.2 stepsPerUnit_pos) (by positivity), one_mul] at small
    exact absurd least (not_le.2 (by exact_mod_cast small))
  · intro large
    have place : -4 < lead b + 1 := (zpow_lt_zpow_iff_right₀ ten).1
      ((edge ▸ large).trans_lt (amount_bounds h).2)
    have start : lead b < (shortest b).leadingPlace + 1 := (zpow_lt_zpow_iff_right₀ ten).1
      ((amount_shortest h).1.trans_lt (Decimal.amount_bounds (coefficient_shortest_ne_zero h)).2)
    omega

end Reckoner.Number
