import Reckoner.Proofs.Number.Bits

namespace Reckoner.Number

open Float.Model (UnpackedFloat)
open Float.Model.UnpackedFloat (Sign)

theorem compare_sign_eq_iff (s t : Sign) : compare s t = .eq ↔ s = t := by
  cases s <;> cases t <;> simp [compare]

theorem compare_eq_iff (a b : UnpackedFloat) : a.compare b = some .eq ↔
    a = b ∧ a.isNaN = false ∨ ∃ s t, a = .zero s ∧ b = .zero t := by
  cases a with
  | notANumber => simp [UnpackedFloat.compare, UnpackedFloat.isNaN]
  | infinity s =>
      cases b with
      | infinity t => simp [UnpackedFloat.compare, UnpackedFloat.isNaN, compare_sign_eq_iff]
      | notANumber | zero | finite => cases s <;> simp [UnpackedFloat.compare]
  | zero s =>
      cases b with
      | zero t => simp [UnpackedFloat.compare]
      | notANumber => simp [UnpackedFloat.compare]
      | infinity t | finite t => cases t <;> simp [UnpackedFloat.compare]
  | finite s m e =>
      cases b with
      | notANumber | zero => cases s <;> simp [UnpackedFloat.compare]
      | infinity t => cases s <;> cases t <;> simp [UnpackedFloat.compare]
      | finite t n f =>
          cases s <;> cases t <;>
            simp [UnpackedFloat.compare, UnpackedFloat.isNaN, Ordering.then_eq_eq, and_comm]

theorem reading_injective {x y : Float} (h : reading x.toBits = reading y.toBits) : x = y := by
  have pattern (x : Float) : (reading x.toBits).pack .binary64 = x.toBits.toBitVec :=
    UnpackedFloat.pack_unpack_of_valid x.toModel.valid
  apply Float.toBits_inj.1
  apply UInt64.toBitVec_inj.1
  rw [← pattern, h, pattern]

theorem reading_eq_zero_iff (u : UInt64) :
    (∃ s, reading u = .zero s) ↔ u.toNat % 2 ^ 63 = 0 := by
  have exponent := toNat_exponentField u
  have mantissa := mantissaField_eq_zero_iff u
  constructor
  · rintro ⟨s, h⟩
    rw [reading_eq] at h
    split_ifs at h with top inf low zero
    rw [low, BitVec.toNat_ofNat, Nat.zero_mod] at exponent
    have empty := mantissa.1 zero
    omega
  · intro h
    have low : exponentField u = 0#11 :=
      BitVec.eq_of_toNat_eq (exponent.trans (show _ = 0 by omega))
    have other : exponentField u ≠ -1#11 := by
      rw [low]
      decide
    rw [reading_eq, if_neg other, if_pos low, dif_pos (mantissa.2 (by omega))]
    exact ⟨_, rfl⟩

theorem isNaN_of_magnitude_eq_zero {x : Float} (h : magnitude x = 0) : x.isNaN = false := by
  rw [isNaN_eq_false_iff, h]
  exact Nat.zero_le _

theorem beq_iff (x y : Float) : (x == y) = true ↔
    x = y ∧ x.isNaN = false ∨ magnitude x = 0 ∧ magnitude y = 0 := by
  have zero (x : Float) : (∃ s, reading x.toBits = .zero s) ↔ magnitude x = 0 :=
    reading_eq_zero_iff x.toBits
  have same : reading x.toBits = reading y.toBits ↔ x = y :=
    ⟨reading_injective, fun h => h ▸ rfl⟩
  change ((reading x.toBits).compare (reading y.toBits) == some .eq) = true ↔ _
  rw [beq_iff_eq, compare_eq_iff, same, ← zero, ← zero, exists_and_exists_comm]
  rfl

end Reckoner.Number
