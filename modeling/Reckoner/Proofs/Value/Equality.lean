import Reckoner.Proofs.Expr.Walk
import Reckoner.Proofs.Number.Equality
import Reckoner.Proofs.Number.Texts
import Reckoner.Value.Operation

namespace Reckoner

namespace Value

def isNaN : Value → Bool
  | number x => x.isNaN
  | string _ | bool _ | nil => false

def zero (negative : Bool) : Value := number (Number.ofMagnitude negative 0)

theorem kind_zero (negative : Bool) : (zero negative).kind = .number := rfl

theorem exists_zero_iff {x : Float} :
    (∃ negative, number x = zero negative) ↔ Number.magnitude x = 0 := by
  constructor
  · rintro ⟨negative, h⟩
    rw [Value.number.inj h, Number.magnitude_ofMagnitude negative (Nat.zero_le _)]
  · intro h
    refine ⟨Number.isNegative x, congrArg number ?_⟩
    rw [← h, Number.ofMagnitude_magnitude]

theorem isNaN_zero (negative : Bool) : (zero negative).isNaN = false :=
  Number.isNaN_of_magnitude_eq_zero (Number.magnitude_ofMagnitude negative (Nat.zero_le _))

theorem same_iff (v w : Value) : same v w = true ↔
    v = w ∧ v.isNaN = false ∨ ∃ s t, v = zero s ∧ w = zero t := by
  cases v with
  | number x =>
      cases w with
      | number y =>
          rw [same, Number.beq_iff, ← exists_zero_iff, ← exists_zero_iff, exists_and_exists_comm,
            Value.number.injEq]
          rfl
      | string | bool | nil => simp [same, zero]
  | string s => cases w <;> simp [same, isNaN, zero]
  | bool b => cases w <;> simp [same, isNaN, zero]
  | nil => cases w <;> simp [same, isNaN, zero]

theorem same_self_iff (v : Value) : same v v = true ↔ v.isNaN = false := by
  rw [same_iff]
  constructor
  · rintro (⟨-, number⟩ | ⟨s, -, rfl, -⟩)
    · exact number
    · exact isNaN_zero s
  · exact fun number => .inl ⟨rfl, number⟩

theorem same_comm (v w : Value) : same v w = same w v := by
  have half {v w : Value} (h : same v w = true) : same w v = true := by
    rw [same_iff] at h ⊢
    rcases h with ⟨rfl, number⟩ | ⟨s, t, hv, hw⟩
    · exact .inl ⟨rfl, number⟩
    · exact .inr ⟨t, s, hw, hv⟩
  exact Bool.eq_iff_iff.2 ⟨half, half⟩

theorem same_trans {u v w : Value} (huv : same u v = true) (hvw : same v w = true) :
    same u w = true := by
  rw [same_iff] at *
  rcases huv with ⟨rfl, -⟩ | ⟨s, t, hu, hv⟩
  · exact hvw
  · rcases hvw with ⟨rfl, -⟩ | ⟨-, t', -, hw⟩
    · exact .inr ⟨s, t, hu, hv⟩
    · exact .inr ⟨s, t', hu, hw⟩

theorem kind_eq_of_same {v w : Value} (h : same v w = true) : v.kind = w.kind := by
  rcases (same_iff v w).1 h with ⟨rfl, -⟩ | ⟨s, t, rfl, rfl⟩
  · rfl
  · rw [kind_zero, kind_zero]

theorem text_injective {v w : Value} (kind : v.kind = w.kind) (hv : v.isNaN = false)
    (hw : w.isNaN = false) (h : v.text = w.text) : v = w := by
  have words : ∀ a b : Bool, (bool a).text = (bool b).text → a = b := by decide
  cases v <;> cases w <;> try cases kind
  case number x y => exact congrArg number (Number.plain_injective hv hw h)
  case string s t => exact congrArg string h
  case bool a b => exact congrArg bool (words a b h)
  case nil => rfl

theorem text_zero (negative : Bool) : (zero negative).text = if negative then "-0" else "0" := by
  cases negative <;> decide +kernel

theorem same_iff_text {v w : Value} (kind : v.kind = w.kind) (hv : v.isNaN = false)
    (hw : w.isNaN = false) : same v w = true ↔
      v.text = w.text ∨ ∃ negative, v = zero negative ∧ w = zero !negative := by
  rw [same_iff]
  constructor
  · rintro (⟨rfl, -⟩ | ⟨s, t, rfl, rfl⟩)
    · exact .inl rfl
    · by_cases signs : s = t
      · exact .inl (by rw [signs])
      · exact .inr ⟨s, rfl, by rw [Bool.eq_not_of_ne (Ne.symm signs)]⟩
  · rintro (text | ⟨negative, hv, hw⟩)
    · exact .inl ⟨text_injective kind hv hw text, hv⟩
    · exact .inr ⟨negative, _, hv, hw⟩

end Value

namespace Expr

theorem walk_of_evaluate {e : Expr} {v : Value} (h : e.evaluate = .ok v) : e.walk = .ok v := by
  rw [← evaluateWithin_of_height_le (height_le_of_evaluateWithin h)]
  exact h

theorem evaluate_binary {l r : Expr} {v w u : Value} {operator : Token} (hl : l.evaluate = .ok v)
    (hr : r.evaluate = .ok w) (hu : Value.binary operator v w = .ok u) :
    (binary l operator r).evaluate = if (binary l operator r).height ≤ depthBudget then .ok u
      else .error (.tooDeep operator) := by
  have whole : (binary l operator r).walk = .ok u := by
    rw [walk, walk_of_evaluate hl, walk_of_evaluate hr]
    exact hu
  split
  case isTrue low => exact (evaluateWithin_of_height_le low).trans whole
  case isFalse tall =>
    refine (evaluateWithin_eq_walk_or operator depthBudget _).resolve_left fun answer => ?_
    exact tall (height_le_of_evaluateWithin (answer.trans whole))

theorem height_binary_comm (l r : Expr) (operator : Token) :
    (binary l operator r).height = (binary r operator l).height := by
  rw [height, height, max_comm]

end Expr

namespace Value

/-- Equality is symmetric and transitive. It does not hold between values of different kinds, and a
value is equal to itself unless it is a NaN. Values of one kind that are no NaNs are equal if and only
if they have the same text or are the two zeros, whose texts differ. Over trees that have values, both
comparisons have a value as far as the depth budget reaches; one is the negation of the other, and
exchanging the operands changes nothing. -/
theorem same_partial_equivalence (u v w : Value) (l r : Expr) (eq ne : Token) :
    same v w = same w v ∧
    (same u v = true → same v w = true → same u w = true) ∧
    (v.kind ≠ w.kind → same v w = false) ∧
    (same v v = true ↔ v.isNaN = false) ∧
    (v.kind = w.kind → v.isNaN = false → w.isNaN = false →
      (same v w = true ↔ v.text = w.text ∨ ∃ negative, v = zero negative ∧ w = zero !negative)) ∧
    ((zero false).text = "0" ∧ (zero true).text = "-0") ∧
    (eq.kind = .equalEqual → ne.kind = .bangEqual → l.evaluate = .ok v → r.evaluate = .ok w →
      let answer (operator : Token) (holds : Bool) : Except EvalFault Value :=
        if (Expr.binary l operator r).height ≤ depthBudget then .ok (.bool holds)
        else .error (.tooDeep operator)
      (Expr.binary l eq r).evaluate = answer eq (same v w) ∧
        (Expr.binary r eq l).evaluate = answer eq (same v w) ∧
        (Expr.binary l ne r).evaluate = answer ne (!same v w) ∧
        (Expr.binary r ne l).evaluate = answer ne (!same v w)) := by
  refine ⟨same_comm v w, same_trans, fun kinds => ?_, same_self_iff v, same_iff_text,
    ⟨text_zero false, text_zero true⟩, fun heq hne hl hr => ?_⟩
  · exact Bool.eq_false_iff.2 (mt kind_eq_of_same kinds)
  · have equal (v w : Value) : binary eq v w = .ok (.bool (same v w)) := by rw [binary, heq]
    have unequal (v w : Value) : binary ne v w = .ok (.bool !same v w) := by rw [binary, hne]
    refine ⟨Expr.evaluate_binary hl hr (equal v w), ?_, Expr.evaluate_binary hl hr (unequal v w), ?_⟩
    · rw [Expr.evaluate_binary hr hl (equal w v), same_comm w v, Expr.height_binary_comm]
    · rw [Expr.evaluate_binary hr hl (unequal w v), same_comm w v, Expr.height_binary_comm]

theorem same_partial_equivalence_zeros :
    let eq : Token := ⟨.equalEqual, "==", 1, none⟩
    let ne : Token := ⟨.bangEqual, "!=", 1, none⟩
    let l := Expr.literal .number (some (.number (Number.ofMagnitude false 0)))
    let r := Expr.unary ⟨.minus, "-", 1, none⟩ l
    (l.evaluate = .ok (zero false) ∧ r.evaluate = .ok (zero true)) ∧
      ((zero false).kind = (zero true).kind ∧ (zero false).isNaN = false ∧
        (zero true).isNaN = false ∧ (zero false).text ≠ (zero true).text) ∧
      (same (zero true) (zero false) = true ∧ same (zero false) (zero true) = true ∧
        same (zero true) (zero true) = true) ∧
      ((Expr.binary l eq r).evaluate = .ok (.bool true) ∧
        (Expr.binary r ne l).evaluate = .ok (.bool false)) ∧
      (zero false).kind ≠ (bool true).kind ∧ same (zero false) (bool true) = false := by
  intro eq ne l r
  have hl : l.evaluate = .ok (zero false) := by decide +kernel
  have hr : r.evaluate = .ok (zero true) := by decide +kernel
  have real (negative : Bool) : (zero negative).isNaN = false := isNaN_zero negative
  have low : (Expr.binary l eq r).height ≤ depthBudget := by decide
  have kinds : (zero false).kind ≠ (bool true).kind := by decide
  obtain ⟨comm, trans, -, -, texts, ⟨plus, minus⟩, trees⟩ :=
    same_partial_equivalence (zero true) (zero false) (zero true) l r eq ne
  have differ : (zero false).text ≠ (zero true).text := by
    rw [plus, minus]
    decide
  have zeros : same (zero false) (zero true) = true :=
    (texts rfl (real false) (real true)).2 (.inr ⟨false, rfl, rfl⟩)
  have zeros' : same (zero true) (zero false) = true := comm ▸ zeros
  obtain ⟨equal, -, -, unequal⟩ := trees rfl rfl hl hr
  obtain ⟨-, -, apart, -⟩ := same_partial_equivalence nil (zero false) (bool true) l r eq ne
  rw [zeros] at equal unequal
  exact ⟨⟨hl, hr⟩, ⟨rfl, real false, real true, differ⟩, ⟨zeros', zeros, trans zeros' zeros⟩,
    ⟨equal.trans (if_pos low), unequal.trans (if_pos low)⟩, kinds, apart kinds⟩

end Value

end Reckoner
