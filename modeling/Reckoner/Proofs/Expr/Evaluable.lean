import Reckoner.Expr.Evaluation
import Reckoner.Proofs.Grammar.Infix

namespace Reckoner

namespace Value

def unaryOperators : List Kind := [.minus, .bang]

def binaryOperators : List Kind :=
  [.plus, .minus, .star, .slash, .greater, .greaterEqual, .less, .lessEqual, .equalEqual,
    .bangEqual]

theorem divide_eq_ok (x y : Float) : ∃ z, divide x y = .ok z := by
  unfold divide
  by_cases zero : y == 0
  · by_cases none : x == 0 || x.isNaN
    · exact ⟨_, by simp only [bne, zero, none]; rfl⟩
    · exact ⟨_, by simp only [bne, zero, none]; rfl⟩
  · exact ⟨x / y, by simp [bne, zero, quotient]⟩

theorem arithmetic_blames {operator : Token} {f : Float → Float → Except EvalFault Float}
    (hf : ∀ x y, ∃ z, f x y = .ok z) {l r : Value} {fault : EvalFault}
    (h : arithmetic operator f l r = .error fault) : fault = .operands operator .numbers := by
  unfold arithmetic at h
  split at h
  · rename_i x y
    obtain ⟨z, hz⟩ := hf x y
    simp [hz, Except.map] at h
  · exact (Except.error.inj h).symm

theorem comparison_blames {operator : Token} {f : Float → Float → Bool} {l r : Value}
    {fault : EvalFault} (h : comparison operator f l r = .error fault) :
    fault = .operands operator .numbers := by
  unfold comparison at h
  split at h
  · simp at h
  · exact (Except.error.inj h).symm

theorem sum_blames {operator : Token} {l r : Value} {fault : EvalFault}
    (h : sum operator l r = .error fault) : fault = .operands operator .numbersOrStrings := by
  unfold sum at h
  split at h
  · simp at h
  · simp at h
  · exact (Except.error.inj h).symm

theorem unary_blames {operator : Token} (ho : operator.kind ∈ unaryOperators) {r : Value}
    {fault : EvalFault} (h : unary operator r = .error fault) :
    ∃ demand, fault = .operands operator demand := by
  simp only [unaryOperators, List.mem_cons, List.not_mem_nil, or_false] at ho
  rcases ho with hk | hk <;> cases r <;>
    simp only [unary, hk, Except.error.injEq, reduceCtorEq] at h <;> exact ⟨_, h.symm⟩

theorem binary_blames {operator : Token} (ho : operator.kind ∈ binaryOperators) {l r : Value}
    {fault : EvalFault} (h : binary operator l r = .error fault) :
    ∃ demand, fault = .operands operator demand := by
  simp only [binaryOperators, List.mem_cons, List.not_mem_nil, or_false] at ho
  rcases ho with hk | hk | hk | hk | hk | hk | hk | hk | hk | hk <;> simp only [binary, hk] at h
  · exact ⟨_, sum_blames h⟩
  · exact ⟨_, arithmetic_blames (fun x y => ⟨x - y, rfl⟩) h⟩
  · exact ⟨_, arithmetic_blames (fun x y => ⟨x * y, rfl⟩) h⟩
  · exact ⟨_, arithmetic_blames divide_eq_ok h⟩
  · exact ⟨_, comparison_blames h⟩
  · exact ⟨_, comparison_blames h⟩
  · exact ⟨_, comparison_blames h⟩
  · exact ⟨_, comparison_blames h⟩
  · simp at h
  · simp at h

end Value

namespace Expr

/-- Every literal has a value, and every operator is a unary or binary one as it should be. -/
def Evaluable : Expr → Prop
  | literal kind payload => ∃ v, literalValue kind payload = .ok v
  | grouping inner => inner.Evaluable
  | unary operator right => operator.kind ∈ Value.unaryOperators ∧ right.Evaluable
  | binary left operator right =>
      operator.kind ∈ Value.binaryOperators ∧ left.Evaluable ∧ right.Evaluable
  | missing => False

/-- Where a tree can be evaluated, an evaluation that fails has run out of levels or come to an
operator of the tree with the wrong operands. -/
theorem evaluateWithin_fails {outer : Token} {depth : Nat} {e : Expr} {fault : EvalFault}
    (he : e.Evaluable) (h : evaluateWithin outer depth e = .error fault) :
    fault = .tooDeep outer ∨
      ∃ operator demand, fault = .operands operator demand ∧ .operator operator ∈ e.pieces := by
  induction depth generalizing e fault with
  | zero => exact Or.inl (Except.error.inj h).symm
  | succ depth ih =>
      have within {part : Expr} (hp : part.Evaluable) (sub : part.pieces ⊆ e.pieces)
          (hf : evaluateWithin outer depth part = .error fault) :
          fault = .tooDeep outer ∨
            ∃ operator demand, fault = .operands operator demand ∧ .operator operator ∈ e.pieces := by
        rcases ih hp hf with deep | ⟨operator, demand, blamed, hm⟩
        · exact Or.inl deep
        · exact Or.inr ⟨operator, demand, blamed, sub hm⟩
      cases e with
      | literal kind payload =>
          obtain ⟨v, hv⟩ := he
          simp [evaluateWithin, hv] at h
      | grouping inner =>
          have hi : inner.Evaluable := he
          exact within hi (by simp [pieces]) h
      | unary operator right =>
          simp only [evaluateWithin] at h
          split at h
          next cause hr =>
            obtain rfl := Except.error.inj h
            exact within he.2 (by simp [pieces]) hr
          next r hr =>
            obtain ⟨demand, rfl⟩ := Value.unary_blames he.1 h
            exact Or.inr ⟨operator, demand, rfl, by simp [pieces]⟩
      | binary left operator right =>
          simp only [evaluateWithin] at h
          split at h
          next cause hl =>
            obtain rfl := Except.error.inj h
            exact within he.2.1 (by simp [pieces]) hl
          next l hl =>
            split at h
            next cause hr =>
              obtain rfl := Except.error.inj h
              refine within he.2.2 ?_ hr
              exact fun p hp => List.mem_append_right _ (List.mem_cons_of_mem _ hp)
            next r hr =>
              obtain ⟨demand, rfl⟩ := Value.binary_blames he.1 h
              exact Or.inr ⟨operator, demand, rfl, by simp [pieces]⟩
      | missing => exact he.elim

theorem evaluate_blames {e : Expr} (he : e.Evaluable) {fault : EvalFault}
    (h : e.evaluate = .error fault) : ∃ blamed, fault.blame? = some blamed := by
  rcases evaluateWithin_fails he h with rfl | ⟨operator, demand, rfl, -⟩
  · exact ⟨_, rfl⟩
  · exact ⟨_, rfl⟩

end Expr

end Reckoner
