import Reckoner.Proofs.Expr.Evaluable

namespace Reckoner

namespace Value

theorem unary_ne_tooDeep (operator blamed : Token) (r : Value) :
    unary operator r ≠ .error (.tooDeep blamed) := by
  unfold unary
  split <;> simp

theorem binary_ne_tooDeep (operator blamed : Token) (l r : Value) :
    binary operator l r ≠ .error (.tooDeep blamed) := by
  intro h
  have other {demand : Demand} : EvalFault.tooDeep blamed ≠ .operands operator demand := by simp
  unfold binary at h
  split at h
  · exact other (sum_blames h)
  · exact other (arithmetic_blames (fun x y => ⟨x - y, rfl⟩) h)
  · exact other (arithmetic_blames (fun x y => ⟨x * y, rfl⟩) h)
  · exact other (arithmetic_blames divide_eq_ok h)
  · exact other (comparison_blames h)
  · exact other (comparison_blames h)
  · exact other (comparison_blames h)
  · exact other (comparison_blames h)
  · simp at h
  · simp at h
  · simp at h

end Value

namespace Expr

/-- The levels that a walk over a tree opens inside each other. -/
def height : Expr → Nat
  | literal _ _ | missing => 1
  | grouping inner => inner.height + 1
  | unary _ right => right.height + 1
  | binary left _ right => max left.height right.height + 1

def walk : Expr → Except EvalFault Value
  | literal kind payload => literalValue kind payload
  | grouping inner => inner.walk
  | unary operator right => right.walk.bind (Value.unary operator)
  | binary left operator right =>
      left.walk.bind fun l => right.walk.bind fun r => Value.binary operator l r
  | missing => .error .missingNode

theorem literalValue_ne_tooDeep (kind : Kind) (payload : Option Payload) (blamed : Token) :
    literalValue kind payload ≠ .error (.tooDeep blamed) := by
  unfold literalValue
  split <;> simp

section Bind

variable {ε α β : Type} {x y : Except ε α} {f g : α → Except ε β} {fault : ε}

theorem bind_ne_error (hx : x ≠ .error fault) (hf : ∀ a, f a ≠ .error fault) :
    x.bind f ≠ .error fault := by
  cases x with
  | error cause =>
      intro h
      exact hx (congrArg Except.error (Except.error.inj h))
  | ok a => exact hf a

theorem bind_eq_ok {b : β} (h : x.bind f = .ok b) : ∃ a, x = .ok a ∧ f a = .ok b := by
  cases x with
  | error fault => simp [Except.bind] at h
  | ok a => exact ⟨a, rfl, h⟩

/-- An outcome is the one without a budget, or the fault that tells of the budget. -/
def Guarded (deep : ε) (x y : Except ε α) : Prop := x = y ∨ x = .error deep

theorem Guarded.refl (deep : ε) (x : Except ε α) : Guarded deep x x := Or.inl rfl

theorem Guarded.bind {deep : ε} (hx : Guarded deep x y) (hf : ∀ a, Guarded deep (f a) (g a)) :
    Guarded deep (x.bind f) (y.bind g) := by
  rcases hx with rfl | rfl
  · cases x with
    | error fault => exact .refl deep _
    | ok a => exact hf a
  · exact Or.inr rfl

theorem Guarded.map {deep : ε} (hx : Guarded deep x y) (f : α → β) :
    Guarded deep (x.map f) (y.map f) := by
  rcases hx with rfl | rfl
  · exact .refl deep _
  · exact Or.inr rfl

end Bind

theorem walk_ne_tooDeep (e : Expr) (blamed : Token) : e.walk ≠ .error (.tooDeep blamed) := by
  induction e with
  | literal kind payload => exact literalValue_ne_tooDeep kind payload blamed
  | grouping inner ih => exact ih
  | unary operator right ih => exact bind_ne_error ih (Value.unary_ne_tooDeep operator blamed)
  | binary left operator right ihl ihr =>
      exact bind_ne_error ihl fun l =>
        bind_ne_error ihr fun r => Value.binary_ne_tooDeep operator blamed l r
  | missing => simp [walk]

theorem evaluateWithin_unary (outer : Token) (depth : Nat) (operator : Token) (right : Expr) :
    evaluateWithin outer (depth + 1) (unary operator right) =
      (evaluateWithin outer depth right).bind (Value.unary operator) := by
  rw [evaluateWithin]
  cases evaluateWithin outer depth right <;> rfl

theorem evaluateWithin_binary (outer : Token) (depth : Nat) (left : Expr) (operator : Token)
    (right : Expr) :
    evaluateWithin outer (depth + 1) (binary left operator right) =
      (evaluateWithin outer depth left).bind fun l =>
        (evaluateWithin outer depth right).bind fun r => Value.binary operator l r := by
  rw [evaluateWithin]
  cases evaluateWithin outer depth left with
  | error fault => rfl
  | ok l => cases evaluateWithin outer depth right <;> rfl

theorem evaluateWithin_eq_walk_or (outer : Token) (depth : Nat) (e : Expr) :
    evaluateWithin outer depth e = e.walk ∨
      evaluateWithin outer depth e = .error (.tooDeep outer) := by
  change Guarded (EvalFault.tooDeep outer) _ _
  induction depth generalizing e with
  | zero => exact Or.inr rfl
  | succ depth ih =>
      cases e with
      | literal | missing => exact .refl _ _
      | grouping inner => exact ih inner
      | unary operator right =>
          rw [evaluateWithin_unary, walk]
          exact (ih right).bind fun r => .refl _ _
      | binary left operator right =>
          rw [evaluateWithin_binary, walk]
          exact (ih left).bind fun l => (ih right).bind fun r => .refl _ _

theorem evaluate_of_shallow {e : Expr} (h : e.evaluate ≠ .error (.tooDeep e.outermost)) :
    e.evaluate = e.walk :=
  (evaluateWithin_eq_walk_or e.outermost depthBudget e).resolve_right h

variable {outer : Token} {depth : Nat} {e : Expr}

theorem evaluateWithin_of_height_le (h : e.height ≤ depth) :
    evaluateWithin outer depth e = e.walk := by
  induction depth generalizing e with
  | zero => cases e <;> simp [height] at h
  | succ depth ih =>
      cases e with
      | literal | missing => rfl
      | grouping inner => exact ih (Nat.le_of_succ_le_succ h)
      | unary operator right =>
          rw [evaluateWithin_unary, walk, ih (Nat.le_of_succ_le_succ h)]
      | binary left operator right =>
          obtain ⟨hl, hr⟩ := Nat.max_le.1 (Nat.le_of_succ_le_succ h)
          rw [evaluateWithin_binary, walk, ih hl, ih hr]

theorem height_le_of_evaluateWithin {v : Value} (h : evaluateWithin outer depth e = .ok v) :
    e.height ≤ depth := by
  induction depth generalizing e v with
  | zero => simp [evaluateWithin] at h
  | succ depth ih =>
      cases e with
      | literal => exact Nat.succ_le_succ (Nat.zero_le depth)
      | missing => simp [evaluateWithin] at h
      | grouping inner => exact Nat.succ_le_succ (ih h)
      | unary operator right =>
          rw [evaluateWithin_unary] at h
          obtain ⟨r, hr, -⟩ := bind_eq_ok h
          exact Nat.succ_le_succ (ih hr)
      | binary left operator right =>
          rw [evaluateWithin_binary] at h
          obtain ⟨l, hl, h⟩ := bind_eq_ok h
          obtain ⟨r, hr, -⟩ := bind_eq_ok h
          exact Nat.succ_le_succ (Nat.max_le.2 ⟨ih hl, ih hr⟩)

end Expr

end Reckoner
