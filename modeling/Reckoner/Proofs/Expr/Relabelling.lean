import Reckoner.Proofs.Expr.Walk

namespace Reckoner

/-- A change of tokens that leaves their kinds and payloads as they are. -/
structure Relabels (f : Token → Token) : Prop where
  kind (t : Token) : (f t).kind = t.kind
  payload (t : Token) : (f t).payload = t.payload

def EvalFault.relabel (f deep : Token → Token) : EvalFault → EvalFault
  | operands operator demand => operands (f operator) demand
  | tooDeep blamed => tooDeep (deep blamed)
  | fault => fault

theorem mapError_bind {α β ε ε' : Type} (f : ε → ε') (x : Except ε α) (g : α → Except ε β) :
    (x.bind g).mapError f = (x.mapError f).bind fun a => (g a).mapError f := by
  cases x <;> rfl

section

variable {f : Token → Token} (hf : Relabels f) (deep : Token → Token) (operator : Token)

namespace Value

include hf in
theorem unary_relabel (r : Value) :
    unary (f operator) r = (unary operator r).mapError (EvalFault.relabel f deep) := by
  simp only [unary, hf.kind]
  split <;> rfl

theorem sum_relabel (l r : Value) :
    sum (f operator) l r = (sum operator l r).mapError (EvalFault.relabel f deep) := by
  unfold sum
  split <;> rfl

theorem comparison_relabel (compare : Float → Float → Bool) (l r : Value) :
    comparison (f operator) compare l r =
      (comparison operator compare l r).mapError (EvalFault.relabel f deep) := by
  unfold comparison
  split <;> rfl

theorem arithmetic_relabel {calculate : Float → Float → Except EvalFault Float}
    (total : ∀ x y, ∃ z, calculate x y = .ok z) (l r : Value) :
    arithmetic (f operator) calculate l r =
      (arithmetic operator calculate l r).mapError (EvalFault.relabel f deep) := by
  unfold arithmetic
  split
  next x y =>
    obtain ⟨z, hz⟩ := total x y
    rw [hz]
    rfl
  next => rfl

include hf in
theorem binary_relabel (l r : Value) :
    binary (f operator) l r = (binary operator l r).mapError (EvalFault.relabel f deep) := by
  rw [binary, hf.kind, binary]
  split
  · exact sum_relabel deep operator l r
  · exact arithmetic_relabel deep operator (fun x y => ⟨x - y, rfl⟩) l r
  · exact arithmetic_relabel deep operator (fun x y => ⟨x * y, rfl⟩) l r
  · exact arithmetic_relabel deep operator divide_eq_ok l r
  · exact comparison_relabel deep operator _ l r
  · exact comparison_relabel deep operator _ l r
  · exact comparison_relabel deep operator _ l r
  · exact comparison_relabel deep operator _ l r
  · rfl
  · rfl
  · rfl

end Value

end

namespace Expr

def relabel (f : Token → Token) : Expr → Expr
  | literal kind payload => literal kind payload
  | grouping inner => grouping (inner.relabel f)
  | unary operator right => unary (f operator) (right.relabel f)
  | binary left operator right => binary (left.relabel f) (f operator) (right.relabel f)
  | missing => missing

def outermost? : Expr → Option Token
  | grouping inner => inner.outermost?
  | unary operator _ | binary _ operator _ => some operator
  | literal _ _ | missing => none

theorem outermost_eq (e : Expr) : e.outermost = e.outermost?.getD (Token.endOfInput 1) := by
  induction e with
  | grouping inner ih => exact ih
  | literal | unary | binary | missing => rfl

theorem outermost?_relabel (f : Token → Token) (e : Expr) :
    (e.relabel f).outermost? = e.outermost?.map f := by
  induction e with
  | grouping inner ih => exact ih
  | literal | unary | binary | missing => rfl

theorem height_relabel (f : Token → Token) (e : Expr) : (e.relabel f).height = e.height := by
  induction e with
  | literal | missing => rfl
  | grouping inner ih | unary operator inner ih => simp only [relabel, height, ih]
  | binary left operator right ihl ihr => simp only [relabel, height, ihl, ihr]

theorem literalValue_relabel (f deep : Token → Token) (kind : Kind) (payload : Option Payload) :
    (literalValue kind payload).mapError (EvalFault.relabel f deep) = literalValue kind payload := by
  unfold literalValue
  split <;> rfl

theorem evaluateWithin_relabel {f : Token → Token} (hf : Relabels f) (deep : Token → Token)
    (outer : Token) (depth : Nat) (e : Expr) :
    evaluateWithin (deep outer) depth (e.relabel f) =
      (evaluateWithin outer depth e).mapError (EvalFault.relabel f deep) := by
  induction depth generalizing e with
  | zero => rfl
  | succ depth ih =>
      cases e with
      | literal kind payload => exact (literalValue_relabel f deep kind payload).symm
      | grouping inner => exact ih inner
      | unary operator right =>
          rw [relabel, evaluateWithin_unary, evaluateWithin_unary, mapError_bind, ih]
          simp only [← Value.unary_relabel hf deep]
      | binary left operator right =>
          rw [relabel, evaluateWithin_binary, evaluateWithin_binary, mapError_bind, ih]
          simp only [mapError_bind, ih, ← Value.binary_relabel hf deep]
      | missing => rfl

theorem walk_relabel {f : Token → Token} (hf : Relabels f) (deep : Token → Token) (e : Expr) :
    (e.relabel f).walk = e.walk.mapError (EvalFault.relabel f deep) := by
  have whole := evaluateWithin_relabel hf deep (Token.endOfInput 1) e.height e
  rwa [evaluateWithin_of_height_le (Nat.le_refl _),
    evaluateWithin_of_height_le (Nat.le_of_eq (height_relabel f e))] at whole

/-- The depth is blamed on the outermost operator as it is now, or on a mark if there is none. -/
theorem evaluate_relabel {f : Token → Token} (hf : Relabels f) (e : Expr) :
    (e.relabel f).evaluate = e.evaluate.mapError
      (EvalFault.relabel f fun _ => (e.outermost?.map f).getD (Token.endOfInput 1)) := by
  rw [evaluate, outermost_eq, outermost?_relabel]
  exact evaluateWithin_relabel hf (fun _ => (e.outermost?.map f).getD (Token.endOfInput 1))
    e.outermost depthBudget e

end Expr

end Reckoner
