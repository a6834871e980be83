import Reckoner.Proofs.Grammar.Infix

namespace Reckoner.Grammar

theorem binaryOver_induction {P : Level → Rule Expr → Prop}
    (hchain : ∀ level operand, level.binaries ≠ [] → P level.tighter operand →
      P level (chain level operand))
    {p : Rule Expr} (hp : P .unary p) {level : Level} (hl : level ≠ .primary) :
    P level (binaryOver p level) := by
  have hm : P .multiplication (binaryOver p .multiplication) := hchain _ _ (by decide) hp
  have ha : P .addition (binaryOver p .addition) := hchain _ _ (by decide) hm
  have hc : P .comparison (binaryOver p .comparison) := hchain _ _ (by decide) ha
  cases level with
  | equality => exact hchain _ _ (by decide) hc
  | comparison => exact hc
  | addition => exact ha
  | multiplication => exact hm
  | unary => exact hp
  | primary => exact absurd rfl hl

/-- The induction is on the budget: `P` is about the unary rule under it and `Q` about the inside of
parentheses, which leaves seven units less. -/
theorem unary_induction {P Q : Nat → Rule Expr → Prop}
    (hdepth : ∀ budget < 7, Q budget (fail .depth))
    (hinside : ∀ budget p, P budget p → Q (budget + 7) (binaryOver p .equality))
    (hzero : ∀ inner, Q 0 inner → P 0 (unaryOver (fail .depth) inner))
    (hsucc : ∀ budget nested inner, P budget nested → Q (budget + 1) inner →
      P (budget + 1) (unaryOver nested inner))
    (budget : Nat) : P budget (unary budget) ∧ Q budget (inside budget) := by
  induction budget using Nat.strongRecOn with
  | ind budget ih =>
      have hq : Q budget (inside budget) := by
        by_cases hb : budget < 7
        · rw [inside_of_lt hb]
          exact hdepth budget hb
        · obtain ⟨rest, rfl⟩ := Nat.exists_eq_add_of_le' (Nat.le_of_not_lt hb)
          rw [inside_add_seven]
          exact hinside rest _ (ih rest (by omega)).1
      refine ⟨?_, hq⟩
      cases budget with
      | zero =>
          rw [unary_zero]
          exact hzero _ hq
      | succ budget =>
          rw [unary_succ]
          exact hsucc budget _ _ (ih budget (by omega)).1 hq

end Reckoner.Grammar
