import Reckoner.Expr.Rendering
import Reckoner.Proofs.Expr.Walk

namespace Reckoner.Expr

def writing : Expr → Except RenderFault String
  | literal kind payload => literalText kind payload
  | grouping inner => inner.writing.map fun s => "(group " ++ s ++ ")"
  | unary operator right =>
      right.writing.map fun s => "(" ++ operator.lexeme ++ " " ++ s ++ ")"
  | binary left operator right =>
      left.writing.bind fun l => right.writing.map fun r =>
        "(" ++ operator.lexeme ++ " " ++ l ++ " " ++ r ++ ")"
  | missing => .error .missingNode

/-- Every literal has a text and no place is empty. -/
def Printable : Expr → Prop
  | literal kind payload => ∃ text, literalText kind payload = .ok text
  | grouping inner => inner.Printable
  | unary _ right => right.Printable
  | binary left _ right => left.Printable ∧ right.Printable
  | missing => False

theorem literalText_of_literalValue {kind : Kind} {payload : Option Payload} {v : Value}
    (h : literalValue kind payload = .ok v) : ∃ text, literalText kind payload = .ok text := by
  unfold literalValue at h
  split at h
  · exact ⟨_, rfl⟩
  · exact ⟨_, rfl⟩
  · exact ⟨_, rfl⟩
  · exact ⟨_, rfl⟩
  · exact ⟨_, rfl⟩
  all_goals simp at h

theorem Evaluable.printable {e : Expr} (he : e.Evaluable) : e.Printable := by
  induction e with
  | literal kind payload =>
      obtain ⟨v, hv⟩ := he
      exact literalText_of_literalValue hv
  | grouping inner ih => exact ih he
  | unary operator right ih => exact ih he.2
  | binary left operator right ihl ihr => exact ⟨ihl he.2.1, ihr he.2.2⟩
  | missing => exact he

theorem Printable.writing {e : Expr} (he : e.Printable) : ∃ text, e.writing = .ok text := by
  induction e with
  | literal kind payload => exact he
  | grouping inner ih =>
      obtain ⟨s, hs⟩ := ih he
      exact ⟨_, by rw [Expr.writing, hs]; rfl⟩
  | unary operator right ih =>
      obtain ⟨s, hs⟩ := ih he
      exact ⟨_, by rw [Expr.writing, hs]; rfl⟩
  | binary left operator right ihl ihr =>
      obtain ⟨l, hl⟩ := ihl he.1
      obtain ⟨r, hr⟩ := ihr he.2
      exact ⟨_, by rw [Expr.writing, hl, hr]; rfl⟩
  | missing => exact he.elim

theorem renderWithin_grouping (depth : Nat) (inner : Expr) :
    renderWithin (depth + 1) (grouping inner) =
      (renderWithin depth inner).map fun s => "(group " ++ s ++ ")" := by
  rw [renderWithin]
  cases renderWithin depth inner <;> rfl

theorem renderWithin_unary (depth : Nat) (operator : Token) (right : Expr) :
    renderWithin (depth + 1) (unary operator right) =
      (renderWithin depth right).map fun s => "(" ++ operator.lexeme ++ " " ++ s ++ ")" := by
  rw [renderWithin]
  cases renderWithin depth right <;> rfl

theorem renderWithin_binary (depth : Nat) (left : Expr) (operator : Token) (right : Expr) :
    renderWithin (depth + 1) (binary left operator right) =
      (renderWithin depth left).bind fun l => (renderWithin depth right).map fun r =>
        "(" ++ operator.lexeme ++ " " ++ l ++ " " ++ r ++ ")" := by
  rw [renderWithin]
  cases renderWithin depth left with
  | error fault => rfl
  | ok l => cases renderWithin depth right <;> rfl

theorem renderWithin_eq_writing_or (depth : Nat) (e : Expr) :
    renderWithin depth e = e.writing ∨ renderWithin depth e = .error .tooDeep := by
  change Guarded RenderFault.tooDeep _ _
  induction depth generalizing e with
  | zero => exact Or.inr rfl
  | succ depth ih =>
      cases e with
      | literal | missing => exact .refl _ _
      | grouping inner =>
          rw [renderWithin_grouping, writing]
          exact (ih inner).map _
      | unary operator right =>
          rw [renderWithin_unary, writing]
          exact (ih right).map _
      | binary left operator right =>
          rw [renderWithin_binary, writing]
          exact (ih left).bind fun l => (ih right).map _

variable {depth : Nat} {e : Expr}

theorem renderWithin_of_height_le (h : e.height ≤ depth) : renderWithin depth e = e.writing := by
  induction depth generalizing e with
  | zero => cases e <;> simp [height] at h
  | succ depth ih =>
      cases e with
      | literal | missing => rfl
      | grouping inner =>
          rw [renderWithin_grouping, writing, ih (Nat.le_of_succ_le_succ h)]
      | unary operator right =>
          rw [renderWithin_unary, writing, ih (Nat.le_of_succ_le_succ h)]
      | binary left operator right =>
          obtain ⟨hl, hr⟩ := Nat.max_le.1 (Nat.le_of_succ_le_succ h)
          rw [renderWithin_binary, writing, ih hl, ih hr]

/-- Nothing but the depth is in the way of a rendering then, whichever operand is the tall one. -/
theorem renderWithin_of_tall (he : e.Printable) (h : depth < e.height) :
    renderWithin depth e = .error .tooDeep := by
  induction depth generalizing e with
  | zero => rfl
  | succ depth ih =>
      cases e with
      | literal | missing => exact absurd (Nat.lt_of_succ_lt_succ h) (Nat.not_lt_zero depth)
      | grouping inner =>
          have hi : inner.Printable := he
          rw [renderWithin_grouping, ih hi (Nat.lt_of_succ_lt_succ h)]
          rfl
      | unary operator right =>
          have hr : right.Printable := he
          rw [renderWithin_unary, ih hr (Nat.lt_of_succ_lt_succ h)]
          rfl
      | binary left operator right =>
          rw [renderWithin_binary]
          have tall : depth < max left.height right.height := Nat.lt_of_succ_lt_succ h
          have either : depth < left.height ∨ depth < right.height := by omega
          rcases either with hl | hr
          · rw [ih he.1 hl]
            rfl
          · obtain ⟨l, hl⟩ := he.1.writing
            rw [ih he.2 hr]
            rcases renderWithin_eq_writing_or depth left with whole | deep
            · rw [whole, hl]
              rfl
            · rw [deep]
              rfl

theorem renderWithin_of_evaluable (depth : Nat) (he : e.Evaluable) :
    (e.height ≤ depth ∧ ∃ text, renderWithin depth e = .ok text) ∨
      (depth < e.height ∧ renderWithin depth e = .error .tooDeep) := by
  rcases Nat.lt_or_ge depth e.height with tall | low
  · exact Or.inr ⟨tall, renderWithin_of_tall he.printable tall⟩
  · obtain ⟨text, ht⟩ := he.printable.writing
    exact Or.inl ⟨low, text, (renderWithin_of_height_le low).trans ht⟩

end Reckoner.Expr
