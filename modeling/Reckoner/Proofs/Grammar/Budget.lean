import Reckoner.Proofs.Grammar.Locality

namespace Reckoner.Grammar

variable {α β : Type}

def Shrinks (p : Rule α) : Prop := ∀ s, (p s).2.rest.length ≤ s.rest.length

theorem Local.shrinks {p : Rule α} (hp : Local p) : Shrinks p := fun _ => length_rest_of_local hp rfl

theorem accept_shrinks (kinds : List Kind) : Shrinks (accept kinds) := by
  intro s
  rw [rest_accept, List.length_drop]
  exact Nat.sub_le _ _

theorem Shrinks.bind {p : Rule α} {f : α → Rule β} (hp : Shrinks p) (hf : ∀ a, Shrinks (f a)) :
    Shrinks (p >>= f) := by
  intro s
  have first := hp s
  cases h : p s with
  | mk r s₁ =>
      rw [h] at first
      cases r with
      | ok a =>
          rw [Rule.bind_of_ok h]
          exact Nat.le_trans (hf a s₁) first
      | error fault =>
          rw [Rule.bind_of_error h]
          exact first

theorem extend_shrinks (operators : List Kind) {operand : Rule Expr} (hp : Shrinks operand)
    (pending : List Token) (left : Expr) : Shrinks (extend operators operand pending left) := by
  induction pending generalizing left with
  | nil => exact (pure_local left).shrinks
  | cons _ pending ih =>
      apply (accept_shrinks operators).bind
      intro next
      cases next with
      | none => exact (pure_local left).shrinks
      | some operator => exact hp.bind fun right => ih _

theorem chain_rest_shrinks (level : Level) {operand : Rule Expr} (hp : Shrinks operand)
    (left : Expr) :
    Shrinks (do
      let tree ← fun s => extend level.operators operand s.rest left s
      refuseOperand
      pure tree : Rule Expr) := by
  have loop : Shrinks fun s => extend level.operators operand s.rest left s :=
    fun s => extend_shrinks level.operators hp s.rest left s
  exact loop.bind fun tree => refuseOperand_local.shrinks.bind fun _ => (pure_local tree).shrinks

theorem chain_shrinks (level : Level) {operand : Rule Expr} (hp : Shrinks operand) :
    Shrinks (chain level operand) :=
  hp.bind (chain_rest_shrinks level hp)

/-- `p` does what `q` does, except that it may run out of its budget, no further on than `q` comes. -/
def Truncates (p q : Rule α) : Prop :=
  ∀ s, p s = q s ∨ ∃ s', p s = (.error .depth, s') ∧ (q s).2.rest.length ≤ s'.rest.length

theorem Truncates.refl (p : Rule α) : Truncates p p := fun _ => Or.inl rfl

theorem depth_truncates {q : Rule α} (hq : Shrinks q) : Truncates (fail .depth) q :=
  fun s => Or.inr ⟨s, rfl, hq s⟩

theorem Truncates.bind {p q : Rule α} {f g : α → Rule β} (hp : Truncates p q)
    (hf : ∀ a, Truncates (f a) (g a)) (hg : ∀ a, Shrinks (g a)) :
    Truncates (p >>= f) (q >>= g) := by
  intro s
  rcases hp s with same | ⟨s', deep, further⟩
  · cases hq : q s with
    | mk result s' =>
        rw [hq] at same
        cases result with
        | ok a =>
            rw [Rule.bind_of_ok same, Rule.bind_of_ok hq]
            exact hf a s'
        | error fault =>
            rw [Rule.bind_of_error same, Rule.bind_of_error hq]
            exact Or.inl rfl
  · refine Or.inr ⟨s', Rule.bind_of_error deep, ?_⟩
    cases hq : q s with
    | mk result s'' =>
        rw [hq] at further
        cases result with
        | ok a =>
            rw [Rule.bind_of_ok hq]
            exact Nat.le_trans (hg a s'') further
        | error fault =>
            rw [Rule.bind_of_error hq]
            exact further

theorem Truncates.bind_right (p : Rule α) {f g : α → Rule β} (hf : ∀ a, Truncates (f a) (g a)) :
    Truncates (p >>= f) (p >>= g) := by
  intro s
  cases hp : p s with
  | mk result s' =>
      cases result with
      | ok a =>
          rw [Rule.bind_of_ok hp, Rule.bind_of_ok hp]
          exact hf a s'
      | error fault =>
          rw [Rule.bind_of_error hp, Rule.bind_of_error hp]
          exact Or.inl rfl

theorem extend_truncates (operators : List Kind) {p q : Rule Expr} (h : Truncates p q)
    (hq : Shrinks q) (pending : List Token) (left : Expr) :
    Truncates (extend operators p pending left) (extend operators q pending left) := by
  induction pending generalizing left with
  | nil => exact .refl _
  | cons _ pending ih =>
      apply Truncates.bind_right
      intro next
      cases next with
      | none => exact .refl _
      | some operator =>
          exact h.bind (fun right => ih _) fun right => extend_shrinks operators hq pending _

theorem chain_truncates (level : Level) {p q : Rule Expr} (h : Truncates p q) (hq : Shrinks q) :
    Truncates (chain level p) (chain level q) := by
  apply h.bind _ (chain_rest_shrinks level hq)
  intro left
  apply Truncates.bind
  · exact fun s => extend_truncates level.operators h hq s.rest left s
  · exact fun _ => .refl _
  · exact fun tree => refuseOperand_local.shrinks.bind fun _ => (pure_local tree).shrinks

theorem binaryOver_truncates (level : Level) {p q : Rule Expr} (h : Truncates p q)
    (hq : Shrinks q) : Truncates (binaryOver p level) (binaryOver q level) := by
  have all : ∀ levels : List Level,
      Truncates (levels.foldr chain p) (levels.foldr chain q) ∧ Shrinks (levels.foldr chain q) := by
    intro levels
    induction levels with
    | nil => exact ⟨h, hq⟩
    | cons l ls ih => exact ⟨chain_truncates l ih.1 ih.2, chain_shrinks l ih.2⟩
  exact (all level.binaries).1

theorem primaryOver_truncates {p q : Rule Expr} (h : Truncates p q) :
    Truncates (primaryOver p) (primaryOver q) := by
  apply Truncates.bind_right
  intro next
  cases next with
  | none => exact .refl _
  | some t =>
      dsimp only
      split
      · exact .refl _
      · split
        · refine Truncates.bind_right take fun _ => h.bind (fun _ => .refl _) fun tree => ?_
          exact (expect_local (by decide) _).shrinks.bind fun _ => (pure_local _).shrinks
        · exact .refl _

theorem unaryOver_truncates {p q p' q' : Rule Expr} (h : Truncates p q) (h' : Truncates p' q') :
    Truncates (unaryOver p p') (unaryOver q q') := by
  apply Truncates.bind_right
  intro next
  cases next with
  | none => exact primaryOver_truncates h'
  | some operator => exact h.bind (fun _ => .refl _) fun right => (pure_local _).shrinks

theorem unary_truncates {small large : Nat} (h : small ≤ large) :
    Truncates (unary small) (unary large) ∧ Truncates (inside small) (inside large) := by
  have all := unary_induction
    (P := fun budget p => ∀ large, budget ≤ large → Truncates p (unary large))
    (Q := fun budget p => ∀ large, budget ≤ large → Truncates p (inside large))
    (fun _ _ large _ => depth_truncates (unary_local large).2.shrinks) ?_ ?_ ?_ small
  · exact ⟨all.1 large h, all.2 large h⟩
  · intro budget p hp large hb
    obtain ⟨rest, rfl⟩ := Nat.exists_eq_add_of_le' (Nat.le_trans (Nat.le_add_left 7 budget) hb)
    exact binaryOver_truncates .equality (hp rest (by omega)) (unary_local rest).1.shrinks
  · intro inner hi large _
    cases large with
    | zero =>
        rw [unary_zero]
        exact unaryOver_truncates (.refl _) (hi 0 (Nat.le_refl 0))
    | succ large =>
        rw [unary_succ]
        have nested : Truncates (fail .depth) (unary large) :=
          depth_truncates (unary_local large).1.shrinks
        exact unaryOver_truncates nested (hi (large + 1) (Nat.zero_le _))
  · intro budget nested inner hn hi large hb
    obtain ⟨large, rfl⟩ := Nat.exists_eq_add_of_le' (Nat.le_trans (Nat.succ_pos budget) hb)
    rw [unary_succ]
    exact unaryOver_truncates (hn large (by omega)) (hi (large + 1) hb)

theorem read_truncates {small large : Nat} (h : small ≤ large) (level : Level) :
    Truncates (read small level) (read large level) := by
  obtain ⟨hu, hi⟩ := unary_truncates h
  cases level with
  | primary => exact primaryOver_truncates hi
  | equality | comparison | addition | multiplication | unary =>
      exact binaryOver_truncates _ hu (unary_local large).1.shrinks

theorem readAll_truncates {small large : Nat} (h : small ≤ large) (s : State) :
    readAll small s = readAll large s ∨
      ∃ t s', readAll small s = (.error (.refused t .tooDeep), s') := by
  rcases read_truncates h .equality s with hr | ⟨s', hr, -⟩
  · left
    unfold readAll
    rw [hr]
  · right
    unfold readAll
    rw [hr]
    exact refuse_peek_tooDeep s'

variable {toll budget : Nat}

end Reckoner.Grammar
