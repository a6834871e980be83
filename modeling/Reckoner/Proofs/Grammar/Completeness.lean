import Reckoner.Proofs.Grammar.Budget
import Reckoner.Proofs.Grammar.Infix
import Reckoner.Proofs.Grammar.Moves

namespace Reckoner.Grammar

/-- A rule reads a tree wherever tokens spell it and what follows them cannot continue it. -/
def Completes (level : Level) (p : Rule Expr) (e : Expr) : Prop :=
  ∀ s ts tail, e.Spelled ts → s.rest = ts ++ tail → level.Stops tail →
    ∃ s', p s = (.ok e, s') ∧ Moves s ts s'

/-- A rule reads all trees from a level on whose cost, with a toll, is within a budget. -/
def Complete (level : Level) (toll budget : Nat) (p : Rule Expr) : Prop :=
  ∀ e, e.Obeys level → e.cost + toll ≤ budget → Completes level p e

theorem complete_of_lt {toll budget : Nat} (h : budget < toll) (level : Level) (p : Rule Expr) :
    Complete level toll budget p := by
  intro e _ hc
  omega

theorem extend_reaches {level : Level} {operand : Rule Expr} {budget : Nat}
    (hl : level.binaries ≠ []) (hp : Complete level.tighter 0 budget operand) {e : Expr}
    (ho : e.Obeys level) (hc : e.cost ≤ budget) {s : State} {ts tail : List Token}
    (hs : e.Spelled ts) (hr : s.rest = ts ++ tail) (ht : level.tighter.Stops tail) :
    ∃ first s₀ pending s₁, operand s = (.ok first, s₀) ∧ Moves s ts s₁ ∧
      s₁.rest.length ≤ pending.length ∧
      extend level.operators operand s₀.rest first s₀ =
        extend level.operators operand pending e s₁ := by
  -- down the left operands to the first one, since the loop builds the tree from there upwards
  rcases ho.cases_binary hl with ⟨left, operator, right, rfl, hk, hol, hor⟩ | htight
  · obtain ⟨us, vs, rfl, hsl, hsr⟩ := hs.of_binary
    have hcost : left.cost ≤ budget ∧ right.cost ≤ budget := by
      simp only [Expr.cost] at hc
      omega
    rw [List.append_assoc, List.cons_append] at hr
    obtain ⟨first, s₀, pending, s₁, h₀, hm₁, hn, he⟩ :=
      extend_reaches hl hp hol hcost.1 hsl hr (Level.tighter_stops hl hk)
    have hr₁ := hm₁.rest_eq hr
    obtain ⟨s₂, ha, hm₂⟩ := accept_of_cons hr₁ hk
    have hr₂ : s₂.rest = vs ++ tail := hm₂.rest_eq hr₁
    obtain ⟨s₃, h₃, hm₃⟩ := hp right hor hcost.2 s₂ vs tail hsr hr₂ ht
    have hr₃ : s₃.rest = tail := hm₃.rest_eq hr₂
    cases pending with
    | nil => simp [hr₁] at hn
    | cons u pending =>
        refine ⟨first, s₀, pending, s₃, h₀, ?_, ?_, ?_⟩
        · simpa using hm₁.trans (hm₂.trans hm₃)
        · rw [hr₁] at hn
          simp only [List.length_cons, List.length_append] at hn
          rw [hr₃]
          omega
        · rw [he]
          refine (Rule.bind_of_ok ha).trans ?_
          exact Rule.bind_of_ok h₃
  · obtain ⟨s₀, h₀, hm₀⟩ := hp e htight hc s ts tail hs hr ht
    exact ⟨e, s₀, s₀.rest, s₀, h₀, hm₀, Nat.le_refl _, rfl⟩

theorem chain_complete {level : Level} {operand : Rule Expr} {budget : Nat}
    (hl : level.binaries ≠ []) (hp : Complete level.tighter 0 budget operand) :
    Complete level 0 budget (chain level operand) := by
  intro e ho hc s ts tail hs hr ht
  obtain ⟨first, s₀, pending, s₁, h₀, hm₁, -, he⟩ :=
    extend_reaches hl hp ho hc hs hr (ht.tighter hl)
  have hr₁ : s₁.rest = tail := hm₁.rest_eq hr
  have hk : ∀ t ∈ s₁.rest.head?, t.kind ∉ level.operators := by
    rw [hr₁]
    exact ht.not_mem hl
  obtain ⟨s₂, h₂, hm₂⟩ := extend_stops operand pending e hk
  have hstart : ∀ t ∈ s₂.rest.head?, t.kind.startsOperand = false := by
    have hr₂ : s₁.rest = s₂.rest := hm₂.rest
    rw [← hr₂, hr₁]
    exact fun t hmem => (ht t hmem).2 hl
  obtain ⟨s₃, h₃, hm₃⟩ := refuseOperand_of_forall hstart
  refine ⟨s₃, ?_, (hm₁.trans_nil hm₂).trans_nil hm₃⟩
  refine (Rule.bind_of_ok h₀).trans ?_
  refine (Rule.bind_of_ok (he.trans h₂)).trans ?_
  exact Rule.bind_of_ok h₃

theorem binaryOver_complete {p : Rule Expr} {budget : Nat} (hp : Complete .unary 0 budget p)
    {level : Level} (hl : level ≠ .primary) : Complete level 0 budget (binaryOver p level) :=
  binaryOver_induction (P := fun level => Complete level 0 budget)
    (fun _ _ hl hp => chain_complete hl hp) hp hl

theorem primaryOver_complete {inner : Rule Expr} {budget : Nat}
    (hi : Complete .equality 7 budget inner) : Complete .primary 0 budget (primaryOver inner) := by
  intro e ho hc s ts tail hs hr _
  obtain ⟨s₁, hp, hm₁⟩ := peek_moves s
  cases e with
  | literal kind payload =>
      obtain ⟨t, rfl, rfl, rfl⟩ := hs.of_literal
      have hr₁ : s₁.rest = t :: tail := by rw [hm₁.rest_nil, hr]; rfl
      obtain ⟨s₂, ht, hm₂⟩ := take_of_cons hr₁
      refine ⟨s₂, (Rule.bind_of_ok hp).trans ?_, hm₁.trans hm₂⟩
      rw [hr]
      simp only [List.cons_append, List.head?_cons, ho.1, if_true]
      refine (Rule.bind_of_ok ht).trans ?_
      rw [Expr.ofToken_of_isLiteral ho.1 ho.2]
      rfl
  | grouping inner' =>
      obtain ⟨opening, us, closing, rfl, hopen, hsi, hclose⟩ := hs.of_grouping
      have hr₁ : s₁.rest = opening :: (us ++ closing :: tail) := by
        rw [hm₁.rest_nil, hr]
        simp
      obtain ⟨s₂, ht, hm₂⟩ := take_of_cons hr₁
      have hr₂ : s₂.rest = us ++ closing :: tail := hm₂.rest_eq hr₁
      obtain ⟨s₃, h₃, hm₃⟩ := hi inner' ho hc s₂ us (closing :: tail) hsi hr₂
        (Level.stops_of_closing _ (by simp [hclose]))
      obtain ⟨s₄, h₄, hm₄⟩ := expect_of_cons .expectedClosing (hm₃.rest_eq hr₂) hclose
      refine ⟨s₄, (Rule.bind_of_ok hp).trans ?_, hm₁.trans (hm₂.trans (hm₃.trans hm₄))⟩
      rw [hr]
      simp only [List.cons_append, List.head?_cons, hopen]
      refine (Rule.bind_of_ok ht).trans ?_
      refine (Rule.bind_of_ok h₃).trans ?_
      exact Rule.bind_of_ok h₄
  | unary => exact absurd rfl ho.1
  | binary =>
      obtain ⟨l, hm, -⟩ := ho
      exact absurd hm List.not_mem_nil
  | missing => exact ho.elim

theorem unaryOver_complete {nested inner : Rule Expr} {budget : Nat}
    (hn : Complete .unary 1 budget nested) (hi : Complete .equality 7 budget inner) :
    Complete .unary 0 budget (unaryOver nested inner) := by
  intro e ho hc s ts tail hs hr ht
  -- no literal and no parenthesis is taken for a unary operator
  have primary (ho : e.Obeys .primary) (hk : ∀ t ∈ s.rest.head?, t.kind ∉ Level.unary.operators) :
      ∃ s', unaryOver nested inner s = (.ok e, s') ∧ Moves s ts s' := by
    obtain ⟨s₁, ha, hm₁⟩ := accept_of_forall hk
    have hr₁ : s₁.rest = ts ++ tail := hm₁.rest_nil.trans hr
    obtain ⟨s₂, h₂, hm₂⟩ := primaryOver_complete hi e ho hc s₁ ts tail hs hr₁
      (Level.stops_of_binaries rfl tail)
    exact ⟨s₂, (Rule.bind_of_ok ha).trans h₂, hm₁.trans hm₂⟩
  cases e with
  | literal kind payload =>
      obtain ⟨t, rfl, rfl, rfl⟩ := hs.of_literal
      apply primary ho
      have hnot : ∀ k : Kind, k.isLiteral = true → k ∉ Level.unary.operators := by
        intro k hk
        cases k <;> simp [Kind.isLiteral] at hk <;> decide
      simpa [hr] using hnot _ ho.1
  | grouping inner' =>
      obtain ⟨opening, us, closing, rfl, hopen, -, -⟩ := hs.of_grouping
      apply primary ho
      simp only [hr, List.cons_append, List.head?_cons, Option.mem_def, Option.some.injEq,
        forall_eq', hopen]
      decide
  | unary operator right =>
      obtain ⟨us, rfl, hsr⟩ := hs.of_unary
      obtain ⟨s₁, ha, hm₁⟩ := accept_of_cons hr ho.2.1
      have hr₁ : s₁.rest = us ++ tail := hm₁.rest_eq hr
      obtain ⟨s₂, h₂, hm₂⟩ := hn right ho.2.2 hc s₁ us tail hsr hr₁ ht
      refine ⟨s₂, ?_, hm₁.trans hm₂⟩
      refine (Rule.bind_of_ok ha).trans ?_
      exact Rule.bind_of_ok h₂
  | binary =>
      obtain ⟨l, hm, -⟩ := ho
      exact absurd hm List.not_mem_nil
  | missing => exact ho.elim

theorem unary_complete (budget : Nat) :
    Complete .unary 0 budget (unary budget) ∧ Complete .equality 7 budget (inside budget) := by
  apply unary_induction (P := Complete .unary 0) (Q := Complete .equality 7)
  · exact fun _ hb => complete_of_lt hb _ _
  · intro budget p hp e ho hc
    exact binaryOver_complete hp (by decide) e ho (by omega)
  · exact fun inner hi => unaryOver_complete (complete_of_lt Nat.one_pos _ _) hi
  · intro budget nested inner hn hi
    apply unaryOver_complete _ hi
    intro e ho hc
    exact hn e ho (by omega)

theorem readAll_complete {budget : Nat} {e : Expr} (ho : e.Obeys .equality)
    (hc : e.cost ≤ budget) {s : State} {ts tail : List Token} (hs : e.Spelled ts)
    (hr : s.rest = ts ++ tail) (hend : ∀ t ∈ tail.head?, t.kind = .endOfInput) :
    ∃ s', readAll budget s = (.ok e, s') ∧ Moves s ts s' := by
  have hstop := Level.stops_of_closing .equality fun t ht => Or.inl (hend t ht)
  obtain ⟨s₁, h₁, hm₁⟩ := binaryOver_complete (unary_complete budget).1 (by decide)
    e ho hc s ts tail hs hr hstop
  obtain ⟨s₂, hp, hm₂⟩ := peek_moves s₁
  refine ⟨s₂, ?_, hm₁.trans_nil hm₂⟩
  have hread : read budget .equality s = (.ok e, s₁) := h₁
  unfold readAll
  rw [hread]
  refine (Rule.bind_of_ok hp).trans ?_
  rw [hm₁.rest_eq hr]
  cases hn : tail.head? with
  | none => rfl
  | some t =>
      have hk : t.kind = .endOfInput := hend t hn
      simp [hk, Rule.pure_apply]

theorem Spelled.unique {e e' : Expr} {ts : List Token} (ho : e.Obeys .equality)
    (ho' : e'.Obeys .equality) (hs : e.Spelled ts) (hs' : e'.Spelled ts) : e' = e := by
  have hr : (State.start ts []).rest = ts ++ [] := by simp [State.start, State.rest]
  obtain ⟨s₁, h₁, -⟩ := readAll_complete ho (Nat.le_max_left e.cost e'.cost) hs hr (by simp)
  obtain ⟨s₂, h₂, -⟩ := readAll_complete ho' (Nat.le_max_right e.cost e'.cost) hs' hr (by simp)
  rw [h₁] at h₂
  simp only [Prod.mk.injEq, Except.ok.injEq] at h₂
  exact h₂.1.symm

/-- Tokens that spell a tree which obeys precedence, with nothing behind them but a mark and whatever
it cuts off, are read as this tree and without a diagnostic, unless the reading opens too deep. It
does not where the budget covers the cost of the tree, nor in any tree without parentheses and unary
operators; and no other such tree is spelled by these tokens. -/
theorem readAll_of_spelled {e : Expr} (ho : e.Obeys .equality) {ts : List Token}
    (hs : e.Spelled ts) :
    (∀ budget diagnostics tail, (∀ t ∈ tail.head?, t.kind = .endOfInput) →
      let outcome := readAll budget (State.start (ts ++ tail) diagnostics)
      (outcome.1 = .ok e ∧ outcome.2.diagnostics = diagnostics ∨
        ∃ t, outcome.1 = .error (.refused t .tooDeep)) ∧
      (e.cost ≤ budget ∨ e.Flat → outcome.1 = .ok e ∧ outcome.2.diagnostics = diagnostics)) ∧
    ∀ e', e'.Obeys .equality → e'.Spelled ts → e' = e := by
  refine ⟨?_, fun e' ho' hs' => Spelled.unique ho ho' hs hs'⟩
  intro budget diagnostics tail hend
  have hr : (State.start (ts ++ tail) diagnostics).rest = ts ++ tail := rfl
  have enough (b : Nat) (hc : e.cost ≤ b) :
      (readAll b (State.start (ts ++ tail) diagnostics)).1 = .ok e ∧
        (readAll b (State.start (ts ++ tail) diagnostics)).2.diagnostics = diagnostics := by
    obtain ⟨s', h, hm⟩ := readAll_complete ho hc hs hr hend
    rw [h]
    exact ⟨rfl, hm.diagnostics⟩
  constructor
  · rcases readAll_truncates (Nat.le_max_left budget e.cost)
      (State.start (ts ++ tail) diagnostics) with heq | ⟨t, s', hdeep⟩
    · rw [heq]
      exact Or.inl (enough _ (Nat.le_max_right budget e.cost))
    · rw [hdeep]
      exact Or.inr ⟨t, rfl⟩
  · rintro (hc | hflat)
    · exact enough budget hc
    · exact enough budget (by rw [Expr.cost_of_flat hflat]; exact Nat.zero_le _)

theorem readAll_of_spelled_operators :
    let token (kind : Kind) (lexeme : String) : Token := ⟨kind, lexeme, 1, none⟩
    let ts := [token .trueWord "true", token .minus "-", token .falseWord "false", token .star "*",
      token .bang "!", token .leftParen "(", token .nilWord "nil", token .rightParen ")"]
    let e : Expr := .binary (.literal .trueWord none) (token .minus "-")
      (.binary (.literal .falseWord none) (token .star "*")
        (.unary (token .bang "!") (.grouping (.literal .nilWord none))))
    (readAll 8 (.start (ts ++ [.endOfInput 1, token .leftParen "("]) [])).1 = .ok e ∧
      ∀ e', e'.Obeys .equality → e'.Spelled ts → e' = e := by
  intro token ts e
  have ho : e.Obeys .equality := by decide
  have hs : e.Spelled ts := by simp [e, ts, token, Expr.Spelled, Expr.pieces, Piece.Fits]
  have hend : ∀ t ∈ [Token.endOfInput 1, token .leftParen "("].head?, t.kind = .endOfInput := by
    simp [Token.endOfInput]
  have hc : e.cost ≤ 8 := by decide
  obtain ⟨hread, hunique⟩ := readAll_of_spelled ho hs
  exact ⟨((hread 8 [] _ hend).2 (Or.inl hc)).1, hunique⟩

end Reckoner.Grammar
