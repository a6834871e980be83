import Reckoner.Proofs.Expr.Relabelling
import Reckoner.Proofs.Grammar.Locality

namespace Reckoner

namespace Grammar

variable {α β γ δ : Type} {f : Token → Token} {g : α → β} {s s₁ t t₁ : State}

structure Images (f : Token → Token) (s t : State) : Prop where
  rest : t.rest = s.rest.map f
  last : t.last = s.last.map f
  consumed : t.tokens.consumed = s.tokens.consumed

def Fault.blaming (t : Token) : Fault → Fault
  | refused _ objection => refused t objection
  | fault => fault

/-- The image of a result, where an objection is to the token that comes next in `t`. -/
def image (g : α → β) (r : Except Fault α) (t : State) : Except Fault β :=
  (r.map g).mapError (Fault.blaming t.blamed)

/-- In every state that is `s` with its tokens changed, `q` does what `p` does in `s`. -/
def Mirrors (f : Token → Token) (g : α → β) (s : State) (p : Rule α) (q : Rule β) : Prop :=
  ∀ t, Images f s t → ∃ t', q t = (image g (p s).1 t', t') ∧ Images f (p s).2 t'

theorem Images.head? (h : Images f s t) : t.rest.head? = s.rest.head?.map f := by
  rw [h.rest, List.head?_map]

theorem Images.of_moves {used : List Token} (h : Images f s t) (hs : Moves s used s₁)
    (ht : Moves t (used.map f) t₁) : Images f s₁ t₁ := by
  constructor
  · have whole := ht.rest
    rw [h.rest, hs.rest, List.map_append] at whole
    exact (List.append_cancel_left whole).symm
  · rw [ht.last, hs.last, h.last, List.getLast?_map]
    cases used.getLast? <;> rfl
  · rw [ht.consumed, hs.consumed, h.consumed, List.length_map]

theorem Mirrors.of_moves {p : Rule α} {q : Rule β} {a : α} {used : List Token}
    (hp : p s = (.ok a, s₁)) (hm : Moves s used s₁)
    (hq : ∀ t, Images f s t → ∃ t', q t = (.ok (g a), t') ∧ Moves t (used.map f) t') :
    Mirrors f g s p q := by
  intro t ht
  obtain ⟨t', hq, hm'⟩ := hq t ht
  rw [hp]
  exact ⟨t', hq, ht.of_moves hm hm'⟩

theorem Mirrors.bind {p : Rule α} {q : Rule β} {k : α → Rule γ} {k' : β → Rule δ} {h : γ → δ}
    (hp : Mirrors f g s p q)
    (hk : ∀ a s₁, p s = (.ok a, s₁) → Mirrors f h s₁ (k a) (k' (g a))) :
    Mirrors f h s (p >>= k) (q >>= k') := by
  intro t ht
  obtain ⟨t₁, hq, images⟩ := hp t ht
  cases hs : p s with
  | mk r s₁ =>
      rw [hs] at hq images
      cases r with
      | ok a =>
          obtain ⟨t', hk', images'⟩ := hk a s₁ hs t₁ images
          rw [Rule.bind_of_ok hs]
          exact ⟨t', (Rule.bind_of_ok hq).trans hk', images'⟩
      | error fault =>
          rw [Rule.bind_of_error hs]
          exact ⟨t₁, Rule.bind_of_error hq, images⟩

theorem pure_mirrors (g : α → β) (a : α) (s : State) :
    Mirrors f g s (pure a : Rule α) (pure (g a)) :=
  .of_moves rfl (.refl s) fun t _ => ⟨t, rfl, .refl t⟩

theorem depth_mirrors (g : α → β) (s : State) :
    Mirrors f g s (fail .depth : Rule α) (fail .depth) :=
  fun t ht => ⟨t, rfl, ht⟩

theorem peek_mirrors (s : State) : Mirrors f (Option.map f) s peek peek := by
  obtain ⟨s₁, hp, hm⟩ := peek_moves s
  refine .of_moves hp hm fun t ht => ?_
  rw [← ht.head?]
  exact peek_moves t

theorem accept_mirrors (hf : Relabels f) (kinds : List Kind) (s : State) :
    Mirrors f (Option.map f) s (accept kinds) (accept kinds) := by
  obtain ⟨s₁, ha, hm⟩ := accept_moves kinds s
  refine .of_moves ha hm fun t ht => ?_
  have next : t.rest.head?.filter (kinds.contains ·.kind) =
      (s.rest.head?.filter (kinds.contains ·.kind)).map f := by
    rw [ht.head?, Option.filter_map]
    simp only [Function.comp_def, hf.kind]
  rw [← next, ← Option.toList_map, ← next]
  exact accept_moves kinds t

theorem refuse_mirrors (g : α → β) {next : Option Token} (hn : next = s.rest.head?)
    (o : Objection) :
    Mirrors f g s (refuse next o : Rule α) (refuse (next.map f) o) := by
  intro t ht
  subst hn
  rw [← ht.head?]
  let t' := { t with diagnostics := t.diagnostics ++ [Diagnostic.ofToken t.blamed o.message] }
  exact ⟨t', rfl, ht.rest, ht.last, ht.consumed⟩

theorem take_mirrors {u : Token} (hu : s.rest.head? = some u) : Mirrors f f s take take := by
  obtain ⟨rest, hr⟩ := List.head?_eq_some_iff.1 hu
  obtain ⟨s₁, htake, hm⟩ := take_of_cons hr
  refine .of_moves htake hm fun t ht => ?_
  exact take_of_cons (ht.rest.trans (congrArg (List.map f) hr))

theorem ofToken_relabel (hf : Relabels f) (t : Token) : Expr.ofToken (f t) = Expr.ofToken t := by
  simp only [Expr.ofToken, hf.kind, hf.payload]

theorem literal_mirrors (hf : Relabels f) {u : Token} (hu : s.rest.head? = some u) :
    Mirrors f (Expr.relabel f) s literal literal := by
  refine (take_mirrors hu).bind fun u s₁ _ => ?_
  rw [ofToken_relabel hf]
  cases h : Expr.ofToken u with
  | error fault => exact fun t ht => ⟨t, rfl, ht⟩
  | ok tree =>
      obtain ⟨rfl, -⟩ := Expr.of_ofToken h
      exact pure_mirrors (Expr.relabel f) _ s₁

theorem expect_mirrors (hf : Relabels f) (kind : Kind) (o : Objection) (s : State) :
    Mirrors f f s (expect kind o) (expect kind o) := by
  refine (accept_mirrors hf [kind] s).bind fun next s₁ _ => ?_
  cases next with
  | some t => exact pure_mirrors f t s₁
  | none =>
      refine (peek_mirrors s₁).bind fun next s₂ hpeek => ?_
      exact refuse_mirrors f (of_peek hpeek).1 o

theorem refuseOperand_mirrors (hf : Relabels f) (s : State) :
    Mirrors f id s refuseOperand refuseOperand := by
  refine (peek_mirrors s).bind fun next s₁ hpeek => ?_
  cases next with
  | none => exact pure_mirrors id () s₁
  | some t =>
      simp only [Option.map_some, hf.kind]
      split
      · exact refuse_mirrors id (of_peek hpeek).1 _
      · exact pure_mirrors id () s₁

def Equivariant (f : Token → Token) (p : Rule Expr) : Prop :=
  ∀ s, Mirrors f (Expr.relabel f) s p p

section

variable {operand nested inner : Rule Expr} (hf : Relabels f)

include hf

theorem extend_mirrors (operators : List Kind) (hp : Equivariant f operand) (pending : List Token)
    (left : Expr) (s : State) :
    Mirrors f (Expr.relabel f) s (extend operators operand pending left)
      (extend operators operand (pending.map f) (left.relabel f)) := by
  induction pending generalizing left s with
  | nil => exact pure_mirrors (Expr.relabel f) left s
  | cons _ pending ih =>
      refine (accept_mirrors hf operators s).bind fun next s₁ _ => ?_
      cases next with
      | none => exact pure_mirrors (Expr.relabel f) left s₁
      | some operator => exact (hp s₁).bind fun right s₂ _ => ih (.binary left operator right) s₂

theorem chain_equivariant (level : Level) (hp : Equivariant f operand) :
    Equivariant f (chain level operand) := by
  intro s
  refine (hp s).bind fun left s₁ _ => ?_
  have onward : Mirrors f (Expr.relabel f) s₁ (loop level.operators operand left)
      (loop level.operators operand (left.relabel f)) := by
    intro t ht
    obtain ⟨t', ht', images⟩ := extend_mirrors hf level.operators hp s₁.rest left s₁ t ht
    rw [← ht.rest] at ht'
    exact ⟨t', ht', images⟩
  refine onward.bind fun tree s₂ _ => ?_
  exact (refuseOperand_mirrors hf s₂).bind fun _ s₃ _ => pure_mirrors _ tree s₃

theorem binaryOver_equivariant (hp : Equivariant f operand) {level : Level}
    (hl : level ≠ .primary) : Equivariant f (binaryOver operand level) :=
  binaryOver_induction (P := fun _ => Equivariant f)
    (fun level _ _ hp => chain_equivariant hf level hp) hp hl

theorem primaryOver_equivariant (hi : Equivariant f inner) : Equivariant f (primaryOver inner) := by
  intro s
  refine (peek_mirrors s).bind fun next s₁ hpeek => ?_
  obtain ⟨hnext, -⟩ := of_peek hpeek
  cases next with
  | none => exact refuse_mirrors _ hnext _
  | some t =>
      simp only [Option.map_some, hf.kind]
      split
      next => exact literal_mirrors hf hnext.symm
      next =>
        split
        next =>
          refine (take_mirrors hnext.symm).bind fun _ s₂ _ => ?_
          refine (hi s₂).bind fun tree s₃ _ => ?_
          exact (expect_mirrors hf _ _ s₃).bind fun _ s₄ _ => pure_mirrors _ _ s₄
        next => exact refuse_mirrors _ hnext _

theorem unaryOver_equivariant (hn : Equivariant f nested) (hi : Equivariant f inner) :
    Equivariant f (unaryOver nested inner) := by
  intro s
  refine (accept_mirrors hf _ s).bind fun next s₁ _ => ?_
  cases next with
  | none => exact primaryOver_equivariant hf hi s₁
  | some operator => exact (hn s₁).bind fun right s₂ _ => pure_mirrors _ _ s₂

theorem unary_equivariant (budget : Nat) :
    Equivariant f (unary budget) ∧ Equivariant f (inside budget) := by
  apply unary_induction (P := fun _ => Equivariant f) (Q := fun _ => Equivariant f)
  · exact fun _ _ => depth_mirrors _
  · exact fun _ _ hp => binaryOver_equivariant hf hp (by decide)
  · exact fun _ hi => unaryOver_equivariant hf (depth_mirrors _) hi
  · exact fun _ _ _ hn hi => unaryOver_equivariant hf hn hi

theorem read_equivariant (budget : Nat) (level : Level) : Equivariant f (read budget level) := by
  obtain ⟨hu, hi⟩ := unary_equivariant hf budget
  cases level with
  | primary => exact primaryOver_equivariant hf hi
  | equality | comparison | addition | multiplication | unary =>
      exact binaryOver_equivariant hf hu (by decide)

theorem readAll_equivariant (budget : Nat) : Equivariant f (readAll budget) := by
  intro s t ht
  obtain ⟨t₁, hread, images⟩ := read_equivariant hf budget .equality s t ht
  simp only [readAll, hread]
  cases hs : read budget .equality s with
  | mk r s₁ =>
      rw [hs] at images
      cases r with
      | ok tree =>
          refine ((peek_mirrors s₁).bind fun next s₂ hpeek => ?_) t₁ images
          cases next with
          | none => exact pure_mirrors _ tree s₂
          | some t =>
              simp only [Option.map_some, hf.kind]
              split
              · exact pure_mirrors _ tree s₂
              · exact refuse_mirrors _ (of_peek hpeek).1 _
      | error fault =>
          cases fault with
          | depth =>
              refine ((peek_mirrors s₁).bind fun next s₂ hpeek => ?_) t₁ images
              exact refuse_mirrors _ (of_peek hpeek).1 _
          | refused u o => exact ⟨t₁, rfl, images⟩
          | literal cause => exact ⟨t₁, rfl, images⟩

end

/-- The mark made up where no token is left: on the line of the last one, or else on the first. -/
def endMark (last : Option Token) : Token := Token.endOfInput ((last.map Token.line).getD 1)

/-- What the result of a reading that ends in `s` becomes when its tokens are changed. -/
inductive Changed (f : Token → Token) (s : State) : Except Fault Expr → Except Fault Expr → Prop where
  | tree (e : Expr) : Changed f s (.ok e) (.ok (e.relabel f))
  | refused {t : Token} {rest : List Token} (o : Objection) : s.rest = t :: rest →
      Changed f s (.error (.refused t o)) (.error (.refused (f t) o))
  | ended (o : Objection) : s.rest = [] →
      Changed f s (.error (.refused (endMark s.last) o)) (.error (.refused (endMark (s.last.map f)) o))
  | literal (fault : LiteralFault) : Changed f s (.error (.literal fault)) (.error (.literal fault))

theorem Images.changed {r : Except Fault Expr} (h : Images f s t) (hdepth : r ≠ .error .depth)
    (blamed : ∀ u o, r = .error (.refused u o) → u = s.blamed) :
    Changed f s r (image (Expr.relabel f) r t) := by
  cases r with
  | ok e => exact .tree e
  | error fault =>
      cases fault with
      | literal fault => exact .literal fault
      | depth => exact absurd rfl hdepth
      | refused u o =>
          obtain rfl := blamed u o rfl
          have image : t.blamed = (s.rest.head?.map f).getD (endMark (s.last.map f)) := by
            rw [← h.head?, ← h.last]
            rfl
          change Changed f s _ (.error (.refused t.blamed o))
          rw [image]
          cases hr : s.rest with
          | nil =>
              have ended : s.blamed = endMark s.last := by
                rw [State.blamed, hr]
                rfl
              rw [ended]
              exact .ended o hr
          | cons u rest =>
              have next : s.blamed = u := by
                rw [State.blamed, hr]
                rfl
              rw [next]
              exact .refused o hr

/-- Only the kinds and payloads of tokens count. Where lexemes and lines are changed by a function of
the token, a reading takes as many tokens and comes to the same tree with its operators changed, or to
the same objection to the changed token; where no token is left, to a mark on the line of the changed
last one; or to the same fault of a literal. A tree with changed operators has the same value, or the
evaluation fails for the same reason at the changed operator; too great a depth is blamed on the
changed outermost operator, or on the same mark where there is none. -/
theorem outcome_relabelled (hf : Relabels f) :
    (∀ budget tokens diagnostics diagnostics',
      let before := readAll budget (.start tokens diagnostics)
      let after := readAll budget (.start (tokens.map f) diagnostics')
      Changed f before.2 before.1 after.1 ∧ Images f before.2 after.2) ∧
    ∀ e : Expr, (e.relabel f).evaluate = e.evaluate.mapError
      (EvalFault.relabel f fun _ => (e.outermost?.map f).getD (Token.endOfInput 1)) := by
  refine ⟨fun budget tokens diagnostics diagnostics' => ?_, Expr.evaluate_relabel hf⟩
  have start : Images f (.start tokens diagnostics) (.start (tokens.map f) diagnostics') :=
    ⟨rfl, rfl, rfl⟩
  obtain ⟨t', hread, images⟩ := readAll_equivariant hf budget _ _ start
  obtain ⟨used, ends⟩ := readAll_ends budget (.start tokens diagnostics)
  rw [hread]
  exact ⟨images.changed (readAll_ne_depth budget _) ends.blamed, images⟩

theorem outcome_relabelled_sum :
    let f (t : Token) : Token := ⟨t.kind, t.lexeme ++ "'", 7, t.payload⟩
    let one : Token := ⟨.number, "1", 1, some (.number 1)⟩
    let plus : Token := ⟨.plus, "+", 2, none⟩
    let sum (plus : Token) : Expr :=
      .binary (.literal .number one.payload) plus (.literal .nilWord none)
    (readAll depthBudget (.start [one, plus] [])).1 =
        .error (.refused (Token.endOfInput 2) .expectedExpression) ∧
      (readAll depthBudget (.start [f one, f plus] [])).1 =
        .error (.refused (Token.endOfInput 7) .expectedExpression) ∧
      (sum plus).evaluate = .error (.operands plus .numbersOrStrings) ∧
      (sum (f plus)).evaluate = .error (.operands ⟨.plus, "+'", 7, none⟩ .numbersOrStrings) := by
  intro f one plus sum
  have first : (readAll depthBudget (.start [one, plus] [])).1 =
      .error (.refused (Token.endOfInput 2) .expectedExpression) := by decide +kernel
  have last : (readAll depthBudget (.start [one, plus] [])).2.last = some plus := by decide +kernel
  have rest : (readAll depthBudget (.start [one, plus] [])).2.rest = [] := by decide +kernel
  have value : (sum plus).evaluate = .error (.operands plus .numbersOrStrings) := by decide +kernel
  have hf : Relabels f := ⟨fun _ => rfl, fun _ => rfl⟩
  obtain ⟨reading, evaluation⟩ := outcome_relabelled hf
  have changed : Changed f _ _ (readAll depthBudget (.start [f one, f plus] [])).1 :=
    (reading depthBudget [one, plus] [] []).1
  refine ⟨first, ?_, value, ?_⟩
  · generalize (readAll depthBudget (.start [f one, f plus] [])).1 = after at changed ⊢
    generalize (readAll depthBudget (.start [one, plus] [])).1 = before at changed first
    cases changed with
    | refused o next => simp [rest] at next
    | ended o _ =>
        simp only [Except.error.injEq, Fault.refused.injEq] at first
        rw [first.2, last]
        rfl
    | tree e => simp at first
    | literal fault => simp at first
  · have after := evaluation (sum plus)
    rw [value] at after
    exact after

end Grammar

end Reckoner
