import Reckoner.Proofs.Grammar.Soundness
import Reckoner.Proofs.Grammar.Viability

namespace Reckoner.Grammar

def Progress.objection : Progress → Option Token → Objection
  | due _, _ => .expectedExpression
  | done n, next =>
      if next.any (·.kind.startsOperand) then .unexpectedExpression
      else if 0 < n then .expectedClosing
      else .expectedEnd

/-- Nothing goes on with what comes next, and the tokens so far are not an expression that ends
here. -/
structure Progress.Stuck (p : Progress) (next : Option Token) : Prop where
  step : ∀ t ∈ next, ∀ q, ¬Step p t.kind q
  unended : p = .done 0 → ∃ t ∈ next, t.kind ≠ .endOfInput

theorem stuck_some {p : Progress} {t : Token} (h : ∀ q, ¬Step p t.kind q)
    (hend : p = .done 0 → t.kind ≠ .endOfInput) : p.Stuck (some t) := by
  constructor
  · intro u hu
    rwa [← Option.some.inj hu]
  · exact fun hp => ⟨t, rfl, hend hp⟩

theorem stuck_due_none {n : Nat} : (Progress.due n).Stuck none := ⟨by simp, by simp⟩

theorem Progress.Stuck.not_viable {p : Progress} {next : Option Token} (h : p.Stuck next)
    {ts : List Token} (hs : Steps (.due 0) ts p) (line : Int) :
    ¬Viable (ts ++ [next.getD (Token.endOfInput line)]) := by
  intro hv
  obtain ⟨r, hr⟩ := hv.exists_steps
  obtain ⟨q, hq, hstep⟩ := hr.of_concat
  obtain rfl := hs.unique hq
  cases next with
  | none => exact hstep.ne_endOfInput rfl
  | some t => exact h.step t rfl r hstep

theorem Progress.Stuck.not_sentence {p : Progress} {next : Option Token} (h : p.Stuck next)
    {ts : List Token} (hs : Steps (.due 0) ts p) {line : Int}
    (hend : (next.getD (Token.endOfInput line)).kind = .endOfInput) : ¬Sentence ts := by
  rintro ⟨e, ho, hspelled⟩
  obtain ⟨t, rfl, hk⟩ := h.unended (hs.unique (steps_of_spelled ho hspelled 0))
  exact hk hend

structure Blames (p : Progress) (s : State) (t : Token) (o : Objection) (s' : State) : Prop where
  stuck : p.Stuck s.rest.head?
  token : t = s.rest.head?.getD (Token.endOfInput ((s.last.map Token.line).getD 1))
  objection : o = p.objection s.rest.head?
  tokens : s'.tokens = s.tokens
  diagnostics : s'.diagnostics = s.diagnostics ++ [.ofToken t o.message]

/-- A failure that is an objection has come about by stepping over tokens until none could be
stepped over any more. -/
def Objects (p : Progress) (s : State) (fault : Fault) (s' : State) : Prop :=
  ∀ t o, fault = .refused t o →
    ∃ used s₁ q, Moves s used s₁ ∧ Steps p used q ∧ Blames q s₁ t o s'

/-- A rule that reads an operand has reasons for its objections, whatever is open around it. -/
def Warranted (p : Rule Expr) : Prop :=
  ∀ n s fault s', p s = (.error fault, s') → Objects (.due n) s fault s'

variable {p q : Progress} {s s' s₁ : State} {fault : Fault} {n : Nat}

theorem Objects.of_moves {used : List Token} (h : Objects q s₁ fault s') (hm : Moves s used s₁)
    (hs : Steps p used q) : Objects p s fault s' := by
  intro t o hf
  obtain ⟨vs, s₂, r, hm', hs', hb⟩ := h t o hf
  exact ⟨used ++ vs, s₂, r, hm.trans hm', hs.trans hs', hb⟩

theorem Objects.of_moves_nil (h : Objects p s₁ fault s') (hm : Moves s [] s₁) :
    Objects p s fault s' :=
  h.of_moves hm (.nil p)

theorem objects_of_refuse {α : Type} {next : Option Token} {o : Objection}
    (hn : s.rest.head? = next) (ho : o = p.objection next) (hstuck : p.Stuck next)
    (h : (refuse next o : Rule α) s = (.error fault, s')) : Objects p s fault s' := by
  subst hn
  rintro t o' rfl
  simp only [refuse, Prod.mk.injEq, Except.error.injEq, Fault.refused.injEq] at h
  obtain ⟨⟨rfl, rfl⟩, rfl⟩ := h
  exact ⟨[], s, p, .refl s, .nil p, hstuck, rfl, ho, rfl, rfl⟩

theorem objects_of_fail {α : Type} {cause : Fault} (hc : ∀ t o, cause ≠ .refused t o)
    (h : (fail cause : Rule α) s₁ = (.error fault, s')) : Objects p s fault s' := by
  intro t o hf
  simp only [fail, Prod.mk.injEq, Except.error.injEq] at h
  exact absurd (h.1.trans hf) (hc t o)

theorem not_step_of_stops {rest : List Token} (h : Level.equality.Stops rest) {t : Token}
    (ht : t ∈ rest.head?) (hn : t.kind = .rightParen → n = 0) : ¬Step (.done n) t.kind q := by
  intro hstep
  generalize hk : t.kind = k at hstep
  cases hstep with
  | closing m => exact absurd (hn hk) (Nat.succ_ne_zero m)
  | binary _ hb =>
      obtain ⟨l, hl, hmem⟩ := List.mem_flatMap.1 hb
      exact (h t ht).1 l hl (hk ▸ hmem)

theorem refuseOperand_objects (h : refuseOperand s = (.error fault, s')) :
    Objects (.done n) s fault s' := by
  obtain ⟨s₁, hm, h⟩ := peek_bind h
  have hr : s₁.rest = s.rest := hm.rest_nil
  cases hn : s.rest.head? with
  | none => simp [hn, Rule.pure_apply] at h
  | some t =>
      by_cases hk : t.kind.startsOperand
      · simp only [hn, hk, if_true] at h
        refine (objects_of_refuse (hr ▸ hn) ?_ (stuck_some ?_ ?_) h).of_moves_nil hm
        · simp [Progress.objection, hk]
        · intro q hstep
          simp [hstep.not_startsOperand] at hk
        · intro _ hend
          exact absurd hk (by rw [hend]; decide)
      · simp [hn, hk, Rule.pure_apply] at h

theorem expect_closing_objects (hstop : Level.equality.Stops s.rest)
    (h : expect .rightParen .expectedClosing s = (.error fault, s')) :
    Objects (.done (n + 1)) s fault s' := by
  rcases accept_bind h with ⟨s₁, hk, hm, h⟩ | ⟨t, s₁, -, -, h⟩
  · obtain ⟨s₂, hm', h⟩ := peek_bind h
    have hr₁ : s₁.rest = s.rest := hm.rest_nil
    have hr₂ : s₂.rest = s₁.rest := hm'.rest_nil
    rw [← hr₁] at hstop hk
    refine ((objects_of_refuse (hr₂ ▸ rfl) ?_ ⟨?_, ?_⟩ h).of_moves_nil hm').of_moves_nil hm
    · have hstart : s₁.rest.head?.any (·.kind.startsOperand) = false := by
        rw [Option.any_eq_false]
        exact fun t ht => by simpa using (hstop t ht).2 (by decide)
      simp [Progress.objection, hstart]
    · intro t ht q
      exact not_step_of_stops hstop ht fun hclose => absurd (by simp [hclose]) (hk t ht)
    · simp
  · simp [Rule.pure_apply] at h

theorem extend_objects {level : Level} {operand : Rule Expr} (hl : level.binaries ≠ [])
    (hs : Sound level.tighter operand) (hw : Warranted operand) (pending : List Token)
    {left : Expr} (h : extend level.operators operand pending left s = (.error fault, s')) :
    Objects (.done n) s fault s' := by
  induction pending generalizing left s with
  | nil => simp [extend, Rule.pure_apply] at h
  | cons _ pending ih =>
      rcases accept_bind h with ⟨s₁, -, -, h⟩ | ⟨operator, s₁, hk, hm, h⟩
      · simp [Rule.pure_apply] at h
      · have hstep : Steps (.done n) [operator] (.due n) :=
          .single (.binary n (mem_infixes (Level.mem_binaries hl) hk))
        rcases bind_eq_error h with h | ⟨right, s₂, hr, h⟩
        · exact (hw n _ _ _ h).of_moves hm hstep
        · obtain ⟨used, hm', hs', ho', -⟩ := hs _ _ _ hr
          exact ((ih h).of_moves hm' (steps_of_spelled ho' hs' n)).of_moves hm hstep

theorem chain_warranted {level : Level} {operand : Rule Expr} (hl : level.binaries ≠ [])
    (hs : Sound level.tighter operand) (hw : Warranted operand) :
    Warranted (chain level operand) := by
  intro n s fault s' h
  rcases bind_eq_error h with h | ⟨left, s₁, h₁, h⟩
  · exact hw n _ _ _ h
  · obtain ⟨us, hm₁, hs₁, ho₁, ht₁⟩ := hs _ _ _ h₁
    rcases bind_eq_error h with h | ⟨tree, s₂, h₂, h⟩
    · exact (extend_objects hl hs hw s₁.rest h).of_moves hm₁ (steps_of_spelled ho₁ hs₁ n)
    · obtain ⟨vs, hm₂, hs₂, ho₂, -⟩ :=
        extend_sound hl hs s₁.rest (Nat.le_refl _) hs₁ (ho₁.loosen hl) ht₁ h₂
      rcases bind_eq_error h with h | ⟨_, s₃, -, h⟩
      · exact (refuseOperand_objects h).of_moves (hm₁.trans hm₂) (steps_of_spelled ho₂ hs₂ n)
      · simp [Rule.pure_apply] at h

theorem primaryOver_objects {inner : Rule Expr} (hs : Sound .equality inner)
    (hw : Warranted inner) (hnot : ∀ t ∈ s.rest.head?, t.kind ∉ Level.unary.operators)
    (h : primaryOver inner s = (.error fault, s')) : Objects (.due n) s fault s' := by
  obtain ⟨s₁, hm, h⟩ := peek_bind h
  have hr : s₁.rest = s.rest := hm.rest_nil
  cases hn : s.rest with
  | nil =>
      rw [hn] at h
      exact (objects_of_refuse (by rw [hr, hn]; rfl) rfl stuck_due_none h).of_moves_nil hm
  | cons t ts =>
      obtain ⟨s₂, htake, hm₂⟩ := take_of_cons (hr.trans hn)
      simp only [hn, List.head?_cons] at h
      split at h
      next hk =>
        rw [Rule.bind_of_ok htake] at h
        cases hf : Expr.ofToken t with
        | ok tree => simp [hf, Rule.pure_apply] at h
        | error cause =>
            rw [hf] at h
            exact objects_of_fail (by simp) h
      next hk =>
        split at h
        next hopen =>
          rw [Rule.bind_of_ok htake] at h
          have hstep : Steps (.due n) [t] (.due (n + 1)) := .single (hopen ▸ .opening n)
          rcases bind_eq_error h with h | ⟨tree, s₃, h₃, h⟩
          · exact ((hw (n + 1) _ _ _ h).of_moves hm₂ hstep).of_moves_nil hm
          · obtain ⟨us, hm₃, hs₃, ho₃, hstop⟩ := hs _ _ _ h₃
            have hsteps := hstep.trans (steps_of_spelled ho₃ hs₃ (n + 1))
            rcases bind_eq_error h with h | ⟨_, s₄, -, h⟩
            · have hclosing := expect_closing_objects (n := n) hstop h
              exact (hclosing.of_moves (hm₂.trans hm₃) hsteps).of_moves_nil hm
            · simp [Rule.pure_apply] at h
        next hopen =>
          refine (objects_of_refuse (by rw [hr, hn]; rfl) rfl (stuck_some ?_ (by simp))
            h).of_moves_nil hm
          intro q hstep
          generalize hkind : t.kind = k at hstep
          cases hstep with
          | literal _ hlit => exact hk (hkind ▸ hlit)
          | opening => exact hopen hkind
          | unary _ hu => exact hnot t (by rw [hn]; rfl) (hkind ▸ hu)

theorem unaryOver_warranted {nested inner : Rule Expr} (hn : Warranted nested)
    (hs : Sound .equality inner) (hi : Warranted inner) : Warranted (unaryOver nested inner) := by
  intro n s fault s' h
  rcases accept_bind h with ⟨s₁, hk, hm, h⟩ | ⟨operator, s₁, hk, hm, h⟩
  · have hr : s₁.rest = s.rest := hm.rest_nil
    exact (primaryOver_objects hs hi (hr ▸ hk) h).of_moves_nil hm
  · rcases bind_eq_error h with h | ⟨right, s₂, -, h⟩
    · exact (hn n _ _ _ h).of_moves hm (.single (.unary n hk))
    · simp [Rule.pure_apply] at h

theorem binaryOver_warranted {p : Rule Expr} (hs : Sound .unary p) (hw : Warranted p)
    {level : Level} (hl : level ≠ .primary) : Warranted (binaryOver p level) :=
  (binaryOver_induction (P := fun level p => Sound level p ∧ Warranted p)
    (fun _ _ hl hp => ⟨chain_sound hl hp.1, chain_warranted hl hp.1 hp.2⟩) ⟨hs, hw⟩ hl).2

theorem unary_warranted (budget : Nat) : Warranted (unary budget) ∧ Warranted (inside budget) := by
  have hdepth : Warranted (fail .depth) := fun _ _ _ _ h => objects_of_fail (by simp) h
  have all := unary_induction (P := fun _ p => Sound .unary p ∧ Warranted p)
    (Q := fun _ p => Sound .equality p ∧ Warranted p) ?_ ?_ ?_ ?_ budget
  · exact ⟨all.1.2, all.2.2⟩
  · exact fun _ _ => ⟨fail_sound _ _, hdepth⟩
  · intro budget p ⟨hs, hw⟩
    exact ⟨binaryOver_sound hs (by decide), binaryOver_warranted hs hw (by decide)⟩
  · intro inner ⟨hs, hw⟩
    exact ⟨unaryOver_sound (fail_sound _ _) hs, unaryOver_warranted hdepth hs hw⟩
  · intro budget nested inner ⟨hns, hnw⟩ ⟨hs, hw⟩
    exact ⟨unaryOver_sound hns hs, unaryOver_warranted hnw hs hw⟩

theorem readAll_objects {budget : Nat} (h : readAll budget s = (.error fault, s'))
    (hdeep : ∀ t, fault ≠ .refused t .tooDeep) : Objects (.due 0) s fault s' := by
  obtain ⟨t, rfl⟩ | ⟨-, hr⟩ | ⟨e, s₁, t, s₂, hr, hm', hn, hk, h⟩ := of_readAll_error h
  · exact absurd rfl (hdeep t)
  · obtain ⟨hs, -⟩ := unary_sound budget
    obtain ⟨hw, -⟩ := unary_warranted budget
    exact binaryOver_warranted hs hw (by decide) 0 _ _ _ hr
  · obtain ⟨used, hm, hs, ho, hstop⟩ := read_sound budget .equality _ _ _ hr
    have hn₂ : s₂.rest.head? = some t := by rwa [hm'.rest_nil]
    refine ((objects_of_refuse hn₂ ?_ (stuck_some ?_ fun _ => hk) h).of_moves_nil
      hm').of_moves hm (steps_of_spelled ho hs 0)
    · have hstart : t.kind.startsOperand = false := (hstop t hn).2 (by decide)
      simp [Progress.objection, hstart]
    · exact fun q => not_step_of_stops hstop hn fun _ => rfl

/-- Why a token of kind `next` cannot stand behind the tokens `ts`. -/
def reason (ts : List Token) (next : Kind) : String :=
  if OperandDue ts then "Expected expression."
  else if next.startsOperand then "Unexpected Expression"
  else if ParenOpen ts then "Expect ')' after expression."
  else "Expect end of expression."

theorem message_objection {ts : List Token} (h : Steps (.due 0) ts p) (next : Option Token)
    (line : Int) :
    (p.objection next).message = reason ts (next.getD (Token.endOfInput line)).kind := by
  have hopened := h.parenOpen_iff
  cases p with
  | due n => simp [reason, h.operandDue, Progress.objection, Objection.message]
  | done n =>
      have hdue : ¬OperandDue ts := h.operandDone.not_due
      have hnext : next.any (·.kind.startsOperand) =
          (next.getD (Token.endOfInput line)).kind.startsOperand := by
        cases next <;> rfl
      simp only [Progress.objection, hnext, reason, hdue, hopened, Progress.opened, if_false]
      split
      · rfl
      · split <;> rfl

/-- A reading that fails, and not for its depth, points at the first token that cannot stand where it
does. With `n` tokens taken, these are in order: none is a mark and some continuation completes them
to an expression. The token that is blamed is the next one, or a mark on the line of the last one
taken, and with it they have no continuation; where it is a mark they are no expression either. What
is said of it, and reported as the only diagnostic, is the reason that the tokens taken give. -/
theorem readAll_refuses_first {tokens : List Token}
    (hp : ∀ t ∈ tokens, t.kind = .number ∨ t.kind = .string → t.payload ≠ none) {budget : Nat}
    {diagnostics : List Diagnostic} {t : Token} {o : Objection} {s' : State}
    (h : readAll budget (.start tokens diagnostics) = (.error (.refused t o), s'))
    (ho : o ≠ .tooDeep) :
    let n := s'.tokens.consumed
    let taken := tokens.take n
    n ≤ tokens.length ∧ (∀ u ∈ taken, u.kind ≠ .endOfInput) ∧ Viable taken ∧
      t = tokens[n]?.getD (Token.endOfInput ((taken.getLast?.map Token.line).getD 1)) ∧
      ¬Viable (taken ++ [t]) ∧ (t.kind = .endOfInput → ¬Sentence taken) ∧
      (¬OperandDue taken → OperandDone taken) ∧ o.message = reason taken t.kind ∧
      s'.diagnostics = diagnostics ++ [.ofToken t o.message] := by
  have hdeep : ∀ u, Fault.refused t o ≠ .refused u .tooDeep := by
    intro u hu
    exact ho (Fault.refused.inj hu).2
  obtain ⟨used, s₁, q, hm, hsteps, hb⟩ := readAll_objects h hdeep t o rfl
  obtain ⟨hrest, hn, hlast, hdiagnostics⟩ := hm.of_start
  rw [← hb.tokens] at hn
  have htaken : tokens.take s'.tokens.consumed = used := by rw [hn, hrest, List.take_left]
  have hnext : tokens[s'.tokens.consumed]? = s₁.rest.head? := by
    rw [hn, hrest, List.getElem?_append_right (Nat.le_refl _), Nat.sub_self, List.head?_eq_getElem?]
  intro n taken
  simp only [n, taken, htaken, hnext, ← hlast]
  have hload : Loaded (used ++ s₁.rest) := hrest ▸ hp
  have hviable : Viable used := viable_of_steps hsteps hload.of_append_left
  refine ⟨?_, hsteps.ne_endOfInput, hviable, hb.token, ?_, ?_, ?_, ?_, ?_⟩
  · rw [hn, hrest, List.length_append]
    exact Nat.le_add_right _ _
  · rw [hb.token]
    exact hb.stuck.not_viable hsteps _
  · intro hend
    rw [hb.token] at hend
    exact hb.stuck.not_sentence hsteps hend
  · intro hdue
    cases q with
    | due m => exact absurd hsteps.operandDue hdue
    | done m => exact hsteps.operandDone
  · rw [hb.objection, hb.token]
    exact message_objection hsteps _ _
  · rw [hb.diagnostics, hdiagnostics]

theorem readAll_refuses_first_operand :
    let number : Token := ⟨.number, "1", 1, some (.number 1)⟩
    let opening : Token := ⟨.leftParen, "(", 1, none⟩
    let second : Token := ⟨.number, "2", 2, some (.number 2)⟩
    let s' : State := ⟨⟨some second, [], 2⟩, some number,
      [.ofToken second Objection.unexpectedExpression.message]⟩
    (∀ t ∈ [opening, number, second], t.kind = .number ∨ t.kind = .string → t.payload ≠ none) ∧
      readAll 8 (.start [opening, number, second] []) =
        (.error (.refused second .unexpectedExpression), s') ∧
      Viable [opening, number] ∧ ¬Viable [opening, number, second] ∧
      Objection.unexpectedExpression.message = reason [opening, number] .number := by
  intro number opening second s'
  have hp : ∀ t ∈ [opening, number, second],
      t.kind = .number ∨ t.kind = .string → t.payload ≠ none := by
    simp [number, opening, second]
  have h : readAll 8 (.start [opening, number, second] []) =
      (.error (.refused second .unexpectedExpression), s') := by
    decide +kernel
  obtain ⟨-, -, hviable, -, hnot, -, -, hreason, -⟩ := readAll_refuses_first hp h (by decide)
  exact ⟨hp, h, hviable, hnot, hreason⟩

end Reckoner.Grammar
