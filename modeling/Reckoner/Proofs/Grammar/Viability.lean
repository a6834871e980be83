import Reckoner.Proofs.Grammar.Infix

namespace Reckoner.Grammar

def Sentence (ts : List Token) : Prop := ∃ e : Expr, e.Obeys .equality ∧ e.Spelled ts

def Viable (ts : List Token) : Prop := ∃ more, Sentence (ts ++ more)

/-- What is to be remembered of the tokens so far: the parentheses that are open, and whether an
operand is due or has just been completed. -/
inductive Progress where
  | due (opened : Nat)
  | done (opened : Nat)

def infixes : List Kind := Level.equality.binaries.flatMap Level.operators

inductive Step : Progress → Kind → Progress → Prop
  | literal (n : Nat) {k : Kind} (h : k.isLiteral = true) : Step (.due n) k (.done n)
  | opening (n : Nat) : Step (.due n) .leftParen (.due (n + 1))
  | unary (n : Nat) {k : Kind} (h : k ∈ Level.unary.operators) : Step (.due n) k (.due n)
  | closing (n : Nat) : Step (.done (n + 1)) .rightParen (.done n)
  | binary (n : Nat) {k : Kind} (h : k ∈ infixes) : Step (.done n) k (.due n)

inductive Steps : Progress → List Token → Progress → Prop
  | nil (p : Progress) : Steps p [] p
  | cons {p q r : Progress} {t : Token} {ts : List Token} (h : Step p t.kind q)
      (hs : Steps q ts r) : Steps p (t :: ts) r

theorem isLiteral_of_unary {k : Kind} (h : k ∈ Level.unary.operators) : k.isLiteral = false := by
  revert h
  cases k <;> decide

theorem Step.unique {p q r : Progress} {k : Kind} (h : Step p k q) (h' : Step p k r) : q = r := by
  cases h with
  | literal n hk =>
      cases h' with
      | literal => rfl
      | opening => exact absurd hk (by decide)
      | unary _ hu => exact absurd (hk.symm.trans (isLiteral_of_unary hu)) (by decide)
  | opening =>
      cases h' with
      | literal _ hk => exact absurd hk (by decide)
      | opening => rfl
      | unary _ hu => exact absurd hu (by decide)
  | unary n hu =>
      cases h' with
      | literal _ hk => exact absurd (hk.symm.trans (isLiteral_of_unary hu)) (by decide)
      | opening => exact absurd hu (by decide)
      | unary => rfl
  | closing =>
      cases h' with
      | closing => rfl
      | binary _ hb => exact absurd hb (by decide)
  | binary n hb =>
      cases h' with
      | closing => exact absurd hb (by decide)
      | binary => rfl

theorem Step.ne_endOfInput {p q : Progress} {k : Kind} (h : Step p k q) : k ≠ .endOfInput := by
  rintro rfl
  cases h with
  | literal _ hk => exact absurd hk (by decide)
  | unary _ hk => exact absurd hk (by decide)
  | binary _ hk => exact absurd hk (by decide)

theorem Step.not_startsOperand {n : Nat} {k : Kind} {q : Progress} (h : Step (.done n) k q) :
    k.startsOperand = false := by
  cases h with
  | closing => rfl
  | binary _ hk => revert hk; cases k <;> decide

theorem Steps.single {p q : Progress} {t : Token} (h : Step p t.kind q) : Steps p [t] q :=
  .cons h (.nil q)

theorem Steps.trans {p q r : Progress} {us vs : List Token} (h : Steps p us q)
    (h' : Steps q vs r) : Steps p (us ++ vs) r := by
  induction h with
  | nil => exact h'
  | cons ht _ ih => exact .cons ht (ih h')

theorem Steps.of_append {p r : Progress} {us vs : List Token} (h : Steps p (us ++ vs) r) :
    ∃ q, Steps p us q ∧ Steps q vs r := by
  induction us generalizing p with
  | nil => exact ⟨p, .nil p, h⟩
  | cons t us ih =>
      cases h with
      | cons ht hs =>
          obtain ⟨q, hus, hvs⟩ := ih hs
          exact ⟨q, .cons ht hus, hvs⟩

theorem Steps.unique {p q r : Progress} {ts : List Token} (h : Steps p ts q)
    (h' : Steps p ts r) : q = r := by
  induction h with
  | nil =>
      cases h'
      rfl
  | cons ht _ ih =>
      cases h' with
      | cons ht' hs' =>
          obtain rfl := ht.unique ht'
          exact ih hs'

theorem Steps.ne_endOfInput {p q : Progress} {ts : List Token} (h : Steps p ts q) :
    ∀ t ∈ ts, t.kind ≠ .endOfInput := by
  induction h with
  | nil => simp
  | cons ht _ ih => exact List.forall_mem_cons.2 ⟨ht.ne_endOfInput, ih⟩

theorem mem_infixes {level l : Level} {k : Kind} (hl : l ∈ level.binaries) (hk : k ∈ l.operators) :
    k ∈ infixes := by
  refine List.mem_flatMap.2 ⟨l, ?_, hk⟩
  cases level <;> cases l <;> revert hl <;> decide

theorem steps_of_spelled {e : Expr} {level : Level} (ho : e.Obeys level) {ts : List Token}
    (hs : e.Spelled ts) (n : Nat) : Steps (.due n) ts (.done n) := by
  induction e generalizing level ts n with
  | literal kind payload =>
      obtain ⟨t, rfl, rfl, -⟩ := hs.of_literal
      exact .single (.literal n ho.1)
  | grouping inner ih =>
      obtain ⟨opening, us, closing, rfl, hopen, hi, hclose⟩ := hs.of_grouping
      have hin : Step (.due n) opening.kind (.due (n + 1)) := hopen ▸ .opening n
      have hout : Step (.done (n + 1)) closing.kind (.done n) := hclose ▸ .closing n
      exact .cons hin ((ih ho hi (n + 1)).trans (.single hout))
  | unary operator right ih =>
      obtain ⟨us, rfl, hr⟩ := hs.of_unary
      exact .cons (.unary n ho.2.1) (ih ho.2.2 hr n)
  | binary left operator right ihl ihr =>
      obtain ⟨l, hl, hk, hol, hor⟩ := ho
      obtain ⟨us, vs, rfl, hsl, hsr⟩ := hs.of_binary
      exact (ihl hol hsl n).trans (.cons (.binary n (mem_infixes hl hk)) (ihr hor hsr n))
  | missing => exact ho.elim

def Loaded (ts : List Token) : Prop :=
  ∀ t ∈ ts, t.kind = .number ∨ t.kind = .string → t.payload ≠ none

theorem Loaded.append {us vs : List Token} (hu : Loaded us) (hv : Loaded vs) :
    Loaded (us ++ vs) := by
  intro t ht
  rcases List.mem_append.1 ht with ht | ht
  · exact hu t ht
  · exact hv t ht

theorem Loaded.of_append_left {us vs : List Token} (h : Loaded (us ++ vs)) : Loaded us :=
  fun t ht => h t (List.mem_append_left vs ht)

theorem loaded_cons_of_kind {t : Token} {ts : List Token} (hn : t.kind ≠ .number)
    (hs : t.kind ≠ .string) (h : Loaded ts) : Loaded (t :: ts) := by
  intro u hu hk
  rcases List.mem_cons.1 hu with rfl | hu
  · exact absurd hk (not_or.2 ⟨hn, hs⟩)
  · exact h u hu hk

def Operand (ts : List Token) : Prop := ∃ e : Expr, e.Obeys .unary ∧ e.Spelled ts

theorem Operand.sentence {ts : List Token} (h : Operand ts) : Sentence ts := by
  obtain ⟨e, ho, hs⟩ := h
  exact ⟨e, ho.of_unary (by decide), hs⟩

theorem Operand.unary {t : Token} {ts : List Token} (ht : t.kind ∈ Level.unary.operators)
    (h : Operand ts) : Operand (t :: ts) := by
  obtain ⟨e, ho, hs⟩ := h
  exact ⟨.unary t e, ⟨by decide, ht, ho⟩, .cons rfl hs⟩

theorem Operand.literal {t : Token} (ht : t.kind.isLiteral = true)
    (hp : t.kind = .number ∨ t.kind = .string → t.payload ≠ none) : Operand [t] :=
  ⟨.literal t.kind t.payload, ⟨ht, hp⟩, .cons ⟨rfl, rfl⟩ .nil⟩

theorem Sentence.grouping {opening closing : Token} {ts : List Token}
    (ho : opening.kind = .leftParen) (h : Sentence ts) (hc : closing.kind = .rightParen) :
    Operand (opening :: (ts ++ [closing])) := by
  obtain ⟨e, hobeys, hs⟩ := h
  exact ⟨.grouping e, hobeys, hs.grouping ho hc⟩

/-- An operator and an operand behind a tree go into it at the place that precedence gives them: the
tree is followed down its right side to the level of the operator. -/
theorem exists_extended {operator : Token} {right : Expr} (hr : right.Obeys .unary)
    {level : Level} (hl : level.binaries ≠ [])
    (hk : ∃ l ∈ level.binaries, operator.kind ∈ l.operators) {e : Expr} (ho : e.Obeys level) :
    ∃ e' : Expr, e'.Obeys level ∧
      e'.pieces = e.pieces ++ Piece.operator operator :: right.pieces := by
  have htop := Level.mem_binaries hl
  -- an operator of this level takes the whole tree; a tighter one goes down the right operands
  by_cases hop : operator.kind ∈ level.operators
  · refine ⟨.binary e operator right, ⟨level, htop, hop, ho, ?_⟩, rfl⟩
    exact hr.of_unary (Level.tighter_ne_primary hl)
  · have hk' : ∃ l ∈ level.tighter.binaries, operator.kind ∈ l.operators := by
      obtain ⟨l, hm, hmem⟩ := hk
      rw [Level.binaries_eq_cons hl] at hm
      rcases List.mem_cons.1 hm with rfl | hm
      · exact absurd hmem hop
      · exact ⟨l, hm, hmem⟩
    have hl' : level.tighter.binaries ≠ [] := by
      obtain ⟨l, hm, -⟩ := hk'
      exact List.ne_nil_of_mem hm
    rcases ho.cases_binary hl with ⟨left, o, r, rfl, hko, hol, hor⟩ | htight
    · obtain ⟨r', ho', hp'⟩ := exists_extended hr hl' hk' hor
      refine ⟨.binary left o r', ⟨level, htop, hko, hol, ho'⟩, ?_⟩
      simp [Expr.pieces, hp']
    · obtain ⟨e', ho', hp'⟩ := exists_extended hr hl' hk' htight
      exact ⟨e', ho'.loosen hl, hp'⟩
termination_by level.binaries.length
decreasing_by
  all_goals
    rw [Level.binaries_eq_cons hl]
    exact Nat.lt_succ_self _

theorem Sentence.binary {us vs : List Token} {t : Token} (h : Sentence us) (ht : t.kind ∈ infixes)
    (hv : Operand vs) : Sentence (us ++ t :: vs) := by
  obtain ⟨e, ho, hs⟩ := h
  obtain ⟨right, hor, hsr⟩ := hv
  obtain ⟨e', ho', hp⟩ := exists_extended hor (by decide) (List.mem_flatMap.1 ht) ho
  refine ⟨e', ho', ?_⟩
  rw [Expr.Spelled, hp]
  exact List.rel_append hs (.cons rfl hsr)

/-- The tokens end in a complete operand inside of `n` parentheses, each of which stands where an
operand is due. -/
def Completed : Nat → List Token → Prop
  | 0, ts => Sentence ts
  | n + 1, ts => ∃ us t vs, ts = us ++ t :: vs ∧ t.kind = .leftParen ∧ Sentence vs ∧
    ∀ ws, Operand ws → Completed n (us ++ ws)

def Progress.Holds : Progress → List Token → Prop
  | due n, ts => ∀ vs, Operand vs → Completed n (ts ++ vs)
  | done n, ts => Completed n ts

theorem Completed.binary {n : Nat} {us vs : List Token} {t : Token} (h : Completed n us)
    (ht : t.kind ∈ infixes) (hv : Operand vs) : Completed n (us ++ t :: vs) := by
  cases n with
  | zero => exact Sentence.binary h ht hv
  | succ n =>
      obtain ⟨xs, o, ys, rfl, ho, hys, hxs⟩ := h
      exact ⟨xs, o, ys ++ t :: vs, by simp, ho, hys.binary ht hv, hxs⟩

theorem Step.holds {p q : Progress} {t : Token} (h : Step p t.kind q) {ts : List Token}
    (hp : t.kind = .number ∨ t.kind = .string → t.payload ≠ none) (hts : p.Holds ts) :
    q.Holds (ts ++ [t]) := by
  generalize hk : t.kind = k at h
  cases h with
  | literal n hlit => exact hts [t] (.literal (hk ▸ hlit) hp)
  | opening n =>
      intro vs hv
      exact ⟨ts, t, vs, by simp, hk, hv.sentence, hts⟩
  | unary n hu =>
      intro vs hv
      simpa using hts (t :: vs) (.unary (hk ▸ hu) hv)
  | closing n =>
      obtain ⟨xs, o, ys, rfl, ho, hys, hxs⟩ := hts
      have hgroup := hxs _ (hys.grouping ho hk)
      simpa [Progress.Holds] using hgroup
  | binary n hb =>
      intro vs hv
      simpa using Completed.binary hts (hk ▸ hb) hv

theorem Steps.holds {p q : Progress} {us ts : List Token} (h : Steps p us q)
    (hp : Loaded us) (hts : p.Holds ts) : q.Holds (ts ++ us) := by
  induction h generalizing ts with
  | nil => simpa using hts
  | cons ht _ ih =>
      obtain ⟨hpt, hps⟩ := List.forall_mem_cons.1 hp
      simpa using ih hps (ht.holds hpt hts)

theorem sentence_of_steps {ts : List Token} (h : Steps (.due 0) ts (.done 0)) (hp : Loaded ts) :
    Sentence ts := by
  have hstart : (Progress.due 0).Holds [] := fun _ hv => hv.sentence
  exact h.holds hp hstart

theorem Progress.exists_steps (p : Progress) : ∃ ts, Steps p ts (.done 0) ∧ Loaded ts := by
  have hdone (n : Nat) : ∃ ts, Steps (.done n) ts (.done 0) ∧ Loaded ts := by
    induction n with
    | zero => exact ⟨[], .nil _, List.forall_mem_nil _⟩
    | succ n ih =>
        obtain ⟨ts, hs, hp⟩ := ih
        exact ⟨⟨.rightParen, ")", 1, none⟩ :: ts, .cons (.closing n) hs,
          loaded_cons_of_kind (by simp) (by simp) hp⟩
  cases p with
  | done n => exact hdone n
  | due n =>
      obtain ⟨ts, hs, hp⟩ := hdone n
      exact ⟨⟨.nilWord, "nil", 1, none⟩ :: ts, .cons (.literal n rfl) hs,
        loaded_cons_of_kind (by simp) (by simp) hp⟩

theorem Viable.exists_steps {ts : List Token} (h : Viable ts) : ∃ p, Steps (.due 0) ts p := by
  obtain ⟨more, e, ho, hs⟩ := h
  obtain ⟨p, hp, -⟩ := (steps_of_spelled ho hs 0).of_append
  exact ⟨p, hp⟩

theorem viable_of_steps {ts : List Token} {p : Progress} (h : Steps (.due 0) ts p)
    (hp : Loaded ts) : Viable ts := by
  obtain ⟨more, hmore, hload⟩ := p.exists_steps
  exact ⟨more, sentence_of_steps (h.trans hmore) (hp.append hload)⟩

def OperandDue (ts : List Token) : Prop :=
  ∀ t ∈ ts.getLast?, t.kind = .leftParen ∨ t.kind ∈ Level.unary.operators ∨ t.kind ∈ infixes

def OperandDone (ts : List Token) : Prop :=
  ∃ t ∈ ts.getLast?, t.kind.isLiteral = true ∨ t.kind = .rightParen

def ParenOpen (ts : List Token) : Prop :=
  ts.countP (·.kind = .rightParen) < ts.countP (·.kind = .leftParen)

instance (ts : List Token) : Decidable (OperandDue ts) :=
  inferInstanceAs (Decidable (∀ t ∈ ts.getLast?, _))

instance (ts : List Token) : Decidable (ParenOpen ts) :=
  inferInstanceAs (Decidable (_ < _))

theorem OperandDone.not_due {ts : List Token} (h : OperandDone ts) : ¬OperandDue ts := by
  obtain ⟨t, ht, hk⟩ := h
  intro hdue
  have hdue := hdue t ht
  revert hk hdue
  cases t.kind <;> decide

theorem Steps.of_concat {p r : Progress} {ts : List Token} {t : Token}
    (h : Steps p (ts ++ [t]) r) : ∃ q, Steps p ts q ∧ Step q t.kind r := by
  obtain ⟨q, hs, ht⟩ := h.of_append
  cases ht with
  | cons ht hnil =>
      cases hnil
      exact ⟨q, hs, ht⟩

theorem Steps.operandDue {n m : Nat} {ts : List Token} (h : Steps (.due n) ts (.due m)) :
    OperandDue ts := by
  rcases List.eq_nil_or_concat ts with rfl | ⟨us, t, rfl⟩
  · simp [OperandDue]
  · rw [List.concat_eq_append] at h ⊢
    obtain ⟨q, -, hstep⟩ := h.of_concat
    suffices t.kind = .leftParen ∨ t.kind ∈ Level.unary.operators ∨ t.kind ∈ infixes by
      simpa [OperandDue] using this
    generalize t.kind = k at hstep
    cases hstep with
    | opening => exact Or.inl rfl
    | unary _ hu => exact Or.inr (Or.inl hu)
    | binary _ hb => exact Or.inr (Or.inr hb)

theorem Steps.operandDone {n m : Nat} {ts : List Token} (h : Steps (.due n) ts (.done m)) :
    OperandDone ts := by
  rcases List.eq_nil_or_concat ts with rfl | ⟨us, t, rfl⟩
  · cases h
  · rw [List.concat_eq_append] at h ⊢
    obtain ⟨q, -, hstep⟩ := h.of_concat
    refine ⟨t, by simp, ?_⟩
    generalize t.kind = k at hstep
    cases hstep with
    | literal _ hlit => exact Or.inl hlit
    | closing => exact Or.inr rfl

def Progress.opened : Progress → Nat
  | due n | done n => n

theorem Step.opened {p q : Progress} {k : Kind} (h : Step p k q) :
    p.opened + (if k = .leftParen then 1 else 0) =
      q.opened + (if k = .rightParen then 1 else 0) := by
  have hnot (hl : k ≠ .leftParen) (hr : k ≠ .rightParen) (ho : p.opened = q.opened) :
      p.opened + (if k = .leftParen then 1 else 0) =
        q.opened + (if k = .rightParen then 1 else 0) := by
    rw [if_neg hl, if_neg hr, ho]
  cases h with
  | opening | closing => rfl
  | literal n hk | unary n hk | binary n hk =>
      refine hnot ?_ ?_ rfl <;> rintro rfl <;> exact absurd hk (by decide)

theorem Steps.opened {p q : Progress} {ts : List Token} (h : Steps p ts q) :
    p.opened + ts.countP (·.kind = .leftParen) = q.opened + ts.countP (·.kind = .rightParen) := by
  induction h with
  | nil => rfl
  | cons ht _ ih =>
      have hstep := ht.opened
      simp only [List.countP_cons, decide_eq_true_eq]
      omega

theorem Steps.parenOpen_iff {ts : List Token} {p : Progress} (h : Steps (.due 0) ts p) :
    ParenOpen ts ↔ 0 < p.opened := by
  have hcount := h.opened
  simp only [Progress.opened, ParenOpen] at hcount ⊢
  omega

end Reckoner.Grammar
