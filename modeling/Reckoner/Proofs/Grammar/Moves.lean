import Reckoner.Grammar.Reading

namespace Reckoner.Grammar

/-- A reading goes from `s` to `s'` by taking the tokens `used`, and objects to nothing. -/
structure Moves (s : State) (used : List Token) (s' : State) : Prop where
  rest : s.rest = used ++ s'.rest
  consumed : s'.tokens.consumed = s.tokens.consumed + used.length
  last : s'.last = used.getLast?.or s.last
  diagnostics : s'.diagnostics = s.diagnostics

theorem Moves.refl (s : State) : Moves s [] s := ⟨rfl, rfl, rfl, rfl⟩

theorem Moves.trans {s s₁ s₂ : State} {us vs : List Token} (h : Moves s us s₁)
    (h' : Moves s₁ vs s₂) : Moves s (us ++ vs) s₂ := by
  refine ⟨?_, ?_, ?_, h'.diagnostics.trans h.diagnostics⟩
  · rw [h.rest, h'.rest, List.append_assoc]
  · rw [h'.consumed, h.consumed, List.length_append, Nat.add_assoc]
  · rw [h'.last, h.last, List.getLast?_append, Option.or_assoc]

theorem Moves.trans_nil {s s₁ s₂ : State} {us : List Token} (h : Moves s us s₁)
    (h' : Moves s₁ [] s₂) : Moves s us s₂ := by
  simpa using h.trans h'

theorem Moves.rest_nil {s s' : State} (h : Moves s [] s') : s'.rest = s.rest := h.rest.symm

theorem Moves.rest_eq {s s' : State} {ts tail : List Token} (h : Moves s ts s')
    (hr : s.rest = ts ++ tail) : s'.rest = tail :=
  List.append_cancel_left (h.rest.symm.trans hr)

theorem Moves.of_start {tokens used : List Token} {diagnostics : List Diagnostic} {s' : State}
    (h : Moves (.start tokens diagnostics) used s') :
    tokens = used ++ s'.rest ∧ s'.tokens.consumed = used.length ∧ s'.last = used.getLast? ∧
      s'.diagnostics = diagnostics :=
  ⟨h.rest, h.consumed.trans (Nat.zero_add _), h.last.trans Option.or_none, h.diagnostics⟩

theorem bind_eq_ok {α β : Type} {p : Rule α} {f : α → Rule β} {s s' : State} {b : β}
    (h : (p >>= f) s = (.ok b, s')) : ∃ a s₁, p s = (.ok a, s₁) ∧ f a s₁ = (.ok b, s') := by
  change Rule.andThen p f s = (.ok b, s') at h
  unfold Rule.andThen at h
  split at h
  next a s₁ hp => exact ⟨a, s₁, hp, h⟩
  next fault s₁ hp => simp at h

theorem bind_eq_error {α β : Type} {p : Rule α} {f : α → Rule β} {s s' : State} {fault : Fault}
    (h : (p >>= f) s = (.error fault, s')) :
    p s = (.error fault, s') ∨ ∃ a s₁, p s = (.ok a, s₁) ∧ f a s₁ = (.error fault, s') := by
  change Rule.andThen p f s = (.error fault, s') at h
  unfold Rule.andThen at h
  split at h
  next a s₁ hp => exact Or.inr ⟨a, s₁, hp, h⟩
  next cause s₁ hp =>
    rw [hp]
    simp only [Prod.mk.injEq, Except.error.injEq] at h
    exact Or.inl (by rw [h.1, h.2])

theorem peek_moves (s : State) : ∃ s', peek s = (.ok s.rest.head?, s') ∧ Moves s [] s' := by
  refine ⟨(peek s).2, Prod.ext (fst_peek s) rfl, ?_, ?_, rfl, rfl⟩
  · exact (rest_peek s).symm
  · exact Cursor.consumed_fill s.tokens

theorem accept_moves (kinds : List Kind) (s : State) :
    ∃ s', accept kinds s = (.ok (s.rest.head?.filter (kinds.contains ·.kind)), s') ∧
      Moves s (s.rest.head?.filter (kinds.contains ·.kind)).toList s' := by
  refine ⟨(accept kinds s).2, Prod.ext (fst_accept kinds s) rfl, ?_⟩
  have item := Cursor.fst_nextIf (kinds.contains ·.kind) s.tokens
  unfold accept
  split
  next t c h =>
    obtain ⟨-, hr, hc⟩ := Cursor.of_nextIf_some h
    rw [h] at item
    change some t = s.rest.head?.filter (kinds.contains ·.kind) at item
    rw [← item]
    exact ⟨hr, hc, rfl, rfl⟩
  next c h =>
    obtain ⟨hr, hc, -⟩ := Cursor.of_nextIf_none h
    rw [h] at item
    change none = s.rest.head?.filter (kinds.contains ·.kind) at item
    rw [← item]
    exact ⟨hr.symm, hc, rfl, rfl⟩

theorem peek_bind {α : Type} {f : Option Token → Rule α} {s : State} {r : Except Fault α × State}
    (h : (peek >>= f) s = r) : ∃ s₁, Moves s [] s₁ ∧ f s.rest.head? s₁ = r := by
  obtain ⟨s₁, hp, hm⟩ := peek_moves s
  exact ⟨s₁, hm, (Rule.bind_of_ok hp).symm.trans h⟩

theorem accept_of_cons {kinds : List Kind} {s : State} {t : Token} {ts : List Token}
    (h : s.rest = t :: ts) (hk : t.kind ∈ kinds) :
    ∃ s', accept kinds s = (.ok (some t), s') ∧ Moves s [t] s' := by
  have hf : s.rest.head?.filter (kinds.contains ·.kind) = some t := by simp [h, hk]
  simpa only [hf, Option.toList_some] using accept_moves kinds s

theorem accept_of_forall {kinds : List Kind} {s : State}
    (h : ∀ t ∈ s.rest.head?, t.kind ∉ kinds) :
    ∃ s', accept kinds s = (.ok none, s') ∧ Moves s [] s' := by
  have hf : s.rest.head?.filter (kinds.contains ·.kind) = none := by
    rw [Option.filter_eq_none_iff]
    simpa using h
  simpa only [hf, Option.toList_none] using accept_moves kinds s

theorem accept_of_nil (kinds : List Kind) {s : State} (h : s.rest = []) :
    accept kinds s = (.ok none, s) := by
  obtain ⟨⟨ahead, source, consumed⟩, last, diagnostics⟩ := s
  obtain ⟨hahead, rfl⟩ : ahead.toList = [] ∧ source = [] := List.append_eq_nil_iff.1 h
  obtain rfl := Option.toList_eq_nil_iff.1 hahead
  rfl

theorem of_accept_some {kinds : List Kind} {s s' : State} {t : Token}
    (h : accept kinds s = (.ok (some t), s')) : t.kind ∈ kinds ∧ Moves s [t] s' := by
  obtain ⟨s₁, ha, hm⟩ := accept_moves kinds s
  rw [ha] at h
  simp only [Prod.mk.injEq, Except.ok.injEq] at h
  obtain ⟨hf, rfl⟩ := h
  rw [hf] at hm
  exact ⟨by simpa using (Option.filter_eq_some_iff.1 hf).2, hm⟩

theorem of_accept_none {kinds : List Kind} {s s' : State}
    (h : accept kinds s = (.ok none, s')) :
    (∀ t ∈ s.rest.head?, t.kind ∉ kinds) ∧ Moves s [] s' := by
  obtain ⟨s₁, ha, hm⟩ := accept_moves kinds s
  rw [ha] at h
  simp only [Prod.mk.injEq, Except.ok.injEq] at h
  obtain ⟨hf, rfl⟩ := h
  rw [hf] at hm
  refine ⟨?_, hm⟩
  intro t ht
  simpa using Option.filter_eq_none_iff.1 hf t ht

theorem accept_bind {α : Type} {kinds : List Kind} {f : Option Token → Rule α} {s : State}
    {r : Except Fault α × State} (h : (accept kinds >>= f) s = r) :
    (∃ s₁, (∀ t ∈ s.rest.head?, t.kind ∉ kinds) ∧ Moves s [] s₁ ∧ f none s₁ = r) ∨
      ∃ t s₁, t.kind ∈ kinds ∧ Moves s [t] s₁ ∧ f (some t) s₁ = r := by
  obtain ⟨s₁, ha, -⟩ := accept_moves kinds s
  replace h := (Rule.bind_of_ok ha).symm.trans h
  cases hn : s.rest.head?.filter (kinds.contains ·.kind) with
  | none =>
      rw [hn] at ha h
      obtain ⟨hk, hm⟩ := of_accept_none ha
      exact Or.inl ⟨s₁, hk, hm, h⟩
  | some t =>
      rw [hn] at ha h
      obtain ⟨hk, hm⟩ := of_accept_some ha
      exact Or.inr ⟨t, s₁, hk, hm, h⟩

theorem take_of_cons {s : State} {t : Token} {ts : List Token} (h : s.rest = t :: ts) :
    ∃ s', take s = (.ok t, s') ∧ Moves s [t] s' := by
  have item := Cursor.fst_next s.tokens
  cases hn : s.tokens.next with
  | mk next c =>
      rw [hn] at item
      change next = s.rest.head? at item
      rw [h] at item
      subst item
      obtain ⟨hr, hc⟩ := Cursor.of_next_some hn
      refine ⟨{ s with tokens := c, last := some t }, ?_, hr, hc, rfl, rfl⟩
      have ha : advance s = (.ok (some t), { s with tokens := c, last := some t }) := by
        simp only [advance, hn, List.head?_cons]
      exact Rule.bind_of_ok ha

theorem of_refuse {α : Type} {token : Option Token} {objection : Objection} {s s' : State} {a : α} :
    refuse token objection s ≠ (.ok a, s') := by
  intro h
  simp [refuse] at h

theorem refuse_peek_tooDeep (s : State) :
    ∃ t s', (do refuse (← peek) .tooDeep : Rule Expr) s = (.error (.refused t .tooDeep), s') :=
  ⟨_, _, rfl⟩

theorem of_expect {kind : Kind} {objection : Objection} {s s' : State} {t : Token}
    (h : expect kind objection s = (.ok t, s')) : t.kind = kind ∧ Moves s [t] s' := by
  obtain ⟨next, s₁, ha, h⟩ := bind_eq_ok h
  cases next with
  | none =>
      obtain ⟨next, s₂, -, h⟩ := bind_eq_ok h
      exact absurd h of_refuse
  | some u =>
      obtain ⟨hk, hm⟩ := of_accept_some ha
      simp only [Rule.pure_apply, Prod.mk.injEq, Except.ok.injEq] at h
      obtain ⟨rfl, rfl⟩ := h
      exact ⟨by simpa using hk, hm⟩

theorem expect_of_cons {kind : Kind} (objection : Objection) {s : State} {t : Token}
    {ts : List Token} (h : s.rest = t :: ts) (hk : t.kind = kind) :
    ∃ s', expect kind objection s = (.ok t, s') ∧ Moves s [t] s' := by
  have hmem : t.kind ∈ [kind] := by simp [hk]
  obtain ⟨s', ha, hm⟩ := accept_of_cons h hmem
  exact ⟨s', Rule.bind_of_ok ha, hm⟩

theorem of_refuseOperand {s s' : State} (h : refuseOperand s = (.ok (), s')) :
    (∀ t ∈ s.rest.head?, t.kind.startsOperand = false) ∧ Moves s [] s' := by
  obtain ⟨next, s₁, hp, h⟩ := bind_eq_ok h
  obtain ⟨s₂, hp', hm⟩ := peek_moves s
  rw [hp] at hp'
  simp only [Prod.mk.injEq, Except.ok.injEq] at hp'
  obtain ⟨rfl, rfl⟩ := hp'
  cases hr : s.rest.head? with
  | none =>
      rw [hr] at h
      simp only [Rule.pure_apply, Prod.mk.injEq, true_and] at h
      subst h
      exact ⟨by simp, hm⟩
  | some t =>
      rw [hr] at h
      by_cases hk : t.kind.startsOperand
      · simp [hk, refuse] at h
      · simp only [hk, Bool.false_eq_true, if_false, Rule.pure_apply, Prod.mk.injEq, true_and] at h
        subst h
        exact ⟨by simpa using hk, hm⟩

theorem refuseOperand_of_forall {s : State}
    (h : ∀ t ∈ s.rest.head?, t.kind.startsOperand = false) :
    ∃ s', refuseOperand s = (.ok (), s') ∧ Moves s [] s' := by
  obtain ⟨s₁, hp, hm⟩ := peek_moves s
  refine ⟨s₁, ?_, hm⟩
  refine (Rule.bind_of_ok hp).trans ?_
  cases hr : s.rest.head? with
  | none => rfl
  | some t => simp [h t hr, Rule.pure_apply]

theorem extend_stops {operators : List Kind} (operand : Rule Expr) (pending : List Token)
    (e : Expr) {s : State} (h : ∀ t ∈ s.rest.head?, t.kind ∉ operators) :
    ∃ s', extend operators operand pending e s = (.ok e, s') ∧ Moves s [] s' := by
  cases pending with
  | nil => exact ⟨s, rfl, .refl s⟩
  | cons _ pending =>
      obtain ⟨s', ha, hm⟩ := accept_of_forall h
      exact ⟨s', Rule.bind_of_ok ha, hm⟩

variable {budget : Nat} {s s' : State}

theorem of_readAll_ok {e : Expr} (h : readAll budget s = (.ok e, s')) :
    ∃ s₁, read budget .equality s = (.ok e, s₁) ∧ Moves s₁ [] s' ∧
      ∀ t ∈ s₁.rest.head?, t.kind = .endOfInput := by
  unfold readAll at h
  split at h
  next => exact absurd h of_refuse
  next => simp at h
  next tree s₁ hr =>
    obtain ⟨s₂, hm, h⟩ := peek_bind h
    cases hn : s₁.rest.head? with
    | none =>
        rw [hn] at h
        obtain ⟨⟩ := h
        exact ⟨s₁, hr, hm, by simp [hn]⟩
    | some t =>
        by_cases hk : t.kind = .endOfInput
        · simp only [hn, hk, if_true] at h
          obtain ⟨⟩ := h
          exact ⟨s₁, hr, hm, by simp [hn, hk]⟩
        · simp only [hn, hk, if_false] at h
          exact absurd h of_refuse

/-- A whole reading that fails has run out of its budget, which it turns into an objection, or has
failed inside, or has come to a token behind the expression. -/
theorem of_readAll_error {fault : Fault} (h : readAll budget s = (.error fault, s')) :
    (∃ t, fault = .refused t .tooDeep) ∨
      (fault ≠ .depth ∧ read budget .equality s = (.error fault, s')) ∨
      ∃ e s₁ t s₂, read budget .equality s = (.ok e, s₁) ∧ Moves s₁ [] s₂ ∧
        s₁.rest.head? = some t ∧ t.kind ≠ .endOfInput ∧
        refuse (some t) .expectedEnd s₂ = ((.error fault : Except Fault Expr), s') := by
  unfold readAll at h
  split at h
  next s₁ hr =>
    obtain ⟨t, s₂, hdeep⟩ := refuse_peek_tooDeep s₁
    rw [hdeep] at h
    simp only [Prod.mk.injEq, Except.error.injEq] at h
    exact Or.inl ⟨t, h.1.symm⟩
  next cause s₁ hdepth hr =>
    simp only [Prod.mk.injEq, Except.error.injEq] at h
    obtain ⟨rfl, rfl⟩ := h
    exact Or.inr (Or.inl ⟨hdepth, hr⟩)
  next tree s₁ hr =>
    obtain ⟨s₂, hm, h⟩ := peek_bind h
    cases hn : s₁.rest.head? with
    | none => simp [hn, Rule.pure_apply] at h
    | some t =>
        by_cases hk : t.kind = .endOfInput
        · simp [hn, hk, Rule.pure_apply] at h
        · simp only [hn, hk, if_false] at h
          exact Or.inr (Or.inr ⟨tree, s₁, t, s₂, hr, hm, hn, hk, h⟩)

theorem readAll_ne_depth (budget : Nat) (s : State) : (readAll budget s).1 ≠ .error .depth := by
  intro h
  rcases of_readAll_error (Prod.ext h rfl) with
    ⟨t, refused⟩ | ⟨other, -⟩ | ⟨e, s₁, t, s₂, -, -, -, -, h⟩
  · simp at refused
  · exact absurd rfl other
  · simp [refuse] at h

end Reckoner.Grammar
