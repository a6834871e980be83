import Reckoner.Proofs.Grammar.Induction
import Reckoner.Proofs.Grammar.Moves

namespace Reckoner.Grammar

/-- A rule makes nothing but expressions from a level on, of the tokens that it takes, and stops
where none of them can go on. -/
def Sound (level : Level) (p : Rule Expr) : Prop :=
  ∀ s s' e, p s = (.ok e, s') →
    ∃ used, Moves s used s' ∧ e.Spelled used ∧ e.Obeys level ∧ level.Stops s'.rest

theorem fail_sound (level : Level) (fault : Fault) : Sound level (fail fault) := by
  intro s s' e h
  simp [fail] at h

theorem extend_sound {level : Level} {operand : Rule Expr} (hl : level.binaries ≠ [])
    (hp : Sound level.tighter operand) (pending : List Token) {left e : Expr} {us : List Token}
    {s s' : State} (hn : s.rest.length ≤ pending.length) (hs : left.Spelled us)
    (ho : left.Obeys level) (ht : level.tighter.Stops s.rest)
    (h : extend level.operators operand pending left s = (.ok e, s')) :
    ∃ vs, Moves s vs s' ∧ e.Spelled (us ++ vs) ∧ e.Obeys level ∧ level.tighter.Stops s'.rest ∧
      ∀ t ∈ s'.rest.head?, t.kind ∉ level.operators := by
  -- `us` spells what has been read so far; a token is pending for every round that is left
  induction pending generalizing left us s with
  | nil =>
      have hr : s.rest = [] := List.length_eq_zero_iff.1 (Nat.le_zero.1 hn)
      simp only [extend, Rule.pure_apply, Prod.mk.injEq, Except.ok.injEq] at h
      obtain ⟨rfl, rfl⟩ := h
      exact ⟨[], .refl s, by simpa using hs, ho, ht, by simp [hr]⟩
  | cons _ pending ih =>
      obtain ⟨next, s₁, ha, h⟩ := bind_eq_ok h
      cases next with
      | none =>
          obtain ⟨hk, hm⟩ := of_accept_none ha
          simp only [Rule.pure_apply, Prod.mk.injEq, Except.ok.injEq] at h
          obtain ⟨rfl, rfl⟩ := h
          have hr : s.rest = s₁.rest := hm.rest
          refine ⟨[], hm, by simpa using hs, ho, ?_, ?_⟩
          · rwa [← hr]
          · rwa [← hr]
      | some operator =>
          obtain ⟨hk, hm⟩ := of_accept_some ha
          obtain ⟨right, s₂, hr, h⟩ := bind_eq_ok h
          obtain ⟨ws, hm', hs', ho', ht'⟩ := hp _ _ _ hr
          have hn' : s₂.rest.length ≤ pending.length := by
            have hlen := congrArg List.length (hm.trans hm').rest
            simp only [List.length_append, List.length_cons] at hlen hn
            omega
          have hob : (Expr.binary left operator right).Obeys level :=
            ⟨level, Level.mem_binaries hl, hk, ho, ho'⟩
          obtain ⟨vs, hm'', hs'', hrest⟩ := ih hn' (hs.binary hs') hob ht' h
          refine ⟨operator :: ws ++ vs, (hm.trans hm').trans hm'', ?_, hrest⟩
          simpa using hs''

theorem chain_sound {level : Level} {operand : Rule Expr} (hl : level.binaries ≠ [])
    (hp : Sound level.tighter operand) : Sound level (chain level operand) := by
  intro s s' e h
  obtain ⟨left, s₁, h₁, h⟩ := bind_eq_ok h
  obtain ⟨us, hm₁, hs₁, ho₁, ht₁⟩ := hp _ _ _ h₁
  obtain ⟨tree, s₂, h₂, h⟩ := bind_eq_ok h
  obtain ⟨vs, hm₂, hs₂, ho₂, ht₂, hk₂⟩ :=
    extend_sound hl hp s₁.rest (Nat.le_refl _) hs₁ (ho₁.loosen hl) ht₁ h₂
  obtain ⟨_, s₃, h₃, h⟩ := bind_eq_ok h
  obtain ⟨hstart, hm₃⟩ := of_refuseOperand h₃
  simp only [Rule.pure_apply, Prod.mk.injEq, Except.ok.injEq] at h
  obtain ⟨rfl, rfl⟩ := h
  refine ⟨us ++ vs, (hm₁.trans hm₂).trans_nil hm₃, hs₂, ho₂, ?_⟩
  have hr : s₂.rest = s₃.rest := hm₃.rest
  rw [← hr]
  exact Level.stops_of_not_mem ht₂ hl hk₂ hstart

theorem primaryOver_sound {inner : Rule Expr} (hi : Sound .equality inner) :
    Sound .primary (primaryOver inner) := by
  have hstop (rest : List Token) : Level.primary.Stops rest := Level.stops_of_binaries rfl rest
  intro s s' e h
  obtain ⟨next, s₁, hp, h⟩ := bind_eq_ok h
  obtain ⟨s₁', hp', hm₁⟩ := peek_moves s
  rw [hp'] at hp
  simp only [Prod.mk.injEq, Except.ok.injEq] at hp
  obtain ⟨rfl, rfl⟩ := hp
  cases hr : s.rest with
  | nil =>
      rw [hr] at h
      exact absurd h of_refuse
  | cons t ts =>
      have hr₁ : s₁'.rest = t :: ts := by rw [← hr, hm₁.rest, List.nil_append]
      obtain ⟨s₂, ht, hm₂⟩ := take_of_cons hr₁
      have hm := hm₁.trans hm₂
      simp only [hr, List.head?_cons] at h
      split at h
      next hk =>
        rw [Rule.bind_of_ok ht] at h
        cases hf : Expr.ofToken t with
        | error fault =>
            rw [hf] at h
            exact absurd h (by simp [fail])
        | ok tree =>
            rw [hf] at h
            obtain ⟨rfl, -, hp⟩ := Expr.of_ofToken hf
            simp only [Rule.pure_apply, Prod.mk.injEq, Except.ok.injEq] at h
            obtain ⟨rfl, rfl⟩ := h
            exact ⟨[t], hm, List.Forall₂.cons ⟨rfl, rfl⟩ List.Forall₂.nil, ⟨hk, hp⟩, hstop _⟩
      next hk =>
        split at h
        next hopen =>
          rw [Rule.bind_of_ok ht] at h
          obtain ⟨tree, s₃, h₃, h⟩ := bind_eq_ok h
          obtain ⟨us, hm₃, hs₃, ho₃, -⟩ := hi _ _ _ h₃
          obtain ⟨closing, s₄, h₄, h⟩ := bind_eq_ok h
          obtain ⟨hclose, hm₄⟩ := of_expect h₄
          simp only [Rule.pure_apply, Prod.mk.injEq, Except.ok.injEq] at h
          obtain ⟨rfl, rfl⟩ := h
          exact ⟨_, hm.trans (hm₃.trans hm₄), hs₃.grouping hopen hclose, ho₃, hstop _⟩
        next hopen => exact absurd h of_refuse

theorem unaryOver_sound {nested inner : Rule Expr} (hn : Sound .unary nested)
    (hi : Sound .equality inner) : Sound .unary (unaryOver nested inner) := by
  intro s s' e h
  obtain ⟨next, s₁, ha, h⟩ := bind_eq_ok h
  cases next with
  | none =>
      obtain ⟨-, hm⟩ := of_accept_none ha
      obtain ⟨used, hm', hs, ho, -⟩ := primaryOver_sound hi _ _ _ h
      exact ⟨used, hm.trans hm', hs, ho.of_primary _, Level.stops_of_binaries rfl _⟩
  | some operator =>
      obtain ⟨hk, hm⟩ := of_accept_some ha
      obtain ⟨right, s₂, hr, h⟩ := bind_eq_ok h
      obtain ⟨us, hm', hs, ho, ht⟩ := hn _ _ _ hr
      simp only [Rule.pure_apply, Prod.mk.injEq, Except.ok.injEq] at h
      obtain ⟨rfl, rfl⟩ := h
      exact ⟨operator :: us, hm.trans hm', List.Forall₂.cons rfl hs, ⟨by decide, hk, ho⟩, ht⟩

theorem binaryOver_sound {p : Rule Expr} (hp : Sound .unary p) {level : Level}
    (hl : level ≠ .primary) : Sound level (binaryOver p level) :=
  binaryOver_induction (fun _ _ hl hp => chain_sound hl hp) hp hl

theorem unary_sound (budget : Nat) :
    Sound .unary (unary budget) ∧ Sound .equality (inside budget) := by
  apply unary_induction (P := fun _ => Sound .unary) (Q := fun _ => Sound .equality)
  · exact fun _ _ => fail_sound _ _
  · exact fun _ _ hp => binaryOver_sound hp (by decide)
  · exact fun _ hi => unaryOver_sound (fail_sound _ _) hi
  · exact fun _ _ _ hn hi => unaryOver_sound hn hi

theorem read_sound (budget : Nat) (level : Level) : Sound level (read budget level) := by
  obtain ⟨hu, hi⟩ := unary_sound budget
  cases level with
  | primary => exact primaryOver_sound hi
  | equality | comparison | addition | multiplication | unary =>
      exact binaryOver_sound hu (by decide)

theorem readAll_sound {budget : Nat} {s s' : State} {e : Expr}
    (h : readAll budget s = (.ok e, s')) :
    ∃ used, Moves s used s' ∧ e.Spelled used ∧ e.Obeys .equality ∧
      ∀ t ∈ s'.rest.head?, t.kind = .endOfInput := by
  obtain ⟨s₁, hr, hm', hend⟩ := of_readAll_ok h
  obtain ⟨used, hm, hs, ho, -⟩ := read_sound budget .equality _ _ _ hr
  exact ⟨used, hm.trans_nil hm', hs, ho, by rwa [hm'.rest_nil]⟩

/-- In any state, a tree that comes of a level of the grammar or of a whole reading is spelled by
exactly the tokens that have been taken; it obeys precedence from that level on; and what comes next
could not have continued it, or is the end. The state has moved over these tokens and is otherwise
as it was. -/
theorem reading_sound (budget : Nat) (s s' : State) (e : Expr) :
    (∀ level, read budget level s = (.ok e, s') →
      ∃ used, Moves s used s' ∧ e.Spelled used ∧ e.Obeys level ∧ level.Stops s'.rest) ∧
    (readAll budget s = (.ok e, s') →
      ∃ used, Moves s used s' ∧ e.Spelled used ∧ e.Obeys .equality ∧
        ∀ t ∈ s'.rest.head?, t.kind = .endOfInput) :=
  ⟨fun level h => read_sound budget level s s' e h, readAll_sound⟩

theorem reading_sound_operators :
    let token (kind : Kind) (lexeme : String) : Token := ⟨kind, lexeme, 1, none⟩
    let closing := token .rightParen ")"
    let s : State := .start [token .trueWord "true", token .minus "-", token .falseWord "false",
      token .star "*", token .bang "!", token .leftParen "(", token .nilWord "nil", closing,
      .endOfInput 1] []
    let s' : State := ⟨⟨some (.endOfInput 1), [], 8⟩, some closing, []⟩
    let e : Expr := .binary (.literal .trueWord none) (token .minus "-")
      (.binary (.literal .falseWord none) (token .star "*")
        (.unary (token .bang "!") (.grouping (.literal .nilWord none))))
    (∃ used, Moves s used s' ∧ e.Spelled used ∧ e.Obeys .addition ∧
      Level.addition.Stops s'.rest) ∧
    ∃ used, Moves s used s' ∧ e.Spelled used ∧ e.Obeys .equality ∧
      ∀ t ∈ s'.rest.head?, t.kind = .endOfInput := by
  intro token closing s s' e
  have hlevel : read 8 .addition s = (.ok e, s') := by decide +kernel
  have hwhole : readAll 8 s = (.ok e, s') := by decide +kernel
  exact ⟨(reading_sound 8 s s' e).1 .addition hlevel, (reading_sound 8 s s' e).2 hwhole⟩

end Reckoner.Grammar
