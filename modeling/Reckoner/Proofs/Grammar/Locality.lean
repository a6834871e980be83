import Reckoner.Proofs.Grammar.Induction
import Reckoner.Proofs.Grammar.Moves

namespace Reckoner

namespace Grammar

variable {α β : Type}

def reports : Except Fault α → List Diagnostic
  | .error (.refused t o) => [.ofToken t o.message]
  | _ => []

/-- The token to blame in a state: the next one, or a mark on the line of the last one. -/
def State.blamed (s : State) : Token :=
  s.rest.head?.getD (Token.endOfInput ((s.last.map Token.line).getD 1))

/-- A rule that has taken the tokens `used` has come from `s` to `s'` with the result `r`. -/
structure Ends (s : State) (used : List Token) (r : Except Fault α) (s' : State) : Prop where
  moves : Moves s used { s' with diagnostics := s.diagnostics }
  unmarked : ∀ t ∈ used, t.kind ≠ .endOfInput
  diagnostics : s'.diagnostics = s.diagnostics ++ reports r
  blamed : ∀ t o, r = .error (.refused t o) → t = s'.blamed
  literal : ∀ fault, r = .error (.literal fault) →
    ∃ t ∈ used, t.kind.isLiteral = true ∧ Expr.ofToken t = .error fault

structure Alike (n : Nat) (s t : State) : Prop where
  rest : t.rest.take (n + 1) = s.rest.take (n + 1)
  last : t.last = s.last

/-- A rule does in all states that look like `s` to it what it does in `s`. -/
def LocalFrom (s : State) (p : Rule α) : Prop :=
  ∃ used r, ∀ t, Alike used.length s t → ∃ t', p t = (r, t') ∧ Ends t used r t'

def Local (p : Rule α) : Prop := ∀ s, LocalFrom s p

variable {s s' s₁ t t₁ : State} {us vs : List Token}

theorem Alike.refl (n : Nat) (s : State) : Alike n s s := ⟨rfl, rfl⟩

theorem Alike.head? {n : Nat} (h : Alike n s t) : t.rest.head? = s.rest.head? := by
  have front := congrArg List.head? h.rest
  simpa [List.head?_take] using front

theorem Alike.mono {m n : Nat} (h : Alike n s t) (hmn : m ≤ n) : Alike m s t := by
  refine ⟨?_, h.last⟩
  have front := congrArg (List.take (m + 1)) h.rest
  rwa [List.take_take, List.take_take, Nat.min_eq_left (by omega)] at front

theorem Alike.left (h : Alike (us ++ vs).length s t) : Alike us.length s t :=
  h.mono (by simp)

theorem Alike.right (h : Alike (us ++ vs).length s t) (hs : Moves s us s₁) (ht : Moves t us t₁) :
    Alike vs.length s₁ t₁ := by
  constructor
  · have behind := congrArg (List.drop us.length) h.rest
    rwa [List.length_append, Nat.add_assoc, ← List.take_drop, ← List.take_drop, hs.rest, ht.rest,
      List.drop_left, List.drop_left] at behind
  · rw [ht.last, hs.last, h.last]

theorem Ends.of_moves {a : α} (h : Moves s us s') (hu : ∀ t ∈ us, t.kind ≠ .endOfInput) :
    Ends s us (.ok a : Except Fault α) s' := by
  refine ⟨?_, hu, ?_, by simp, by simp⟩
  · rw [← h.diagnostics]
    exact h
  · simpa [reports] using h.diagnostics

theorem Ends.moves_of_reports {r : Except Fault α} (h : Ends s us r s₁) (hr : reports r = []) :
    Moves s us s₁ := by
  have kept : s₁.diagnostics = s.diagnostics := by rw [h.diagnostics, hr, List.append_nil]
  have moves := h.moves
  rwa [← kept] at moves

theorem Ends.error {fault : Fault} (h : Ends s us (.error fault : Except Fault α) s') :
    Ends s us (.error fault : Except Fault β) s' := by
  refine ⟨h.moves, h.unmarked, ?_, fun t o hf => h.blamed t o ?_, fun cause hf => h.literal cause ?_⟩
  · rw [h.diagnostics]
    cases fault <;> rfl
  · rw [Except.error.inj hf]
  · rw [Except.error.inj hf]

theorem Ends.of_moves_append {r : Except Fault α} (hm : Moves s us s₁)
    (hu : ∀ t ∈ us, t.kind ≠ .endOfInput) (h : Ends s₁ vs r s') : Ends s (us ++ vs) r s' := by
  refine ⟨?_, List.forall_mem_append.2 ⟨hu, h.unmarked⟩, ?_, h.blamed, fun fault hf => ?_⟩
  · rw [← hm.diagnostics]
    exact hm.trans h.moves
  · rw [h.diagnostics, hm.diagnostics]
  · obtain ⟨u, hmem, hliteral⟩ := h.literal fault hf
    exact ⟨u, List.mem_append_right us hmem, hliteral⟩

theorem LocalFrom.andThen {p : Rule α} {q c : Rule β} {r : Except Fault α}
    (h : ∀ t, Alike us.length s t → ∃ t', p t = (r, t') ∧ Ends t us r t') (hr : reports r = [])
    (hs : p s = (r, s₁)) (hq : LocalFrom s₁ q) (hc : ∀ t t', p t = (r, t') → c t = q t') :
    LocalFrom s c := by
  obtain ⟨vs, r', hq⟩ := hq
  obtain ⟨s₂, hs', first⟩ := h s (.refl _ s)
  obtain rfl : s₂ = s₁ := (Prod.mk.inj (hs'.symm.trans hs)).2
  refine ⟨us ++ vs, r', fun t ht => ?_⟩
  obtain ⟨t₁, hp, ends⟩ := h t ht.left
  have moves := ends.moves_of_reports hr
  obtain ⟨t', ht', later⟩ := hq t₁ (ht.right (first.moves_of_reports hr) moves)
  exact ⟨t', (hc t t₁ hp).trans ht', .of_moves_append moves ends.unmarked later⟩

theorem LocalFrom.bind {p : Rule α} {f : α → Rule β} (hp : LocalFrom s p)
    (hf : ∀ a s₁, p s = (.ok a, s₁) → LocalFrom s₁ (f a)) : LocalFrom s (p >>= f) := by
  obtain ⟨us, r, h⟩ := hp
  obtain ⟨s₁, hs, -⟩ := h s (.refl _ s)
  cases r with
  | ok a => exact .andThen h rfl hs (hf a s₁ hs) fun _ _ => Rule.bind_of_ok
  | error fault =>
      refine ⟨us, .error fault, fun t ht => ?_⟩
      obtain ⟨t', hp, ends⟩ := h t ht
      exact ⟨t', Rule.bind_of_error hp, ends.error⟩

theorem pure_local (a : α) : Local (pure a : Rule α) :=
  fun _ => ⟨[], .ok a, fun t _ => ⟨t, rfl, .of_moves (.refl t) (List.forall_mem_nil _)⟩⟩

theorem depth_local : Local (fail .depth : Rule α) :=
  fun _ => ⟨[], .error .depth, fun t _ =>
    ⟨t, rfl, .refl t, List.forall_mem_nil _, (List.append_nil _).symm, by simp, by simp⟩⟩

theorem peek_local : Local peek := by
  intro s
  refine ⟨[], .ok s.rest.head?, fun t ht => ?_⟩
  obtain ⟨t', hp, hm⟩ := peek_moves t
  rw [ht.head?] at hp
  exact ⟨t', hp, .of_moves hm (List.forall_mem_nil _)⟩

theorem of_peek {next : Option Token} (h : peek s = (.ok next, s')) :
    next = s'.rest.head? ∧ Moves s [] s' := by
  obtain ⟨s₁, hp, hm⟩ := peek_moves s
  rw [hp] at h
  simp only [Prod.mk.injEq, Except.ok.injEq] at h
  obtain ⟨rfl, rfl⟩ := h
  exact ⟨by rw [hm.rest_nil], hm⟩

theorem accept_local {kinds : List Kind} (hk : Kind.endOfInput ∉ kinds) : Local (accept kinds) := by
  intro s
  let next := s.rest.head?.filter (kinds.contains ·.kind)
  refine ⟨next.toList, .ok next, fun t ht => ?_⟩
  obtain ⟨t', ha, hm⟩ := accept_moves kinds t
  rw [ht.head?] at ha hm
  refine ⟨t', ha, .of_moves hm fun u hu hmark => hk ?_⟩
  have taken := (Option.filter_eq_some_iff.1 (Option.mem_toList.1 hu)).2
  simpa [hmark] using taken

theorem refuse_ends (s : State) (o : Objection) :
    ∃ s', (refuse s.rest.head? o : Rule α) s = (.error (.refused s.blamed o), s') ∧
      Ends s [] (.error (.refused s.blamed o) : Except Fault α) s' := by
  refine ⟨{ s with diagnostics := s.diagnostics ++ [.ofToken s.blamed o.message] }, rfl, .refl s,
    List.forall_mem_nil _, rfl, fun u o' hu => ?_, by simp⟩
  simp only [Except.error.injEq, Fault.refused.injEq] at hu
  rw [← hu.1]
  rfl

theorem refuse_after (hm : Moves s [] s₁) (o : Objection) :
    ∃ t s', (refuse s.rest.head? o : Rule α) s₁ = (.error (.refused t o), s') ∧
      Ends s [] (.error (.refused t o) : Except Fault α) s' := by
  obtain ⟨s', h, ends⟩ := refuse_ends (α := α) s₁ o
  rw [hm.rest_nil] at h
  exact ⟨s₁.blamed, s', h, .of_moves_append hm (List.forall_mem_nil _) ends⟩

theorem refuse_localFrom {next : Option Token} (hn : next = s.rest.head?) (o : Objection) :
    LocalFrom s (refuse next o : Rule α) := by
  subst hn
  refine ⟨[], .error (.refused s.blamed o), fun t ht => ?_⟩
  have blamed : t.blamed = s.blamed := by rw [State.blamed, State.blamed, ht.head?, ht.last]
  rw [← ht.head?, ← blamed]
  exact refuse_ends t o

theorem take_localFrom {u : Token} (hu : s.rest.head? = some u) (hk : u.kind ≠ .endOfInput) :
    LocalFrom s take := by
  refine ⟨[u], .ok u, fun t ht => ?_⟩
  obtain ⟨rest, hr⟩ := List.head?_eq_some_iff.1 (ht.head?.trans hu)
  obtain ⟨t', htake, hm⟩ := take_of_cons hr
  exact ⟨t', htake, .of_moves hm (List.forall_mem_singleton.2 hk)⟩

def literal : Rule Expr := do
  match Expr.ofToken (← take) with
  | .ok tree => pure tree
  | .error fault => fail (.literal fault)

theorem literal_localFrom {u : Token} (hu : s.rest.head? = some u) (hk : u.kind.isLiteral = true) :
    LocalFrom s literal := by
  refine ⟨[u], (Expr.ofToken u).mapError .literal, fun t ht => ?_⟩
  obtain ⟨rest, hr⟩ := List.head?_eq_some_iff.1 (ht.head?.trans hu)
  obtain ⟨t', htake, hm⟩ := take_of_cons hr
  have unmarked : ∀ t ∈ [u], t.kind ≠ .endOfInput := by
    refine List.forall_mem_singleton.2 fun hmark => ?_
    simp [hmark, Kind.isLiteral] at hk
  refine ⟨t', (Rule.bind_of_ok htake).trans ?_, ?_⟩
  · cases Expr.ofToken u <;> rfl
  · cases hf : Expr.ofToken u with
    | ok tree => exact .of_moves hm unmarked
    | error fault =>
        refine ⟨?_, unmarked, ?_, by simp [Except.mapError], fun cause hc => ?_⟩
        · rw [← hm.diagnostics]
          exact hm
        · exact hm.diagnostics.trans (List.append_nil _).symm
        · obtain rfl : fault = cause := by simpa [Except.mapError] using hc
          exact ⟨u, List.mem_singleton_self u, hk, hf⟩

theorem expect_local {kind : Kind} (hk : kind ≠ .endOfInput) (o : Objection) :
    Local (expect kind o) := by
  intro s
  have unmarked : Kind.endOfInput ∉ [kind] := by simpa using hk.symm
  refine (accept_local unmarked s).bind fun next s₁ _ => ?_
  cases next with
  | some t => exact pure_local t s₁
  | none => exact (peek_local s₁).bind fun next s₂ h => refuse_localFrom (of_peek h).1 o

theorem refuseOperand_local : Local refuseOperand := by
  intro s
  refine (peek_local s).bind fun next s₁ h => ?_
  cases next with
  | none => exact pure_local () s₁
  | some t =>
      dsimp only
      split
      · exact refuse_localFrom (of_peek h).1 _
      · exact pure_local () s₁

theorem Local.ends {p : Rule α} {r : Except Fault α} (hp : Local p) (h : p s = (r, s')) :
    ∃ used, Ends s used r s' := by
  obtain ⟨used, r', all⟩ := hp s
  obtain ⟨s₁, hs, ends⟩ := all s (.refl _ s)
  obtain ⟨rfl, rfl⟩ := Prod.mk.inj (h.symm.trans hs)
  exact ⟨used, ends⟩

theorem length_rest_of_local {p : Rule α} {r : Except Fault α} (hp : Local p)
    (h : p s = (r, s')) : s'.rest.length ≤ s.rest.length := by
  obtain ⟨used, ends⟩ := hp.ends h
  have rest : s.rest = used ++ s'.rest := ends.moves.rest
  rw [rest, List.length_append]
  exact Nat.le_add_left _ _

theorem bind_congr {p : Rule α} {f g : α → Rule β}
    (h : ∀ a s', p s = (.ok a, s') → f a s' = g a s') : (p >>= f) s = (p >>= g) s := by
  cases hp : p s with
  | mk r s' =>
      cases r with
      | ok a => rw [Rule.bind_of_ok hp, Rule.bind_of_ok hp, h a s' hp]
      | error fault => rw [Rule.bind_of_error hp, Rule.bind_of_error hp]

theorem extend_pending {operators : List Kind} {operand : Rule Expr} (hp : Local operand)
    {pending pending' : List Token} {left : Expr} {s : State}
    (h : s.rest.length ≤ pending.length) (h' : s.rest.length ≤ pending'.length) :
    extend operators operand pending left s = extend operators operand pending' left s := by
  induction pending generalizing pending' left s with
  | nil =>
      have empty : s.rest = [] := List.length_eq_zero_iff.1 (Nat.le_zero.1 h)
      cases pending' with
      | nil => rfl
      | cons _ pending' =>
          symm
          exact Rule.bind_of_ok (accept_of_nil operators empty)
  | cons _ pending ih =>
      cases pending' with
      | nil =>
          have empty : s.rest = [] := List.length_eq_zero_iff.1 (Nat.le_zero.1 h')
          exact Rule.bind_of_ok (accept_of_nil operators empty)
      | cons _ pending' =>
          refine bind_congr fun next s₁ ha => ?_
          cases next with
          | none => rfl
          | some operator =>
              refine bind_congr fun right s₂ ho => ?_
              have taken := congrArg List.length (of_accept_some ha).2.rest
              have shorter := length_rest_of_local hp ho
              simp only [List.length_append, List.length_cons] at taken h h'
              exact ih (by omega) (by omega)

def loop (operators : List Kind) (operand : Rule Expr) (left : Expr) : Rule Expr := fun s =>
  extend operators operand s.rest left s

theorem loop_of_accept {operators : List Kind} {operand : Rule Expr} (hp : Local operand)
    (left : Expr) {operator : Token} (h : accept operators s = (.ok (some operator), s₁)) :
    loop operators operand left s =
      (operand >>= fun right => loop operators operand (.binary left operator right)) s₁ := by
  have rest : s.rest = operator :: s₁.rest := (of_accept_some h).2.rest
  rw [loop, rest]
  refine (Rule.bind_of_ok h).trans (bind_congr fun right s₂ ho => ?_)
  exact extend_pending hp (length_rest_of_local hp ho) (Nat.le_refl _)

theorem loop_local {operators : List Kind} (hmark : Kind.endOfInput ∉ operators)
    {operand : Rule Expr} (hp : Local operand) (left : Expr) :
    Local (loop operators operand left) := by
  intro s
  -- every round takes a token, and how many were pending at the start makes no difference
  induction hn : s.rest.length using Nat.strongRecOn generalizing s left with
  | ind n ih =>
      obtain ⟨us, r, h⟩ := accept_local hmark s
      obtain ⟨s₁, ha, -⟩ := h s (.refl _ s)
      obtain ⟨s₂, ha', hm⟩ := accept_moves operators s
      obtain ⟨rfl, rfl⟩ := Prod.mk.inj (ha.symm.trans ha')
      cases next : s.rest.head?.filter (operators.contains ·.kind) with
      | none =>
          refine ⟨[], .ok left, fun t ht => ?_⟩
          have stop : ∀ u ∈ t.rest.head?, u.kind ∉ operators := by
            rw [ht.head?]
            exact (of_accept_none (next ▸ ha)).1
          obtain ⟨t', he, hm⟩ := extend_stops operand t.rest left stop
          exact ⟨t', he, .of_moves hm (List.forall_mem_nil _)⟩
      | some operator =>
          rw [next] at h ha hm
          refine .andThen h rfl ha ?_ fun t t' hat => loop_of_accept hp left hat
          refine (hp s₁).bind fun right s₂ ho => ih _ ?_ _ s₂ rfl
          have taken := congrArg List.length hm.rest
          have shorter := length_rest_of_local hp ho
          simp only [Option.toList_some, List.length_append, List.length_cons] at taken
          omega

theorem chain_local {level : Level} (hl : Kind.endOfInput ∉ level.operators) {operand : Rule Expr}
    (hp : Local operand) : Local (chain level operand) := by
  intro s
  refine (hp s).bind fun left s₁ _ => ?_
  refine (loop_local hl hp left s₁).bind fun tree s₂ _ => ?_
  exact (refuseOperand_local s₂).bind fun _ s₃ _ => pure_local tree s₃

theorem endOfInput_not_mem_operators (level : Level) : Kind.endOfInput ∉ level.operators := by
  cases level <;> decide

theorem binaryOver_local {p : Rule Expr} (hp : Local p) {level : Level} (hl : level ≠ .primary) :
    Local (binaryOver p level) :=
  binaryOver_induction (P := fun _ => Local)
    (fun level _ _ hp => chain_local (endOfInput_not_mem_operators level) hp) hp hl

theorem primaryOver_local {inner : Rule Expr} (hi : Local inner) : Local (primaryOver inner) := by
  intro s
  refine (peek_local s).bind fun next s₁ h => ?_
  obtain ⟨hnext, -⟩ := of_peek h
  cases next with
  | none => exact refuse_localFrom hnext _
  | some t =>
      dsimp only
      split
      next hk => exact literal_localFrom hnext.symm hk
      next =>
        split
        next hopen =>
          refine (take_localFrom hnext.symm (by simp [hopen])).bind fun _ s₂ _ => ?_
          refine (hi s₂).bind fun tree s₃ _ => ?_
          exact (expect_local (by decide) _ s₃).bind fun _ s₄ _ => pure_local _ s₄
        next => exact refuse_localFrom hnext _

theorem unaryOver_local {nested inner : Rule Expr} (hn : Local nested) (hi : Local inner) :
    Local (unaryOver nested inner) := by
  intro s
  refine (accept_local (endOfInput_not_mem_operators .unary) s).bind fun next s₁ _ => ?_
  cases next with
  | none => exact primaryOver_local hi s₁
  | some operator => exact (hn s₁).bind fun right s₂ _ => pure_local _ s₂

theorem unary_local (budget : Nat) : Local (unary budget) ∧ Local (inside budget) := by
  apply unary_induction (P := fun _ => Local) (Q := fun _ => Local)
  · exact fun _ _ => depth_local
  · exact fun _ _ hp => binaryOver_local hp (by decide)
  · exact fun _ hi => unaryOver_local depth_local hi
  · exact fun _ _ _ hn hi => unaryOver_local hn hi

theorem read_local (budget : Nat) (level : Level) : Local (read budget level) := by
  obtain ⟨hu, hi⟩ := unary_local budget
  cases level with
  | primary => exact primaryOver_local hi
  | equality | comparison | addition | multiplication | unary =>
      exact binaryOver_local hu (by decide)

theorem readAll_local (budget : Nat) : Local (readAll budget) := by
  intro s
  obtain ⟨us, r, h⟩ := read_local budget .equality s
  obtain ⟨s₁, hs, -⟩ := h s (.refl _ s)
  cases r with
  | ok tree =>
      refine .andThen h rfl hs ?_ fun t t' hr => by rw [readAll, hr]
      refine (peek_local s₁).bind fun next s₂ hpeek => ?_
      cases next with
      | none => exact pure_local tree s₂
      | some t =>
          dsimp only
          split
          · exact pure_local tree s₂
          · exact refuse_localFrom (of_peek hpeek).1 _
  | error fault =>
      cases fault with
      | depth =>
          refine .andThen h rfl hs ?_ fun t t' hr => by rw [readAll, hr]
          exact (peek_local s₁).bind fun next s₂ hpeek => refuse_localFrom (of_peek hpeek).1 _
      | refused u o =>
          refine ⟨us, .error (.refused u o), fun t ht => ?_⟩
          obtain ⟨t', hr, ends⟩ := h t ht
          exact ⟨t', by rw [readAll, hr], ends⟩
      | literal cause =>
          refine ⟨us, .error (.literal cause), fun t ht => ?_⟩
          obtain ⟨t', hr, ends⟩ := h t ht
          exact ⟨t', by rw [readAll, hr], ends⟩

theorem readAll_ends (budget : Nat) (s : State) :
    ∃ used, Ends s used (readAll budget s).1 (readAll budget s).2 :=
  (readAll_local budget).ends rfl

section Start

variable {tokens : List Token} {earlier : List Diagnostic} {r : Except Fault α}

theorem Ends.of_start (h : Ends (.start tokens earlier) us r s') :
    tokens = us ++ s'.rest ∧ s'.tokens.consumed = us.length ∧ s'.last = us.getLast? := by
  obtain ⟨rest, consumed, last, -⟩ := h.moves.of_start
  exact ⟨rest, consumed, last⟩

end Start

end Grammar

namespace Expr

open Grammar

theorem ofTokens_eq (tokens : List Token) (diagnostics : List Diagnostic) :
    ofTokens tokens diagnostics =
      ((ofTokens tokens []).1, diagnostics ++ reports (ofTokens tokens []).1) := by
  obtain ⟨used, r, h⟩ := readAll_local depthBudget (.start tokens [])
  obtain ⟨s, alone, -⟩ := h (.start tokens []) (.refl _ _)
  obtain ⟨t, shared, ends⟩ := h (.start tokens diagnostics) ⟨rfl, rfl⟩
  simp only [ofTokens, alone, shared, ends.diagnostics]
  rfl

end Expr

end Reckoner
