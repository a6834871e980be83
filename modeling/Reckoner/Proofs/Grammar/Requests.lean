import Reckoner.Grammar.Request
import Reckoner.Proofs.Cursor
import Reckoner.Proofs.Grammar.Locality

namespace Reckoner.Grammar

def State.after (s : State) : List Request → State
  | [] => s
  | r :: rs => after (s.answer r).2 rs

inductive Idle : Request → Answer → Prop
  | peek (a : Answer) : Idle .peek a
  | refuseOperand (a : Answer) : Idle .refuseOperand a
  | accept (kinds : List Kind) : Idle (.accept kinds) (.token none)
  | expect (kind : Kind) (message : String) (f : Fault) : Idle (.expect kind message) (.fault f)
  | advance : Idle .advance .exhausted

def Unloaded (t : Token) : Prop := (t.kind = .number ∨ t.kind = .string) ∧ t.payload = none

/-- A reading stands behind the tokens that it has taken from the front of a list. -/
structure State.Along (tokens : List Token) (s : State) : Prop where
  cursor : s.tokens.Over tokens
  last : s.last = (tokens.take s.tokens.consumed).getLast?

/-- A request is answered by `a`, with the tokens `used` taken on the way from `s` to `s'`. -/
structure Served (s : State) (r : Request) (used : List Token) (a : Answer) (s' : State) : Prop where
  moves : Moves s used { s' with diagnostics := s.diagnostics }
  objection : ∀ t o, a = .fault (.refused t o) →
    ∃ d, s'.diagnostics = s.diagnostics ++ [d] ∧ d.text = (Fault.refused t o).message
  silent : (∀ t o, a ≠ .fault (.refused t o)) → s'.diagnostics = s.diagnostics
  /-- A failure that is no objection. -/
  fault : ∀ f, a = .fault f → (∃ t o, f = .refused t o) ∨
    (∃ t ∈ used, Unloaded t ∧ f = .literal (.noPayload t.kind)) ∨
      f = .depth ∧ ∃ level, r = .read level
  exhausted : a = .exhausted → r = .advance ∧ s.rest = []
  idle : Idle r a → used = []
  taken : ∀ t, a = .token (some t) → r ≠ .peek → used = [t]

variable {α : Type} {tokens used : List Token} {s s' : State} {a : Answer}

theorem State.Along.of_moves (h : s.Along tokens) (hm : Moves s used s') : s'.Along tokens := by
  have cursor : s'.tokens.Over tokens := h.cursor.of_taken hm.rest hm.consumed
  refine ⟨cursor, ?_⟩
  have before : tokens.take s.tokens.consumed ++ s.rest = tokens := h.cursor.take_append_rest
  have behind : tokens.take s'.tokens.consumed ++ s'.rest = tokens := cursor.take_append_rest
  have front : tokens.take s'.tokens.consumed = tokens.take s.tokens.consumed ++ used := by
    apply List.append_cancel_right
    rw [behind, List.append_assoc, ← hm.rest, before]
  rw [front, hm.last, h.last, List.getLast?_append]

theorem unloaded_of_ofToken {t : Token} {cause : LiteralFault} (hk : t.kind.isLiteral = true)
    (h : Expr.ofToken t = .error cause) : Unloaded t ∧ cause = .noPayload t.kind := by
  unfold Expr.ofToken at h
  rw [if_neg (by simp [hk])] at h
  split at h
  next lacks => exact ⟨lacks, (Except.error.inj h).symm⟩
  next => cases h

theorem Served.of_moves {r : Request} (hm : Moves s used s') (hf : ∀ f, a ≠ .fault f)
    (exhausted : a = .exhausted → r = .advance ∧ s.rest = []) (idle : Idle r a → used = [])
    (taken : ∀ t, a = .token (some t) → r ≠ .peek → used = [t]) : Served s r used a s' where
  moves := by
    rw [← hm.diagnostics]
    exact hm
  objection t o h := absurd h (hf _)
  silent _ := hm.diagnostics
  fault f h := absurd h (hf f)
  exhausted := exhausted
  idle := idle
  taken := taken

theorem Served.of_fault {r : Request} {f : Fault}
    (h : Ends s used (.error f : Except Fault α) s') (depth : f = .depth → ∃ level, r = .read level)
    (idle : Idle r (.fault f) → used = []) : Served s r used (.fault f) s' where
  moves := h.moves
  objection t o hf := by
    obtain rfl := Answer.fault.inj hf
    exact ⟨_, h.diagnostics, rfl⟩
  silent hf := by
    have nothing : reports (.error f : Except Fault α) = [] := by
      cases f with
      | refused t o => exact absurd rfl (hf t o)
      | literal | depth => rfl
    rw [h.diagnostics, nothing, List.append_nil]
  fault g hg := by
    obtain rfl := Answer.fault.inj hg
    cases f with
    | refused t o => exact Or.inl ⟨t, o, rfl⟩
    | literal cause =>
        obtain ⟨t, taken, hk, fails⟩ := h.literal cause rfl
        obtain ⟨unloaded, rfl⟩ := unloaded_of_ofToken hk fails
        exact Or.inr (Or.inl ⟨t, taken, unloaded, rfl⟩)
    | depth => exact Or.inr (Or.inr ⟨rfl, depth rfl⟩)
  exhausted := by simp
  idle := idle
  taken := by simp

theorem answered_ok (f : α → Answer) (x : α) (s : State) : answered f (.ok x, s) = (f x, s) := rfl

theorem answered_error (f : α → Answer) (e : Fault) (s : State) :
    answered f (.error e, s) = (.fault e, s) := rfl

theorem served_of_tree {r : Request} {p : Rule Expr} (hp : Local p)
    (hr : s.answer r = answered .tree (p s))
    (depth : (p s).1 = .error .depth → ∃ level, r = .read level)
    (busy : ∀ a, ¬Idle r a) : ∃ used, Served s r used (s.answer r).1 (s.answer r).2 := by
  cases h : p s with
  | mk x s' =>
      obtain ⟨used, ends⟩ := hp.ends h
      rw [h] at depth
      refine ⟨used, ?_⟩
      cases x with
      | ok e =>
          have hm : Moves s used s' := ends.moves_of_reports rfl
          rw [hr, h, answered_ok]
          exact .of_moves hm (by simp) (by simp) (fun idle => absurd idle (busy _)) (by simp)
      | error f =>
          have deep (hf : f = .depth) : ∃ level, r = .read level := depth (by rw [hf])
          rw [hr, h, answered_error]
          exact .of_fault ends deep fun idle => absurd idle (busy _)

theorem advance_moves (s : State) :
    ∃ s', advance s = (.ok s.rest.head?, s') ∧ Moves s s.rest.head?.toList s' := by
  have item := Cursor.fst_next s.tokens
  refine ⟨(advance s).2, Prod.ext (fst_advance s) rfl, ?_⟩
  unfold advance State.rest
  cases hn : s.tokens.next with
  | mk next c =>
      rw [hn] at item
      rw [← item]
      cases next with
      | none =>
          obtain ⟨rest, rest', count⟩ := Cursor.of_next_none hn
          exact ⟨rest.trans rest'.symm, count, rfl, rfl⟩
      | some t =>
          obtain ⟨rest, count⟩ := Cursor.of_next_some hn
          exact ⟨rest, count, rfl, rfl⟩

theorem expect_ends (kind : Kind) (o : Objection) (s : State) :
    (∃ t s', expect kind o s = (.ok t, s') ∧ Moves s [t] s') ∨
      ∃ t s', expect kind o s = (.error (.refused t o), s') ∧
        Ends s [] (.error (.refused t o) : Except Fault Token) s' := by
  obtain ⟨s₁, ha, hm⟩ := accept_moves [kind] s
  cases hn : s.rest.head?.filter ([kind].contains ·.kind) with
  | some t =>
      rw [hn] at ha hm
      exact Or.inl ⟨t, s₁, Rule.bind_of_ok ha, hm⟩
  | none =>
      rw [hn] at ha hm
      obtain ⟨s₂, hp, hm₂⟩ := peek_moves s₁
      obtain ⟨t, s', hr, ends⟩ := refuse_after (α := Token) (hm.trans hm₂) o
      rw [← hm.rest_nil] at hr
      exact Or.inr ⟨t, s', (Rule.bind_of_ok ha).trans ((Rule.bind_of_ok hp).trans hr), ends⟩

theorem refuseOperand_ends (s : State) :
    (∃ s', refuseOperand s = (.ok (), s') ∧ Moves s [] s') ∨
      ∃ t s', refuseOperand s = (.error (.refused t .unexpectedExpression), s') ∧
        Ends s [] (.error (.refused t .unexpectedExpression) : Except Fault Unit) s' := by
  obtain ⟨s₁, hp, hm⟩ := peek_moves s
  by_cases starts : ∃ t ∈ s.rest.head?, t.kind.startsOperand = true
  · obtain ⟨t, next, starts⟩ := starts
    obtain ⟨u, s', hr, ends⟩ := refuse_after (α := Unit) hm .unexpectedExpression
    refine Or.inr ⟨u, s', ?_, ends⟩
    refine (Rule.bind_of_ok hp).trans ?_
    rw [next] at hr ⊢
    simp only [starts, if_true]
    exact hr
  · refine Or.inl (refuseOperand_of_forall fun t next => ?_)
    exact Bool.eq_false_iff.2 fun starts' => starts ⟨t, next, starts'⟩

theorem answer_served (s : State) (r : Request) :
    ∃ used, Served s r used (s.answer r).1 (s.answer r).2 := by
  cases r with
  | readAll =>
      have shallow : (Grammar.readAll depthBudget s).1 ≠ .error .depth :=
        readAll_ne_depth depthBudget s
      exact served_of_tree (readAll_local depthBudget) (by rw [State.answer])
        (fun deep => absurd deep shallow) (fun _ idle => by cases idle)
  | read level =>
      exact served_of_tree (read_local depthBudget level) (by rw [State.answer])
        (fun _ => ⟨level, rfl⟩) (fun _ idle => by cases idle)
  | peek =>
      obtain ⟨s', h, hm⟩ := peek_moves s
      rw [State.answer, h, answered_ok]
      exact ⟨[], .of_moves hm (by simp) (by simp) (fun _ => rfl) (by simp)⟩
  | advance =>
      obtain ⟨s', h, hm⟩ := advance_moves s
      cases hn : s.rest with
      | nil =>
          rw [hn] at h hm
          rw [State.answer, h, answered_ok]
          exact ⟨[], .of_moves hm (by simp) (fun _ => ⟨rfl, hn⟩) (fun _ => rfl) (by simp)⟩
      | cons t ts =>
          rw [hn] at h hm
          rw [State.answer, h, answered_ok]
          exact ⟨[t], .of_moves hm (by simp) (by simp) (fun idle => by cases idle) (by simp)⟩
  | accept kinds =>
      obtain ⟨s', h, hm⟩ := accept_moves kinds s
      rw [State.answer, h, answered_ok]
      cases hn : s.rest.head?.filter (kinds.contains ·.kind) with
      | none =>
          rw [hn] at hm
          exact ⟨[], .of_moves hm (by simp) (by simp) (fun _ => rfl) (by simp)⟩
      | some t =>
          rw [hn] at hm
          exact ⟨[t], .of_moves hm (by simp) (by simp) (fun idle => by cases idle) (by simp)⟩
  | expect kind message =>
      rcases expect_ends kind (.other message) s with ⟨t, s', h, hm⟩ | ⟨t, s', h, ends⟩
      · rw [State.answer, h, answered_ok]
        exact ⟨[t], .of_moves hm (by simp) (by simp) (fun idle => by cases idle) (by simp)⟩
      · rw [State.answer, h, answered_error]
        exact ⟨[], .of_fault ends (by simp) fun _ => rfl⟩
  | refuseOperand =>
      rcases refuseOperand_ends s with ⟨s', h, hm⟩ | ⟨t, s', h, ends⟩
      · rw [State.answer, h, answered_ok]
        exact ⟨[], .of_moves hm (by simp) (by simp) (fun _ => rfl) (by simp)⟩
      · rw [State.answer, h, answered_error]
        exact ⟨[], .of_fault ends (by simp) fun _ => rfl⟩

theorem State.Along.answer (h : s.Along tokens) (r : Request) : (s.answer r).2.Along tokens := by
  obtain ⟨used, served⟩ := answer_served s r
  obtain ⟨cursor, last⟩ := h.of_moves served.moves
  exact ⟨cursor, last⟩

theorem State.Along.after (h : s.Along tokens) (requests : List Request) :
    (s.after requests).Along tokens := by
  induction requests generalizing s with
  | nil => exact h
  | cons r rs ih => exact ih (h.answer r)

theorem State.answers_append (s : State) (before rest : List Request) :
    s.answers (before ++ rest) = s.answers before ++ (s.after before).answers rest := by
  induction before generalizing s with
  | nil => rfl
  | cons r rs ih => rw [List.cons_append, answers, ih, answers, List.cons_append, State.after]

end Reckoner.Grammar
