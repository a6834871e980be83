import Reckoner.Proofs.Expr.Evaluable
import Reckoner.Proofs.Grammar.Refusal
import Reckoner.Proofs.Grammar.Soundness
import Reckoner.Proofs.Source.Tokens
import Reckoner.Run.Basic

namespace Reckoner

def Token.Carries (t : Token) : Prop :=
  (t.kind = .number → ∃ x, t.payload = some (.number x)) ∧
    (t.kind = .string → ∃ s, t.payload = some (.text s))

theorem Token.Carries.payload_ne_none {t : Token} (h : t.Carries)
    (hk : t.kind = .number ∨ t.kind = .string) : t.payload ≠ none := by
  rcases hk with hk | hk
  · obtain ⟨x, hx⟩ := h.1 hk
    simp [hx]
  · obtain ⟨s, hs⟩ := h.2 hk
    simp [hs]

theorem Segment.Fits.carries {s : Segment} {after : List Char} (h : s.Fits after) {line : Int}
    {t : Token} (ht : s.token? line = some t) : t.Carries := by
  have plain {kind : Kind} (hk : kind ∉ [Kind.number, .string, .endOfInput]) (lexeme : String) :
      Token.Carries ⟨kind, lexeme, line, none⟩ := by
    simp only [List.mem_cons, not_or] at hk
    exact ⟨fun eq => absurd eq hk.1, fun eq => absurd eq hk.2.1⟩
  cases s with
  | mark kind cs => exact Option.some.inj ht ▸ plain h.mark_not_mem _
  | word cs => exact Option.some.inj ht ▸ plain (Segment.ofWord_not_mem _) _
  | number whole fraction =>
      obtain rfl := Option.some.inj ht
      exact ⟨fun _ => ⟨_, rfl⟩, fun eq => by simp at eq⟩
  | string inner =>
      obtain rfl := Option.some.inj ht
      exact ⟨fun eq => by simp at eq, fun _ => ⟨_, rfl⟩⟩
  | comment | blank | unclosed | dangling | stray => simp [Segment.token?] at ht

theorem Scan.carries_ofSegments {segs : List Segment} (h : ∀ s ∈ segs, ∃ after, s.Fits after)
    (line : Int) : ∀ t ∈ (Scan.ofSegments line segs).tokens, t.Carries := by
  induction segs generalizing line with
  | nil =>
      intro t ht
      obtain rfl := List.mem_singleton.1 ht
      exact ⟨fun eq => by simp [Token.endOfInput] at eq, fun eq => by simp [Token.endOfInput] at eq⟩
  | cons s segs ih =>
      obtain ⟨⟨after, fits⟩, rest⟩ := List.forall_mem_cons.1 h
      intro t ht
      rcases List.mem_append.1 ht with ht | ht
      · exact fits.carries (Option.mem_toList.1 ht)
      · exact ih rest _ t ht

theorem Scan.carries_ofString (source : String) : ∀ t ∈ (Scan.ofString source).tokens, t.Carries := by
  rw [Scan.ofString_eq]
  exact Scan.carries_ofSegments (segmented_segments source.toList).fits 1

namespace Expr

theorem literalValue_of_carries {t : Token} (h : t.Carries) (hk : t.kind.isLiteral) :
    ∃ v, literalValue t.kind t.payload = .ok v := by
  obtain ⟨number, string⟩ := h
  cases kind : t.kind <;> simp [kind, Kind.isLiteral] at hk
  · obtain ⟨s, hs⟩ := string kind
    exact ⟨_, by rw [hs]; rfl⟩
  · obtain ⟨x, hx⟩ := number kind
    exact ⟨_, by rw [hx]; rfl⟩
  · exact ⟨.bool false, rfl⟩
  · exact ⟨.nil, rfl⟩
  · exact ⟨.bool true, rfl⟩

theorem mem_unaryOperators {k : Kind} (h : k ∈ Grammar.Level.unary.operators) :
    k ∈ Value.unaryOperators := by
  revert k
  decide

theorem mem_binaryOperators {level l : Grammar.Level} {k : Kind} (hl : l ∈ level.binaries)
    (h : k ∈ l.operators) : k ∈ Value.binaryOperators := by
  have levels : level.binaries ⊆ Grammar.Level.equality.binaries := by cases level <;> decide
  have operators : ∀ l ∈ Grammar.Level.equality.binaries, ∀ k ∈ l.operators,
      k ∈ Value.binaryOperators := by decide
  exact operators l (levels hl) k h

theorem Obeys.evaluable {e : Expr} {level : Grammar.Level} {ts : List Token} (ho : e.Obeys level)
    (hs : e.Spelled ts) (ht : ∀ t ∈ ts, t.Carries) : e.Evaluable := by
  induction e generalizing level ts with
  | literal kind payload =>
      obtain ⟨t, rfl, rfl, rfl⟩ := hs.of_literal
      exact literalValue_of_carries (ht t List.mem_cons_self) ho.1
  | grouping inner ih =>
      obtain ⟨opening, us, closing, rfl, -, hsi, -⟩ := hs.of_grouping
      exact ih ho hsi fun t hm => ht t (by simp [hm])
  | unary operator right ih =>
      obtain ⟨us, rfl, hsr⟩ := hs.of_unary
      exact ⟨mem_unaryOperators ho.2.1, ih ho.2.2 hsr fun t hm => ht t (by simp [hm])⟩
  | binary left operator right ihl ihr =>
      obtain ⟨us, vs, rfl, hsl, hsr⟩ := hs.of_binary
      obtain ⟨l, hl, hk, hol, hor⟩ := ho
      refine ⟨mem_binaryOperators hl hk, ihl hol hsl fun t hm => ht t (by simp [hm]), ?_⟩
      exact ihr hor hsr fun t hm => ht t (by simp [hm])
  | missing => exact ho.elim

theorem ofTokens_evaluable {tokens : List Token} (ht : ∀ t ∈ tokens, t.Carries)
    {diagnostics all : List Diagnostic} {tree : Expr}
    (h : Expr.ofTokens tokens diagnostics = (.ok tree, all)) : tree.Evaluable := by
  unfold Expr.ofTokens at h
  cases hr : Grammar.readAll depthBudget (Grammar.State.start tokens diagnostics) with
  | mk result s' =>
      rw [hr] at h
      obtain ⟨rfl, -⟩ := Prod.mk.inj h
      obtain ⟨used, hm, hs, ho, -⟩ := Grammar.readAll_sound hr
      have rest : tokens = used ++ s'.rest := hm.rest
      exact ho.evaluable hs fun t hmem => ht t (rest ▸ List.mem_append_left _ hmem)

theorem ofTokens_refuses {tokens : List Token} (ht : ∀ t ∈ tokens, t.Carries)
    {diagnostics all : List Diagnostic} {fault : Grammar.Fault}
    (h : Expr.ofTokens tokens diagnostics = (.error fault, all)) :
    ∃ t objection, fault = .refused t objection := by
  unfold Expr.ofTokens at h
  cases hr : Grammar.readAll depthBudget (Grammar.State.start tokens diagnostics) with
  | mk result s' =>
      rw [hr] at h
      obtain ⟨rfl, -⟩ := Prod.mk.inj h
      have ready : Grammar.Ready (Grammar.State.start tokens diagnostics) :=
        fun t hm hk => (ht t hm).payload_ne_none hk
      exact Grammar.readAll_refuses ready hr

end Expr

/-- A run ends with a value, or with diagnostics of the scan, with a token that the reading objects to
or with a token that the evaluation is blamed on. -/
def Run.Orderly (r : Run) : Prop :=
  (∃ v, r.result = .ok v) ∨ (∃ diagnostics, r.result = .error (.scan diagnostics)) ∨
    (∃ t objection, r.result = .error (.reading (.refused t objection))) ∨
    ∃ fault blamed, r.result = .error (.evaluation fault) ∧ fault.blame? = some blamed

/-- Whatever the source, the setting and the earlier diagnostics, a run whose notes leave out the
details is orderly; and no tree that comes of a scan has a literal without a value or an operator
that is none. -/
theorem run_orderly {threshold : Nat} (ht : Severity.debug.rank < threshold) (failFast : Bool)
    (source : String) (earlier : List Diagnostic) :
    (run threshold failFast source earlier).Orderly ∧
      ∀ diagnostics all tree,
        Expr.ofTokens (Scan.ofString source).tokens diagnostics = (.ok tree, all) →
        tree.Evaluable := by
  have carries := Scan.carries_ofString source
  refine ⟨?_, fun diagnostics all tree h => Expr.ofTokens_evaluable carries h⟩
  unfold Run.Orderly run Run.complete
  dsimp only
  split
  · exact Or.inr (Or.inl ⟨_, rfl⟩)
  · split
    next fault all h =>
      obtain ⟨t, objection, rfl⟩ := Expr.ofTokens_refuses carries h
      exact Or.inr (Or.inr (Or.inl ⟨t, objection, rfl⟩))
    next tree all h =>
      rw [Run.readingNote, if_neg (Nat.not_le_of_lt ht)]
      dsimp only
      split
      next fault he =>
        obtain ⟨blamed, hb⟩ := Expr.evaluate_blames (Expr.ofTokens_evaluable carries h) he
        exact Or.inr (Or.inr (Or.inr ⟨fault, blamed, rfl, hb⟩))
      next v he => exact Or.inl ⟨v, rfl⟩

theorem run_orderly_division :
    Severity.debug.rank < Outlet.start.threshold ∧
      (run Outlet.start.threshold false "!(1 / 0) \"a" []).Orderly ∧
      ∀ diagnostics all tree,
        Expr.ofTokens (Scan.ofString "!(1 / 0) \"a").tokens diagnostics = (.ok tree, all) →
        tree.Evaluable :=
  ⟨by decide, run_orderly (by decide) false _ []⟩

end Reckoner
