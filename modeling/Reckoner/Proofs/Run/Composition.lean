import Reckoner.Proofs.Expr.Displacement
import Reckoner.Proofs.Grammar.Viability
import Reckoner.Proofs.Run.Stages

namespace Reckoner

def binaryMarks : List (String × Kind) := [
  ("+", .plus), ("-", .minus), ("*", .star), ("/", .slash), (">", .greater),
  (">=", .greaterEqual), ("<", .less), ("<=", .lessEqual), ("==", .equalEqual),
  ("!=", .bangEqual)]

/-- Two sources in parentheses with an operator between them. Each ends in a line break, so that a
comment at its end stops there. -/
def joined (op source₁ source₂ : String) : String :=
  "(" ++ source₁ ++ "\n)" ++ op ++ "(" ++ source₂ ++ "\n)"

/-- A run that has come upon the limit of depth. -/
def Run.Deep (r : Run) : Prop :=
  (∃ t, r.result = .error (.reading (.refused t .tooDeep))) ∨
    (∃ t, r.result = .error (.evaluation (.tooDeep t))) ∨ r.result = .error (.rendering .tooDeep)

namespace Run

variable {source : String} {threshold : Nat}

theorem result_of_ofTokens {fault : Grammar.Fault} {all : List Diagnostic}
    (h : Expr.ofTokens (Scan.ofString source).tokens (Scan.ofString source).faults =
      (.error fault, all)) : (run threshold false source []).result = .error (.reading fault) := by
  simp [run, complete, h]

theorem tree?_eq_some_iff {tree : Expr} :
    tree? false source [] = some tree ↔
      Expr.ofTokens (Scan.ofString source).tokens (Scan.ofString source).faults =
        (.ok tree, (Scan.ofString source).faults) := by
  simp only [tree?, Bool.false_and, Bool.false_eq_true, if_false, List.nil_append]
  cases read : Expr.ofTokens (Scan.ofString source).tokens (Scan.ofString source).faults with
  | mk result all =>
      cases result with
      | error fault => simp [Except.toOption]
      | ok tree' =>
          obtain rfl := Expr.diagnostics_ofTokens read
          simp [Except.toOption]

theorem exists_tree? {x : Except EvalFault Value}
    (h : (run threshold false source []).result = x.mapError .evaluation) :
    ∃ tree, tree? false source [] = some tree := by
  cases read : Expr.ofTokens (Scan.ofString source).tokens (Scan.ofString source).faults with
  | mk result all =>
      cases result with
      | ok tree =>
          obtain rfl := Expr.diagnostics_ofTokens read
          exact ⟨tree, tree?_eq_some_iff.2 read⟩
      | error fault =>
          rw [result_of_ofTokens read] at h
          cases x <;> simp [Except.mapError] at h

theorem walk_of_tree? {tree : Expr} (h : tree? false source [] = some tree) (threshold : Nat) :
    (run threshold false source []).diagnostics = (Scan.ofString source).faults ∧
      ((run threshold false source []).Deep ∨
        (run threshold false source []).result = tree.walk.mapError .evaluation) := by
  obtain ⟨diagnostics, result⟩ := of_tree?_eq_some h threshold
  refine ⟨diagnostics, ?_⟩
  rw [Run.Deep, result]
  by_cases tall : threshold ≤ Severity.debug.rank ∧ depthBudget < tree.height
  · rw [if_pos tall]
    exact Or.inl (Or.inr (Or.inr rfl))
  · rw [if_neg tall, Expr.evaluate]
    rcases tree.evaluateWithin_eq_walk_or tree.outermost depthBudget with walk | deep
    · rw [walk]
      exact Or.inr rfl
    · rw [deep]
      exact Or.inl (Or.inr (Or.inl ⟨_, rfl⟩))

end Run

theorem mapError_evaluation_inj {x y : Except EvalFault Value}
    (h : x.mapError RunFault.evaluation = y.mapError RunFault.evaluation) : x = y := by
  cases x <;> cases y <;> simp_all [Except.mapError]

theorem append_mark_inj {used spoken rest : List Token} {mark : Token}
    (h : spoken ++ [mark] = used ++ rest) (hm : mark.kind = .endOfInput)
    (hs : ∀ t ∈ spoken, t.kind ≠ .endOfInput) (hu : ∀ t ∈ used, t.kind ≠ .endOfInput)
    (hr : ∀ t ∈ rest.head?, t.kind = .endOfInput) : used = spoken := by
  rcases List.append_eq_append_iff.1 h with ⟨more, rfl, hrest⟩ | ⟨more, rfl, rfl⟩
  · cases more with
    | nil => simp
    | cons t more =>
        obtain rfl := (List.cons.inj hrest).1
        exact absurd hm (hu _ (by simp))
  · cases more with
    | nil => simp
    | cons t more => exact absurd (hr t rfl) (hs t (by simp))

theorem Run.spelled_of_tree? {source : String} {tree : Expr}
    (h : tree? false source [] = some tree) :
    tree.Obeys .equality ∧ tree.Spelled (Scan.ofString source).spoken := by
  have read := tree?_eq_some_iff.1 h
  simp only [Expr.ofTokens, Prod.mk.injEq] at read
  obtain ⟨used, hm, hs, ho, hend⟩ := Grammar.readAll_sound (Prod.ext read.1 rfl)
  have fits := (segmented_segments source.toList).fits
  have whole := Scan.tokens_eq_spoken 1 (segments source.toList)
  have clear : ∀ t ∈ (Scan.ofSegments 1 (segments source.toList)).spoken, t.kind ≠ .endOfInput :=
    Scan.kind_ne_of_mem_spoken fits
  rw [← Scan.ofString_eq] at whole clear
  have used_eq := append_mark_inj (whole.symm.trans hm.rest) rfl clear
    (Grammar.steps_of_spelled ho hs 0).ne_endOfInput hend
  exact ⟨ho, used_eq ▸ hs⟩

theorem toList_joined (op source₁ source₂ : String) :
    (joined op source₁ source₂).toList =
      '(' :: (source₁.toList ++ '\n' :: ')' ::
        (op.toList ++ '(' :: (source₂.toList ++ '\n' :: [')']))) := by
  simp [joined]

theorem fits_binaryMarks {op : String} {kind : Kind} (h : (op, kind) ∈ binaryMarks)
    (after : List Char) : (Segment.mark kind op.toList).Fits ('(' :: after) := by
  have greater : ('>', Kind.greaterEqual, Kind.greater) ∈ Segment.pairedMarks := by decide
  have less : ('<', Kind.lessEqual, Kind.less) ∈ Segment.pairedMarks := by decide
  have equals : ('=', Kind.equalEqual, Kind.equal) ∈ Segment.pairedMarks := by decide
  have bang : ('!', Kind.bangEqual, Kind.bang) ∈ Segment.pairedMarks := by decide
  have equal : ('(' :: after).head? ≠ some '=' := by simp
  have slash : ('(' :: after).head? ≠ some '/' := by simp
  simp only [binaryMarks, List.mem_cons, Prod.mk.injEq, List.not_mem_nil, or_false] at h
  rcases h with ⟨rfl, rfl⟩ | ⟨rfl, rfl⟩ | ⟨rfl, rfl⟩ | ⟨rfl, rfl⟩ | ⟨rfl, rfl⟩ | ⟨rfl, rfl⟩ |
    ⟨rfl, rfl⟩ | ⟨rfl, rfl⟩ | ⟨rfl, rfl⟩ | ⟨rfl, rfl⟩
  · exact .single (by decide)
  · exact .single (by decide)
  · exact .single (by decide)
  · exact .slash slash
  · exact .unpaired greater equal
  · exact .double greater
  · exact .unpaired less equal
  · exact .double less
  · exact .double equals
  · exact .double bang

theorem operators_binaryMarks :
    ∀ m ∈ binaryMarks, ∃ l ∈ Grammar.Level.equality.binaries, m.2 ∈ l.operators := by
  decide

theorem breaks_binaryMarks :
    ∀ m ∈ binaryMarks, (Segment.mark m.2 m.1.toList).breaks = 0 := by
  decide

variable {op source₁ source₂ : String} {kind : Kind}

theorem segmented_joined (hop : (op, kind) ∈ binaryMarks)
    (h₁ : ∀ d ∈ (Scan.ofString source₁).faults, d.message ≠ "Unterminated string.")
    (h₂ : ∀ d ∈ (Scan.ofString source₂).faults, d.message ≠ "Unterminated string.") :
    Segmented (joined op source₁ source₂).toList
      (parenthesised (segments source₁.toList)
        (.mark kind op.toList :: parenthesised (segments source₂.toList) [])) := by
  have first := segmented_segments source₁.toList
  have second := segmented_segments source₂.toList
  rw [toList_joined]
  exact first.parenthesised (Scan.not_isUnclosed h₁)
    (.cons (fits_binaryMarks hop _) (second.parenthesised (Scan.not_isUnclosed h₂) .nil))

theorem ofString_joined (hop : (op, kind) ∈ binaryMarks)
    (h₁ : ∀ d ∈ (Scan.ofString source₁).faults, d.message ≠ "Unterminated string.")
    (h₂ : ∀ d ∈ (Scan.ofString source₂).faults, d.message ≠ "Unterminated string.") :
    let scan₁ := Scan.ofString source₁
    let scan₂ := Scan.ofString source₂
    let line : Int := 2 + source₁.toList.count '\n'
    let k : Int := 1 + source₁.toList.count '\n'
    ∃ last, (Scan.ofString (joined op source₁ source₂)).tokens =
        (Token.opening 1 :: (scan₁.spoken ++ [Token.closing line])) ++
          ⟨kind, op, line, none⟩ ::
          (Token.opening line :: (scan₂.spoken.map (Token.down k) ++ [Token.closing last])) ++
          [Token.endOfInput last] ∧
      (Scan.ofString (joined op source₁ source₂)).faults =
        scan₁.faults ++ scan₂.faults.map (Diagnostic.down k) := by
  intro scan₁ scan₂ line k
  have flat : line + (Segment.mark kind op.toList).breaks = 1 + k := by
    rw [breaks_binaryMarks _ hop]
    omega
  have line₁ : scan₁.lastLine + 1 = line := by
    simp only [scan₁, Scan.lastLine_ofString, line]
    omega
  have inner : Scan.ofSegments (1 + k) (segments source₂.toList) =
      ⟨scan₂.tokens.map (Token.down k), scan₂.faults.map (Diagnostic.down k),
        scan₂.lastLine + k⟩ := by
    rw [Scan.ofSegments_add, ← Scan.ofString_eq]
  have whole : Scan.ofString (joined op source₁ source₂) = _ := Scan.ofString_eq _
  rw [← segmented_iff.1 (segmented_joined hop h₁ h₂), Scan.ofSegments_parenthesised,
    ← Scan.ofString_eq] at whole
  simp only [scan₁] at line₁
  simp only [line₁, Scan.ofSegments, flat, Scan.ofSegments_parenthesised, inner] at whole
  refine ⟨scan₂.lastLine + k + 1, ?_, ?_⟩
  · have lines : 1 + k = line := by omega
    rw [whole, lines]
    simp [scan₁, Segment.token?, Scan.spoken, List.map_dropLast]
  · rw [whole]
    simp [scan₁, Segment.fault?]

def Expr.joined (left : Expr) (operator : Token) (right : Expr) : Expr :=
  .binary (.grouping left) operator (.grouping right)

theorem Expr.obeys_joined {left right : Expr} {operator : Token}
    (hop : (operator.lexeme, operator.kind) ∈ binaryMarks) (hl : left.Obeys .equality)
    (hr : right.Obeys .equality) : (left.joined operator right).Obeys .equality := by
  obtain ⟨l, hm, hk⟩ := operators_binaryMarks _ hop
  exact ⟨l, hm, hk, hl, hr⟩

theorem Expr.spelled_joined {left right : Expr} {us vs : List Token} (hl : left.Spelled us)
    (hr : right.Spelled vs) (operator : Token) (l₁ l₂ l₃ l₄ : Int) :
    (left.joined operator right).Spelled
      ((Token.opening l₁ :: (us ++ [Token.closing l₂])) ++
        operator :: (Token.opening l₃ :: (vs ++ [Token.closing l₄]))) :=
  Spelled.binary (hl.grouping rfl rfl) (hr.grouping rfl rfl)

theorem Expr.walk_joined (left right : Expr) (operator : Token) (k : Int) :
    (left.joined operator (right.down k)).walk =
      left.walk.bind fun l => (right.walk.mapError (EvalFault.down k)).bind fun r =>
        Value.binary operator l r := by
  rw [joined, walk, walk, walk, walk_down]

/-- Unless one of the runs comes upon the limit of depth, the result of two sources with an operator
between them is that of the operation on their results, each taken on its own: the fault of the first
one if it fails, or else that of the second one where it is now, or else what the operator makes of
the two values. The diagnostics are those of the first and then those of the second one where they
are now. Neither source may have a string without an end. -/
theorem run_joined (hop : (op, kind) ∈ binaryMarks)
    (h₁ : ∀ d ∈ (Scan.ofString source₁).faults, d.message ≠ "Unterminated string.")
    (h₂ : ∀ d ∈ (Scan.ofString source₂).faults, d.message ≠ "Unterminated string.")
    {threshold : Nat} {x₁ x₂ : Except EvalFault Value}
    (hx₁ : (run threshold false source₁ []).result = x₁.mapError .evaluation)
    (hx₂ : (run threshold false source₂ []).result = x₂.mapError .evaluation) :
    let r₁ := run threshold false source₁ []
    let r₂ := run threshold false source₂ []
    let r := run threshold false (joined op source₁ source₂) []
    let line : Int := 2 + source₁.toList.count '\n'
    let k : Int := 1 + source₁.toList.count '\n'
    ¬r₁.Deep → ¬r₂.Deep → ¬r.Deep →
      r.result = (x₁.bind fun v₁ => (x₂.mapError (EvalFault.down k)).bind fun v₂ =>
        Value.binary ⟨kind, op, line, none⟩ v₁ v₂).mapError .evaluation ∧
      r.diagnostics = r₁.diagnostics ++ r₂.diagnostics.map (Diagnostic.down k) := by
  intro r₁ r₂ r line k shallow₁ shallow₂ shallow
  obtain ⟨e₁, tree₁⟩ := Run.exists_tree? hx₁
  obtain ⟨e₂, tree₂⟩ := Run.exists_tree? hx₂
  obtain ⟨diagnostics₁, walk₁⟩ := Run.walk_of_tree? tree₁ threshold
  obtain ⟨diagnostics₂, walk₂⟩ := Run.walk_of_tree? tree₂ threshold
  replace walk₁ := walk₁.resolve_left shallow₁
  replace walk₂ := walk₂.resolve_left shallow₂
  obtain rfl := mapError_evaluation_inj (hx₁.symm.trans walk₁)
  obtain rfl := mapError_evaluation_inj (hx₂.symm.trans walk₂)
  obtain ⟨obeys₁, spelled₁⟩ := Run.spelled_of_tree? tree₁
  obtain ⟨obeys₂, spelled₂⟩ := Run.spelled_of_tree? tree₂
  obtain ⟨last, tokens, faults⟩ := ofString_joined hop h₁ h₂
  let operator : Token := ⟨kind, op, line, none⟩
  have obeys : (e₁.joined operator (e₂.down k)).Obeys .equality :=
    Expr.obeys_joined hop obeys₁ (obeys₂.down k)
  have spelled := Expr.spelled_joined spelled₁ (spelled₂.down k) operator 1 line line last
  have hend : ∀ t ∈ [Token.endOfInput last].head?, t.kind = .endOfInput := by
    simp [Token.endOfInput]
  -- the whole is spelled by the tokens of the two sources, so it is read or opens too deep
  rcases Expr.ofTokens_of_spelled obeys spelled hend
    (Scan.ofString (joined op source₁ source₂)).faults with read | ⟨t, all, deep⟩
  · rw [← tokens] at read
    obtain ⟨diagnostics, walk⟩ := Run.walk_of_tree? (Run.tree?_eq_some_iff.2 read) threshold
    constructor
    · rw [← Expr.walk_joined]
      exact walk.resolve_left shallow
    · rw [diagnostics, diagnostics₁, diagnostics₂]
      exact faults
  · rw [← tokens] at deep
    exact absurd (Or.inl ⟨t, Run.result_of_ofTokens deep⟩) shallow

theorem run_joined_comment :
    let threshold := Outlet.start.threshold
    let r₁ := run threshold false "nil // a" []
    let r₂ := run threshold false "\n-true #" []
    let r := run threshold false (joined ">=" "nil // a" "\n-true #") []
    let minus (line : Int) : Token := ⟨.minus, "-", line, none⟩
    r₁.result = .ok .nil ∧ r₁.diagnostics = [] ∧
      r₂.result = .error (.evaluation (.operands (minus 2) .number)) ∧
      r₂.diagnostics = [.ofLine 2 "Unexpected character."] ∧
      r.result = .error (.evaluation (.operands (minus 3) .number)) ∧
      r.diagnostics = [.ofLine 3 "Unexpected character."] := by
  intro threshold r₁ r₂ r minus
  have result₁ : r₁.result = .ok .nil := by decide +kernel
  have result₂ : r₂.result = .error (.evaluation (.operands (minus 2) .number)) := by decide +kernel
  have result : r.result = .error (.evaluation (.operands (minus 3) .number)) := by decide +kernel
  have diagnostics₁ : r₁.diagnostics = [] := by decide +kernel
  have diagnostics₂ : r₂.diagnostics = [.ofLine 2 "Unexpected character."] := by decide +kernel
  have closed₁ : ∀ d ∈ (Scan.ofString "nil // a").faults, d.message ≠ "Unterminated string." := by
    decide +kernel
  have closed₂ : ∀ d ∈ (Scan.ofString "\n-true #").faults, d.message ≠ "Unterminated string." := by
    decide +kernel
  have shallow₁ : ¬r₁.Deep := by simp [Run.Deep, result₁]
  have shallow₂ : ¬r₂.Deep := by simp [Run.Deep, result₂]
  have shallow : ¬r.Deep := by simp [Run.Deep, result]
  let x₁ : Except EvalFault Value := .ok .nil
  let x₂ : Except EvalFault Value := .error (.operands (minus 2) .number)
  have hx₁ : r₁.result = x₁.mapError .evaluation := result₁
  have hx₂ : r₂.result = x₂.mapError .evaluation := result₂
  have hop : (">=", Kind.greaterEqual) ∈ binaryMarks := by decide
  obtain ⟨same, diagnostics⟩ :=
    run_joined hop closed₁ closed₂ hx₁ hx₂ shallow₁ shallow₂ shallow
  refine ⟨result₁, diagnostics₁, result₂, diagnostics₂, same, ?_⟩
  rw [diagnostics₁, diagnostics₂] at diagnostics
  exact diagnostics

end Reckoner
