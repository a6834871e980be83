import Reckoner.Proofs.Run.Stages

namespace Reckoner.Sums

def chars : Nat → List Char
  | 0 => ['1']
  | n + 1 => '1' :: '+' :: chars n

def source (n : Nat) : String := String.ofList (chars n)

def segs : Nat → List Segment
  | 0 => [.number ['1'] []]
  | n + 1 => .number ['1'] [] :: .mark .plus ['+'] :: segs n

def one : Token :=
  ⟨.number, "1", 1, some (.number (Number.Decimal.ofDigits ['1'] []).toFloat)⟩

def plus : Token := ⟨.plus, "+", 1, none⟩

def tokens : Nat → List Token
  | 0 => [one]
  | n + 1 => one :: plus :: tokens n

def tree : Nat → Expr
  | 0 => .literal .number one.payload
  | n + 1 => .binary (tree n) plus (.literal .number one.payload)

theorem segmented (n : Nat) : Segmented (chars n) (segs n) := by
  have fits {after : List Char} (digit : ∀ c ∈ after.head?, ¬ Segment.isDigit c)
      (point : after.head? ≠ some '.') : (Segment.number ['1'] []).Fits after :=
    .whole (List.cons_ne_nil _ _) (List.forall_mem_singleton.2 rfl) digit point
  induction n with
  | zero => exact .cons (fits (by simp) (by simp)) .nil
  | succ n ih =>
      have plus : (Segment.mark .plus ['+']).Fits (chars n) := .single (by decide)
      have digit : ∀ c ∈ ('+' :: chars n).head?, ¬ Segment.isDigit c := by
        rintro _ ⟨⟩
        decide
      exact .cons (fits digit (by simp)) (.cons plus ih)

theorem ofSegments_segs (n : Nat) :
    Scan.ofSegments 1 (segs n) = ⟨tokens n ++ [.endOfInput 1], [], 1⟩ := by
  induction n with
  | zero => rfl
  | succ n ih =>
      have number : (1 : Int) + (Segment.number ['1'] []).breaks = 1 := by decide
      have mark : (1 : Int) + (Segment.mark .plus ['+']).breaks = 1 := by decide
      simp only [segs, Scan.ofSegments, number, mark, ih]
      rfl

theorem ofString_source (n : Nat) :
    Scan.ofString (source n) = ⟨tokens n ++ [.endOfInput 1], [], 1⟩ := by
  rw [Scan.ofString_eq, source, String.toList_ofList, ← segmented_iff.1 (segmented n),
    ofSegments_segs]

theorem tokens_succ (n : Nat) : tokens (n + 1) = tokens n ++ [plus, one] := by
  induction n with
  | zero => rfl
  | succ n ih =>
      change one :: plus :: tokens (n + 1) = one :: plus :: (tokens n ++ [plus, one])
      rw [ih]

theorem spelled_tree (n : Nat) : (tree n).Spelled (tokens n) := by
  have last : (Expr.literal .number one.payload).Spelled [one] :=
    List.Forall₂.cons ⟨rfl, rfl⟩ List.Forall₂.nil
  induction n with
  | zero => exact last
  | succ n ih =>
      rw [tokens_succ]
      exact ih.binary last

theorem obeys_tree (n : Nat) : (tree n).Obeys .equality := by
  have last (level : Grammar.Level) : (Expr.literal .number one.payload).Obeys level :=
    ⟨rfl, fun _ => by simp [one]⟩
  have addition : (tree n).Obeys .addition := by
    induction n with
    | zero => exact last _
    | succ n ih => exact ⟨.addition, by decide, by decide, ih, last _⟩
  have comparison : (tree n).Obeys .comparison := addition.loosen (by decide)
  exact comparison.loosen (by decide)

theorem cost_tree (n : Nat) : (tree n).cost = 0 := by
  induction n with
  | zero => rfl
  | succ n ih => rw [tree, Expr.cost, ih, Expr.cost, Nat.max_self]

theorem height_tree (n : Nat) : (tree n).height = n + 1 := by
  induction n with
  | zero => rfl
  | succ n ih =>
      rw [tree, Expr.height, ih, Expr.height]
      omega

theorem ofTokens_tokens (n : Nat) :
    Expr.ofTokens (tokens n ++ [.endOfInput 1]) [] = (.ok (tree n), []) := by
  have hend : ∀ t ∈ [Token.endOfInput 1].head?, t.kind = .endOfInput := by simp [Token.endOfInput]
  exact Expr.ofTokens_of_cost_le (obeys_tree n) (by simp [cost_tree]) (spelled_tree n) hend []

theorem tree?_source (failFast : Bool) (n : Nat) :
    Run.tree? failFast (source n) [] = some (tree n) := by
  simp [Run.tree?, ofString_source, ofTokens_tokens, Except.toOption]

theorem evaluateWithin_tree (outer : Token) {depth n : Nat} (h : depth ≤ n) :
    (tree n).evaluateWithin outer depth = .error (.tooDeep outer) := by
  induction depth generalizing n with
  | zero => rfl
  | succ depth ih =>
      cases n with
      | zero => exact absurd h (Nat.not_succ_le_zero depth)
      | succ n =>
          rw [tree, Expr.evaluateWithin_binary, ih (Nat.le_of_succ_le_succ h)]
          rfl

end Reckoner.Sums
