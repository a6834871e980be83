import Reckoner.Console.Inspector
import Reckoner.Console.Piped
import Reckoner.Proofs.Run.Sums

namespace Reckoner

theorem Console.line_ne_empty [Echo] (s : String) : line s ≠ "" := by
  intro h
  have text := congrArg String.toList h
  simp [line] at text

namespace Inspector

variable {source : String} {threshold : Nat}

def left (source : String) (threshold : Nat) (c : Console) : Console :=
  let scan := Scan.ofString source
  c.withJournal (Note.reports threshold
    (scan.faults ++ Grammar.reports (Expr.ofTokens scan.tokens []).1))

theorem reading_of_unread (ht : Severity.debug.rank < threshold) {fault : Grammar.Fault}
    (h : (Expr.ofTokens (Scan.ofString source).tokens []).1 = .error fault)
    (shown : Expr → List Diagnostic → List Note → Except RunFault Console) :
    reading source threshold shown = .ok (left source threshold ⟨Console.dataError, "",
      Console.diagnosticLines ((Scan.ofString source).faults ++
        Grammar.reports (.error fault : Except Grammar.Fault Expr))⟩) := by
  obtain ⟨t, objection, rfl⟩ :=
    Expr.ofTokens_refuses (Scan.carries_ofString source) (Prod.ext h rfl)
  simp only [reading, left]
  rw [Expr.ofTokens_eq, h]
  simp only [List.drop_left, Note.reaching_append, Scan.reaching_notes ht,
    Note.reaching_diagnostics, Note.reports_append]
  rfl

theorem reading_of_read (ht : Severity.debug.rank < threshold) {e : Expr}
    (h : (Expr.ofTokens (Scan.ofString source).tokens []).1 = .ok e)
    (shown : Expr → List Diagnostic → List Note → Except RunFault Console) :
    reading source threshold shown =
      shown e (Scan.ofString source).faults (Scan.ofString source).notes := by
  have unnoted : Run.readingNote threshold e = .ok [] := if_neg (Nat.not_le_of_lt ht)
  simp only [reading]
  rw [Expr.ofTokens_eq, h]
  simp only [unnoted, Grammar.reports, List.append_nil]

theorem left_of_read (ht : Severity.debug.rank < threshold) {e : Expr}
    (h : (Expr.ofTokens (Scan.ofString source).tokens []).1 = .ok e) (c : Console) :
    c.withJournal (Note.reaching threshold (Scan.ofString source).notes) =
      left source threshold c := by
  simp only [left, h, Grammar.reports, List.append_nil, Scan.reaching_notes ht]

section

variable [Echo]

theorem tree_of_unread (ht : Severity.debug.rank < threshold) {fault : Grammar.Fault}
    (h : (Expr.ofTokens (Scan.ofString source).tokens []).1 = .error fault) :
    let ended := left source threshold ⟨Console.dataError, "",
      Console.diagnosticLines ((Scan.ofString source).faults ++
        Grammar.reports (.error fault : Except Grammar.Fault Expr))⟩
    tree source threshold = .ok ended ∧ value source threshold = .ok ended :=
  ⟨reading_of_unread ht h _, reading_of_unread ht h _⟩

theorem tree_of_read (ht : Severity.debug.rank < threshold) {e : Expr}
    (h : (Expr.ofTokens (Scan.ofString source).tokens []).1 = .ok e) :
    tree source threshold = (e.render.mapError .rendering).bind fun text =>
      .ok (left source threshold (Console.answered text (Scan.ofString source).faults)) := by
  rw [tree, reading_of_read ht h]
  simp only [left_of_read ht h]
  cases e.render <;> rfl

theorem value_of_read (ht : Severity.debug.rank < threshold) {e : Expr}
    (h : (Expr.ofTokens (Scan.ofString source).tokens []).1 = .ok e) :
    (∃ v, e.evaluate = .ok v ∧ value source threshold =
        .ok (left source threshold (Console.answered v.text (Scan.ofString source).faults))) ∨
      ∃ fault, e.evaluate = .error fault ∧ value source threshold =
        .ok (left source threshold ⟨Console.evaluationError, "",
          Console.diagnosticLines (Scan.ofString source).faults ++ [.line fault.message]⟩) := by
  have evaluable := Expr.ofTokens_evaluable (Scan.carries_ofString source) (Prod.ext h rfl)
  rw [value, reading_of_read ht h]
  cases he : e.evaluate with
  | ok v =>
      have silent : Note.reaching threshold [Run.evaluationNote v] = [] :=
        Note.reaching_cons_of_lt ht
      refine Or.inl ⟨v, rfl, ?_⟩
      simp only [Note.reaching_append, silent, List.append_nil, left_of_read ht h]
  | error fault =>
      obtain ⟨blamed, hb⟩ := Expr.evaluate_blames evaluable he
      refine Or.inr ⟨fault, rfl, ?_⟩
      simp only [Console.stopped, hb, Option.isSome_some, if_true, Except.map, left_of_read ht h]

theorem tree_of_height (ht : Severity.debug.rank < threshold) {e : Expr}
    (h : (Expr.ofTokens (Scan.ofString source).tokens []).1 = .ok e) :
    (e.height ≤ depthBudget ∧ ∃ text, e.render = .ok text ∧ tree source threshold =
        .ok (left source threshold (Console.answered text (Scan.ofString source).faults))) ∨
      (depthBudget < e.height ∧ tree source threshold = .error (.rendering .tooDeep)) := by
  have evaluable := Expr.ofTokens_evaluable (Scan.carries_ofString source) (Prod.ext h rfl)
  rw [tree_of_read ht h, Expr.render]
  rcases Expr.renderWithin_of_evaluable depthBudget evaluable with ⟨low, text, shown⟩ | ⟨tall, deep⟩
  · exact Or.inl ⟨low, text, shown, by rw [shown]; rfl⟩
  · exact Or.inr ⟨tall, by rw [deep]; rfl⟩

theorem tree_of_value (ht : Severity.debug.rank < threshold) {c : Console}
    (h : value source threshold = .ok c) (some : c.out ≠ "") :
    ∃ text, tree source threshold =
      .ok (left source threshold (Console.answered text (Scan.ofString source).faults)) := by
  cases read : (Expr.ofTokens (Scan.ofString source).tokens []).1 with
  | error fault =>
      obtain rfl := Except.ok.inj ((tree_of_unread ht read).2.symm.trans h)
      exact absurd rfl some
  | ok e =>
      rcases value_of_read ht read with ⟨v, evaluated, -⟩ | ⟨fault, -, ended⟩
      · rcases tree_of_height ht read with ⟨-, text, -, ended⟩ | ⟨tall, -⟩
        · exact ⟨text, ended⟩
        · exact absurd (Expr.height_le_of_evaluateWithin evaluated) (Nat.not_le_of_lt tall)
      · obtain rfl := Except.ok.inj (ended.symm.trans h)
        exact absurd rfl some

theorem read_of_blamed (ht : Severity.debug.rank < threshold) {c : Console}
    (h : value source threshold = .ok c) (code : c.exitCode = Console.evaluationError) :
    ∃ e, (Expr.ofTokens (Scan.ofString source).tokens []).1 = .ok e := by
  cases read : (Expr.ofTokens (Scan.ofString source).tokens []).1 with
  | error fault =>
      obtain rfl := Except.ok.inj ((tree_of_unread ht read).2.symm.trans h)
      exact absurd code (show Console.dataError ≠ Console.evaluationError by decide)
  | ok e => exact ⟨e, rfl⟩

end

/-- How the inspector of trees ends. Without a tree it shows nothing and the exit code is that of
faulty data. A tree that is no taller than the budget is shown, and the exit code says whether the
scan has found faults; of a taller one it makes a fault of its own. Where the inspector of values
shows a value, the tree is shown; where it blames the evaluation, there is a tree, which is shown
unless it is too tall. -/
theorem tree_ends [Echo] (source : String) :
    let scan := Scan.ofString source
    let parsed := (Expr.ofTokens scan.tokens []).1
    let shown := ∃ c, tree source = .ok c ∧ c.out ≠ ""
    (∀ fault, parsed = .error fault → tree source = .ok ⟨Console.dataError, "",
        Console.diagnosticLines (scan.faults ++ Grammar.reports parsed)⟩) ∧
      (∀ e, parsed = .ok e → e.height ≤ depthBudget → ∃ text, e.render = .ok text ∧
        tree source = .ok ⟨if scan.faults = [] then 0 else Console.dataError, Console.line text,
          Console.diagnosticLines scan.faults⟩) ∧
      (∀ e, parsed = .ok e → depthBudget < e.height →
        tree source = .error (.rendering .tooDeep)) ∧
      (∀ c, value source = .ok c → c.out ≠ "" → shown) ∧
      ∀ c, value source = .ok c → c.exitCode = Console.evaluationError →
        shown ∨ ∃ e, parsed = .ok e ∧ depthBudget < e.height := by
  intro scan parsed shown
  have codeFor : Console.codeFor scan.faults = if scan.faults = [] then 0 else Console.dataError := by
    simp only [Console.codeFor, List.isEmpty_iff]
  -- no diagnostic is noted at the start, so that `left` adds nothing by computation
  have details : Severity.debug.rank < Outlet.start.inForce := by decide
  have print {text : String} (ended : tree source = .ok (Console.answered text scan.faults)) :
      shown := ⟨_, ended, Console.line_ne_empty text⟩
  refine ⟨fun fault h => ?_, fun e h low => ?_, fun e h tall => ?_, fun c h some => ?_,
    fun c h code => ?_⟩
  · rw [h]
    exact (tree_of_unread details h).1
  · rcases tree_of_height details h with ⟨-, text, rendered, ended⟩ | ⟨tall, -⟩
    · rw [← codeFor]
      exact ⟨text, rendered, ended⟩
    · exact absurd low (Nat.not_le_of_lt tall)
  · rcases tree_of_height details h with ⟨low, -⟩ | ⟨-, ended⟩
    · exact absurd tall (Nat.not_lt_of_le low)
    · exact ended
  · obtain ⟨text, ended⟩ := tree_of_value details h some
    exact print ended
  · obtain ⟨e, read⟩ := read_of_blamed details h code
    rcases tree_of_height details read with ⟨-, text, -, ended⟩ | ⟨tall, -⟩
    · exact Or.inl (print ended)
    · exact Or.inr ⟨e, read, tall⟩

theorem tree_sum [Echo] {n : Nat} (h : depthBudget ≤ n) :
    (Expr.ofTokens (Scan.ofString (Sums.source n)).tokens []).1 = .ok (Sums.tree n) ∧
      tree (Sums.source n) = .error (.rendering .tooDeep) ∧
      ∃ c, value (Sums.source n) = .ok c ∧ c.exitCode = Console.evaluationError := by
  have details : Severity.debug.rank < Outlet.start.inForce := by decide
  have read : (Expr.ofTokens (Scan.ofString (Sums.source n)).tokens []).1 = .ok (Sums.tree n) := by
    rw [Sums.ofString_source, Sums.ofTokens_tokens]
  refine ⟨read, ?_, ?_⟩
  · rcases tree_of_height details read with ⟨low, -⟩ | ⟨-, ended⟩
    · rw [Sums.height_tree] at low
      exact absurd low (Nat.not_le_of_lt (Nat.lt_succ_of_le h))
    · exact ended
  · rcases value_of_read details read with ⟨v, evaluated, -⟩ | ⟨fault, -, ended⟩
    · rw [Expr.evaluate, Sums.evaluateWithin_tree _ h] at evaluated
      simp at evaluated
    · exact ⟨_, ended, rfl⟩

/-- A sum with 1400 operators has a tree and its scan no fault. The inspector of values blames an
operator, but that of trees does not end in an orderly way. -/
theorem tree_long_sum :
    (Scan.ofString (Sums.source 1400)).faults = [] ∧
      (∃ e, (Expr.ofTokens (Scan.ofString (Sums.source 1400)).tokens []).1 = .ok e) ∧
      tree (Sums.source 1400) = .error (.rendering .tooDeep) ∧
      ∃ c, value (Sums.source 1400) = .ok c ∧ c.exitCode = Console.evaluationError := by
  obtain ⟨read, ended, blamed⟩ := tree_sum (n := 1400) (by decide)
  exact ⟨by rw [Sums.ofString_source], ⟨_, read⟩, ended, blamed⟩

end Inspector

end Reckoner
