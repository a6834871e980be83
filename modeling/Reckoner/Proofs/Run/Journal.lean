import Reckoner.Proofs.Run.Sums

namespace Reckoner

theorem Expr.evaluate_fails_of_tall {e : Expr} (he : e.Evaluable) (tall : depthBudget < e.height) :
    ∃ fault blamed, e.evaluate = .error fault ∧ fault.blame? = some blamed := by
  cases h : e.evaluate with
  | error fault =>
      obtain ⟨blamed, hb⟩ := evaluate_blames he h
      exact ⟨fault, blamed, rfl, hb⟩
  | ok v => exact absurd (height_le_of_evaluateWithin h) (Nat.not_le_of_lt tall)

/-- A run that notes down all details and one that does not end with the same diagnostics. Their
results are the same if and only if the tree is no taller than the budget; of a taller one the first
makes a fault of its own, where the second blames a token. -/
theorem run_debug (failFast : Bool) (source : String) (earlier : List Diagnostic) :
    let loud := run Severity.debug.rank failFast source earlier
    let quiet := run Severity.warning.rank failFast source earlier
    loud.diagnostics = quiet.diagnostics ∧
      (loud.result = quiet.result ↔
        ∀ e ∈ Run.tree? failFast source earlier, e.height ≤ depthBudget) ∧
      ∀ e ∈ Run.tree? failFast source earlier, depthBudget < e.height →
        loud.result = .error (.rendering .tooDeep) ∧
          ∃ fault blamed, quiet.result = .error (.evaluation fault) ∧
            fault.blame? = some blamed := by
  intro loud quiet
  cases ht : Run.tree? failFast source earlier with
  | none =>
      obtain ⟨result, diagnostics⟩ :=
        Run.of_tree?_eq_none ht Severity.debug.rank Severity.warning.rank
      exact ⟨diagnostics, by simp [loud, quiet, result], by simp⟩
  | some tree =>
      obtain ⟨loudly, noted⟩ := Run.of_tree?_eq_some ht Severity.debug.rank
      obtain ⟨quietly, evaluated⟩ := Run.of_tree?_eq_some ht Severity.warning.rank
      rw [if_neg fun h => absurd h.1 (by decide)] at evaluated
      have tall (high : depthBudget < tree.height) :
          loud.result = .error (.rendering .tooDeep) ∧
            ∃ fault blamed, quiet.result = .error (.evaluation fault) ∧
              fault.blame? = some blamed := by
        rw [if_pos ⟨Nat.le_refl _, high⟩] at noted
        obtain ⟨fault, blamed, fails, blame⟩ :=
          Expr.evaluate_fails_of_tall (Run.evaluable_of_tree?_eq_some ht) high
        rw [fails] at evaluated
        exact ⟨noted, fault, blamed, evaluated, blame⟩
      refine ⟨loudly.trans quietly.symm, ⟨fun same e he => ?_, fun low => ?_⟩, fun e he => ?_⟩
      · obtain rfl := Option.some.inj he
        refine Nat.le_of_not_lt fun high => ?_
        obtain ⟨hloud, fault, blamed, hquiet, -⟩ := tall high
        rw [hloud, hquiet] at same
        simp at same
      · rw [if_neg fun h => Nat.not_lt_of_le (low tree rfl) h.2] at noted
        exact noted.trans evaluated.symm
      · obtain rfl := Option.some.inj he
        exact tall

theorem run_sum {n : Nat} (h : depthBudget ≤ n) :
    (run Severity.debug.rank false (Sums.source n) []).result = .error (.rendering .tooDeep) ∧
      (run Severity.warning.rank false (Sums.source n) []).result =
        .error (.evaluation (.tooDeep (Sums.tree n).outermost)) := by
  have ht := Sums.tree?_source false n
  have high : depthBudget < (Sums.tree n).height := by
    rw [Sums.height_tree]
    exact Nat.lt_succ_of_le h
  have noted := (Run.of_tree?_eq_some ht Severity.debug.rank).2
  have evaluated := (Run.of_tree?_eq_some ht Severity.warning.rank).2
  rw [if_pos ⟨Nat.le_refl _, high⟩] at noted
  rw [if_neg fun h => absurd h.1 (by decide), Expr.evaluate, Sums.evaluateWithin_tree _ h] at evaluated
  exact ⟨noted, evaluated⟩

/-- A sum with 1400 operators is too tall for the journal, where the quiet run blames an operator. -/
theorem run_debug_long_sum :
    (run Severity.debug.rank false (Sums.source 1400) []).result = .error (.rendering .tooDeep) ∧
      (run Severity.warning.rank false (Sums.source 1400) []).result =
        .error (.evaluation (.tooDeep Sums.plus)) :=
  run_sum (by decide)

end Reckoner
