import Reckoner.Proofs.Run.Stages

namespace Reckoner

namespace Run

variable {threshold : Nat} {failFast : Bool} {source : String}

theorem run_of_clean (threshold : Nat) (h : failFast = true → (Scan.ofString source).faults = []) :
    run threshold failFast source [] = run threshold false source [] := by
  cases failFast with
  | false => rfl
  | true => simp [run, complete, h rfl]

theorem of_unread (threshold : Nat) (clean : failFast = true → (Scan.ofString source).faults = [])
    {fault : Grammar.Fault}
    (h : (Expr.ofTokens (Scan.ofString source).tokens []).1 = .error fault) :
    (run threshold failFast source []).result = .error (.reading fault) ∧
      ∃ t objection d, fault = .refused t objection ∧
        (run threshold failFast source []).diagnostics = (Scan.ofString source).faults ++ [d] ∧
        d.text = (RunFault.reading fault).message ∧ d.line = t.line := by
  obtain ⟨result, diagnostics⟩ := run_unstopped threshold [] clean
  obtain ⟨t, objection, rfl⟩ :=
    Expr.ofTokens_refuses (Scan.carries_ofString source) (Prod.ext h rfl)
  rw [outcome, h] at result
  rw [h] at diagnostics
  exact ⟨result, t, objection, .ofToken t objection.message, rfl, diagnostics, rfl, rfl⟩

theorem of_read (ht : Severity.debug.rank < threshold)
    (clean : failFast = true → (Scan.ofString source).faults = []) {tree : Expr}
    (h : (Expr.ofTokens (Scan.ofString source).tokens []).1 = .ok tree) :
    (run threshold failFast source []).result = tree.evaluate.mapError .evaluation ∧
      (run threshold failFast source []).diagnostics = (Scan.ofString source).faults := by
  obtain ⟨result, diagnostics⟩ := run_unstopped threshold [] clean
  rw [outcome_of_lt ht, h] at result
  rw [h] at diagnostics
  exact ⟨result, diagnostics.trans (List.append_nil _)⟩

end Run

/-- What comes of a run whose notes leave out the details, and what it reports. If it is to fail fast
and the scan has found faults, it ends with these and reports and notes nothing else. In every other
case it is the run that is not to fail fast: it reads the tokens of the scan and evaluates the tree.
Where the reading fails, it has reported one thing more than the scan, with the text of the fault and
the line of the token that is blamed; where there is a value or a fault of the evaluation, it has not.
So nothing at all is reported if and only if the scan finds no fault and the reading a tree. -/
theorem run_accounts {threshold : Nat} (ht : Severity.debug.rank < threshold) (failFast : Bool)
    (source : String) :
    let scan := Scan.ofString source
    let parsed := (Expr.ofTokens scan.tokens []).1
    let r := run threshold failFast source []
    (failFast = true → scan.faults ≠ [] →
      r.result = .error (.scan scan.faults) ∧ r.diagnostics = scan.faults ∧
        (RunFault.scan scan.faults).message = "\n".intercalate (scan.faults.map Diagnostic.text) ∧
        r.journal = (Run.scanNotes source scan).filter (threshold ≤ ·.severity.rank)) ∧
      ((failFast = true → scan.faults = []) →
        r = run threshold false source [] ∧
          r.result = (parsed.mapError .reading).bind
            (fun tree => tree.evaluate.mapError .evaluation) ∧
          (∀ fault, r.result = .error (.reading fault) →
            ∃ t objection d, fault = .refused t objection ∧ r.diagnostics = scan.faults ++ [d] ∧
              d.text = (RunFault.reading fault).message ∧ d.line = t.line) ∧
          (∀ x : Except EvalFault Value, r.result = x.mapError .evaluation →
            r.diagnostics = scan.faults) ∧
          (r.diagnostics = [] ↔ scan.faults = [] ∧ ∃ tree, parsed = .ok tree)) := by
  intro scan parsed r
  refine ⟨fun fast some => ?_, fun clean => ?_⟩
  · subst fast
    have stopped := Run.run_stopped threshold (List.append_ne_nil_of_right_ne_nil [] some)
    exact ⟨congrArg Run.result stopped, congrArg Run.diagnostics stopped, rfl,
      congrArg Run.journal stopped⟩
  · refine ⟨Run.run_of_clean threshold clean, ?_, ?_⟩
    · exact (Run.run_unstopped threshold [] clean).1.trans (Run.outcome_of_lt ht source)
    · cases read : (Expr.ofTokens (Scan.ofString source).tokens []).1 with
      | error fault =>
          have unread : parsed = .error fault := read
          obtain ⟨result, more⟩ := Run.of_unread threshold clean read
          refine ⟨fun cause h => ?_, fun x h => ?_, ?_⟩
          · obtain rfl : fault = cause := by simpa using result.symm.trans h
            exact more
          · have failed := result.symm.trans h
            cases x <;> simp [Except.mapError] at failed
          · obtain ⟨t, objection, d, -, diagnostics, -⟩ := more
            have some : r.diagnostics ≠ [] := by simp [r, diagnostics]
            simp [some, unread]
      | ok tree =>
          have found : parsed = .ok tree := read
          obtain ⟨result, diagnostics⟩ := Run.of_read ht clean read
          refine ⟨fun cause h => ?_, fun x _ => diagnostics, ?_⟩
          · have failed := result.symm.trans h
            cases he : tree.evaluate <;> simp [he, Except.mapError] at failed
          · rw [show r.diagnostics = scan.faults from diagnostics, found]
            simp

theorem run_accounts_stray :
    let threshold := Outlet.start.threshold
    let stray : Diagnostic := .ofLine 1 "Unexpected character."
    let unread : Grammar.Fault := .refused (Token.endOfInput 1) .expectedExpression
    Severity.debug.rank < threshold ∧
      (run threshold true "# 1 +" []).result = .error (.scan [stray]) ∧
      (run threshold true "# 1 +" []).diagnostics = [stray] ∧
      (run threshold false "# 1 +" []).result = .error (.reading unread) ∧
      ∃ d, (run threshold false "# 1 +" []).diagnostics = [stray, d] ∧
        d.text = "[line 1] Error at end: Expected expression." ∧ d.line = 1 := by
  intro threshold stray unread
  have details : Severity.debug.rank < threshold := by decide
  have faults : (Scan.ofString "# 1 +").faults = [stray] := by decide +kernel
  have result : (run threshold false "# 1 +" []).result = .error (.reading unread) := by
    decide +kernel
  have quick := (run_accounts details true "# 1 +").1 rfl (by simp [faults])
  have full := (run_accounts details false "# 1 +").2 (by simp)
  rw [faults] at quick full
  obtain ⟨t, objection, d, refused, diagnostics, text, line⟩ := full.2.2.1 unread result
  obtain ⟨rfl, rfl⟩ := Grammar.Fault.refused.inj refused
  exact ⟨details, quick.1, quick.2.1, result, d, diagnostics, text, line⟩

end Reckoner
