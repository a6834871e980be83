import Reckoner.Proofs.Run.Stages
import Reckoner.Run.Session

namespace Reckoner

theorem Scan.onto_eq (earlier : List Diagnostic) (source : String) :
    onto earlier source =
      ⟨(ofString source).tokens, earlier ++ (ofString source).faults,
        (ofString source).lastLine⟩ := by
  let start := { State.start source.toList with faults := earlier.toArray }
  have together : source.toList.drop start.chars.consumed = start.rest := rfl
  have steps := State.finish_steps start together
  obtain ⟨tokens, faults, line⟩ := steps.collect
  simp only [onto, Array.toList_push, ofString_eq]
  rw [tokens, faults, line]
  rfl

namespace Session

variable {earlier : List Diagnostic}

theorem length_answers (earlier : List Diagnostic) (steps : List Step) :
    (answers earlier steps).length = steps.length := by
  induction steps generalizing earlier with
  | nil => rfl
  | cons s rest ih => simp [answers, ih]

theorem answers_append (earlier : List Diagnostic) (before rest : List Step) :
    answers earlier (before ++ rest) =
      answers earlier before ++ answers (after earlier before) rest := by
  induction before generalizing earlier with
  | nil => rfl
  | cons s before ih => simp [answers, after, ih]

theorem answer_of_stopped (some : earlier ≠ []) (source : String) :
    answer earlier (.run source true) =
      (.value (.error (.scan (earlier ++ (Scan.ofString source).faults))),
        earlier ++ (Scan.ofString source).faults) := by
  have all : earlier ++ (Scan.ofString source).faults ≠ [] := by simp [some]
  rw [answer, Run.run_stopped Severity.warning.rank all]

theorem answer_run (earlier : List Diagnostic) (source : String) :
    answer earlier (.run source false) =
      ((answer [] (.run source false)).1, earlier ++ (answer [] (.run source false)).2) := by
  have running (earlier : List Diagnostic) :
      false = true → earlier ++ (Scan.ofString source).faults = [] := by simp
  obtain ⟨result, diagnostics⟩ := Run.run_unstopped Severity.warning.rank earlier (running earlier)
  obtain ⟨result', diagnostics'⟩ := Run.run_unstopped Severity.warning.rank [] (running [])
  simp only [answer, result, diagnostics, result', diagnostics', List.nil_append,
    List.append_assoc]

theorem answer_readTokens (earlier : List Diagnostic) (tokens : List Token) :
    answer earlier (.readTokens tokens) =
      ((answer [] (.readTokens tokens)).1, earlier ++ (answer [] (.readTokens tokens)).2) := by
  simp only [answer]
  rw [Expr.ofTokens_eq tokens earlier, Expr.ofTokens_eq tokens []]
  rfl

theorem answer_read (earlier : List Diagnostic) (source : String) :
    answer earlier (.read source) =
      ((answer [] (.read source)).1, earlier ++ (answer [] (.read source)).2) := by
  simp only [answer, Scan.onto_eq]
  rw [Expr.ofTokens_eq _ (earlier ++ _), Expr.ofTokens_eq _ ([] ++ _)]
  simp only [List.nil_append, List.append_assoc]

theorem answer_of_unstopped {s : Step} (h : s.failsFast = true → earlier = []) :
    answer earlier s = ((answer [] s).1, earlier ++ (answer [] s).2) := by
  cases s with
  | run source failFast =>
      cases failFast with
      | false => exact answer_run earlier source
      | true =>
          rw [h rfl]
          rfl
  | scan source => simp only [answer, Scan.onto_eq, List.nil_append]
  | read source => exact answer_read earlier source
  | readTokens tokens => exact answer_readTokens earlier tokens
  | report line message => rfl
  | reportToken token message => rfl
  | state => simp only [answer, List.append_nil]

theorem prefix_answer (earlier : List Diagnostic) (s : Step) : earlier <+: (answer earlier s).2 := by
  by_cases stop : s.failsFast = true → earlier = []
  · rw [answer_of_unstopped stop]
    exact List.prefix_append _ _
  · obtain ⟨fast, some⟩ := Classical.not_imp.1 stop
    cases s with
    | run source failFast =>
        obtain rfl : failFast = true := fast
        rw [answer_of_stopped some]
        exact List.prefix_append _ _
    | scan | read | readTokens | report | reportToken | state => simp [Step.failsFast] at fast

theorem prefix_after (earlier : List Diagnostic) (steps : List Step) :
    earlier <+: after earlier steps := by
  induction steps generalizing earlier with
  | nil => exact List.prefix_refl _
  | cons s rest ih => exact (prefix_answer earlier s).trans (ih _)

/-- A step of a session, whatever comes before it. It finds the diagnostics of the steps before and
keeps them, whether it fails or not. If it is no run that is to fail fast, it answers what it answers
alone and adds what it reports alone, and its tokens are those that it makes alone. If it is one, this
holds as long as nothing has been reported; else it fails with all that has been reported and then the
faults of its own scan, and adds these only. -/
theorem answer_shared (earlier : List Diagnostic) (before : List Step) (s : Step)
    (rest : List Step) :
    let shared := after earlier before
    let alone := answer [] s
    (answers earlier (before ++ s :: rest))[before.length]? = some (answer shared s) ∧
      earlier <+: shared ∧ shared <+: (answer shared s).2 ∧
      ((s.failsFast = true → shared = []) → answer shared s = (alone.1, shared ++ alone.2)) ∧
      (∀ source, (Scan.onto shared source).tokens = (Scan.onto [] source).tokens) ∧
      ∀ source, s = .run source true → shared ≠ [] →
        let all := shared ++ (Scan.onto [] source).faults
        answer shared s = (.value (.error (.scan all)), all) := by
  intro shared alone
  refine ⟨?_, prefix_after earlier before, prefix_answer shared s, answer_of_unstopped,
    fun source => ?_, fun source hs some => ?_⟩
  · rw [answers_append, List.getElem?_append_right (by rw [length_answers]), length_answers,
      Nat.sub_self]
    rfl
  · rw [Scan.onto_eq, Scan.onto_eq]
  · subst hs
    exact answer_of_stopped some source

theorem answer_shared_after_fault :
    let shared := after [] [.read "1 +"]
    shared = [.ofToken (Token.endOfInput 1) "Expected expression."] ∧
      answer shared (.run "nil" true) = (.value (.error (.scan shared)), shared) ∧
      answer shared (.run "nil" false) = (.value (.ok .nil), shared) := by
  intro shared
  have reported : shared = [.ofToken (Token.endOfInput 1) "Expected expression."] := by
    decide +kernel
  have clean : (Scan.onto [] "nil").faults = [] := by decide +kernel
  have value : (run Severity.warning.rank false "nil" []).result = .ok .nil := by decide +kernel
  have silent : (run Severity.warning.rank false "nil" []).diagnostics = [] := by decide +kernel
  have stopped := (answer_shared [] [.read "1 +"] (.run "nil" true) []).2.2.2.2.2 "nil" rfl
    (by rw [show after [] [.read "1 +"] = _ from reported]; simp)
  have running := (answer_shared [] [.read "1 +"] (.run "nil" false) []).2.2.2.1
    (by simp [Step.failsFast])
  refine ⟨reported, ?_, ?_⟩
  · simpa [clean] using stopped
  · simpa [answer, value, silent] using running

end Session

end Reckoner
