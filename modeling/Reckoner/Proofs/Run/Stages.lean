import Reckoner.Proofs.Expr.Rendering
import Reckoner.Proofs.Grammar.Completeness
import Reckoner.Proofs.Grammar.Locality
import Reckoner.Proofs.Run.Outcome

namespace Reckoner

namespace Expr

theorem diagnostics_ofTokens {tokens : List Token} {diagnostics all : List Diagnostic}
    {tree : Expr} (h : Expr.ofTokens tokens diagnostics = (.ok tree, all)) : all = diagnostics := by
  rw [ofTokens_eq] at h
  obtain ⟨read, rfl⟩ := Prod.mk.inj h
  rw [read]
  exact List.append_nil diagnostics

theorem ofTokens_of_cost_le {e : Expr} (ho : e.Obeys .equality) (hc : e.cost ≤ depthBudget)
    {ts tail : List Token} (hs : e.Spelled ts) (hend : ∀ t ∈ tail.head?, t.kind = .endOfInput)
    (diagnostics : List Diagnostic) :
    ofTokens (ts ++ tail) diagnostics = (.ok e, diagnostics) := by
  have hr : (Grammar.State.start (ts ++ tail) diagnostics).rest = ts ++ tail := rfl
  obtain ⟨s', h, hm⟩ := Grammar.readAll_complete ho hc hs hr hend
  simp only [ofTokens, h]
  exact Prod.ext rfl hm.diagnostics

theorem ofTokens_of_spelled {e : Expr} (ho : e.Obeys .equality) {ts tail : List Token}
    (hs : e.Spelled ts) (hend : ∀ t ∈ tail.head?, t.kind = .endOfInput)
    (diagnostics : List Diagnostic) :
    ofTokens (ts ++ tail) diagnostics = (.ok e, diagnostics) ∨
      ∃ t all, ofTokens (ts ++ tail) diagnostics = (.error (.refused t .tooDeep), all) := by
  have hr : (Grammar.State.start (ts ++ tail) diagnostics).rest = ts ++ tail := rfl
  obtain ⟨s', h, hm⟩ := Grammar.readAll_complete ho (Nat.le_max_right depthBudget e.cost) hs hr hend
  rcases Grammar.readAll_truncates (Nat.le_max_left depthBudget e.cost)
    (Grammar.State.start (ts ++ tail) diagnostics) with same | ⟨t, s'', deep⟩
  · left
    simp only [ofTokens, same, h]
    exact Prod.ext rfl hm.diagnostics
  · right
    exact ⟨t, s''.diagnostics, by simp only [ofTokens, deep]⟩

end Expr

namespace Note

/-- What is noted of diagnostics. -/
def reports (threshold : Nat) (ds : List Diagnostic) : List Note :=
  if threshold ≤ Severity.info.rank then ds.map ofDiagnostic else []

variable {threshold : Nat}

theorem reports_append (ds ds' : List Diagnostic) :
    reports threshold (ds ++ ds') = reports threshold ds ++ reports threshold ds' := by
  unfold reports
  split
  · exact List.map_append
  · rfl

theorem reaching_append (ns ns' : List Note) :
    reaching threshold (ns ++ ns') = reaching threshold ns ++ reaching threshold ns' :=
  List.filter_append ns ns'

theorem reaching_cons_of_lt {channel : Channel} {text : String} {ns : List Note}
    (h : Severity.debug.rank < threshold) :
    reaching threshold (⟨.debug, channel, text⟩ :: ns) = reaching threshold ns :=
  List.filter_cons_of_neg (by simpa using h)

theorem reaching_diagnostics (ds : List Diagnostic) :
    reaching threshold (ds.map ofDiagnostic) = reports threshold ds := by
  unfold reports reaching
  split
  case isTrue low =>
    exact List.filter_eq_self.2 (List.forall_mem_map.2 fun d _ => decide_eq_true low)
  case isFalse high =>
    exact List.filter_eq_nil_iff.2 (List.forall_mem_map.2 fun d _ => mt of_decide_eq_true high)

end Note

theorem Scan.reaching_notes {threshold : Nat} (h : Severity.debug.rank < threshold) (scan : Scan) :
    Note.reaching threshold scan.notes = Note.reports threshold scan.faults := by
  rw [notes, Note.reaching_append, Note.reaching_diagnostics, Note.reaching_cons_of_lt h]
  exact List.append_nil _

namespace Run

/-- The tree that a run comes to, if neither the scan nor the reading stops it. -/
def tree? (failFast : Bool) (source : String) (earlier : List Diagnostic) : Option Expr :=
  let scan := Scan.ofString source
  let scanned := earlier ++ scan.faults
  if failFast && !scanned.isEmpty then none
  else (Expr.ofTokens scan.tokens scanned).1.toOption

/-- What becomes of the tokens of a source, whatever has been reported before. -/
def outcome (threshold : Nat) (source : String) : Except RunFault Value :=
  ((Expr.ofTokens (Scan.ofString source).tokens []).1.mapError .reading).bind fun tree =>
    ((readingNote threshold tree).mapError .rendering).bind fun _ =>
      tree.evaluate.mapError .evaluation

variable {failFast : Bool} {source : String} {earlier : List Diagnostic}

theorem goes_on {ds : List Diagnostic} (h : failFast = true → ds = []) :
    ¬((failFast && !ds.isEmpty) = true) := by
  simpa using h

theorem run_stopped (threshold : Nat) (h : earlier ++ (Scan.ofString source).faults ≠ []) :
    run threshold true source earlier =
      ⟨.error (.scan (earlier ++ (Scan.ofString source).faults)),
        earlier ++ (Scan.ofString source).faults,
        Note.reaching threshold (scanNotes source (Scan.ofString source))⟩ := by
  have stop : (true && !(earlier ++ (Scan.ofString source).faults).isEmpty) = true := by
    simpa using h
  simp only [run, complete, if_pos stop]

/-- A run that is not stopped shows what has been reported before in its diagnostics alone. -/
theorem run_unstopped (threshold : Nat) (earlier : List Diagnostic)
    (h : failFast = true → earlier ++ (Scan.ofString source).faults = []) :
    (run threshold failFast source earlier).result = outcome threshold source ∧
      (run threshold failFast source earlier).diagnostics =
        earlier ++ (Scan.ofString source).faults ++
          Grammar.reports (Expr.ofTokens (Scan.ofString source).tokens []).1 := by
  simp only [run, complete, if_neg (goes_on h), outcome,
    Expr.ofTokens_eq (Scan.ofString source).tokens (earlier ++ (Scan.ofString source).faults)]
  cases (Expr.ofTokens (Scan.ofString source).tokens []).1 with
  | error fault => exact ⟨rfl, rfl⟩
  | ok tree =>
      cases hn : readingNote threshold tree with
      | error fault => simp [Grammar.reports, hn, Except.mapError, Except.bind]
      | ok notes =>
          cases he : tree.evaluate with
          | error fault => simp [Grammar.reports, hn, he, Except.mapError, Except.bind]
          | ok v => simp [Grammar.reports, hn, he, Except.mapError, Except.bind]

theorem outcome_of_lt {threshold : Nat} (ht : Severity.debug.rank < threshold) (source : String) :
    outcome threshold source =
      ((Expr.ofTokens (Scan.ofString source).tokens []).1.mapError .reading).bind fun tree =>
        tree.evaluate.mapError .evaluation := by
  simp only [outcome, readingNote, if_neg (Nat.not_le_of_lt ht)]
  rfl

theorem journal_eq {threshold : Nat} (ht : Severity.debug.rank < threshold) (failFast : Bool)
    (source : String) (earlier : List Diagnostic) :
    let r := run threshold failFast source earlier
    r.journal = Note.reports threshold (r.diagnostics.drop earlier.length) := by
  have scanned : Note.reaching threshold (scanNotes source (Scan.ofString source)) =
      Note.reports threshold (Scan.ofString source).faults := by
    rw [scanNotes, Note.reaching_cons_of_lt ht, Scan.reaching_notes ht]
  by_cases running : failFast = true → earlier ++ (Scan.ofString source).faults = []
  · simp only [run, complete, if_neg (goes_on running),
      Expr.ofTokens_eq (Scan.ofString source).tokens (earlier ++ (Scan.ofString source).faults)]
    cases (Expr.ofTokens (Scan.ofString source).tokens []).1 with
    | error fault =>
        dsimp only
        rw [List.drop_left, List.append_assoc, List.drop_left, Note.reaching_append, scanned,
          Note.reaching_diagnostics, ← Note.reports_append]
    | ok tree =>
        have unnoted : readingNote threshold tree = .ok [] := if_neg (Nat.not_le_of_lt ht)
        simp only [unnoted]
        cases tree.evaluate with
        | error fault => simp [scanned, Grammar.reports]
        | ok v =>
            have silent : Note.reaching threshold [evaluationNote v] = [] :=
              Note.reaching_cons_of_lt ht
            simp [scanned, silent, Note.reaching_append, Grammar.reports]
  · obtain ⟨rfl, some⟩ := Classical.not_imp.1 running
    rw [run_stopped threshold some]
    simpa using scanned

theorem toOption_eq_some_iff {ε α : Type} {x : Except ε α} {a : α} :
    x.toOption = some a ↔ x = .ok a := by
  cases x <;> simp [Except.toOption]

theorem unstopped_of_tree? {tree : Expr} (h : tree? failFast source earlier = some tree) :
    (failFast = true → earlier ++ (Scan.ofString source).faults = []) ∧
      (Expr.ofTokens (Scan.ofString source).tokens []).1 = .ok tree := by
  simp only [tree?] at h
  split at h
  next => cases h
  next running =>
    rw [Expr.ofTokens_eq] at h
    exact ⟨by simpa using running, toOption_eq_some_iff.1 h⟩

theorem of_tree?_eq_none (h : tree? failFast source earlier = none) (t u : Nat) :
    (run t failFast source earlier).result = (run u failFast source earlier).result ∧
      (run t failFast source earlier).diagnostics =
        (run u failFast source earlier).diagnostics := by
  by_cases running : failFast = true → earlier ++ (Scan.ofString source).faults = []
  · obtain ⟨result, diagnostics⟩ := run_unstopped t earlier running
    obtain ⟨result', diagnostics'⟩ := run_unstopped u earlier running
    refine ⟨result.trans (Eq.trans ?_ result'.symm), diagnostics.trans diagnostics'.symm⟩
    simp only [outcome]
    cases read : (Expr.ofTokens (Scan.ofString source).tokens []).1 with
    | error fault => rfl
    | ok tree =>
        simp only [tree?, if_neg (goes_on running)] at h
        rw [Expr.ofTokens_eq, read] at h
        cases h
  · obtain ⟨rfl, some⟩ := Classical.not_imp.1 running
    rw [run_stopped t some, run_stopped u some]
    exact ⟨rfl, rfl⟩

theorem evaluable_of_tree?_eq_some {tree : Expr} (h : tree? failFast source earlier = some tree) :
    tree.Evaluable :=
  Expr.ofTokens_evaluable (Scan.carries_ofString source) (Prod.ext (unstopped_of_tree? h).2 rfl)

theorem readingNote_of_evaluable (threshold : Nat) {tree : Expr} (h : tree.Evaluable) :
    (threshold ≤ Severity.debug.rank ∧ depthBudget < tree.height) ∧
        readingNote threshold tree = .error .tooDeep ∨
      ¬ (threshold ≤ Severity.debug.rank ∧ depthBudget < tree.height) ∧
        ∃ notes, readingNote threshold tree = .ok notes := by
  by_cases loud : threshold ≤ Severity.debug.rank
  · simp only [readingNote, if_pos loud, Expr.render]
    rcases Expr.renderWithin_of_evaluable depthBudget h with ⟨low, text, rendered⟩ | ⟨tall, deep⟩
    · exact Or.inr ⟨fun tall => Nat.not_lt_of_le low tall.2, _, by rw [rendered]⟩
    · exact Or.inl ⟨⟨loud, tall⟩, by rw [deep]⟩
  · exact Or.inr ⟨fun h => loud h.1, [], by rw [readingNote, if_neg loud]⟩

theorem of_tree?_eq_some {tree : Expr} (h : tree? failFast source earlier = some tree)
    (threshold : Nat) :
    (run threshold failFast source earlier).diagnostics =
        earlier ++ (Scan.ofString source).faults ∧
      (run threshold failFast source earlier).result =
        if threshold ≤ Severity.debug.rank ∧ depthBudget < tree.height then
          .error (.rendering .tooDeep)
        else tree.evaluate.mapError .evaluation := by
  obtain ⟨running, read⟩ := unstopped_of_tree? h
  obtain ⟨result, diagnostics⟩ := run_unstopped threshold earlier running
  rw [read] at diagnostics
  rw [outcome, read] at result
  refine ⟨diagnostics.trans (List.append_nil _), result.trans ?_⟩
  rcases readingNote_of_evaluable threshold (evaluable_of_tree?_eq_some h) with
    ⟨tall, note⟩ | ⟨low, notes, note⟩
  · rw [if_pos tall]
    simp [note, Except.mapError, Except.bind]
  · rw [if_neg low]
    simp [note, Except.mapError, Except.bind]

end Run

end Reckoner
