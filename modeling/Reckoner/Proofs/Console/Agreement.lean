import Reckoner.Console.Piped
import Reckoner.Console.Script
import Reckoner.Proofs.Console.Inspector
import Reckoner.Proofs.Run.Account

namespace Reckoner

theorem Number.not_bracket_of_mem_integer {n : Int} : ∀ c ∈ (Number.integer n).toList, c ≠ ']' := by
  have digits : ∀ c ∈ Nat.toDigits 10 n.natAbs, c ≠ ']' := by
    rintro c hc rfl
    exact absurd (Nat.isDigit_of_mem_toDigits (by decide) (by decide) hc) (by decide)
  intro c hc
  simp only [Number.integer, Number.signed, String.toList_ofList] at hc
  split at hc
  · rcases List.mem_cons.1 hc with rfl | hc
    · decide
    · exact digits c hc
  · exact digits c hc

namespace Diagnostic

theorem dropWhile_text (d : Diagnostic) :
    d.text.toList.dropWhile (· != ']') =
      ("] Error" ++ d.location ++ ": " ++ d.message).toList := by
  have opening : "[line ".toList.all (· != ']') := by decide
  have line : ∀ c ∈ ("[line " ++ Number.integer d.line).toList, (c != ']') = true := by
    intro c hc
    rw [String.toList_append, List.mem_append] at hc
    rcases hc with hc | hc
    · exact List.all_eq_true.1 opening c hc
    · exact bne_iff_ne.2 (Number.not_bracket_of_mem_integer c hc)
  have whole : d.text = ("[line " ++ Number.integer d.line) ++
      ("] Error" ++ d.location ++ ": " ++ d.message) := by
    simp only [text, report, String.append_assoc]
  have bracket : ∀ c ∈ ("] Error" ++ d.location ++ ": " ++ d.message).toList.head?, c = ']' := by
    simp
  rw [whole, String.toList_append]
  refine Segment.dropWhile_append_of_stop line fun c hc => ?_
  rw [bracket c hc]
  decide

theorem text_ne_of_location {d : Diagnostic} (h : d.location = "") (t : Token) (message : String) :
    d.text ≠ (ofToken t message).text := by
  intro same
  have behind := congrArg (fun s : String => s.toList.dropWhile (· != ']')) same
  simp only [dropWhile_text, h, ofToken, Token.location, String.toList_append] at behind
  split at behind <;> simp at behind

end Diagnostic

def Run.Fails (r : Run) : Prop := ∃ fault, r.result = .error (.evaluation fault)

namespace Console

theorem line_of_not_mem [Echo] {s : String} (h : '\x1b' ∉ s.toList) : line s = s ++ "\n" := by
  rw [line, Echo.strip_plain h]

theorem lines_of_not_mem [Echo] {texts : List String} (h : ∀ s ∈ texts, '\x1b' ∉ s.toList) :
    lines texts = String.join (texts.map (· ++ "\n")) := by
  rw [lines, List.map_congr_left fun s hs => line_of_not_mem (h s hs)]

theorem written_lines (texts : List String) :
    (texts.map Entry.line).filterMap Entry.written? = texts := by
  rw [List.filterMap_map]
  exact List.filterMap_some

theorem written_notes (notes : List Note) :
    (notes.map Entry.note).filterMap Entry.written? = [] := by
  rw [List.filterMap_map]
  exact List.filterMap_eq_nil_iff.2 fun _ _ => rfl

/-- What a run leaves on the console, for each of the ways in which it can end. -/
inductive Leaves [Echo] (r : Run) : Console → Prop where
  | value {v : Value} : r.result = .ok v → Leaves r (answered v.text r.diagnostics)
  | unread {fault : Grammar.Fault} {before : List Diagnostic} {t : Token} {message : String} :
      r.result = .error (.reading fault) → r.diagnostics = before ++ [.ofToken t message] →
      (Diagnostic.ofToken t message).text = fault.message → (∀ d ∈ before, d.location = "") →
      Leaves r ⟨dataError, "", diagnosticLines r.diagnostics⟩
  | blamed {fault : EvalFault} : r.result = .error (.evaluation fault) →
      Leaves r ⟨evaluationError, "", diagnosticLines r.diagnostics ++ [.line fault.message]⟩

section

variable [Echo] {threshold : Nat}

theorem leaves_of_run (ht : Severity.debug.rank < threshold) (source : String) :
    let r := run threshold false source []
    ∃ c, Leaves r c ∧
      ofSource ⟨false, threshold⟩ source =
        .ok (c.withJournal (Note.reports threshold r.diagnostics)) ∧
      Inspector.value source threshold =
        .ok (c.withJournal (Note.reports threshold r.diagnostics)) := by
  intro r
  have clean : false = true → (Scan.ofString source).faults = [] := by simp
  have journal : r.journal = Note.reports threshold r.diagnostics :=
    Run.journal_eq ht false source []
  have diagnostics : r.diagnostics = _ := (Run.run_unstopped threshold [] clean).2
  rw [List.nil_append] at diagnostics
  have inspected (c : Console) : Inspector.left source threshold c =
      c.withJournal (Note.reports threshold r.diagnostics) := by
    rw [diagnostics, Inspector.left]
  have script : ofSource ⟨false, threshold⟩ source = ofRun r := rfl
  rw [script, ofRun, journal]
  cases read : (Expr.ofTokens (Scan.ofString source).tokens []).1 with
  | error fault =>
      obtain ⟨t, objection, rfl⟩ :=
        Expr.ofTokens_refuses (Scan.carries_ofString source) (Prod.ext read rfl)
      have result : r.result = _ := (Run.of_unread threshold clean read).1
      have ended := (Inspector.tree_of_unread ht read).2
      rw [read] at diagnostics
      rw [inspected, ← diagnostics] at ended
      refine ⟨_, .unread result diagnostics rfl fun d hd => ?_, ?_, ended⟩
      · rw [Scan.ofString_eq] at hd
        exact Scan.location_of_mem_faults d hd
      · rw [result]
        rfl
  | ok tree =>
      obtain ⟨result, faults⟩ : r.result = _ ∧ r.diagnostics = _ := Run.of_read ht clean read
      rcases Inspector.value_of_read ht read with ⟨v, evaluated, ended⟩ | ⟨fault, fails, ended⟩
      · rw [evaluated] at result
        rw [inspected, ← faults] at ended
        exact ⟨_, .value result, by rw [result]; rfl, ended⟩
      · rw [fails] at result
        rw [inspected, ← faults] at ended
        have evaluable := Expr.ofTokens_evaluable (Scan.carries_ofString source) (Prod.ext read rfl)
        obtain ⟨blamed, blame⟩ := Expr.evaluate_blames evaluable fails
        refine ⟨_, .blamed result, ?_, ended⟩
        rw [result]
        simp only [Except.mapError, stopped, blame, Option.isSome_some, if_true, Except.map]

variable {r : Run} {c : Console}

theorem Leaves.exitCode (h : Leaves r c) :
    r.Fails ∧ c.exitCode = evaluationError ∨
      ¬r.Fails ∧ r.diagnostics ≠ [] ∧ c.exitCode = dataError ∨
      ¬r.Fails ∧ r.diagnostics = [] ∧ c.exitCode = 0 := by
  cases h with
  | value result =>
      have succeeds : ¬r.Fails := by simp [Run.Fails, result]
      cases hd : r.diagnostics with
      | nil => exact Or.inr (Or.inr ⟨succeeds, rfl, rfl⟩)
      | cons d ds => exact Or.inr (Or.inl ⟨succeeds, List.cons_ne_nil d ds, rfl⟩)
  | unread result diagnostics =>
      have other : ¬r.Fails := by simp [Run.Fails, result]
      exact Or.inr (Or.inl ⟨other, by simp [diagnostics], rfl⟩)
  | @blamed fault result => exact Or.inl ⟨⟨fault, result⟩, rfl⟩

theorem Leaves.exitCode_iff (h : Leaves r c) :
    (c.exitCode = evaluationError ↔ r.Fails) ∧
      (c.exitCode = dataError ↔ ¬r.Fails ∧ r.diagnostics ≠ []) ∧
      (c.exitCode = 0 ↔ ¬r.Fails ∧ r.diagnostics = []) := by
  rcases h.exitCode with ⟨fails, code⟩ | ⟨other, some, code⟩ | ⟨other, none, code⟩
  · simp [code, fails, evaluationError, dataError]
  · simp [code, other, some, evaluationError, dataError]
  · simp [code, other, none, evaluationError, dataError]

theorem Leaves.out (h : Leaves r c) :
    (∀ v, r.result = .ok v → c.out = line v.text) ∧ ((∀ v, r.result ≠ .ok v) → c.out = "") := by
  cases h with
  | @value v result =>
      refine ⟨fun w other => ?_, fun none => absurd result (none v)⟩
      obtain rfl : v = w := by simpa using result.symm.trans other
      rfl
  | unread result => exact ⟨by simp [result], fun _ => rfl⟩
  | blamed result => exact ⟨by simp [result], fun _ => rfl⟩

theorem Leaves.errors (h : Leaves r c) :
    let texts := r.diagnostics.map Diagnostic.text
    ∃ shown, c.errors = shown.map .line ∧
      (∀ fault, r.result = .error (.evaluation fault) → shown = texts ++ [fault.message]) ∧
      (¬r.Fails → shown = texts) := by
  have all : diagnosticLines r.diagnostics = (r.diagnostics.map Diagnostic.text).map .line :=
    List.map_map.symm
  cases h with
  | value result => exact ⟨_, all, by simp [result], fun _ => rfl⟩
  | unread result => exact ⟨_, all, by simp [result], fun _ => rfl⟩
  | @blamed fault result =>
      refine ⟨_ ++ [fault.message], by rw [List.map_append, ← all]; rfl, fun other same => ?_,
        fun none => absurd ⟨fault, result⟩ none⟩
      obtain rfl : fault = other := by simpa using result.symm.trans same
      rfl

theorem Leaves.count_unread (h : Leaves r c) {fault : Grammar.Fault}
    (unread : r.result = .error (.reading fault)) :
    (r.diagnostics.map Diagnostic.text).count fault.message = 1 := by
  cases h with
  | value result => simp [unread] at result
  | @unread cause before t message result diagnostics text plain =>
      obtain rfl : cause = fault := by simpa using result.symm.trans unread
      have apart : cause.message ∉ before.map Diagnostic.text := by
        rw [← text, List.mem_map]
        rintro ⟨d, hd, same⟩
        exact Diagnostic.text_ne_of_location (plain d hd) t message same
      rw [diagnostics, List.map_append, List.count_append, List.count_eq_zero.2 apart, ← text]
      simp
  | blamed result => simp [unread] at result

theorem err_withJournal (notes : List Note) {shown : List String}
    (h : c.errors = shown.map .line) : (c.withJournal notes).err = lines shown := by
  rw [err, withJournal, List.filterMap_append, h, written_notes, written_lines, List.nil_append]

end

/-- A script that is not to fail fast and the inspector of values leave the same on the console, if
details are not noted. The exit code is that of the evaluation where the evaluation fails; else it is
that of faulty data where anything has been reported, and else zero. The output is the value as a line,
and empty if there is none. The program's lines on the error output are the diagnostics in the order
of the reports, and then the fault of the evaluation if it fails; the fault of a reading is a
diagnostic already and comes up once. Before them stand the notes, one for every diagnostic, if the
threshold lets these through, and else none. A line is the text itself and a line feed unless the text
has an escape character in it. -/
theorem ofSource_agrees [Echo] {threshold : Nat} (ht : Severity.debug.rank < threshold)
    (source : String) :
    let r := run threshold false source []
    let texts := r.diagnostics.map Diagnostic.text
    let noted := if threshold ≤ Severity.info.rank then r.diagnostics.map Note.ofDiagnostic else []
    ∃ (c : Console) (shown : List String),
      ofSource ⟨false, threshold⟩ source = .ok c ∧ Inspector.value source threshold = .ok c ∧
      (c.exitCode = evaluationError ↔ r.Fails) ∧
      (c.exitCode = dataError ↔ ¬r.Fails ∧ r.diagnostics ≠ []) ∧
      (c.exitCode = 0 ↔ ¬r.Fails ∧ r.diagnostics = []) ∧
      (∀ v, r.result = .ok v →
        c.out = line v.text ∧ ('\x1b' ∉ v.text.toList → c.out = v.text ++ "\n")) ∧
      ((∀ v, r.result ≠ .ok v) → c.out = "") ∧
      c.errors = noted.map .note ++ shown.map .line ∧
      (∀ fault, r.result = .error (.evaluation fault) → shown = texts ++ [fault.message]) ∧
      (¬r.Fails → shown = texts) ∧
      (∀ fault, r.result = .error (.reading fault) → texts.count fault.message = 1) ∧
      c.err = lines shown ∧
      ((∀ s ∈ shown, '\x1b' ∉ s.toList) → c.err = String.join (shown.map (· ++ "\n"))) := by
  intro r texts noted
  obtain ⟨c, leaves, script, inspected⟩ := leaves_of_run ht source
  obtain ⟨fails, reported, clean⟩ := leaves.exitCode_iff
  obtain ⟨shown, errors, told, quiet⟩ := leaves.errors
  have err := err_withJournal noted errors
  refine ⟨c.withJournal noted, shown, script, inspected, fails, reported, clean,
    fun v result => ?_, leaves.out.2, ?_, told, quiet, fun _ => leaves.count_unread, err,
    fun plain => err.trans (lines_of_not_mem plain)⟩
  · have out := leaves.out.1 v result
    exact ⟨out, fun plain => out.trans (line_of_not_mem plain)⟩
  · rw [withJournal, errors]

theorem ofSource_agrees_stray :
    let threshold := Severity.info.rank
    let plus : Token := ⟨.plus, "+", 1, none⟩
    let stray := "[line 1] Error: Unexpected character."
    let mixed := "[line 1] Error at '+': Operands must be two numbers or two strings."
    Severity.debug.rank < threshold ∧
      (run threshold false "1 @ + nil" []).result =
        .error (.evaluation (.operands plus .numbersOrStrings)) ∧
      ∃ c, ofSource ⟨false, threshold⟩ "1 @ + nil" = .ok c ∧
        Inspector.value "1 @ + nil" threshold = .ok c ∧ c.exitCode = evaluationError ∧ c.out = "" ∧
        c.errors = [.note ⟨.info, .diagnostics, stray⟩, .line stray, .line mixed] ∧
        c.err = stray ++ "\n" ++ mixed ++ "\n" := by
  intro threshold plus stray mixed
  have details : Severity.debug.rank < threshold := by decide
  have result : (run threshold false "1 @ + nil" []).result =
      .error (.evaluation (.operands plus .numbersOrStrings)) := by
    decide +kernel
  have diagnostics : (run threshold false "1 @ + nil" []).diagnostics =
      [.ofLine 1 "Unexpected character."] := by
    decide +kernel
  have first : (Diagnostic.ofLine 1 "Unexpected character.").text = stray := by decide +kernel
  have last : (EvalFault.operands plus .numbersOrStrings).message = mixed := by decide +kernel
  obtain ⟨c, shown, script, inspected, code, -, -, -, silent, errors, told, -, -, -, plain⟩ :=
    ofSource_agrees details "1 @ + nil"
  have lines : shown = [stray, mixed] := by
    rw [told _ result, diagnostics, last, ← first]
    rfl
  rw [lines, diagnostics, if_pos (by decide), List.map_singleton, Note.ofDiagnostic, first] at errors
  refine ⟨details, result, c, script, inspected, code.2 ⟨_, result⟩, ?_, errors, ?_⟩
  · exact silent (by simp [result])
  · rw [lines] at plain
    rw [plain (by decide +kernel)]
    decide +kernel

/-- A string with a colour sequence in it is not what comes out of it, and where diagnostics are noted
each comes twice. -/
theorem ofSource_coloured_noted :
    (let source := "\"\x1b[31mred\""
      ∃ v c, (run Outlet.start.inForce false source []).result = .ok v ∧
        v.text = "\x1b[31mred" ∧ ofSource ⟨false, Outlet.start.inForce⟩ source = .ok c ∧
        Inspector.value source = .ok c ∧ c = ⟨0, "red\n", []⟩ ∧ c.out ≠ v.text ++ "\n") ∧
    (let threshold := Severity.info.rank
      let stray := "[line 1] Error: Unexpected character."
      ∃ c, Severity.debug.rank < threshold ∧
        (run threshold false "1 @" []).diagnostics.map Diagnostic.text = [stray] ∧
        ofSource ⟨false, threshold⟩ "1 @" = .ok c ∧ Inspector.value "1 @" threshold = .ok c ∧
        c.errors = [.note ⟨.info, .diagnostics, stray⟩, .line stray]) := by
  refine ⟨⟨.string "\x1b[31mred", ⟨0, "red\n", []⟩, ?_, rfl, ?_, ?_, rfl, by decide⟩,
    ⟨dataError, "1\n", [.note ⟨.info, .diagnostics, "[line 1] Error: Unexpected character."⟩,
      .line "[line 1] Error: Unexpected character."]⟩, by decide, ?_, ?_, ?_, rfl⟩
  all_goals decide +kernel

end Console

end Reckoner
