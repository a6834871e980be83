import Reckoner.Proofs.Source.Tokens

namespace Reckoner

def Token.down (k : Int) (t : Token) : Token := { t with line := t.line + k }

def Diagnostic.down (k : Int) (d : Diagnostic) : Diagnostic := { d with line := d.line + k }

def Token.opening (line : Int) : Token := ⟨.leftParen, "(", line, none⟩

def Token.closing (line : Int) : Token := ⟨.rightParen, ")", line, none⟩

def Segment.IsUnclosed (s : Segment) : Prop := ∃ inner, s = .unclosed inner

theorem forall_head?_append_break {P : Char → Prop} {after rest : List Char} (hbreak : P '\n')
    (h : ∀ c ∈ after.head?, P c) : ∀ c ∈ (after ++ '\n' :: rest).head?, P c := by
  cases after with
  | nil =>
      rintro _ ⟨⟩
      exact hbreak
  | cons c after => exact h

theorem head?_append_break_ne {after rest : List Char} {c : Char} (hc : '\n' ≠ c)
    (h : after.head? ≠ some c) : (after ++ '\n' :: rest).head? ≠ some c := by
  have next : ∀ d ∈ (after ++ '\n' :: rest).head?, d ≠ c :=
    forall_head?_append_break hc fun d hd eq => h (eq ▸ hd)
  exact fun eq => next c eq rfl

theorem Segment.Fits.append_break {s : Segment} {after : List Char} (h : s.Fits after)
    (hs : ¬s.IsUnclosed) (rest : List Char) : s.Fits (after ++ '\n' :: rest) := by
  have digit : ¬ isDigit '\n' := by decide
  have wordChar : ¬ isWordChar '\n' := by decide +kernel
  cases h with
  | single hm => exact .single hm
  | double hm => exact .double hm
  | unpaired hm next => exact .unpaired hm (head?_append_break_ne (by decide) next)
  | slash next => exact .slash (head?_append_break_ne (by decide) next)
  | comment line stop => exact .comment line (forall_head?_append_break rfl stop)
  | blank hc => exact .blank hc
  | string quote => exact .string quote
  | @unclosed inner quote => exact absurd ⟨inner, rfl⟩ hs
  | whole some digits stop point =>
      exact .whole some digits (forall_head?_append_break digit stop)
        (head?_append_break_ne (by decide) point)
  | decimal some digits part digits' stop =>
      exact .decimal some digits part digits' (forall_head?_append_break digit stop)
  | dangling some digits stop =>
      exact .dangling some digits (forall_head?_append_break digit stop)
  | word start part stop => exact .word start part (forall_head?_append_break wordChar stop)
  | stray opener digit start => exact .stray opener digit start

theorem Segmented.append_break {cs rest : List Char} {segs more : List Segment}
    (h : Segmented cs segs) (hs : ∀ s ∈ segs, ¬s.IsUnclosed)
    (h' : Segmented ('\n' :: rest) more) : Segmented (cs ++ '\n' :: rest) (segs ++ more) := by
  induction h with
  | nil => exact h'
  | @cons s after _ fits _ ih =>
      obtain ⟨hfirst, hothers⟩ := List.forall_mem_cons.1 hs
      rw [List.append_assoc]
      exact .cons (fits.append_break hfirst rest) (ih hothers)

def parenthesised (segs more : List Segment) : List Segment :=
  .mark .leftParen ['('] :: (segs ++ .blank '\n' :: .mark .rightParen [')'] :: more)

theorem Segmented.parenthesised {cs rest : List Char} {segs more : List Segment}
    (h : Segmented cs segs) (hs : ∀ s ∈ segs, ¬s.IsUnclosed) (h' : Segmented rest more) :
    Segmented ('(' :: (cs ++ '\n' :: ')' :: rest)) (parenthesised segs more) := by
  have opening {after : List Char} : (Segment.mark .leftParen ['(']).Fits after :=
    .single (by decide)
  have closing : (Segment.mark .rightParen [')']).Fits rest := .single (by decide)
  have blank {after : List Char} : (Segment.blank '\n').Fits after := .blank (by decide)
  exact .cons opening (h.append_break hs (.cons blank (.cons closing h')))

namespace Scan

/-- The tokens without the mark of the end. -/
def spoken (s : Scan) : List Token := s.tokens.dropLast

theorem tokens_ne_nil (line : Int) (segs : List Segment) : (ofSegments line segs).tokens ≠ [] := by
  obtain ⟨spoken, tokens, -⟩ := tokens_ofSegments line segs
  simp [tokens]

theorem tokens_eq_spoken (line : Int) (segs : List Segment) :
    (ofSegments line segs).tokens =
      (ofSegments line segs).spoken ++ [Token.endOfInput (ofSegments line segs).lastLine] := by
  obtain ⟨spoken, tokens, -⟩ := tokens_ofSegments line segs
  rw [Scan.spoken, tokens, List.dropLast_concat]

theorem exists_segment_of_mem_spoken {line : Int} {segs : List Segment} :
    ∀ t ∈ (ofSegments line segs).spoken, ∃ s ∈ segs, s.content? = some t.content := by
  obtain ⟨spoken, tokens, content⟩ := tokens_ofSegments line segs
  rw [Scan.spoken, tokens, List.dropLast_concat]
  intro t ht
  have said := List.mem_map_of_mem ht (f := Token.content)
  rwa [content, List.mem_filterMap] at said

theorem kind_ne_of_mem_spoken {line : Int} {segs : List Segment}
    (h : ∀ s ∈ segs, ∃ after, s.Fits after) :
    ∀ t ∈ (ofSegments line segs).spoken, t.kind ≠ .endOfInput := by
  intro t ht
  obtain ⟨s, hs, said⟩ := exists_segment_of_mem_spoken t ht
  obtain ⟨after, fits⟩ := h s hs
  exact fits.said_ne_endOfInput said

theorem ofSegments_append (line : Int) (segs more : List Segment) :
    ofSegments line (segs ++ more) =
      let before := ofSegments line segs
      let after := ofSegments before.lastLine more
      ⟨before.spoken ++ after.tokens, before.faults ++ after.faults, after.lastLine⟩ := by
  induction segs generalizing line with
  | nil => rfl
  | cons s segs ih =>
      have some := tokens_ne_nil (line + s.breaks) segs
      simp only [List.cons_append, ofSegments, ih, spoken, List.dropLast_append_of_ne_nil some,
        List.append_assoc]

theorem ofSegments_parenthesised (line : Int) (segs more : List Segment) :
    ofSegments line (parenthesised segs more) =
      let inner := ofSegments line segs
      let after := ofSegments (inner.lastLine + 1) more
      ⟨Token.opening line :: (inner.spoken ++ Token.closing (inner.lastLine + 1) :: after.tokens),
        inner.faults ++ after.faults, after.lastLine⟩ := by
  have flat (kind : Kind) {c : Char} (h : c ≠ '\n') (n : Int) :
      n + (Segment.mark kind [c]).breaks = n := by
    simp [Segment.breaks, Segment.text, h]
  have broken (n : Int) : n + (Segment.blank '\n').breaks = n + 1 := rfl
  have first : line + (Segment.mark .leftParen ['(']).breaks = line := flat _ (by decide) line
  have third (n : Int) : n + (Segment.mark .rightParen [')']).breaks = n := flat _ (by decide) n
  simp only [parenthesised, ofSegments, first, ofSegments_append, broken, third]
  rfl

theorem lastLine_ofSegments (line : Int) (segs : List Segment) :
    (ofSegments line segs).lastLine = line + (segs.flatMap Segment.text).count '\n' := by
  induction segs generalizing line with
  | nil => simp [ofSegments]
  | cons s segs ih =>
      simp only [ofSegments, ih, List.flatMap_cons, List.count_append, Segment.breaks]
      omega

theorem lastLine_ofString (source : String) :
    (ofString source).lastLine = 1 + source.toList.count '\n' := by
  rw [ofString_eq, lastLine_ofSegments, flatMap_text_segments]

theorem token?_add (s : Segment) (line k : Int) :
    s.token? (line + k) = (s.token? line).map (Token.down k) := by
  cases s <;> rfl

theorem fault?_add (s : Segment) (line k : Int) :
    s.fault? (line + k) = (s.fault? line).map (Diagnostic.down k) := by
  cases s with
  | unclosed inner =>
      have lines : line + k + inner.count '\n' = line + inner.count '\n' + k := by omega
      simp only [Segment.fault?, lines, Option.map_some]
      rfl
  | _ => rfl

theorem ofSegments_add (line k : Int) (segs : List Segment) :
    ofSegments (line + k) segs =
      let s := ofSegments line segs
      ⟨s.tokens.map (Token.down k), s.faults.map (Diagnostic.down k), s.lastLine + k⟩ := by
  induction segs generalizing line with
  | nil => rfl
  | cons s segs ih =>
      have lines : line + k + s.breaks = line + s.breaks + k := by omega
      simp only [ofSegments, lines, ih, token?_add, fault?_add, List.map_append,
        Option.toList_map]

theorem not_isUnclosed {source : String}
    (h : ∀ d ∈ (ofString source).faults, d.message ≠ "Unterminated string.") :
    ∀ s ∈ segments source.toList, ¬s.IsUnclosed := by
  rintro _ hs ⟨inner, rfl⟩
  have told : "Unterminated string." ∈ (ofString source).faults.map (·.message) := by
    rw [ofString_eq, faults_ofSegments, List.mem_filterMap]
    exact ⟨_, hs, rfl⟩
  obtain ⟨d, hd, message⟩ := List.mem_map.1 told
  exact h d hd message

/-- A line break keeps two sources apart, unless the first leaves a string open. The tokens of the
whole are those of the first without its mark of the end, and then those of the second, its mark
included, as many lines further down as the first and the break take up; and so it is with the
faults. -/
theorem ofString_append_break {a b : String}
    (h : ∀ d ∈ (ofString a).faults, d.message ≠ "Unterminated string.") :
    let k : Int := 1 + a.toList.count '\n'
    let whole := ofString (a ++ "\n" ++ b)
    ∃ spoken, (ofString a).tokens = spoken ++ [Token.endOfInput k] ∧
      whole.tokens = spoken ++ (ofString b).tokens.map (Token.down k) ∧
      whole.faults = (ofString a).faults ++ (ofString b).faults.map (Diagnostic.down k) ∧
      whole.lastLine = (ofString b).lastLine + k := by
  intro k whole
  have blank : (Segment.blank '\n').Fits b.toList := .blank (by decide)
  have apart : Segmented (a ++ "\n" ++ b).toList
      (segments a.toList ++ .blank '\n' :: segments b.toList) := by
    have joined := (segmented_segments a.toList).append_break (not_isUnclosed h)
      (.cons blank (segmented_segments b.toList))
    simpa using joined
  have last : (ofString a).lastLine = k := lastLine_ofString a
  have first := tokens_eq_spoken 1 (segments a.toList)
  rw [← ofString_eq, last] at first
  have second : ofSegments k (.blank '\n' :: segments b.toList) =
      ⟨(ofString b).tokens.map (Token.down k), (ofString b).faults.map (Diagnostic.down k),
        (ofString b).lastLine + k⟩ := by
    have line : k + (Segment.blank '\n').breaks = 1 + k := Int.add_comm k 1
    rw [ofSegments, line, ofSegments_add, ← ofString_eq]
    rfl
  have scanned : whole = _ := ofString_eq _
  rw [← segmented_iff.1 apart, ofSegments_append, ← ofString_eq] at scanned
  simp only [last, second] at scanned
  exact ⟨_, first, by rw [scanned], by rw [scanned], by rw [scanned]⟩

theorem ofString_append_break_point :
    let a := "\"p\nq\" < 1."
    let b := "= #"
    (∀ d ∈ (ofString a).faults, d.message ≠ "Unterminated string.") ∧
      (ofString (a ++ "\n" ++ b)).tokens =
        [⟨.string, "p\nq", 1, some (.text "p\nq")⟩, ⟨.less, "<", 2, none⟩, ⟨.equal, "=", 3, none⟩,
          Token.endOfInput 3] ∧
      (ofString (a ++ "\n" ++ b)).faults =
        [.ofLine 2 "Number cannot end with '.'.", .ofLine 3 "Unexpected character."] := by
  intro a b
  have closed : ∀ d ∈ (ofString a).faults, d.message ≠ "Unterminated string." := by decide +kernel
  have tokens : (ofString a).tokens =
      [⟨.string, "p\nq", 1, some (.text "p\nq")⟩, ⟨.less, "<", 2, none⟩] ++
        [Token.endOfInput 2] := by
    decide +kernel
  obtain ⟨spoken, first, whole, faults, -⟩ := ofString_append_break (b := b) closed
  refine ⟨closed, ?_, ?_⟩
  · obtain rfl := (List.append_inj' (first.symm.trans tokens) rfl).1
    rw [whole]
    decide +kernel
  · rw [faults]
    decide +kernel

end Scan

end Reckoner
