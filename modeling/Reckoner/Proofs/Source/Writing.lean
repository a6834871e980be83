import Reckoner.Proofs.Source.Lines

namespace Reckoner

/-- The token as it stands in a source: its lexeme, and that of a string between quotes. -/
def Token.written (t : Token) : List Char :=
  if t.kind = .string then Text.Quoted.doubleQuote :: t.lexeme.toList ++ [Text.Quoted.doubleQuote]
  else t.lexeme.toList

def blanks : List Char := [' ', '\r', '\t', '\n']

/-- Blanks and comments in any order, each comment with the break that ends its line. -/
inductive Filler : List Char → Prop where
  | nil : Filler []
  | blank {c : Char} {cs : List Char} : c ∈ blanks → Filler cs → Filler (c :: cs)
  | comment {body cs : List Char} :
      '\n' ∉ body → Filler cs → Filler ('/' :: '/' :: (body ++ '\n' :: cs))

/-- What separates two tokens: a blank, and whatever other filler. -/
def Separator (gap : List Char) : Prop := ∃ c ∈ blanks, ∃ cs, gap = c :: cs ∧ Filler cs

/-- The text consists of the tokens as they are written, with a separator between neighbours. -/
inductive Written : List Token → List Char → Prop where
  | nil : Written [] []
  | single (t : Token) : Written [t] t.written
  | cons {t u : Token} {ts : List Token} {gap cs : List Char} :
      Separator gap → Written (u :: ts) cs → Written (t :: u :: ts) (t.written ++ (gap ++ cs))

namespace Segment

def Silent (s : Segment) : Prop := s.content? = none ∧ s.message? = none

theorem Fits.ofToken_before_blank {s : Segment} {after after' : List Char} (h : s.Fits after)
    (told : s.content? ≠ none) (hb : ∀ c ∈ after'.head?, c ∈ blanks) : s.Fits after' := by
  have next {P : Char → Prop} (hP : ∀ c ∈ blanks, P c) : ∀ c ∈ after'.head?, P c :=
    fun c hc => hP c (hb c hc)
  have other {c : Char} (hc : c ∉ blanks) : after'.head? ≠ some c := fun eq => hc (hb c eq)
  have digit : ∀ c ∈ blanks, ¬ isDigit c := by
    have none : blanks.all (!isDigit ·) = true := by decide
    simpa using none
  have wordChar : ∀ c ∈ blanks, ¬ isWordChar c := by
    have none : blanks.all (!isWordChar ·) = true := by decide +kernel
    simpa using none
  cases h with
  | single hm => exact .single hm
  | double hm => exact .double hm
  | unpaired hm _ => exact .unpaired hm (other (by decide))
  | slash _ => exact .slash (other (by decide))
  | string quote => exact .string quote
  | whole some digits _ _ => exact .whole some digits (next digit) (other (by decide))
  | decimal some digits part digits' _ => exact .decimal some digits part digits' (next digit)
  | word start part _ => exact .word start part (next wordChar)
  | comment | blank | unclosed | dangling | stray => exact absurd rfl told

theorem Fits.text_eq_written {s : Segment} {after : List Char} (h : s.Fits after) {t : Token}
    (said : s.content? = some t.content) : s.text = t.written := by
  obtain ⟨kind, hkind, hcontent⟩ := Option.map_eq_some_iff.1 said
  simp only [Token.content, Prod.mk.injEq] at hcontent
  obtain ⟨rfl, hlexeme, -⟩ := hcontent
  have lexeme : t.lexeme.toList = s.lexeme := by rw [← hlexeme, String.toList_ofList]
  rw [Token.written, lexeme]
  cases s with
  | mark kind cs =>
      have plain : t.kind ≠ .string := fun eq => h.mark_not_mem (by
        rw [Option.some.inj hkind, eq]
        decide)
      rw [if_neg plain]
      rfl
  | word cs =>
      have plain : t.kind ≠ .string := fun eq => ofWord_not_mem (String.ofList cs) (by
        rw [Option.some.inj hkind, eq]
        decide)
      rw [if_neg plain]
      rfl
  | number whole fraction =>
      rw [if_neg (by simp [← Option.some.inj hkind])]
      rfl
  | string inner =>
      rw [if_pos (Option.some.inj hkind).symm]
      rfl
  | comment | blank | unclosed | dangling | stray => simp [kind?] at hkind

end Segment

/-- A segment is the token, however what follows it goes on behind a blank. -/
def Token.Writable (t : Token) : Prop :=
  ∃ s : Segment, s.content? = some t.content ∧ s.text = t.written ∧
    ∀ after : List Char, (∀ c ∈ after.head?, c ∈ blanks) → s.Fits after

theorem Filler.segmented {cs rest : List Char} {segs : List Segment} (h : Filler cs)
    (h' : Segmented rest segs) :
    ∃ gap, (∀ s ∈ gap, s.Silent) ∧ Segmented (cs ++ rest) (gap ++ segs) := by
  induction h with
  | nil => exact ⟨[], List.forall_mem_nil _, h'⟩
  | @blank c cs hc _ ih =>
      obtain ⟨gap, silent, segmented⟩ := ih
      have first : (Segment.blank c).Fits (cs ++ rest) := .blank hc
      exact ⟨.blank c :: gap, List.forall_mem_cons.2 ⟨⟨rfl, rfl⟩, silent⟩, .cons first segmented⟩
  | @comment body cs line _ ih =>
      obtain ⟨gap, silent, segmented⟩ := ih
      have break' : (Segment.blank '\n').Fits (cs ++ rest) := .blank (by decide)
      have first : (Segment.comment ('/' :: '/' :: body)).Fits ('\n' :: (cs ++ rest)) :=
        .comment line (by simp)
      refine ⟨.comment ('/' :: '/' :: body) :: .blank '\n' :: gap, ?_, ?_⟩
      · exact List.forall_mem_cons.2 ⟨⟨rfl, rfl⟩, List.forall_mem_cons.2 ⟨⟨rfl, rfl⟩, silent⟩⟩
      · have whole := Segmented.cons first (.cons break' segmented)
        simpa [Segment.text] using whole

theorem Written.segmented {ts : List Token} {cs : List Char} (h : Written ts cs)
    (ht : ∀ t ∈ ts, t.Writable) :
    ∃ segs, Segmented cs segs ∧ segs.filterMap Segment.content? = ts.map Token.content ∧
      ∀ s ∈ segs, s.message? = none := by
  have faultless {s : Segment} {t : Token} (said : s.content? = some t.content) :
      s.message? = none := by
    by_contra fault
    obtain ⟨message, hm⟩ := Option.ne_none_iff_exists'.1 fault
    simp [Segment.content?_of_message? hm] at said
  induction h with
  | nil => exact ⟨[], .nil, rfl, List.forall_mem_nil _⟩
  | single t =>
      obtain ⟨s, said, text, fits⟩ := ht t List.mem_cons_self
      have whole := Segmented.cons (fits [] (by simp)) .nil
      rw [List.append_nil, text] at whole
      exact ⟨[s], whole, by simp [said], List.forall_mem_singleton.2 (faultless said)⟩
  | @cons t u ts gap cs separator _ ih =>
      obtain ⟨writable, others⟩ := List.forall_mem_cons.1 ht
      obtain ⟨s, said, text, fits⟩ := writable
      obtain ⟨segs, segmented, contents, clean⟩ := ih others
      obtain ⟨c, hc, filler, rfl, hf⟩ := separator
      have blank : (Segment.blank c).Fits (filler ++ cs) := .blank hc
      obtain ⟨gap, silent, inner⟩ := hf.segmented segmented
      have whole := Segmented.cons (fits (c :: (filler ++ cs)) (by simpa using hc))
        (.cons blank inner)
      rw [text] at whole
      have none : gap.filterMap Segment.content? = [] :=
        List.filterMap_eq_nil_iff.2 fun s hs => (silent s hs).1
      refine ⟨s :: .blank c :: (gap ++ segs), whole, ?_, ?_⟩
      · have quiet : (Segment.blank c).content? = Option.none := rfl
        simp [said, quiet, none, contents]
      · refine List.forall_mem_cons.2 ⟨faultless said, List.forall_mem_cons.2 ⟨rfl, ?_⟩⟩
        exact List.forall_mem_append.2 ⟨fun s hs => (silent s hs).2, clean⟩

namespace Scan

theorem writable_of_mem_spoken (source : String) :
    ∀ t ∈ (ofString source).spoken, t.Writable := by
  rw [ofString_eq]
  intro t ht
  obtain ⟨s, hs, said⟩ := exists_segment_of_mem_spoken t ht
  obtain ⟨after, fits⟩ := (segmented_segments source.toList).fits s hs
  exact ⟨s, said, fits.text_eq_written said,
    fun _ hb => fits.ofToken_before_blank (by simp [said]) hb⟩

/-- Whatever faults a source has and whatever stands between its tokens: written back, with any
separators between neighbours, they are scanned again without a fault as tokens of the same kinds,
with the same lexemes and payloads and in the same order, and then one mark of the end. -/
theorem ofString_written (source : String) :
    ∃ spoken last, (ofString source).tokens = spoken ++ [Token.endOfInput last] ∧
      ∀ text, Written spoken text →
        let again := ofString (String.ofList text)
        ∃ spoken', again.tokens = spoken' ++ [Token.endOfInput (1 + text.count '\n')] ∧
          spoken'.map Token.content = spoken.map Token.content ∧
          (∀ t ∈ spoken', t.kind ≠ .endOfInput) ∧ again.faults = [] := by
  have first := tokens_eq_spoken 1 (segments source.toList)
  rw [← ofString_eq] at first
  refine ⟨_, _, first, fun text written => ?_⟩
  obtain ⟨segs, segmented, contents, clean⟩ := written.segmented (writable_of_mem_spoken source)
  obtain ⟨spoken', tokens, said⟩ := tokens_ofSegments 1 segs
  have scanned : ofString (String.ofList text) = ofSegments 1 segs := by
    rw [ofString_eq, String.toList_ofList, ← segmented_iff.1 segmented]
  have last : (ofSegments 1 segs).lastLine = 1 + text.count '\n' := by
    rw [lastLine_ofSegments, segmented.flatMap_text]
  rw [last] at tokens
  refine ⟨spoken', by rw [scanned, tokens], said.trans contents, ?_, ?_⟩
  · have unmarked : ∀ t ∈ (ofSegments 1 segs).spoken, t.kind ≠ .endOfInput :=
      kind_ne_of_mem_spoken segmented.fits
    rwa [Scan.spoken, tokens, List.dropLast_concat] at unmarked
  · have none := faults_ofSegments 1 segs
    rw [List.filterMap_eq_nil_iff.2 clean] at none
    rw [scanned]
    exact List.map_eq_nil_iff.1 none

theorem ofString_written_faults :
    let source := "\"p//\nq\"#< 2.\nor"
    let spoken : List Token :=
      [⟨.string, "p//\nq", 1, some (.text "p//\nq")⟩, ⟨.less, "<", 2, none⟩, ⟨.orWord, "or", 3, none⟩]
    let text := "\"p//\nq\"\t//#\n\r<\nor".toList
    (ofString source).tokens = spoken ++ [Token.endOfInput 3] ∧ Written spoken text ∧
      ∃ spoken', (ofString (String.ofList text)).tokens = spoken' ++ [Token.endOfInput 4] ∧
        spoken'.map Token.content = spoken.map Token.content ∧
        (ofString (String.ofList text)).faults = [] := by
  intro source spoken text
  have tokens : (ofString source).tokens = spoken ++ [Token.endOfInput 3] := by decide +kernel
  have comment : Filler ['/', '/', '#', '\n', '\r'] :=
    .comment (by decide : '\n' ∉ ['#']) (.blank (by decide) .nil)
  have written : Written spoken text :=
    .cons ⟨'\t', by decide, _, rfl, comment⟩ (.cons ⟨'\n', by decide, [], rfl, .nil⟩ (.single _))
  obtain ⟨spoken₁, last, first, again⟩ := ofString_written source
  obtain rfl := (List.append_inj' (first.symm.trans tokens) rfl).1
  obtain ⟨spoken', tokens', contents, -, faults⟩ := again text written
  exact ⟨tokens, written, spoken', tokens', contents, faults⟩

end Scan

end Reckoner
