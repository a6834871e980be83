import Reckoner.Proofs.Source.Segmentation
import Reckoner.Source.Scan

namespace Reckoner

namespace Segment

theorem singleMarks_ne_break : ∀ m ∈ singleMarks, m.1 ≠ '\n' := by decide

theorem pairedMarks_ne_break : ∀ m ∈ pairedMarks, m.1 ≠ '\n' := by decide

theorem isWordStart_break : isWordStart '\n' = false := isWordStart_of_opener (by decide)

theorem Fits.breaks_eq_zero {s : Segment} {after : List Char} (h : s.Fits after)
    (blank : s ≠ .blank '\n') (string : ∀ inner, s ≠ .string inner)
    (unclosed : ∀ inner, s ≠ .unclosed inner) : s.breaks = 0 := by
  refine List.count_eq_zero.2 ?_
  have inside {test : Char → Bool} {cs : List Char} (pass : ∀ c ∈ cs, test c)
      (fail : test '\n' = false) : '\n' ∉ cs := fun hm => by simp [pass _ hm] at fail
  cases h with
  | single hm => simpa [text, eq_comm] using singleMarks_ne_break _ hm
  | double hm => simpa [text, eq_comm] using pairedMarks_ne_break _ hm
  | unpaired hm _ => simpa [text, eq_comm] using pairedMarks_ne_break _ hm
  | slash => decide
  | comment line _ => simpa [text] using line
  | @blank c _ => simpa [text, eq_comm] using blank
  | string => exact absurd rfl (string _)
  | unclosed => exact absurd rfl (unclosed _)
  | whole _ digits _ _ => simpa [text] using inside digits rfl
  | decimal _ digits part digits' _ =>
      simpa [text, part] using ⟨inside digits rfl, inside digits' rfl⟩
  | dangling _ digits _ => simpa [text] using inside digits rfl
  | @word c cs _ start rest _ =>
      have first : '\n' ≠ c := fun eq => by simp [← eq, isWordStart_break] at start
      simpa [text, first] using inside rest (by decide +kernel)
  | @stray c _ opener _ _ =>
      have first : '\n' ≠ c := fun eq => opener (eq ▸ by decide)
      simpa [text] using first

end Segment

namespace Scan

open Segment

theorem between_of_drop {source text rest : List Char} {start : Nat}
    (h : source.drop start = text ++ rest) :
    between source.toArray start (start + text.length) = text := by
  simp [between, List.extract_eq_take_drop, h]

namespace State

/-- From `s`, where the character at `start` has just been taken, the scan has come to `s'` and
passed over the segment in front of `cut.2`. -/
structure Reaches (start : Nat) (s : State) (cut : Segment × List Char) (s' : State) : Prop where
  rest : s'.rest = cut.2
  consumed : s'.chars.consumed = start + cut.1.text.length
  line : s'.line = s.line + cut.1.breaks
  tokens : s'.tokens.toList = s.tokens.toList ++ (cut.1.token? s.line).toList
  faults : s'.faults.toList = s.faults.toList ++ (cut.1.fault? s.line).toList

variable {source : List Char} {start : Nat} {c : Char} {s : State}

theorem emit_reaches {t : State} {seg : Segment} {after : List Char} {tok : Token}
    (rest : t.rest = after) (count : t.chars.consumed = start + seg.text.length)
    (line : t.line = s.line + seg.breaks) (tokens : t.tokens = s.tokens)
    (faults : t.faults = s.faults) (said : seg.token? s.line = some tok)
    (quiet : seg.fault? s.line = none) : Reaches start s (seg, after) (t.emit tok) :=
  ⟨rest, count, line, by simp [emit, tokens, said], by simp [emit, faults, quiet]⟩

theorem report_reaches {t : State} {seg : Segment} {after : List Char} {message : String}
    (rest : t.rest = after) (count : t.chars.consumed = start + seg.text.length)
    (line : t.line = s.line + seg.breaks) (tokens : t.tokens = s.tokens)
    (faults : t.faults = s.faults) (silent : seg.token? s.line = none)
    (said : seg.fault? s.line = some (.ofLine t.line message)) :
    Reaches start s (seg, after) (t.report message) :=
  ⟨rest, count, line, by simp [report, tokens, silent], by simp [report, faults, said]⟩

theorem skip_reaches {t : State} {seg : Segment} {after : List Char} (rest : t.rest = after)
    (count : t.chars.consumed = start + seg.text.length) (line : t.line = s.line + seg.breaks)
    (tokens : t.tokens = s.tokens) (faults : t.faults = s.faults)
    (silent : seg.token? s.line = none) (quiet : seg.fault? s.line = none) :
    Reaches start s (seg, after) t :=
  ⟨rest, count, line, by simp [tokens, silent], by simp [faults, quiet]⟩

theorem readPaired_reaches {double single : Kind} (hm : (c, double, single) ∈ pairedMarks)
    (count : s.chars.consumed = start + 1) :
    Reaches start s (cutPaired c double single s.rest) (s.readPaired c double single) := by
  have fits := fits_cutPaired hm s.rest
  unfold readPaired
  split
  · rename_i chars h
    obtain ⟨eq, rest, next⟩ := Cursor.of_nextIf_some h
    have cut : cutPaired c double single s.rest = (mark double [c, '='], chars.rest) := by
      rw [show s.rest = _ from rest, eq_of_beq eq]
      rfl
    rw [cut] at fits ⊢
    refine emit_reaches rfl (by simp [next, count, text]) ?_ rfl rfl rfl rfl
    simp [fits.breaks_eq_zero]
  · rename_i chars h
    obtain ⟨rest, next, stop⟩ := Cursor.of_nextIf_none h
    have cut : cutPaired c double single s.rest = (mark single [c], s.rest) :=
      cutPaired_of_head? fun eq => by simpa using stop _ eq
    rw [cut] at fits ⊢
    refine emit_reaches rest (by simp [next, count, text]) ?_ rfl rfl rfl rfl
    simp [fits.breaks_eq_zero]

theorem readSlash_reaches (count : s.chars.consumed = start + 1) :
    Reaches start s (cutSlash s.rest) s.readSlash := by
  have fits := fits_cutSlash s.rest
  unfold readSlash
  split
  · rename_i chars h
    obtain ⟨eq, rest, next⟩ := Cursor.of_nextIf_some h
    have cut : cutSlash s.rest = (comment ('/' :: '/' :: chars.rest.takeWhile (· != '\n')),
        chars.rest.dropWhile (· != '\n')) := by
      rw [show s.rest = _ from rest, eq_of_beq eq]
      rfl
    rw [cut] at fits ⊢
    refine skip_reaches (Cursor.rest_skipWhile _ _) ?_ ?_ rfl rfl rfl rfl
    · simp only [skipWhile, Cursor.consumed_skipWhile, next, count, text, List.length_cons]
      omega
    · simp [skipWhile, fits.breaks_eq_zero]
  · rename_i chars h
    obtain ⟨rest, next, stop⟩ := Cursor.of_nextIf_none h
    have cut : cutSlash s.rest = (mark .slash ['/'], s.rest) :=
      cutSlash_of_head? fun eq => by simpa using stop _ eq
    rw [cut] at fits ⊢
    refine emit_reaches rest (by simp [next, count, text]) ?_ rfl rfl rfl rfl
    simp [fits.breaks_eq_zero]

theorem skipString_passes (s : State) :
    ∃ inner, '"' ∉ inner ∧ s.rest = inner ++ s.skipString.rest ∧
      (∀ c ∈ s.skipString.rest.head?, c = '"') ∧
      s.skipString.chars.consumed = s.chars.consumed + inner.length ∧
      s.skipString.line = s.line + inner.count '\n' ∧
      s.skipString.tokens = s.tokens ∧ s.skipString.faults = s.faults := by
  fun_induction skipString s with
  | case1 s c chars h ih =>
      obtain ⟨pass, rest, next⟩ := Cursor.of_nextIf_some h
      obtain ⟨inner, quote, rest', stop, count, line, tokens, faults⟩ := ih
      have other : c ≠ '"' := by simpa [isQuote_eq] using pass
      refine ⟨c :: inner, by simp [quote, other.symm], ?_, stop, ?_, ?_, tokens, faults⟩
      · rw [State.rest, rest, List.cons_append, ← rest']
        rfl
      · rw [count, next, List.length_cons]
        omega
      · rw [line, lineAfter, List.count_cons]
        by_cases line : c = '\n'
        · simp [line]
          omega
        · simp [line]
  | case2 s chars h =>
      obtain ⟨rest, next, stop⟩ := Cursor.of_nextIf_none h
      refine ⟨[], List.not_mem_nil, rest.symm, fun c hc => ?_, next, by simp, rfl, rfl⟩
      have := stop c (rest ▸ hc)
      simpa [isQuote_eq] using this

theorem readString_reaches (hs : source.drop start = c :: s.rest)
    (count : s.chars.consumed = start + 1) :
    Reaches start s (cutString s.rest) (s.readString source.toArray start) := by
  obtain ⟨inner, quote, rest, stop, count', line, tokens, faults⟩ := s.skipString_passes
  unfold readString
  dsimp only
  split
  · rename_i x chars h
    obtain ⟨rest', next⟩ := Cursor.of_next_some h
    have last : x = '"' := stop x (by rw [State.rest, rest']; rfl)
    have cut : cutString s.rest = (string inner, chars.rest) := by
      rw [rest, State.rest, rest', last]
      exact cutString_string quote _
    have slice : between source.toArray (start + 1) (chars.consumed - 1) = inner := by
      have after : source.drop (start + 1) = inner ++ s.skipString.rest := by
        rw [← List.drop_drop, hs, List.drop_one, List.tail_cons, rest]
      rw [← between_of_drop after, next, count', count]
      rfl
    rw [cut, slice]
    refine emit_reaches rfl ?_ ?_ tokens faults rfl rfl
    · simp only [next, count', count, text, List.length_append, List.length_cons, List.length_nil]
      omega
    · simp [line, breaks, text, Text.Quoted.doubleQuote]
  · rename_i chars h
    obtain ⟨rest', rest'', next⟩ := Cursor.of_next_none h
    have all : s.rest = inner := by rw [rest, State.rest, rest', List.append_nil]
    have cut : cutString s.rest = (unclosed inner, []) := all.symm ▸ cutString_unclosed quote
    rw [cut]
    refine report_reaches rest'' ?_ ?_ tokens faults rfl (by simp [fault?, line])
    · simp only [next, count', count, text, List.length_cons]
      omega
    · simp [line, breaks, text, Text.Quoted.doubleQuote]

theorem skipWhile_passes (test : Char → Bool) (s : State) :
    ∃ taken, (∀ c ∈ taken, test c) ∧ s.rest = taken ++ (s.skipWhile test).rest ∧
      (∀ c ∈ (s.skipWhile test).rest.head?, ¬ test c) ∧
      (s.skipWhile test).chars.consumed = s.chars.consumed + taken.length := by
  have rest : (s.skipWhile test).rest = s.rest.dropWhile test := Cursor.rest_skipWhile _ _
  refine ⟨s.rest.takeWhile test, fun c hc => List.mem_takeWhile_imp hc, ?_, fun c hc => ?_,
    Cursor.consumed_skipWhile _ _⟩
  · rw [rest, List.takeWhile_append_dropWhile]
  · exact Bool.eq_false_iff.1 (not_of_mem_head?_dropWhile test s.rest c (rest ▸ hc))

theorem ofText_number {whole fraction after : List Char} (h : (number whole fraction).Fits after) :
    Number.Decimal.ofText (number whole fraction).text =
      Number.Decimal.ofDigits whole fraction := by
  unfold Number.Decimal.ofText
  cases h with
  | whole _ digits _ _ =>
      have taken : whole.takeWhile Char.isDigit = whole := List.takeWhile_eq_self_iff.2 digits
      have dropped : whole.dropWhile Char.isDigit = [] := List.dropWhile_eq_nil_iff.2 digits
      simp [text, taken, dropped]
  | decimal _ digits part _ _ =>
      have stop : ∀ d ∈ ('.' :: fraction).head?, ¬ Char.isDigit d := by simp
      have taken : (whole ++ '.' :: fraction).takeWhile Char.isDigit = whole :=
        takeWhile_append_of_stop digits stop
      have dropped : (whole ++ '.' :: fraction).dropWhile Char.isDigit = '.' :: fraction :=
        dropWhile_append_of_stop digits stop
      simp [text, part, taken, dropped]

theorem emitNumber_reaches {whole fraction : List Char} {t : State}
    (fits : (number whole fraction).Fits t.rest)
    (hs : source.drop start = (number whole fraction).text ++ t.rest)
    (count : t.chars.consumed = start + (number whole fraction).text.length)
    (line : t.line = s.line) (tokens : t.tokens = s.tokens) (faults : t.faults = s.faults) :
    Reaches start s (number whole fraction, t.rest) (t.emitNumber source.toArray start) := by
  have slice : between source.toArray start t.chars.consumed = (number whole fraction).text := by
    rw [count, between_of_drop hs]
  refine emit_reaches rfl count ?_ tokens faults ?_ rfl
  · simp [fits.breaks_eq_zero, line]
  · simp [token?, slice, ofText_number fits, line]

theorem readNumber_reaches (digit : isDigit c) (hs : source.drop start = c :: s.rest)
    (count : s.chars.consumed = start + 1) :
    Reaches start s (cutNumber c s.rest) (s.readNumber source.toArray start) := by
  obtain ⟨digits, pass, rest, stop, count'⟩ := s.skipWhile_passes isDigit
  have fits := fits_cutNumber digit s.rest
  unfold readNumber
  dsimp only
  split
  · rename_i chars h
    obtain ⟨rest', next, point⟩ := Cursor.of_nextIf_none h
    have cut : cutNumber c s.rest = (number (c :: digits) [], chars.rest) := by
      rw [rest', rest]
      exact cutNumber_whole pass stop fun eq => by simpa using point _ eq
    rw [cut] at fits ⊢
    refine emitNumber_reaches (t := { s.skipWhile isDigit with chars }) fits ?_ ?_ rfl rfl rfl
    · simp only [hs, text, if_pos, List.append_nil, List.cons_append, State.rest, rest']
      rw [← State.rest, rest]
      rfl
    · simp [next, count', count, text]
      omega
  · rename_i x chars h
    obtain ⟨point, rest', next⟩ := Cursor.of_nextIf_some h
    split
    · rename_i chars' h'
      obtain ⟨rest'', next', stop'⟩ := Cursor.of_nextIf_none h'
      have cut : cutNumber c s.rest = (dangling (c :: digits), chars'.rest) := by
        rw [rest, State.rest, rest', eq_of_beq point, rest'']
        refine (cutNumber_point pass (List.forall_mem_nil _) fun d hd => ?_)
        exact Bool.eq_false_iff.1 (stop' d hd)
      rw [cut] at fits ⊢
      refine report_reaches rfl ?_ ?_ rfl rfl rfl rfl
      · simp [next', next, count', count, text]
        omega
      · simp [skipWhile, fits.breaks_eq_zero]
    · rename_i d chars' h'
      obtain ⟨first, rest'', next'⟩ := Cursor.of_nextIf_some h'
      let t : State := { s.skipWhile isDigit with chars := chars' }
      obtain ⟨more, pass', onward, stop', onward_count⟩ := t.skipWhile_passes isDigit
      have part : ∀ e ∈ d :: more, isDigit e := List.forall_mem_cons.2 ⟨first, pass'⟩
      have whole : s.rest = digits ++ '.' :: (d :: more ++ (t.skipWhile isDigit).rest) := by
        rw [rest, State.rest, rest', eq_of_beq point, rest'', List.cons_append, ← onward]
        rfl
      have cut := cutNumber_point (c := c) pass part stop'
      rw [if_neg (List.cons_ne_nil d more)] at cut
      rw [whole, cut] at fits ⊢
      refine emitNumber_reaches fits ?_ ?_ rfl rfl rfl
      · simp [hs, whole, text]
      · have here : t.chars.consumed = start + 1 + digits.length + 2 := by
          rw [show t.chars = chars' from rfl, next', next, count', count]
        simp [onward_count, here, text]
        omega

theorem readWord_reaches (first : isWordStart c) (hs : source.drop start = c :: s.rest)
    (count : s.chars.consumed = start + 1) :
    Reaches start s (word (c :: s.rest.takeWhile isWordChar), s.rest.dropWhile isWordChar)
      (s.readWord source.toArray start) := by
  have opener : c ∉ openers := fun opener => by simp [isWordStart_of_opener opener] at first
  have fits := fits_cut c s.rest
  rw [cut_of_not_opener opener, if_neg (by simp [not_isDigit_of_isWordStart first]),
    if_pos first] at fits
  have count' : (s.skipWhile isWordChar).chars.consumed =
      start + (word (c :: s.rest.takeWhile isWordChar)).text.length := by
    simp only [skipWhile, Cursor.consumed_skipWhile, count, text, List.length_cons, State.rest]
    omega
  have slice : between source.toArray start (s.skipWhile isWordChar).chars.consumed =
      c :: s.rest.takeWhile isWordChar := by
    rw [count']
    have whole : source.drop start = (word (c :: s.rest.takeWhile isWordChar)).text ++
        s.rest.dropWhile isWordChar := by simp [hs, text]
    exact between_of_drop whole
  simp only [readWord, slice]
  refine emit_reaches (Cursor.rest_skipWhile _ _) count' ?_ rfl rfl rfl rfl
  simp [skipWhile, fits.breaks_eq_zero]

theorem read_reaches (hs : source.drop start = c :: s.rest) (count : s.chars.consumed = start + 1) :
    Reaches start s (cut c s.rest) (s.read source.toArray start c) := by
  cases single : singleMarks.lookup c with
  | some kind =>
      have fits := fits_cut c s.rest
      simp only [cut, State.read, single] at fits ⊢
      refine emit_reaches rfl count ?_ rfl rfl rfl rfl
      simp [fits.breaks_eq_zero]
  | none =>
      cases paired : pairedMarks.lookup c with
      | some kinds =>
          simp only [cut, State.read, single, paired]
          exact readPaired_reaches (mem_of_lookup paired) count
      | none =>
          have fits := fits_cut c s.rest
          simp only [cut, State.read, single, paired] at fits ⊢
          by_cases slash : c = '/'
          · simp only [if_pos slash]
            exact readSlash_reaches count
          simp only [if_neg slash] at fits ⊢
          by_cases space : c = ' ' ∨ c = '\r' ∨ c = '\t'
          · have blank : c = ' ' ∨ c = '\r' ∨ c = '\t' ∨ c = '\n' := by
              rcases space with h | h | h <;> simp [h]
            have line : c ≠ '\n' := by rcases space with h | h | h <;> simp [h]
            simp only [if_pos space, if_pos blank] at fits ⊢
            refine skip_reaches rfl count ?_ rfl rfl rfl rfl
            simp [fits.breaks_eq_zero, line]
          by_cases line : c = '\n'
          · subst line
            exact skip_reaches rfl count rfl rfl rfl rfl rfl
          have blank : ¬ (c = ' ' ∨ c = '\r' ∨ c = '\t' ∨ c = '\n') := by
            simp only [not_or] at space ⊢
            exact ⟨space.1, space.2.1, space.2.2, line⟩
          simp only [if_neg space, if_neg blank, if_neg line] at fits ⊢
          by_cases quote : isQuote c
          · simp only [if_pos quote]
            exact readString_reaches hs count
          by_cases digit : isDigit c
          · simp only [if_neg quote, if_pos digit]
            exact readNumber_reaches digit hs count
          by_cases first : isWordStart c
          · simp only [if_neg quote, if_neg digit, if_pos first]
            exact readWord_reaches first hs count
          simp only [if_neg quote, if_neg digit, if_neg first] at fits ⊢
          refine report_reaches rfl count ?_ rfl rfl rfl rfl
          simp [fits.breaks_eq_zero]

/-- A scan that goes from `s` to the end in `t` takes one step for each of the segments: the step
starts where its segment does and takes in exactly the segment's text. -/
inductive Steps (source : Array Char) : State → List Segment → State → Prop where
  | stop {s : State} {chars : Cursor Char} :
      s.chars.next = (none, chars) → Steps source s [] { s with chars }
  | step {s t : State} {c : Char} {chars : Cursor Char} {seg : Segment} {after : List Char}
      {segs : List Segment} :
      s.chars.next = (some c, chars) →
      Reaches s.chars.consumed { s with chars } (seg, after)
        ({ s with chars }.read source s.chars.consumed c) →
      between source s.chars.consumed
        ({ s with chars }.read source s.chars.consumed c).chars.consumed = seg.text →
      Steps source ({ s with chars }.read source s.chars.consumed c) segs t →
      Steps source s (seg :: segs) t

theorem finish_steps (s : State) (hs : source.drop s.chars.consumed = s.rest) :
    Steps source.toArray s (segments s.rest) (s.finish source.toArray) := by
  generalize he : source.toArray = items
  -- `hs` says that the counter and the cursor are in step, and it holds again behind a segment
  fun_induction finish items s with
  | case1 s c chars h ih =>
      subst he
      obtain ⟨rest, next⟩ := Cursor.of_next_some h
      have reaches := read_reaches (s := { s with chars }) (hs.trans rest) next
      have whole : source.drop s.chars.consumed = (cut c chars.rest).1.text ++
          (cut c chars.rest).2 := by
        rw [text_cut, hs, State.rest, rest]
      have onward : segments s.rest = (cut c chars.rest).1 :: segments (cut c chars.rest).2 := by
        rw [State.rest, rest, segments]
      rw [onward]
      refine .step h reaches ?_ ?_
      · rw [reaches.consumed]
        exact between_of_drop whole
      · rw [reaches.rest] at ih
        refine ih ?_
        rw [reaches.consumed, ← List.drop_drop, whole]
        exact List.drop_left
  | case2 s chars h =>
      obtain ⟨rest, -, -⟩ := Cursor.of_next_none h
      rw [State.rest, rest, segments]
      exact .stop h

theorem finish_start_steps (source : List Char) :
    Steps source.toArray (State.start source) (segments source)
      ((State.start source).finish source.toArray) :=
  finish_steps (State.start source) rfl

theorem Steps.collect {source : Array Char} {s t : State} {segs : List Segment}
    (h : Steps source s segs t) :
    t.tokens.toList ++ [Token.endOfInput t.line] =
        s.tokens.toList ++ (ofSegments s.line segs).tokens ∧
      t.faults.toList = s.faults.toList ++ (ofSegments s.line segs).faults ∧
      t.line = (ofSegments s.line segs).lastLine := by
  induction h with
  | stop => simp [ofSegments]
  | step _ reaches _ _ ih =>
      obtain ⟨tokens, faults, line⟩ := ih
      rw [tokens, faults, line, reaches.tokens, reaches.faults, reaches.line]
      simp [ofSegments]

end State

theorem ofString_eq (source : String) :
    ofString source = ofSegments 1 (segments source.toList) := by
  have steps := State.finish_start_steps source.toList
  obtain ⟨tokens, faults, line⟩ := steps.collect
  simp only [ofString, Array.toList_push]
  rw [tokens, faults, line]
  rfl

end Scan

end Reckoner
