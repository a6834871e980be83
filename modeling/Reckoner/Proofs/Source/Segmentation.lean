import Mathlib.Data.List.TakeWhile
import Reckoner.Source.Segment

namespace Reckoner

namespace Segment

/-- The characters that decide alone what starts with them. -/
def openers : List Char :=
  singleMarks.map (·.1) ++ pairedMarks.map (·.1) ++ ['/', ' ', '\r', '\t', '\n', '"']

/-- The segment is what its rule asks for in front of the characters `after`. -/
inductive Fits : Segment → List Char → Prop where
  | single {c : Char} {kind : Kind} {after : List Char} :
      (c, kind) ∈ singleMarks → Fits (mark kind [c]) after
  | double {c : Char} {double single : Kind} {after : List Char} :
      (c, double, single) ∈ pairedMarks → Fits (mark double [c, '=']) after
  | unpaired {c : Char} {double single : Kind} {after : List Char} :
      (c, double, single) ∈ pairedMarks → after.head? ≠ some '=' → Fits (mark single [c]) after
  | slash {after : List Char} : after.head? ≠ some '/' → Fits (mark .slash ['/']) after
  | comment {body after : List Char} :
      '\n' ∉ body → (∀ c ∈ after.head?, c = '\n') → Fits (comment ('/' :: '/' :: body)) after
  | blank {c : Char} {after : List Char} : c ∈ [' ', '\r', '\t', '\n'] → Fits (blank c) after
  | string {inner after : List Char} : '"' ∉ inner → Fits (string inner) after
  | unclosed {inner : List Char} : '"' ∉ inner → Fits (unclosed inner) []
  | whole {whole after : List Char} :
      whole ≠ [] → (∀ c ∈ whole, isDigit c) → (∀ c ∈ after.head?, ¬ isDigit c) →
      after.head? ≠ some '.' → Fits (number whole []) after
  | decimal {whole fraction after : List Char} :
      whole ≠ [] → (∀ c ∈ whole, isDigit c) → fraction ≠ [] → (∀ c ∈ fraction, isDigit c) →
      (∀ c ∈ after.head?, ¬ isDigit c) → Fits (number whole fraction) after
  | dangling {whole after : List Char} :
      whole ≠ [] → (∀ c ∈ whole, isDigit c) → (∀ c ∈ after.head?, ¬ isDigit c) →
      Fits (dangling whole) after
  | word {c : Char} {cs after : List Char} :
      isWordStart c → (∀ d ∈ cs, isWordChar d) → (∀ d ∈ after.head?, ¬ isWordChar d) →
      Fits (word (c :: cs)) after
  | stray {c : Char} {after : List Char} :
      c ∉ openers → ¬ isDigit c → ¬ isWordStart c → Fits (stray c) after

theorem not_of_mem_head?_dropWhile (test : Char → Bool) (cs : List Char) :
    ∀ c ∈ (cs.dropWhile test).head?, test c = false := by
  intro c hc
  have stop := List.head?_dropWhile_not test cs
  rw [Option.mem_def.1 hc] at stop
  exact stop

theorem takeWhile_append_of_stop {test : Char → Bool} {cs after : List Char}
    (pass : ∀ c ∈ cs, test c) (stop : ∀ c ∈ after.head?, ¬ test c) :
    (cs ++ after).takeWhile test = cs := by
  rw [List.takeWhile_append_of_pos pass]
  cases after with
  | nil => simp
  | cons c after => simp [stop c rfl]

theorem dropWhile_append_of_stop {test : Char → Bool} {cs after : List Char}
    (pass : ∀ c ∈ cs, test c) (stop : ∀ c ∈ after.head?, ¬ test c) :
    (cs ++ after).dropWhile test = after := by
  rw [List.dropWhile_append_of_pos pass]
  cases after with
  | nil => rfl
  | cons c after => simp [stop c rfl]

theorem isQuote_eq (c : Char) : isQuote c = (c == '"') := rfl

theorem isDigit_of_opener {c : Char} (h : c ∈ openers) : isDigit c = false := by
  have none : openers.all (!isDigit ·) := by decide
  simpa using List.all_eq_true.1 none c h

theorem isWordStart_of_opener {c : Char} (h : c ∈ openers) : isWordStart c = false := by
  have none : openers.all (!isWordStart ·) := by decide +kernel
  simpa using List.all_eq_true.1 none c h

theorem not_isDigit_of_isWordStart {c : Char} (h : isWordStart c) : isDigit c = false := by
  refine Bool.eq_false_iff.2 fun digit => ?_
  obtain ⟨-, high⟩ := Char.isDigit_iff_toNat.1 digit
  have small : c.toNat ≤ 57 := high
  rcases Bool.or_eq_true_iff.1 h with letter | score
  · have ascii : c.toNat < 128 := Nat.lt_of_le_of_lt small (by decide)
    rw [Text.isLetter, if_pos ascii] at letter
    have low := (Text.toNat_of_isAlpha letter).1
    omega
  · rw [eq_of_beq score] at small
    exact absurd small (by decide)

theorem mem_of_lookup {κ β : Type} [BEq κ] [LawfulBEq κ] {l : List (κ × β)} {a : κ} {b : β}
    (h : l.lookup a = some b) : (a, b) ∈ l := by
  obtain ⟨before, after, rfl, -⟩ := List.lookup_eq_some_iff.1 h
  simp

theorem lookup_eq_none_iff {β : Type} {marks : List (Char × β)} {c : Char} :
    marks.lookup c = none ↔ c ∉ marks.map (·.1) := by
  simp only [List.lookup_eq_none_iff, bne_iff_ne, List.mem_map, not_exists, not_and]
  exact forall₂_congr fun _ _ => ne_comm

theorem not_mem_openers_iff {c : Char} :
    c ∉ openers ↔ singleMarks.lookup c = none ∧ pairedMarks.lookup c = none ∧ c ≠ '/' ∧
      ¬ (c = ' ' ∨ c = '\r' ∨ c = '\t' ∨ c = '\n') ∧ ¬ isQuote c := by
  simp only [openers, List.mem_append, lookup_eq_none_iff, isQuote_eq, beq_iff_eq, List.mem_cons,
    List.not_mem_nil, or_false, not_or, and_assoc, ne_eq]

theorem cut_of_not_opener {c : Char} (h : c ∉ openers) (cs : List Char) :
    cut c cs =
      if isDigit c then cutNumber c cs
      else if isWordStart c then (word (c :: cs.takeWhile isWordChar), cs.dropWhile isWordChar)
      else (stray c, cs) := by
  obtain ⟨single, paired, slash, blank, quote⟩ := not_mem_openers_iff.1 h
  simp only [cut, single, paired, if_neg slash, if_neg blank, if_neg quote]

theorem fits_cutPaired {c : Char} {double single : Kind} (h : (c, double, single) ∈ pairedMarks)
    (cs : List Char) : (cutPaired c double single cs).1.Fits (cutPaired c double single cs).2 := by
  unfold cutPaired
  split
  · exact .double h
  · rename_i alone
    refine .unpaired h fun next => ?_
    obtain ⟨rest, rfl⟩ := List.head?_eq_some_iff.1 next
    exact alone rest rfl

theorem fits_cutSlash (cs : List Char) : (cutSlash cs).1.Fits (cutSlash cs).2 := by
  unfold cutSlash
  split
  · rename_i rest
    refine .comment (fun line => ?_) fun c hc => ?_
    · simpa using List.mem_takeWhile_imp line
    · simpa using not_of_mem_head?_dropWhile _ rest c hc
  · rename_i alone
    refine .slash fun next => ?_
    obtain ⟨rest, rfl⟩ := List.head?_eq_some_iff.1 next
    exact alone rest rfl

theorem fits_cutString (cs : List Char) : (cutString cs).1.Fits (cutString cs).2 := by
  unfold cutString
  split
  · rename_i h
    refine .unclosed fun quote => ?_
    simpa [isQuote_eq] using List.dropWhile_eq_nil_iff.1 h '"' quote
  · refine .string fun quote => ?_
    simpa [isQuote_eq] using List.mem_takeWhile_imp quote

theorem fits_cutNumber {c : Char} (h : isDigit c) (cs : List Char) :
    (cutNumber c cs).1.Fits (cutNumber c cs).2 := by
  have digits : ∀ d ∈ c :: cs.takeWhile isDigit, isDigit d := by
    rintro d (_ | ⟨_, hd⟩)
    · exact h
    · exact List.mem_takeWhile_imp hd
  have stop := not_of_mem_head?_dropWhile isDigit
  unfold cutNumber
  dsimp only
  split
  · rename_i rest point
    split
    · rename_i none
      refine .dangling (List.cons_ne_nil _ _) digits fun d hd => ?_
      have all := @List.takeWhile_append_dropWhile _ isDigit rest
      rw [none, List.nil_append] at all
      exact Bool.eq_false_iff.1 (stop rest d (all.symm ▸ hd))
    · rename_i some
      refine .decimal (List.cons_ne_nil _ _) digits some (fun d hd => List.mem_takeWhile_imp hd) ?_
      exact fun d hd => Bool.eq_false_iff.1 (stop rest d hd)
  · rename_i alone
    refine .whole (List.cons_ne_nil _ _) digits ?_ fun next => ?_
    · exact fun d hd => Bool.eq_false_iff.1 (stop cs d hd)
    · obtain ⟨rest, hr⟩ := List.head?_eq_some_iff.1 next
      exact alone rest hr

theorem fits_cut (c : Char) (cs : List Char) : (cut c cs).1.Fits (cut c cs).2 := by
  by_cases opener : c ∈ openers
  · unfold cut
    split
    · rename_i h
      exact .single (mem_of_lookup h)
    · rename_i h
      exact fits_cutPaired (mem_of_lookup h) cs
    · rename_i single paired
      by_cases slash : c = '/'
      · rw [if_pos slash]
        exact fits_cutSlash cs
      · rw [if_neg slash]
        split
        · rename_i h
          exact .blank (by simpa using h)
        · rename_i blank
          split
          · exact fits_cutString cs
          · rename_i quote
            exact absurd opener (not_mem_openers_iff.2 ⟨single, paired, slash, blank, quote⟩)
  · rw [cut_of_not_opener opener]
    split
    · rename_i digit
      exact fits_cutNumber digit cs
    · rename_i digit
      split
      · rename_i start
        refine .word start (fun d hd => List.mem_takeWhile_imp hd) fun d hd => ?_
        exact Bool.eq_false_iff.1 (not_of_mem_head?_dropWhile isWordChar cs d hd)
      · rename_i start
        exact .stray opener digit start

theorem lookup_singleMarks : ∀ m ∈ singleMarks, singleMarks.lookup m.1 = some m.2 := by decide

theorem lookup_pairedMarks :
    ∀ m ∈ pairedMarks, singleMarks.lookup m.1 = none ∧ pairedMarks.lookup m.1 = some m.2 := by
  decide

theorem cutPaired_of_head? {c : Char} {double single : Kind} {after : List Char}
    (h : after.head? ≠ some '=') : cutPaired c double single after = (mark single [c], after) := by
  unfold cutPaired
  split
  · exact absurd rfl h
  · rfl

theorem cutSlash_of_head? {after : List Char} (h : after.head? ≠ some '/') :
    cutSlash after = (mark .slash ['/'], after) := by
  unfold cutSlash
  split
  · exact absurd rfl h
  · rfl

theorem cutSlash_comment {body after : List Char} (line : '\n' ∉ body)
    (stop : ∀ c ∈ after.head?, c = '\n') :
    cutSlash ('/' :: (body ++ after)) = (comment ('/' :: '/' :: body), after) := by
  have pass : ∀ c ∈ body, c != '\n' := fun c hc => bne_iff_ne.2 fun eq => line (eq ▸ hc)
  have stop' : ∀ c ∈ after.head?, ¬ c != '\n' := fun c hc => by simp [stop c hc]
  simp only [cutSlash, takeWhile_append_of_stop pass stop', dropWhile_append_of_stop pass stop']

theorem not_isQuote {inner : List Char} (h : '"' ∉ inner) : ∀ c ∈ inner, !isQuote c := by
  intro c hc
  simp only [isQuote_eq, Bool.not_eq_true', beq_eq_false_iff_ne]
  exact fun eq => h (eq ▸ hc)

theorem cutString_string {inner : List Char} (h : '"' ∉ inner) (after : List Char) :
    cutString (inner ++ '"' :: after) = (string inner, after) := by
  have stop : ∀ c ∈ ('"' :: after).head?, ¬ !isQuote c := by simp; decide
  simp only [cutString, takeWhile_append_of_stop (not_isQuote h) stop,
    dropWhile_append_of_stop (not_isQuote h) stop]

theorem cutString_unclosed {inner : List Char} (h : '"' ∉ inner) :
    cutString inner = (unclosed inner, []) := by
  simp only [cutString, List.dropWhile_eq_nil_iff.2 (not_isQuote h)]

theorem cutNumber_whole {c : Char} {cs after : List Char} (digits : ∀ d ∈ cs, isDigit d)
    (stop : ∀ d ∈ after.head?, ¬ isDigit d) (point : after.head? ≠ some '.') :
    cutNumber c (cs ++ after) = (number (c :: cs) [], after) := by
  unfold cutNumber
  dsimp only
  rw [takeWhile_append_of_stop digits stop, dropWhile_append_of_stop digits stop]
  split
  · exact absurd rfl point
  · rfl

theorem cutNumber_point {c : Char} {cs fraction after : List Char} (digits : ∀ d ∈ cs, isDigit d)
    (part : ∀ d ∈ fraction, isDigit d) (stop : ∀ d ∈ after.head?, ¬ isDigit d) :
    cutNumber c (cs ++ '.' :: (fraction ++ after)) =
      if fraction = [] then (dangling (c :: cs), after) else (number (c :: cs) fraction, after) := by
  have point : ∀ d ∈ ('.' :: (fraction ++ after)).head?, ¬ isDigit d := by simp; decide
  unfold cutNumber
  dsimp only
  rw [takeWhile_append_of_stop digits point, dropWhile_append_of_stop digits point]
  simp only
  rw [takeWhile_append_of_stop part stop, dropWhile_append_of_stop part stop]
  split
  · rename_i none
    rw [none, List.nil_append]
  · rfl

theorem Fits.cut_eq {s : Segment} {after : List Char} (h : s.Fits after) :
    ∃ c cs, s.text ++ after = c :: cs ∧ cut c cs = (s, after) := by
  have digitsFirst {whole : List Char} (some : whole ≠ []) (digits : ∀ c ∈ whole, isDigit c) :
      ∃ c cs, whole = c :: cs ∧ (∀ d ∈ cs, isDigit d) ∧ ∀ ds, cut c ds = cutNumber c ds := by
    obtain ⟨c, cs, rfl⟩ := List.exists_cons_of_ne_nil some
    have digit := digits c List.mem_cons_self
    refine ⟨c, cs, rfl, fun d hd => digits d (List.mem_cons_of_mem c hd), fun ds => ?_⟩
    rw [cut_of_not_opener fun opener => by simp [isDigit_of_opener opener] at digit, if_pos digit]
  cases h with
  | @single c kind _ hm =>
      refine ⟨c, after, rfl, ?_⟩
      simp only [cut, lookup_singleMarks _ hm]
  | @double c double single _ hm =>
      obtain ⟨none, some⟩ := lookup_pairedMarks _ hm
      refine ⟨c, '=' :: after, rfl, ?_⟩
      simp only [cut, none, some, cutPaired]
  | @unpaired c double single _ hm next =>
      obtain ⟨none, some⟩ := lookup_pairedMarks _ hm
      refine ⟨c, after, rfl, ?_⟩
      simp only [cut, none, some, cutPaired_of_head? next]
  | slash next => exact ⟨'/', after, rfl, cutSlash_of_head? next⟩
  | @comment body _ line stop =>
      exact ⟨'/', '/' :: (body ++ after), rfl, cutSlash_comment line stop⟩
  | @blank c _ hc =>
      refine ⟨c, after, rfl, ?_⟩
      simp only [List.mem_cons, List.not_mem_nil, or_false] at hc
      rcases hc with rfl | rfl | rfl | rfl <;> rfl
  | @string inner _ quote =>
      exact ⟨'"', inner ++ '"' :: after, by simp [text, Text.Quoted.doubleQuote],
        cutString_string quote after⟩
  | @unclosed inner quote =>
      exact ⟨'"', inner, by simp [text, Text.Quoted.doubleQuote], cutString_unclosed quote⟩
  | @whole whole _ some digits stop point =>
      obtain ⟨c, cs, rfl, rest, first⟩ := digitsFirst some digits
      refine ⟨c, cs ++ after, by simp [text], ?_⟩
      rw [first, cutNumber_whole rest stop point]
  | @decimal whole fraction _ some digits part digits' stop =>
      obtain ⟨c, cs, rfl, rest, first⟩ := digitsFirst some digits
      refine ⟨c, cs ++ '.' :: (fraction ++ after), by simp [text, part], ?_⟩
      rw [first, cutNumber_point rest digits' stop, if_neg part]
  | @dangling whole _ some digits stop =>
      obtain ⟨c, cs, rfl, rest, first⟩ := digitsFirst some digits
      refine ⟨c, cs ++ '.' :: after, by simp [text], ?_⟩
      exact (first _).trans (cutNumber_point rest (List.forall_mem_nil _) stop)
  | @word c cs _ start part stop =>
      refine ⟨c, cs ++ after, rfl, ?_⟩
      rw [cut_of_not_opener fun opener => by simp [isWordStart_of_opener opener] at start,
        if_neg (by simp [not_isDigit_of_isWordStart start]), if_pos start,
        takeWhile_append_of_stop part stop, dropWhile_append_of_stop part stop]
  | @stray c _ opener digit start =>
      exact ⟨c, after, rfl, by rw [cut_of_not_opener opener, if_neg digit, if_neg start]⟩

end Segment

/-- A source falls apart into these segments. -/
inductive Segmented : List Char → List Segment → Prop where
  | nil : Segmented [] []
  | cons {s : Segment} {after : List Char} {rest : List Segment} :
      s.Fits after → Segmented after rest → Segmented (s.text ++ after) (s :: rest)

theorem segmented_segments (cs : List Char) : Segmented cs (segments cs) := by
  fun_induction segments cs with
  | case1 => exact .nil
  | case2 c cs ih =>
      rw [← Segment.text_cut c cs]
      exact .cons (Segment.fits_cut c cs) ih

theorem Segmented.fits {cs : List Char} {segs : List Segment} (h : Segmented cs segs) :
    ∀ s ∈ segs, ∃ after, s.Fits after := by
  induction h with
  | nil => simp
  | cons fits _ ih => exact List.forall_mem_cons.2 ⟨⟨_, fits⟩, ih⟩

/-- A source falls apart in one way only. -/
theorem segmented_iff {cs : List Char} {segs : List Segment} :
    Segmented cs segs ↔ segs = segments cs := by
  refine ⟨fun h => ?_, fun h => h ▸ segmented_segments cs⟩
  induction h with
  | nil => exact segments.eq_1.symm
  | cons fits _ ih =>
      obtain ⟨c, ds, whole, cut⟩ := fits.cut_eq
      rw [whole, segments, cut, ih]

end Reckoner
