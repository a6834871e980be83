import Reckoner.Proofs.Console.Agreement
import Reckoner.Proofs.Run.Readability
import Reckoner.Proofs.Token.Text
import Reckoner.Text.Line

namespace Reckoner

namespace Text

theorem lines_append_break {l : List Char} (h : '\n' ∉ l) (rest : List Char) :
    lines (l ++ '\n' :: rest) = l :: lines rest := by
  induction l with
  | nil => simp [lines]
  | cons c l ih =>
      obtain ⟨other, inside⟩ := not_or.1 (mt List.mem_cons.2 h)
      rw [List.cons_append, lines, if_neg (Ne.symm other), ih inside]

theorem lines_flatMap {ls : List (List Char)} (h : ∀ l ∈ ls, '\n' ∉ l) :
    lines (ls.flatMap (· ++ ['\n'])) = ls := by
  induction ls with
  | nil => rfl
  | cons l ls ih =>
      obtain ⟨first, others⟩ := List.forall_mem_cons.1 h
      rw [List.flatMap_cons, List.append_assoc, List.singleton_append, lines_append_break first,
        ih others]

theorem countP_lineBreaks {ls : List (List Char)} (h : ∀ l ∈ ls, ∀ c ∈ l, isPrintable c) :
    (ls.flatMap (· ++ ['\n'])).countP (lineBreaks.contains ·) = ls.length := by
  induction ls with
  | nil => rfl
  | cons l ls ih =>
      obtain ⟨first, others⟩ := List.forall_mem_cons.1 h
      have inside : l.countP (lineBreaks.contains ·) = 0 := by
        refine List.countP_eq_zero.2 fun c hc => ?_
        exact mt List.contains_iff_mem.1 (not_mem_lineBreaks (first c hc))
      have feed : ['\n'].countP (lineBreaks.contains ·) = 1 := by decide
      rw [List.flatMap_cons, List.countP_append, List.countP_append, inside, feed, ih others,
        List.length_cons, Nat.zero_add, Nat.add_comm]

end Text

theorem Console.line_of_printable [Echo] {s : String} (h : ∀ c ∈ s.toList, Text.isPrintable c) :
    line s = s ++ "\n" := by
  refine line_of_not_mem fun escape => ?_
  exact absurd (h _ escape) (by decide)

theorem Console.toList_lines [Echo] {texts : List String}
    (h : ∀ s ∈ texts, ∀ c ∈ s.toList, Text.isPrintable c) :
    (lines texts).toList = (texts.map String.toList).flatMap (· ++ ['\n']) := by
  induction texts with
  | nil => rfl
  | cons s texts ih =>
      obtain ⟨first, others⟩ := List.forall_mem_cons.1 h
      rw [lines, List.map_cons, String.join_cons, line_of_printable first, String.toList_append,
        String.toList_append]
      exact congrArg _ (ih others)

theorem Token.Faithful.carriesNaN {t : Token} (h : t.Faithful) : t.carriesNaN = false := by
  by_cases number : t.kind = .number
  · obtain ⟨x, payload, real⟩ := h.number number
    rw [Token.carriesNaN, payload]
    exact real
  · by_cases string : t.kind = .string
    · obtain ⟨s, payload, -⟩ := h.string string
      rw [Token.carriesNaN, payload]
      rfl
    · rw [Token.carriesNaN, h.other number string]
      rfl

namespace Inspector

def texts (source : String) : List (List Char) :=
  (Scan.ofString source).tokens.map (·.text.toList)

theorem isPrintable_of_mem_texts {source : String} :
    ∀ l ∈ texts source, ∀ c ∈ l, Text.isPrintable c := by
  rw [texts, List.forall_mem_map]
  exact fun t _ => Token.isPrintable_of_mem_text

theorem toList_out_tokens [Echo] (source : String) :
    (tokens source).out.toList = (texts source).flatMap (· ++ ['\n']) := by
  have legible : ∀ s ∈ (Scan.ofString source).tokens.map Token.text,
      ∀ c ∈ s.toList, Text.isPrintable c := by
    rw [List.forall_mem_map]
    exact fun t _ => Token.isPrintable_of_mem_text
  rw [tokens, Console.withJournal, Console.toList_lines legible, List.map_map]
  rfl

theorem lines_out_tokens [Echo] (source : String) :
    Text.lines (tokens source).out.toList = texts source := by
  rw [toList_out_tokens, Text.lines_flatMap]
  intro l hl feed
  exact absurd (isPrintable_of_mem_texts l hl _ feed) (by decide)

theorem map_text_injective {ts us : List Token} (ht : ∀ t ∈ ts, t.carriesNaN = false)
    (hu : ∀ u ∈ us, u.carriesNaN = false)
    (same : ts.map (·.text.toList) = us.map (·.text.toList)) : ts = us := by
  induction ts generalizing us with
  | nil => exact (List.map_eq_nil_iff.1 same.symm).symm
  | cons t ts ih =>
      cases us with
      | nil => cases same
      | cons u us =>
          obtain ⟨first, others⟩ := List.cons.inj same
          rw [List.forall_mem_cons] at ht hu
          rw [Token.text_injective ht.1 hu.1 (String.toList_inj.1 first), ih ht.2 hu.2 others]

/-- A token's text is printable throughout, so that no character of it ends a line, and tokens that
do not carry a NaN are told by their texts. What the inspector prints of a source is the text of one
token after the other, each with a line feed behind it: a line for every token, and by no convention
more. Of sources whose tokens differ it prints different texts. -/
theorem tokens_injective [Echo] (t u : Token) (source source' : String) :
    (∀ c ∈ t.text.toList, Text.isPrintable c ∧ c ∉ Text.lineBreaks) ∧
    (t.carriesNaN = false → u.carriesNaN = false → t.text = u.text → t = u) ∧
    (let scanned := (Scan.ofString source).tokens
     let out := (tokens source).out.toList
     out = scanned.flatMap (fun t => t.text.toList ++ ['\n']) ∧
       Text.lines out = scanned.map (·.text.toList) ∧ (Text.lines out).length = scanned.length ∧
       out.countP (Text.lineBreaks.contains ·) = scanned.length) ∧
    ((Scan.ofString source).tokens ≠ (Scan.ofString source').tokens →
      (tokens source).out ≠ (tokens source').out) := by
  have real (source : String) : ∀ t ∈ (Scan.ofString source).tokens, t.carriesNaN = false :=
    fun t ht => (Scan.faithful_ofString source t ht).carriesNaN
  have lines := lines_out_tokens source
  refine ⟨fun c hc => ?_, Token.text_injective, ⟨?_, lines, ?_, ?_⟩, fun other same => ?_⟩
  · have printable := Token.isPrintable_of_mem_text c hc
    exact ⟨printable, Text.not_mem_lineBreaks printable⟩
  · rw [toList_out_tokens, texts, List.flatMap_map]
  · rw [lines, texts, List.length_map]
  · rw [toList_out_tokens, Text.countP_lineBreaks isPrintable_of_mem_texts, texts, List.length_map]
  · refine other (map_text_injective (real source) (real source') ?_)
    change texts source = texts source'
    rw [← lines, same, lines_out_tokens]

/-- A string that imitates the end of a token's text, with characters in it that have to be escaped,
and two sources whose tokens differ in nothing but their lines. -/
theorem tokens_injective_imitation :
    let source := "\x22' line=1\\\u2028\x22"
    let scanned := (Scan.ofString source).tokens.headD (Token.endOfInput 1)
    let written : Token := ⟨.string, "' line=1\\\u2028", 1, some (.text "' line=1\\\u2028")⟩
    let printed := "STRING \x22' line=1\\\\\\u2028\x22 \x22' line=1\\\\\\u2028\x22 line=1\n"
    (tokens source).out = printed ++ "EOF '' line=1\n" ∧
      scanned.carriesNaN = false ∧ written.carriesNaN = false ∧ scanned.text = written.text ∧
      scanned = written ∧
      (Scan.ofString "a b").tokens ≠ (Scan.ofString "a\nb").tokens ∧
      (tokens "a b").out ≠ (tokens "a\nb").out := by
  intro source scanned written printed
  have out : (tokens source).out = printed ++ "EOF '' line=1\n" := by decide +kernel
  have real : scanned.carriesNaN = false := by decide +kernel
  have real' : written.carriesNaN = false := by decide +kernel
  have same : scanned.text = written.text := by decide +kernel
  have other : (Scan.ofString "a b").tokens ≠ (Scan.ofString "a\nb").tokens := by decide +kernel
  obtain ⟨-, told, -, apart⟩ := tokens_injective scanned written "a b" "a\nb"
  exact ⟨out, real, real', same, told real real' same, other, apart other⟩

end Inspector

end Reckoner
