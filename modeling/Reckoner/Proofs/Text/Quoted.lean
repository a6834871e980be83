import Mathlib.Algebra.Ring.Nat
import Reckoner.Text.Quoted

namespace Reckoner.Text

/-- The characters that end a line, whatever the convention. -/
def lineBreaks : List Char :=
  ['\n', '\x0b', '\x0c', '\r', '\x1c', '\x1d', '\x1e', '\u0085', '\u2028', '\u2029']

theorem not_mem_lineBreaks {c : Char} (h : isPrintable c) : c ∉ lineBreaks := by
  have blank : lineBreaks.all (!isPrintable ·) = true := by decide +kernel
  intro mem
  have other := List.all_eq_true.1 blank c mem
  rw [h] at other
  exact absurd other (by decide)

namespace Quoted

def digitValue (c : Char) : Nat :=
  if c.isDigit then c.toNat - '0'.toNat else c.toNat - 'a'.toNat + 10

def hexValue (cs : List Char) : Nat := cs.foldl (fun n c => 16 * n + digitValue c) 0

theorem digitValue_digitChar {d : Nat} (h : d < 16) : digitValue d.digitChar = d := by
  have all : ∀ d < 16, digitValue (Nat.digitChar d) = d := by decide
  exact all d h

theorem hexValue_concat (cs : List Char) (c : Char) :
    hexValue (cs ++ [c]) = 16 * hexValue cs + digitValue c := by
  rw [hexValue, List.foldl_append, List.foldl_cons, List.foldl_nil, hexValue]

theorem hexValue_zeros (k : Nat) (cs : List Char) :
    hexValue (List.replicate k '0' ++ cs) = hexValue cs := by
  induction k with
  | zero => rfl
  | succ k ih => exact ih

theorem hexValue_toDigits (n : Nat) : hexValue (Nat.toDigits 16 n) = n := by
  induction n using Nat.strongRecOn with
  | _ n ih =>
      rw [Nat.toDigits_eq_if (by decide)]
      split
      case isTrue small =>
        rw [← List.nil_append [_], hexValue_concat, digitValue_digitChar small]
        exact Nat.zero_add n
      case isFalse large =>
        rw [hexValue_concat, ih _ (by omega), digitValue_digitChar (Nat.mod_lt n (by decide))]
        exact Nat.div_add_mod n 16

theorem exists_digit_of_mem_toDigits {n : Nat} {c : Char} (h : c ∈ Nat.toDigits 16 n) :
    ∃ d < 16, c = Nat.digitChar d := by
  induction n using Nat.strongRecOn with
  | _ n ih =>
      rw [Nat.toDigits_eq_if (by decide)] at h
      split at h
      case isTrue small => exact ⟨n, small, List.mem_singleton.1 h⟩
      case isFalse large =>
        rcases List.mem_append.1 h with front | last
        · exact ih _ (by omega) front
        · exact ⟨n % 16, Nat.mod_lt n (by decide), List.mem_singleton.1 last⟩

theorem hexValue_hex (width n : Nat) : hexValue (hex width n) = n :=
  (hexValue_zeros _ _).trans (hexValue_toDigits n)

theorem length_hex {width n : Nat} (some : 0 < width) (h : n < 16 ^ width) :
    (hex width n).length = width := by
  have fits := (Nat.length_toDigits_le_iff (by decide) some).2 h
  rw [hex, List.length_append, List.length_replicate, Nat.sub_add_cancel fits]

theorem isPrintable_of_mem_hex {width n : Nat} {c : Char} (h : c ∈ hex width n) :
    isPrintable c := by
  have digits : ∀ d < 16, isPrintable (Nat.digitChar d) := by decide
  rcases List.mem_append.1 h with zero | digit
  · rw [List.eq_of_mem_replicate zero]
    exact digits 0 (by decide)
  · obtain ⟨d, bound, rfl⟩ := exists_digit_of_mem_toDigits digit
    exact digits d bound

def letters : List (Char × Char) := [('n', '\n'), ('r', '\r'), ('t', '\t')]

def widths : List (Char × Nat) := [('x', 2), ('u', 4), ('U', 8)]

/-- The character that the front of a quoted text stands for, and what follows. -/
def unescape : List Char → Option (Char × List Char)
  | '\\' :: c :: cs =>
      match widths.lookup c with
      | some width => some (Char.ofNat (hexValue (cs.take width)), cs.drop width)
      | none => some ((letters.lookup c).getD c, cs)
  | c :: cs => some (c, cs)
  | [] => none

def quotes : List Char := [singleQuote, doubleQuote]

theorem mark_mem_quotes (cs : List Char) : mark cs ∈ quotes := by
  unfold mark
  split <;> decide

theorem mem_of_marked {quote c : Char} (h : quote ∈ quotes) (marked : c = '\\' ∨ c = quote) :
    c ∈ '\\' :: quotes := by
  rcases marked with rfl | rfl
  · exact List.mem_cons_self
  · exact List.mem_cons_of_mem _ h

inductive Escapes (quote c : Char) : List Char → Prop
  | marked (own : c ∈ '\\' :: quotes) : Escapes quote c ['\\', c]
  | letter (l : Char) (listed : (l, c) ∈ letters) : Escapes quote c ['\\', l]
  | plain (single : c ≠ '\\') (inside : c ≠ quote) (printable : isPrintable c) :
      Escapes quote c [c]
  | number (l : Char) (width : Nat) (announced : (l, width) ∈ widths)
      (fits : c.toNat < 16 ^ width) : Escapes quote c ('\\' :: l :: hex width c.toNat)

theorem escapes_code (quote c : Char) : Escapes quote c (code c) := by
  unfold code
  split_ifs with short medium
  · exact .number 'x' 2 (by decide) short
  · exact .number 'u' 4 (by decide) medium
  · refine .number 'U' 8 (by decide) ?_
    rcases c.valid with low | high
    · exact Nat.lt_trans low (by decide)
    · exact Nat.lt_trans high.2 (by decide)

theorem escapes_escape {quote : Char} (h : quote ∈ quotes) (c : Char) :
    Escapes quote c (escape quote c) := by
  unfold escape
  split_ifs with marked feed carriage tab printable
  · exact .marked (mem_of_marked h marked)
  · exact .letter 'n' (by rw [feed]; decide)
  · exact .letter 'r' (by rw [carriage]; decide)
  · exact .letter 't' (by rw [tab]; decide)
  · exact .plain (fun eq => marked (.inl eq)) (fun eq => marked (.inr eq)) printable
  · exact escapes_code quote c

theorem Escapes.unescape_append {quote c : Char} {cs : List Char} (h : Escapes quote c cs)
    (rest : List Char) : unescape (cs ++ rest) = some (c, rest) := by
  cases h with
  | marked own =>
      have unlisted : ('\\' :: quotes).all (fun d =>
          (widths.lookup d).isNone && (letters.lookup d).isNone) = true := by
        decide
      have apart := List.all_eq_true.1 unlisted c own
      rw [Bool.and_eq_true, Option.isNone_iff_eq_none, Option.isNone_iff_eq_none] at apart
      change unescape ('\\' :: c :: rest) = _
      simp only [unescape, apart.1, apart.2, Option.getD_none]
  | letter l listed =>
      simp only [letters, List.mem_cons, Prod.mk.injEq, List.not_mem_nil, or_false] at listed
      obtain ⟨rfl, rfl⟩ | ⟨rfl, rfl⟩ | ⟨rfl, rfl⟩ := listed <;> rfl
  | plain single =>
      change unescape (c :: rest) = _
      unfold unescape
      split
      case h_1 eq => exact absurd (List.cons.inj eq).1 single
      case h_2 eq => rw [(List.cons.inj eq).1, (List.cons.inj eq).2]
      case h_3 eq => cases eq
  | number l width announced fits =>
      have listed : widths.all (fun w => widths.lookup w.1 == some w.2 && 0 < w.2) = true := by decide
      have own := List.all_eq_true.1 listed _ announced
      rw [Bool.and_eq_true, beq_iff_eq, decide_eq_true_iff] at own
      have length := length_hex own.2 fits
      change unescape ('\\' :: l :: (hex width c.toNat ++ rest)) = _
      simp only [unescape, own.1, List.take_left' length, List.drop_left' length, hexValue_hex,
        Char.ofNat_toNat]

theorem Escapes.head?_append_ne {quote c : Char} {cs : List Char} (h : Escapes quote c cs)
    (own : quote ∈ quotes) (rest : List Char) : (cs ++ rest).head? ≠ some quote := by
  have backslash : '\\' ≠ quote := by
    rintro rfl
    exact absurd own (by decide)
  cases h with
  | plain _ inside => exact fun eq => inside (Option.some.inj eq)
  | marked | letter | number => exact fun eq => backslash (Option.some.inj eq)

theorem Escapes.isPrintable_of_mem {quote c d : Char} {cs : List Char} (h : Escapes quote c cs)
    (hd : d ∈ cs) : isPrintable d := by
  have pair {e : Char} (he : isPrintable e) (hd : d ∈ ['\\', e]) : isPrintable d := by
    obtain rfl | hd := List.mem_cons.1 hd
    · decide
    · rwa [List.mem_singleton.1 hd]
  cases h with
  | marked own =>
      have printable : ('\\' :: quotes).all isPrintable = true := by decide
      exact pair (List.all_eq_true.1 printable c own) hd
  | letter l listed =>
      have printable : letters.all (isPrintable ·.1) = true := by decide
      exact pair (List.all_eq_true.1 printable _ listed) hd
  | plain _ _ printable => rwa [List.mem_singleton.1 hd]
  | number l width announced =>
      have printable : widths.all (isPrintable ·.1) = true := by decide
      rcases List.mem_append.1 (show d ∈ ['\\', l] ++ hex width c.toNat from hd) with front | digit
      · exact pair (List.all_eq_true.1 printable _ announced) front
      · exact isPrintable_of_mem_hex digit

theorem flatMap_escape_append_inj {quote : Char} (h : quote ∈ quotes) {cs ds us vs : List Char}
    (same : cs.flatMap (escape quote) ++ quote :: us = ds.flatMap (escape quote) ++ quote :: vs) :
    cs = ds ∧ us = vs := by
  induction cs generalizing ds with
  | nil =>
      cases ds with
      | nil => exact ⟨rfl, (List.cons.inj same).2⟩
      | cons d ds =>
          rw [List.flatMap_cons, List.append_assoc] at same
          exact absurd (congrArg List.head? same.symm) ((escapes_escape h d).head?_append_ne h _)
  | cons c cs ih =>
      rw [List.flatMap_cons, List.append_assoc] at same
      cases ds with
      | nil => exact absurd (congrArg List.head? same) ((escapes_escape h c).head?_append_ne h _)
      | cons d ds =>
          rw [List.flatMap_cons, List.append_assoc] at same
          have front := congrArg unescape same
          rw [(escapes_escape h c).unescape_append, (escapes_escape h d).unescape_append,
            Option.some_inj, Prod.mk.injEq] at front
          obtain ⟨inside, rest⟩ := ih front.2
          exact ⟨congrArg₂ List.cons front.1 inside, rest⟩

/-- A quoted text says what it quotes, and ends where it does whatever follows. -/
theorem encode_append_inj {cs ds us vs : List Char} (same : encode cs ++ us = encode ds ++ vs) :
    cs = ds ∧ us = vs := by
  simp only [encode, List.cons_append, List.append_assoc, List.nil_append] at same
  obtain ⟨quote, rest⟩ := List.cons.inj same
  rw [quote] at rest
  exact flatMap_escape_append_inj (mark_mem_quotes ds) rest

theorem isPrintable_of_mem_encode {c : Char} {cs : List Char} (h : c ∈ encode cs) :
    isPrintable c := by
  have marks : ∀ quote ∈ quotes, isPrintable quote := List.all_eq_true.1 (by decide)
  have own := mark_mem_quotes cs
  rcases List.mem_append.1 h with front | last
  · rcases List.mem_cons.1 front with rfl | inside
    · exact marks _ own
    · obtain ⟨d, -, hd⟩ := List.mem_flatMap.1 inside
      exact (escapes_escape own d).isPrintable_of_mem hd
  · rw [List.mem_singleton.1 last]
    exact marks _ own

end Quoted

end Reckoner.Text
