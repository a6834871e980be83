import Reckoner.Proofs.Number.Texts
import Reckoner.Proofs.Run.Account

namespace Reckoner

open Number
open Segment (Digits isDigit)

def Segment.signs (negative : Bool) : List Segment := if negative then [.mark .minus ['-']] else []

def Token.sign : Token := ⟨.minus, "-", 1, none⟩

def Token.signs (negative : Bool) : List Token := if negative then [Token.sign] else []

def Token.letter : Token := ⟨.identifier, "e", 1, none⟩

def Token.ofNumber (x : Float) : Token := ⟨.number, plain x, 1, some (.number x)⟩

def Expr.ofNumber (negative : Bool) (x : Float) : Expr :=
  if negative then .unary Token.sign (.literal .number (some (.number x)))
  else .literal .number (some (.number x))

namespace Number

def absolute (x : Float) : Float := ofMagnitude false (magnitude x)

theorem absolute_of_positive {x : Float} (h : isNegative x = false) : absolute x = x := by
  have whole := ofMagnitude_magnitude x
  rwa [h] at whole

theorem absolute_of_negative {x : Float} (number : x.isNaN = false) (h : isNegative x = true) :
    absolute x = -x := by
  have bound := (isNaN_eq_false_iff x).1 number
  have whole := ofMagnitude_magnitude x
  rw [h] at whole
  rw [absolute, ← whole, neg_ofMagnitude _ bound, magnitude_ofMagnitude _ bound, Bool.not_true]

theorem neg_absolute {x : Float} (number : x.isNaN = false) :
    (if isNegative x then -(absolute x) else absolute x) = x := by
  have bound := (isNaN_eq_false_iff x).1 number
  have whole := ofMagnitude_magnitude x
  cases sign : isNegative x with
  | false => exact absolute_of_positive sign
  | true =>
      rw [sign] at whole
      rw [if_pos rfl, absolute, neg_ofMagnitude _ bound, Bool.not_false, whole]

theorem plain_absolute {x : Float} (h : x.isNaN = false) :
    plain (absolute x) = String.ofList (unsigned (magnitude x)) := by
  have bound := (isNaN_eq_false_iff x).1 h
  have number : (absolute x).isNaN = false := by
    rw [isNaN_eq_false_iff, absolute, magnitude_ofMagnitude _ bound]
    exact bound
  rw [plain_eq number, absolute, magnitude_ofMagnitude _ bound, isNegative_ofMagnitude _ bound,
    signed, if_neg Bool.false_ne_true]

end Number

namespace Scan

theorem segmented_signed (negative : Bool) {cs : List Char} {segs : List Segment}
    (h : Segmented cs segs) :
    Segmented (signed negative cs).toList (Segment.signs negative ++ segs) := by
  rw [signed, String.toList_ofList]
  cases negative with
  | false => exact h
  | true => exact .cons (.single (by decide)) h

theorem ofSegments_signs (negative : Bool) (segs : List Segment) :
    ofSegments 1 (Segment.signs negative ++ segs) =
      ⟨Token.signs negative ++ (ofSegments 1 segs).tokens, (ofSegments 1 segs).faults,
        (ofSegments 1 segs).lastLine⟩ := by
  cases negative with
  | false => rfl
  | true => rfl

theorem ofString_signed (negative : Bool) {cs : List Char} {segs : List Segment}
    (h : Segmented cs segs) :
    ofString (signed negative cs) =
      ⟨Token.signs negative ++ (ofSegments 1 segs).tokens, (ofSegments 1 segs).faults,
        (ofSegments 1 segs).lastLine⟩ := by
  rw [ofString_eq, ← segmented_iff.1 (segmented_signed negative h), ofSegments_signs]

def numeral (whole fraction : List Char) : Token :=
  ⟨.number, String.ofList (Segment.number whole fraction).text, 1,
    some (.number (Decimal.ofDigits whole fraction).toFloat)⟩

theorem ofSegments_number {whole fraction : List Char} (h : Digits whole fraction)
    (segs : List Segment) :
    ofSegments 1 (.number whole fraction :: segs) =
      ⟨numeral whole fraction :: (ofSegments 1 segs).tokens, (ofSegments 1 segs).faults,
        (ofSegments 1 segs).lastLine⟩ := by
  have line : (Segment.number whole fraction).breaks = 0 :=
    List.count_eq_zero.2 (h.not_mem_text (by decide))
  rw [ofSegments, line]
  rfl

theorem segmented_number {whole fraction : List Char} (h : Digits whole fraction) :
    Segmented (Segment.number whole fraction).text [.number whole fraction] := by
  have alone := Segmented.cons (h.fits (by simp)) .nil
  rwa [List.append_nil] at alone

theorem ofSegments_letter (segs : List Segment) :
    ofSegments 1 (.word ['e'] :: .mark .minus ['-'] :: segs) =
      ⟨Token.letter :: Token.sign :: (ofSegments 1 segs).tokens, (ofSegments 1 segs).faults,
        (ofSegments 1 segs).lastLine⟩ :=
  rfl

theorem segmented_power {whole fraction digits : List Char} (h : Digits whole fraction)
    (hd : Digits digits []) :
    Segmented ((Segment.number whole fraction).text ++ 'e' :: '-' :: digits)
      [.number whole fraction, .word ['e'], .mark .minus ['-'], .number digits []] := by
  have exponent := segmented_number hd
  rw [Segment.text, if_pos rfl, List.append_nil] at exponent
  have minus : (Segment.mark .minus ['-']).Fits digits := .single (by decide)
  have letter : (Segment.word ['e']).Fits ('-' :: digits) := by
    refine .word (by decide +kernel) (by simp) fun c hc => ?_
    obtain rfl := Option.some.inj hc
    decide +kernel
  refine .cons (h.fits fun c hc => ?_) (.cons letter (.cons minus exponent))
  obtain rfl := Option.some.inj hc
  decide

theorem ofString_positional {x : Float} (finite : x.isFinite = true)
    (h : Positional (magnitude x)) :
    ofString (plain x) = ⟨Token.signs (isNegative x) ++
      [Token.ofNumber (absolute x), Token.endOfInput 1], [], 1⟩ := by
  have bound := (isFinite_iff x).1 finite
  have number := (isNaN_eq_false_iff x).2 bound.le
  obtain ⟨whole, fraction, digits, text, size⟩ := unsigned_of_positional bound h
  have token : numeral whole fraction = Token.ofNumber (absolute x) := by
    rw [numeral, Token.ofNumber, plain_absolute number, text, Decimal.toFloat, size, absolute]
  rw [plain_eq number, text, ofString_signed _ (segmented_number digits),
    ofSegments_number digits, token]
  rfl

theorem ofString_not_positional {x : Float} (finite : x.isFinite = true)
    (h : ¬ Positional (magnitude x)) :
    ∃ whole fraction digits, Digits whole fraction ∧ Digits digits [] ∧
      plain x = signed (isNegative x) ((Segment.number whole fraction).text ++ 'e' :: '-' :: digits) ∧
      ofString (plain x) = ⟨Token.signs (isNegative x) ++
        [numeral whole fraction, Token.letter, Token.sign, numeral digits [],
          Token.endOfInput 1], [], 1⟩ := by
  have bound := (isFinite_iff x).1 finite
  have number := (isNaN_eq_false_iff x).2 bound.le
  obtain ⟨text, small⟩ := unsigned_of_not_positional bound h
  obtain ⟨digits, hd, power⟩ := Decimal.exponentText_of_neg (small.trans (by decide))
  have mantissa := (shortest (magnitude x)).digits_take_one
  rw [Decimal.scientific_eq, power] at text
  refine ⟨_, _, digits, mantissa, hd, by rw [plain_eq number, text], ?_⟩
  rw [plain_eq number, text, ofString_signed _ (segmented_power mantissa hd),
    ofSegments_number mantissa, ofSegments_letter, ofSegments_number hd]
  rfl

end Scan

namespace Expr

variable (negative : Bool) (x : Float)

theorem obeys_ofNumber : (ofNumber negative x).Obeys .equality := by
  have number (level : Grammar.Level) :
      (literal .number (some (.number x))).Obeys level := ⟨rfl, fun _ => by simp⟩
  cases negative with
  | false => exact number _
  | true => exact ⟨by decide, by decide, number _⟩

theorem spelled_ofNumber :
    (ofNumber negative x).Spelled (Token.signs negative ++ [Token.ofNumber x]) := by
  have number : (literal .number (some (.number x))).Spelled [Token.ofNumber x] :=
    .cons ⟨rfl, rfl⟩ .nil
  cases negative with
  | false => exact number
  | true => exact .cons rfl number

theorem evaluate_ofNumber :
    (ofNumber negative x).evaluate = .ok (.number (if negative then -x else x)) := by
  cases negative with
  | false => rfl
  | true => rfl

theorem height_ofNumber : (ofNumber negative x).height ≤ depthBudget := by
  have small : (ofNumber negative x).height ≤ 2 := by
    cases negative with
    | false => exact Nat.le_succ 1
    | true => exact Nat.le_refl 2
  exact small.trans (by decide)

theorem ofTokens_ofNumber :
    ofTokens (Token.signs negative ++ [Token.ofNumber x, Token.endOfInput 1]) [] =
      (.ok (ofNumber negative x), []) := by
  have cheap : (ofNumber negative x).cost ≤ 1 := by
    cases negative with
    | false => exact Nat.zero_le 1
    | true => exact Nat.le_refl 1
  have last : ∀ t ∈ [Token.endOfInput 1].head?, t.kind = .endOfInput := by simp [Token.endOfInput]
  have read := ofTokens_of_cost_le (obeys_ofNumber negative x) (cheap.trans (by decide))
    (spelled_ofNumber negative x) last []
  rwa [List.append_assoc] at read

theorem ofTokens_letter (whole fraction : List Char) (ts : List Token) :
    (ofTokens (Token.signs negative ++ Scan.numeral whole fraction :: Token.letter :: ts) []).1 =
      .error (.refused Token.letter .unexpectedExpression) := by
  cases negative with
  | false => rfl
  | true => rfl

end Expr

namespace Run

variable {x : Float}

theorem of_low {source : String} {tree : Expr} (clean : (Scan.ofString source).faults = [])
    (read : Expr.ofTokens (Scan.ofString source).tokens [] = (.ok tree, []))
    (low : tree.height ≤ depthBudget) (threshold : Nat) (failFast : Bool) :
    (run threshold failFast source []).result = tree.evaluate.mapError .evaluation ∧
      (run threshold failFast source []).diagnostics = [] := by
  have some : tree? failFast source [] = some tree := by
    simp [tree?, clean, read, Except.toOption]
  obtain ⟨diagnostics, result⟩ := of_tree?_eq_some some threshold
  rw [if_neg fun tall => absurd low (Nat.not_le_of_lt tall.2)] at result
  exact ⟨result, by rw [diagnostics, clean, List.append_nil]⟩

theorem result_plain (finite : x.isFinite = true) (h : Positional (magnitude x)) (threshold : Nat)
    (failFast : Bool) : (run threshold failFast (plain x) []).result = .ok (.number x) ∧
      (run threshold failFast (plain x) []).diagnostics = [] := by
  have number := (isNaN_eq_false_iff x).2 ((isFinite_iff x).1 finite).le
  have scan := Scan.ofString_positional finite h
  have read := Expr.ofTokens_ofNumber (isNegative x) (absolute x)
  obtain ⟨result, diagnostics⟩ := of_low (by rw [scan]) (by rw [scan]; exact read)
    (Expr.height_ofNumber _ _) threshold failFast
  rw [Expr.evaluate_ofNumber, neg_absolute number] at result
  exact ⟨result, diagnostics⟩

theorem result_letter {source : String} {negative : Bool} {whole fraction : List Char}
    {ts : List Token} (clean : (Scan.ofString source).faults = [])
    (tokens : (Scan.ofString source).tokens =
      Token.signs negative ++ Scan.numeral whole fraction :: Token.letter :: ts)
    (threshold : Nat) (failFast : Bool) :
    (run threshold failFast source []).result =
      .error (.reading (.refused Token.letter .unexpectedExpression)) := by
  obtain ⟨result, -⟩ := run_unstopped threshold [] fun _ : failFast = true => clean
  rw [result, outcome, tokens, Expr.ofTokens_letter]
  rfl

end Run

/-- Printed numbers read back. A finite double that is whole, or not smaller than a ten-thousandth, is
written as one number, with a sign before it if it is negative, minus zero among them; the text as a
source has this double for its value, bit by bit, and nothing is reported. Every other finite double
is written with an exponent: its text falls into two numbers with a name and a sign between them, and
a run of it objects to the name. Two doubles that are numbers have the same text only if they have the
same bits. -/
theorem run_plain (x : Float) :
    (x.isFinite = true → (∃ n : Int, value x = n) ∨ 1 / 10 ^ 4 ≤ |value x| →
      (Scan.ofString (plain x)).faults = [] ∧
      (isNegative x = false → (Scan.ofString (plain x)).tokens =
        [⟨.number, plain x, 1, some (.number x)⟩, Token.endOfInput 1]) ∧
      (isNegative x = true → (Scan.ofString (plain x)).tokens =
        [⟨.minus, "-", 1, none⟩, ⟨.number, plain (-x), 1, some (.number (-x))⟩,
          Token.endOfInput 1]) ∧
      ∀ threshold failFast,
        (run threshold failFast (plain x) []).result = .ok (.number x) ∧
          (run threshold failFast (plain x) []).diagnostics = []) ∧
    (x.isFinite = true → ¬ ((∃ n : Int, value x = n) ∨ 1 / 10 ^ 4 ≤ |value x|) →
      ∃ mantissa exponent : Token, mantissa.kind = .number ∧ exponent.kind = .number ∧
        plain x = (if isNegative x then "-" else "") ++ mantissa.lexeme ++ "e-" ++ exponent.lexeme ∧
        (Scan.ofString (plain x)).faults = [] ∧
        (Scan.ofString (plain x)).tokens = (if isNegative x then [⟨.minus, "-", 1, none⟩] else []) ++
          [mantissa, ⟨.identifier, "e", 1, none⟩, ⟨.minus, "-", 1, none⟩, exponent,
            Token.endOfInput 1] ∧
        ∀ threshold failFast, (run threshold failFast (plain x) []).result =
          .error (.reading (.refused ⟨.identifier, "e", 1, none⟩ .unexpectedExpression))) ∧
    ∀ y : Float, x.isNaN = false → y.isNaN = false →
      (plain x = plain y ↔ x.toBits = y.toBits) := by
  rw [← positional_iff]
  refine ⟨fun finite h => ?_, fun finite h => ?_, fun y hx hy => ?_⟩
  · have number := (isNaN_eq_false_iff x).2 ((isFinite_iff x).1 finite).le
    have scan := Scan.ofString_positional finite h
    refine ⟨by rw [scan], fun positive => ?_, fun negative => ?_, Run.result_plain finite h⟩
    · rw [scan, positive, absolute_of_positive positive]
      rfl
    · rw [scan, negative, absolute_of_negative number negative]
      rfl
  · obtain ⟨whole, fraction, digits, hw, hd, text, scan⟩ := Scan.ofString_not_positional finite h
    refine ⟨Scan.numeral whole fraction, Scan.numeral digits [], rfl, rfl, ?_, by rw [scan],
      by rw [scan]; rfl, fun threshold failFast => ?_⟩
    · rw [text, ← String.toList_inj]
      cases isNegative x <;> simp [signed, Scan.numeral, Segment.text]
    · exact Run.result_letter (by rw [scan]) (by rw [scan]) threshold failFast
  · rw [Float.toBits_inj]
    exact ⟨plain_injective hx hy, fun same => same ▸ rfl⟩

theorem run_plain_extremes :
    let zero := ofMagnitude true 0
    let tenth := ofMagnitude true 0x3FB999999999999A
    let least := ofMagnitude false 1
    (plain zero = "-0" ∧ plain tenth = "-0.1" ∧ plain least = "5e-324") ∧
      (zero.isFinite = true ∧ value zero = (0 : Int) ∧
        (run 0 true "-0" []).result = .ok (.number zero)) ∧
      (tenth.isFinite = true ∧ 1 / 10 ^ 4 ≤ |value tenth| ∧
        (run 0 true "-0.1" []).result = .ok (.number tenth)) ∧
      (least.isFinite = true ∧ ¬ ((∃ n : Int, value least = n) ∨ 1 / 10 ^ 4 ≤ |value least|) ∧
        (run 0 true "5e-324" []).result =
          .error (.reading (.refused ⟨.identifier, "e", 1, none⟩ .unexpectedExpression))) ∧
      (zero.isNaN = false ∧ tenth.isNaN = false ∧ zero.toBits ≠ tenth.toBits) := by
  intro zero tenth least
  have hzero : plain zero = "-0" := by decide +kernel
  have htenth : plain tenth = "-0.1" := by decide +kernel
  have hleast : plain least = "5e-324" := by decide +kernel
  have finite : zero.isFinite = true ∧ tenth.isFinite = true ∧ least.isFinite = true := by
    decide +kernel
  have numbers : zero.isNaN = false ∧ tenth.isNaN = false := by decide +kernel
  have whole : value zero = (0 : Int) := by decide +kernel
  have large : 1 / 10 ^ 4 ≤ |value tenth| := by decide +kernel
  have small : ¬ ((∃ n : Int, value least = n) ∨ 1 / 10 ^ 4 ≤ |value least|) := by
    rw [← positional_iff, Positional, ← mod_stepsPerUnit_eq_zero_iff]
    decide +kernel
  have reads := ((run_plain zero).1 finite.1 (.inl ⟨0, whole⟩)).2.2.2 0 true
  have reads' := ((run_plain tenth).1 finite.2.1 (.inr large)).2.2.2 0 true
  obtain ⟨-, -, -, -, -, -, -, objects⟩ := (run_plain least).2.1 finite.2.2 small
  have apart := mt ((run_plain zero).2.2 tenth numbers.1 numbers.2).2
    (by rw [hzero, htenth]; decide)
  rw [hzero] at reads
  rw [htenth] at reads'
  rw [hleast] at objects
  exact ⟨⟨hzero, htenth, hleast⟩, ⟨finite.1, whole, reads.1⟩, ⟨finite.2.1, large, reads'.1⟩,
    ⟨finite.2.2, small, objects 0 true⟩, numbers.1, numbers.2, apart⟩

end Reckoner
