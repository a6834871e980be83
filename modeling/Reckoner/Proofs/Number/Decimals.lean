import Reckoner.Number.Text
import Reckoner.Proofs.Number.Amount
import Reckoner.Proofs.Source.Steps

namespace Reckoner

structure Segment.Digits (whole fraction : List Char) : Prop where
  some : whole ≠ []
  whole : ∀ c ∈ whole, isDigit c
  fraction : ∀ c ∈ fraction, isDigit c

namespace Segment.Digits

variable {whole fraction : List Char}

theorem fits (h : Digits whole fraction) {after : List Char}
    (stop : ∀ c ∈ after.head?, ¬ isDigit c ∧ c ≠ '.') : (number whole fraction).Fits after := by
  have digit : ∀ c ∈ after.head?, ¬ isDigit c := fun c hc => (stop c hc).1
  by_cases part : fraction = []
  · subst part
    exact .whole h.some h.whole digit fun point => (stop '.' point).2 rfl
  · exact .decimal h.some h.whole part h.fraction digit

theorem ofText_text (h : Digits whole fraction) :
    Number.Decimal.ofText (number whole fraction).text =
      Number.Decimal.ofDigits whole fraction :=
  have stop : ∀ c ∈ ([] : List Char).head?, ¬ isDigit c ∧ c ≠ '.' := by simp
  Scan.State.ofText_number (h.fits stop)

theorem mem_text (h : Digits whole fraction) {c : Char} (hc : c ∈ (number whole fraction).text) :
    isDigit c ∨ c = '.' := by
  rcases List.mem_append.1 hc with hc | hc
  · exact .inl (h.whole c hc)
  · split at hc
    · cases hc
    · rcases List.mem_cons.1 hc with rfl | hc
      · exact .inr rfl
      · exact .inl (h.fraction c hc)

theorem exists_head (h : Digits whole fraction) :
    ∃ c cs, isDigit c ∧ (number whole fraction).text = c :: cs := by
  obtain ⟨c, cs, rfl⟩ := List.exists_cons_of_ne_nil h.some
  exact ⟨c, _, h.whole c List.mem_cons_self, List.cons_append⟩

theorem not_mem_text (h : Digits whole fraction) {c : Char} (other : isDigit c = false ∧ c ≠ '.') :
    c ∉ (number whole fraction).text := by
  intro hc
  rcases h.mem_text hc with digit | point
  · exact Bool.eq_false_iff.1 other.1 digit
  · exact other.2 point

end Segment.Digits

theorem append_inj_of_stop (p : Char → Bool) {xs ys us vs : List Char}
    (hx : ∀ c ∈ xs, p c) (hy : ∀ c ∈ ys, p c) (hu : ∀ c ∈ us.head?, ¬ p c)
    (hv : ∀ c ∈ vs.head?, ¬ p c) (h : xs ++ us = ys ++ vs) : xs = ys ∧ us = vs := by
  have front := congrArg (List.takeWhile p) h
  have rest := congrArg (List.dropWhile p) h
  rw [Segment.takeWhile_append_of_stop hx hu, Segment.takeWhile_append_of_stop hy hv] at front
  rw [Segment.dropWhile_append_of_stop hx hu, Segment.dropWhile_append_of_stop hy hv] at rest
  exact ⟨front, rest⟩

theorem append_cons_inj_of_not_mem {stop : Char} {cs ds us vs : List Char} (hc : stop ∉ cs)
    (hd : stop ∉ ds) (same : cs ++ stop :: us = ds ++ stop :: vs) : cs = ds ∧ us = vs := by
  have before {xs : List Char} (h : stop ∉ xs) : ∀ c ∈ xs, c != stop := fun c hc =>
    bne_iff_ne.2 (ne_of_mem_of_not_mem hc h)
  obtain ⟨front, rest⟩ :=
    append_inj_of_stop (· != stop) (before hc) (before hd) (by simp) (by simp) same
  exact ⟨front, (List.cons.inj rest).2⟩

namespace Number

open Segment (Digits isDigit)

theorem isDigit_zero : isDigit '0' := by decide

theorem isDigit_of_mem_toDigits {n : Nat} {c : Char} (h : c ∈ Nat.toDigits 10 n) : isDigit c :=
  Nat.isDigit_of_mem_toDigits (by decide) (by decide) h

theorem isDigit_of_mem_padded {n m : Nat} {c : Char}
    (h : c ∈ List.replicate n '0' ++ Nat.toDigits 10 m) : isDigit c := by
  rcases List.mem_append.1 h with hc | hc
  · exact (List.eq_of_mem_replicate hc) ▸ isDigit_zero
  · exact isDigit_of_mem_toDigits hc

theorem ofDigitChars_zeros (n : Nat) (cs : List Char) :
    Nat.ofDigitChars 10 (List.replicate n '0' ++ cs) 0 = Nat.ofDigitChars 10 cs 0 := by
  rw [Nat.ofDigitChars_append, Nat.ofDigitChars_replicate_zero, Nat.mul_zero]

namespace Decimal

theorem ofDigitChars_digits (d : Decimal) : Nat.ofDigitChars 10 d.digits 0 = d.coefficient :=
  Nat.ofDigitChars_ten_toDigits

theorem ofDigits_split {cs : List Char} (digits : ∀ c ∈ cs, isDigit c) {n : Nat}
    (hn : n < cs.length) :
    Digits (cs.take (cs.length - n)) (cs.drop (cs.length - n)) ∧
      (cs.drop (cs.length - n)).length = n ∧
      ofDigits (cs.take (cs.length - n)) (cs.drop (cs.length - n)) =
        ⟨Nat.ofDigitChars 10 cs 0, -(n : Int)⟩ := by
  have places : (cs.drop (cs.length - n)).length = n := by
    rw [List.length_drop]
    omega
  refine ⟨⟨?_, fun c hc => digits c (List.mem_of_mem_take hc),
    fun c hc => digits c (List.mem_of_mem_drop hc)⟩, places, ?_⟩
  · rw [← List.length_pos_iff, List.length_take]
    omega
  · rw [ofDigits, List.take_append_drop, places]

theorem positional_eq (d : Decimal) : ∃ whole fraction, Digits whole fraction ∧
    d.positional = (Segment.number whole fraction).text ∧
      (ofDigits whole fraction).amount = d.amount := by
  unfold positional
  split
  case isTrue whole =>
    obtain ⟨n, hn⟩ := Int.eq_ofNat_of_zero_le whole
    refine ⟨d.digits ++ List.replicate d.exponent.toNat '0', ['0'], ⟨?_, ?_, ?_⟩, ?_, ?_⟩
    · exact List.append_ne_nil_of_left_ne_nil Nat.toDigits_ne_nil _
    · intro c hc
      exact isDigit_of_mem_padded (List.mem_append.2 (List.mem_append.1 hc).symm)
    · simpa using isDigit_zero
    · rw [Segment.text, if_neg (List.cons_ne_nil _ _)]
    · rw [hn, Int.toNat_natCast, ofDigits, Decimal.amount, Decimal.amount, hn,
        Nat.ofDigitChars_append, Nat.ofDigitChars_append, Nat.ofDigitChars_replicate_zero,
        ofDigitChars_digits, Nat.ofDigitChars_cons, Nat.ofDigitChars_nil, zpow_natCast]
      push_cast
      norm_num
      ring
  case isFalse part =>
    obtain ⟨n, hn⟩ := Int.eq_ofNat_of_zero_le (a := -d.exponent) (by omega)
    rw [hn, Int.toNat_natCast]
    dsimp only
    have value := ofDigitChars_zeros (n + 1 - d.digits.length) d.digits
    have enough : n < (List.replicate (n + 1 - d.digits.length) '0' ++ d.digits).length := by
      rw [List.length_append, List.length_replicate]
      omega
    have padded : ∀ c ∈ List.replicate (n + 1 - d.digits.length) '0' ++ d.digits, isDigit c :=
      fun c hc => isDigit_of_mem_padded hc
    obtain ⟨digits, places, split⟩ := ofDigits_split padded enough
    refine ⟨_, _, digits, ?_, ?_⟩
    · rw [Segment.text, if_neg (List.ne_nil_of_length_pos (by rw [places]; omega))]
    · rw [split, value, ofDigitChars_digits, Decimal.amount, Decimal.amount, ← hn, neg_neg]

theorem exponentText_eq (e : Int) : exponentText e = (if e < 0 then '-' else '+') ::
    (List.replicate (2 - (Nat.toDigits 10 e.natAbs).length) '0' ++ Nat.toDigits 10 e.natAbs) :=
  rfl

theorem exponentText_injective {e e' : Int} (h : exponentText e = exponentText e') : e = e' := by
  rw [exponentText_eq, exponentText_eq, List.cons.injEq] at h
  obtain ⟨sign, places⟩ := h
  have size : e.natAbs = e'.natAbs := by
    have value := congrArg (Nat.ofDigitChars 10 · 0) places
    simpa only [ofDigitChars_zeros, Nat.ofDigitChars_ten_toDigits] using value
  have same : e < 0 ↔ e' < 0 := by
    by_cases below : e < 0 <;> by_cases below' : e' < 0
    all_goals simp only [below, below', if_true, if_false] at sign ⊢
    all_goals exact absurd sign (by decide)
  omega

theorem exponentText_of_neg {e : Int} (h : e < 0) :
    ∃ digits, Digits digits [] ∧ exponentText e = '-' :: digits := by
  refine ⟨_, ⟨?_, fun c hc => ?_, by simp⟩, (exponentText_eq e).trans (by rw [if_pos h])⟩
  · exact List.append_ne_nil_of_right_ne_nil _ Nat.toDigits_ne_nil
  · exact isDigit_of_mem_padded hc

theorem digits_take_one (d : Decimal) : Digits (d.digits.take 1) (d.digits.drop 1) := by
  refine ⟨?_, fun c hc => isDigit_of_mem_toDigits (List.mem_of_mem_take hc),
    fun c hc => isDigit_of_mem_toDigits (List.mem_of_mem_drop hc)⟩
  have some : 0 < d.digits.length := Nat.length_toDigits_pos
  rw [← List.length_pos_iff, List.length_take]
  omega

theorem scientific_eq (d : Decimal) :
    d.scientific = (Segment.number (d.digits.take 1) (d.digits.drop 1)).text ++
      'e' :: exponentText d.leadingPlace := by
  have some : 0 < d.digits.length := Nat.length_toDigits_pos
  have one : d.digits.length = 1 ↔ d.digits.drop 1 = [] := by
    rw [List.drop_eq_nil_iff]
    omega
  rw [scientific, Segment.text]
  simp only [one]
  split_ifs with h
  · rw [h, List.append_nil]
  · rw [List.append_assoc _ ['.'], List.singleton_append]

theorem scientific_injective {d d' : Decimal} (h : d.scientific = d'.scientific) : d = d' := by
  rw [scientific_eq, scientific_eq] at h
  have before (d : Decimal) :
      'e' ∉ (Segment.number (d.digits.take 1) (d.digits.drop 1)).text :=
    d.digits_take_one.not_mem_text (by decide)
  obtain ⟨mantissa, power⟩ := append_cons_inj_of_not_mem (before d) (before d') h
  have place := exponentText_injective power
  have digits := congrArg ofText mantissa
  rw [d.digits_take_one.ofText_text, d'.digits_take_one.ofText_text, ofDigits, ofDigits,
    List.take_append_drop, List.take_append_drop, ofDigitChars_digits, ofDigitChars_digits,
    Decimal.mk.injEq, List.length_drop, List.length_drop] at digits
  obtain ⟨coefficient, length⟩ := digits
  have some : 0 < d.digits.length := Nat.length_toDigits_pos
  have some' : 0 < d'.digits.length := Nat.length_toDigits_pos
  have exponent : d.exponent = d'.exponent := by
    rw [leadingPlace, leadingPlace] at place
    omega
  cases d
  cases d'
  exact congrArg₂ Decimal.mk coefficient exponent

end Decimal

end Number

end Reckoner
