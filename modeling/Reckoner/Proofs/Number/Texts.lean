import Reckoner.Proofs.Number.Bits
import Reckoner.Proofs.Number.Decimals
import Reckoner.Proofs.Number.Shortest

namespace Reckoner.Number

open Segment (Digits isDigit)

def value (x : Float) : ℚ := if isNegative x then -amount (magnitude x) else amount (magnitude x)

/-- The value is the number that the model of doubles reads from the pattern. -/
theorem value_of_reading {x : Float} {sign : Float.Model.UnpackedFloat.Sign} {m : Nat} {e : Int}
    {pos : 0 < m} (h : reading x.toBits = .finite sign m e pos) :
    value x = sign.apply m * 2 ^ e := by
  obtain ⟨rfl, rfl, rfl⟩ := reading_finite h
  change value x = _ * (2 : ℚ) ^ ((scale (magnitude x) : Int) - 1074)
  rw [value, signField_toBits, amount_eq]
  split
  · rw [Float.Model.UnpackedFloat.Sign.apply, Int.cast_neg, Int.cast_natCast, neg_mul]
    rfl
  · rw [Float.Model.UnpackedFloat.Sign.apply, Int.cast_natCast]
    rfl

theorem abs_value (x : Float) : |value x| = amount (magnitude x) := by
  rw [value]
  split
  · rw [abs_neg, abs_of_nonneg (amount_nonneg _)]
  · rw [abs_of_nonneg (amount_nonneg _)]

theorem integral_iff (x : Float) :
    (∃ n : Int, value x = n) ↔ ∃ n : Nat, amount (magnitude x) = n := by
  constructor
  · rintro ⟨n, hn⟩
    refine ⟨n.natAbs, ?_⟩
    rw [← abs_value, hn, Nat.cast_natAbs, Int.cast_abs]
  · rintro ⟨n, hn⟩
    rw [value, hn]
    split
    · exact ⟨-n, by push_cast; rfl⟩
    · exact ⟨n, by push_cast; rfl⟩

def unsigned (b : Nat) : List Char :=
  if infinity ≤ b then ['i', 'n', 'f']
  else if steps b % stepsPerUnit = 0 then Nat.toDigits 10 (steps b / stepsPerUnit)
  else (shortest b).text

theorem plain_eq {x : Float} (h : x.isNaN = false) :
    plain x = signed (isNegative x) (unsigned (magnitude x)) := by
  have bound := (isNaN_eq_false_iff x).1 h
  unfold plain unsigned
  dsimp only
  split
  case isTrue top => rw [nonfinite, if_pos (Nat.le_antisymm bound top)]
  case isFalse => split <;> rfl

def Positional (b : Nat) : Prop := (∃ n : Nat, amount b = n) ∨ 1 / 10 ^ 4 ≤ amount b

theorem positional_iff (x : Float) :
    Positional (magnitude x) ↔ (∃ n : Int, value x = n) ∨ 1 / 10 ^ 4 ≤ |value x| := by
  rw [integral_iff, abs_value, Positional]

theorem digits_toDigits (n : Nat) : Digits (Nat.toDigits 10 n) [] :=
  ⟨Nat.toDigits_ne_nil, fun _ hc => isDigit_of_mem_toDigits hc, by simp⟩

theorem unsigned_of_positional {b : Nat} (hb : b < infinity) (h : Positional b) :
    ∃ whole fraction, Digits whole fraction ∧
      unsigned b = (Segment.number whole fraction).text ∧
      (Decimal.ofDigits whole fraction).magnitude = b := by
  unfold unsigned
  rw [if_neg (Nat.not_le_of_lt hb)]
  split
  case isTrue integral =>
    refine ⟨_, [], digits_toDigits _, (List.append_nil _).symm, ?_⟩
    apply Decimal.magnitude_of_amount hb.le
    rw [Decimal.amount, Decimal.ofDigits, List.append_nil, Nat.ofDigitChars_ten_toDigits,
      List.length_nil, Nat.cast_zero, neg_zero, zpow_zero, mul_one, amount,
      Nat.cast_div (Nat.dvd_of_mod_eq_zero integral)
        (Nat.cast_ne_zero.2 (Nat.ne_of_gt stepsPerUnit_pos))]
  case isFalse part =>
    have h0 : b ≠ 0 := by
      rintro rfl
      exact part (by decide +kernel)
    have large := h.resolve_left (mt (mod_stepsPerUnit_eq_zero_iff b).2 part)
    obtain ⟨whole, fraction, digits, text, value⟩ := (shortest b).positional_eq
    refine ⟨whole, fraction, digits, ?_, ?_⟩
    · rw [Decimal.text, if_pos ⟨(le_leadingPlace_shortest_iff hb.le h0).2 large,
        leadingPlace_shortest_lt hb.le h0 part⟩, text]
    · rw [Decimal.magnitude_congr value, magnitude_shortest hb.le]

theorem unsigned_of_not_positional {b : Nat} (hb : b < infinity) (h : ¬ Positional b) :
    unsigned b = (shortest b).scientific ∧ (shortest b).leadingPlace < -4 := by
  obtain ⟨part, small⟩ := not_or.1 h
  have h0 : b ≠ 0 := by
    rintro rfl
    exact part ((mod_stepsPerUnit_eq_zero_iff 0).1 (by decide +kernel))
  have place := mt (le_leadingPlace_shortest_iff hb.le h0).1 small
  refine ⟨?_, not_le.1 place⟩
  rw [unsigned, if_neg (Nat.not_le_of_lt hb), if_neg (mt (mod_stepsPerUnit_eq_zero_iff b).1 part),
    Decimal.text, if_neg (fun within => place within.1)]

inductive Says : List Char → Nat → Prop where
  | number {whole fraction : List Char} : Digits whole fraction →
      Says (Segment.number whole fraction).text (Decimal.ofDigits whole fraction).magnitude
  | power (d : Decimal) : Says d.scientific d.magnitude
  | infinity : Says ['i', 'n', 'f'] infinity

theorem says_unsigned {b : Nat} (hb : b ≤ infinity) : Says (unsigned b) b := by
  rcases Nat.eq_or_lt_of_le hb with rfl | finite
  · rw [unsigned, if_pos le_rfl]
    exact .infinity
  · by_cases h : Positional b
    · obtain ⟨whole, fraction, digits, text, value⟩ := unsigned_of_positional finite h
      rw [text]
      exact value ▸ .number digits
    · have power := Says.power (shortest b)
      rw [magnitude_shortest hb] at power
      rw [(unsigned_of_not_positional finite h).1]
      exact power

theorem exponent_mem_scientific (d : Decimal) : 'e' ∈ d.scientific := by
  rw [Decimal.scientific_eq]
  exact List.mem_append_right _ List.mem_cons_self

theorem Says.unique {cs cs' : List Char} {b b' : Nat} (h : Says cs b) (h' : Says cs' b')
    (same : cs = cs') : b = b' := by
  have inf : 'i' ∈ ['i', 'n', 'f'] ∧ 'e' ∉ ['i', 'n', 'f'] := by decide
  cases h with
  | number digits =>
      cases h' with
      | number digits' => rw [← digits.ofText_text, same, digits'.ofText_text]
      | power d => exact absurd (same ▸ exponent_mem_scientific d) (digits.not_mem_text (by decide))
      | infinity => exact absurd (same ▸ inf.1) (digits.not_mem_text (by decide))
  | power d =>
      cases h' with
      | number digits =>
          exact absurd (same ▸ exponent_mem_scientific d) (digits.not_mem_text (by decide))
      | power d' => rw [Decimal.scientific_injective same]
      | infinity => exact absurd (same ▸ exponent_mem_scientific d) inf.2
  | infinity =>
      cases h' with
      | number digits => exact absurd (same ▸ inf.1) (digits.not_mem_text (by decide))
      | power d => exact absurd (same ▸ exponent_mem_scientific d) inf.2
      | infinity => rfl

def isNumberChar (c : Char) : Bool := isDigit c || ['.', 'e', '-', '+', 'i', 'n', 'f'].contains c

theorem isNumberChar_of_isDigit {c : Char} (h : isDigit c) : isNumberChar c := by
  rw [isNumberChar, h, Bool.true_or]

theorem isNumberChar_of_mem_number {whole fraction : List Char} (h : Digits whole fraction)
    {c : Char} (hc : c ∈ (Segment.number whole fraction).text) : isNumberChar c := by
  rcases h.mem_text hc with digit | rfl
  · exact isNumberChar_of_isDigit digit
  · decide

theorem isNumberChar_of_mem_scientific {d : Decimal} {c : Char} (hc : c ∈ d.scientific) :
    isNumberChar c := by
  rw [Decimal.scientific_eq, List.mem_append, List.mem_cons, Decimal.exponentText_eq,
    List.mem_cons] at hc
  rcases hc with hc | rfl | rfl | hc
  · exact isNumberChar_of_mem_number d.digits_take_one hc
  · decide
  · split <;> decide
  · exact isNumberChar_of_isDigit (isDigit_of_mem_padded hc)

theorem Says.isNumberChar {cs : List Char} {b : Nat} (h : Says cs b) :
    ∀ c ∈ cs, Number.isNumberChar c := by
  cases h with
  | number digits => exact fun c hc => isNumberChar_of_mem_number digits hc
  | power d => exact fun c hc => isNumberChar_of_mem_scientific hc
  | infinity => simp [Number.isNumberChar]

theorem Says.exists_head {cs : List Char} {b : Nat} (h : Says cs b) :
    ∃ c ds, (isDigit c ∨ c = 'i') ∧ cs = c :: ds := by
  cases h with
  | number digits =>
      obtain ⟨c, cs, digit, text⟩ := digits.exists_head
      exact ⟨c, cs, .inl digit, text⟩
  | power d =>
      obtain ⟨c, cs, digit, text⟩ := d.digits_take_one.exists_head
      exact ⟨c, _, .inl digit, by rw [d.scientific_eq, text, List.cons_append]⟩
  | infinity => exact ⟨'i', _, .inr rfl, rfl⟩

theorem Says.signed_inj {cs cs' : List Char} {b b' : Nat} (h : Says cs b) (h' : Says cs' b')
    {negative negative' : Bool} (same : signed negative cs = signed negative' cs') :
    negative = negative' ∧ cs = cs' := by
  obtain ⟨c, ds, first, rfl⟩ := h.exists_head
  obtain ⟨c', ds', first', rfl⟩ := h'.exists_head
  have unsigned {c : Char} (h : isDigit c ∨ c = 'i') : c ≠ '-' := by
    rintro rfl
    exact absurd h (by decide)
  have list := String.ofList_injective same
  cases negative <;> cases negative'
  · exact ⟨rfl, list⟩
  · exact absurd (List.cons.inj list).1 (unsigned first)
  · exact absurd (List.cons.inj list).1.symm (unsigned first')
  · exact ⟨rfl, (List.cons.inj list).2⟩

/-- The sign and the text of the magnitude say the double. -/
theorem Says.signed_float_inj {x y : Float} {cs ds : List Char} (hx : Says cs (magnitude x))
    (hy : Says ds (magnitude y)) (same : signed (isNegative x) cs = signed (isNegative y) ds) :
    x = y := by
  obtain ⟨sign, size⟩ := hx.signed_inj hy same
  exact eq_iff_magnitude.2 ⟨sign, hx.unique hy size⟩

theorem Says.isNumberChar_signed {cs : List Char} {b : Nat} (h : Says cs b) (negative : Bool) :
    ∀ c ∈ (signed negative cs).toList, Number.isNumberChar c := by
  rw [signed, String.toList_ofList]
  split
  · exact List.forall_mem_cons.2 ⟨by decide, h.isNumberChar⟩
  · exact h.isNumberChar

theorem plain_injective {x y : Float} (hx : x.isNaN = false) (hy : y.isNaN = false)
    (h : plain x = plain y) : x = y := by
  rw [plain_eq hx, plain_eq hy] at h
  exact (says_unsigned ((isNaN_eq_false_iff x).1 hx)).signed_float_inj
    (says_unsigned ((isNaN_eq_false_iff y).1 hy)) h

theorem isNumberChar_plain {x : Float} (h : x.isNaN = false) :
    ∀ c ∈ (plain x).toList, isNumberChar c := by
  rw [plain_eq h]
  exact (says_unsigned ((isNaN_eq_false_iff x).1 h)).isNumberChar_signed _

def unsignedPointed (b : Nat) : List Char :=
  if infinity ≤ b then ['i', 'n', 'f']
  else if b = 0 then ['0', '.', '0']
  else (shortest b).text

theorem pointed_eq {x : Float} (h : x.isNaN = false) :
    pointed x = signed (isNegative x) (unsignedPointed (magnitude x)) := by
  have bound := (isNaN_eq_false_iff x).1 h
  unfold pointed unsignedPointed
  dsimp only
  split
  case isTrue top => rw [nonfinite, if_pos (Nat.le_antisymm bound top)]
  case isFalse => rfl

theorem pointed_of_isNaN {x : Float} (h : x.isNaN = true) : pointed x = "nan" := by
  have above : infinity < magnitude x := by
    rw [← Nat.not_le, ← isNaN_eq_false_iff, h]
    decide
  rw [pointed, if_pos above.le, nonfinite, if_neg above.ne']

theorem Decimal.says_text (d : Decimal) : Says d.text d.magnitude := by
  unfold Decimal.text
  split
  case isTrue =>
    obtain ⟨whole, fraction, digits, text, value⟩ := d.positional_eq
    rw [text, ← Decimal.magnitude_congr value]
    exact .number digits
  case isFalse => exact .power d

theorem says_unsignedPointed {b : Nat} (hb : b ≤ infinity) : Says (unsignedPointed b) b := by
  unfold unsignedPointed
  split
  case isTrue top =>
    rw [Nat.le_antisymm hb top]
    exact .infinity
  case isFalse =>
    split
    case isTrue zero =>
      subst zero
      have digits : Digits ['0'] ['0'] := ⟨by simp, by simp [isDigit_zero], by simp [isDigit_zero]⟩
      have reads : (Decimal.ofDigits ['0'] ['0']).magnitude = 0 := by decide +kernel
      have whole := Says.number digits
      rwa [reads] at whole
    case isFalse =>
      have whole := (shortest b).says_text
      rwa [magnitude_shortest hb] at whole

theorem pointed_injective {x y : Float} (hx : x.isNaN = false) (hy : y.isNaN = false)
    (h : pointed x = pointed y) : x = y := by
  rw [pointed_eq hx, pointed_eq hy] at h
  exact (says_unsignedPointed ((isNaN_eq_false_iff x).1 hx)).signed_float_inj
    (says_unsignedPointed ((isNaN_eq_false_iff y).1 hy)) h

theorem isNumberChar_pointed {x : Float} (h : x.isNaN = false) :
    ∀ c ∈ (pointed x).toList, isNumberChar c := by
  rw [pointed_eq h]
  exact (says_unsignedPointed ((isNaN_eq_false_iff x).1 h)).isNumberChar_signed _

theorem says_toDigits (n : Nat) :
    Says (Nat.toDigits 10 n) (Decimal.ofDigits (Nat.toDigits 10 n) []).magnitude := by
  have whole := Says.number (digits_toDigits n)
  rwa [Segment.text, if_pos rfl, List.append_nil] at whole

theorem integer_injective {m n : Int} (h : integer m = integer n) : m = n := by
  obtain ⟨sign, digits⟩ := (says_toDigits m.natAbs).signed_inj (says_toDigits n.natAbs) h
  have size : m.natAbs = n.natAbs := by
    rw [← Nat.ofDigitChars_ten_toDigits (n := m.natAbs), digits, Nat.ofDigitChars_ten_toDigits]
  have below : m < 0 ↔ n < 0 := by simpa using sign
  omega

theorem isNumberChar_integer (n : Int) : ∀ c ∈ (integer n).toList, isNumberChar c :=
  (says_toDigits n.natAbs).isNumberChar_signed _

end Reckoner.Number
