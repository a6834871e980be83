import Reckoner.Proofs.Number.Texts
import Reckoner.Proofs.Text.Quoted

namespace Reckoner

open Text (isPrintable)
open Text.Quoted (encode encode_append_inj isPrintable_of_mem_encode mark_mem_quotes quote quotes)

theorem Kind.blank_not_mem_name (k : Kind) : ' ' ∉ k.name.toList := by
  cases k <;> decide

theorem Kind.isPrintable_of_mem_name {k : Kind} : ∀ c ∈ k.name.toList, isPrintable c := by
  apply List.all_eq_true.1
  cases k <;> decide

namespace Number

theorem isPrintable_of_isNumberChar {c : Char} (h : isNumberChar c) : isPrintable c := by
  have digits : ∀ n < 58, 48 ≤ n → isPrintable (Char.ofNat n) := by decide +kernel
  have others : ['.', 'e', '-', '+', 'i', 'n', 'f'].all isPrintable = true := by decide
  rcases Bool.or_eq_true_iff.1 h with digit | other
  · obtain ⟨low, high⟩ := Char.isDigit_iff_toNat.1 digit
    rw [← Char.ofNat_toNat c]
    exact digits c.toNat (Nat.lt_succ_of_le high) low
  · exact List.all_eq_true.1 others c (List.contains_iff_mem.1 other)

theorem isPrintable_of_mem_pointed {x : Float} : ∀ c ∈ (pointed x).toList, isPrintable c := by
  cases h : x.isNaN with
  | false => exact fun c hc => isPrintable_of_isNumberChar (isNumberChar_pointed h c hc)
  | true =>
      rw [pointed_of_isNaN h]
      exact List.all_eq_true.1 (by decide)

theorem isPrintable_of_mem_integer {n : Int} : ∀ c ∈ (integer n).toList, isPrintable c :=
  fun c hc => isPrintable_of_isNumberChar (isNumberChar_integer n c hc)

theorem blank_not_mem_pointed {x : Float} (h : x.isNaN = false) : ' ' ∉ (pointed x).toList := by
  intro mem
  exact absurd (isNumberChar_pointed h ' ' mem) (by decide)

end Number

namespace Payload

def isNaN : Payload → Bool
  | number x => x.isNaN
  | text _ => false

theorem toList_quoted_text (s : String) : (text s).quoted.toList = encode s.toList := by
  rw [quoted, quote, String.toList_ofList]

theorem isPrintable_of_mem_quoted {p : Payload} : ∀ c ∈ p.quoted.toList, isPrintable c := by
  cases p with
  | number x => exact Number.isPrintable_of_mem_pointed
  | text s =>
      rw [toList_quoted_text]
      exact fun c hc => isPrintable_of_mem_encode hc

/-- The characters that can come first where the payload is written in front of a blank. -/
def Opens : Payload → Char → Prop
  | number _, c => Number.isNumberChar c ∨ c = ' '
  | text _, c => c ∈ quotes

theorem opens_of_head {p : Payload} (hp : p.isNaN = false) {us : List Char} {c : Char}
    (hc : c ∈ (p.quoted.toList ++ ' ' :: us).head?) : p.Opens c := by
  cases p with
  | number x =>
      have digits := Number.isNumberChar_pointed hp
      rw [quoted] at hc
      cases front : (Number.pointed x).toList with
      | nil =>
          rw [front] at hc
          exact .inr (Option.some.inj hc).symm
      | cons d ds =>
          rw [front] at hc digits
          obtain rfl := Option.some.inj hc
          exact .inl (digits d List.mem_cons_self)
  | text s =>
      rw [toList_quoted_text] at hc
      obtain rfl := Option.some.inj hc
      exact mark_mem_quotes s.toList

theorem not_opens_quote {x : Float} {c : Char} (h : c ∈ quotes) : ¬ (number x).Opens c := by
  have apart : quotes.all (fun c => !Number.isNumberChar c && c != ' ') = true := by decide
  have own := List.all_eq_true.1 apart c h
  rw [Bool.and_eq_true, Bool.not_eq_true', bne_iff_ne] at own
  exact not_or.2 ⟨Bool.eq_false_iff.1 own.1, own.2⟩

theorem not_opens_line (p : Payload) : ¬ p.Opens 'l' := by
  cases p with
  | number x => exact show ¬ (Number.isNumberChar 'l' ∨ 'l' = ' ') by decide
  | text s => exact show 'l' ∉ quotes by decide

theorem quoted_append_inj {p q : Payload} (hp : p.isNaN = false) (hq : q.isNaN = false)
    {us vs : List Char} (same : p.quoted.toList ++ ' ' :: us = q.quoted.toList ++ ' ' :: vs) :
    p = q ∧ us = vs := by
  cases p with
  | number x =>
      cases q with
      | number y =>
          obtain ⟨text, rest⟩ := append_cons_inj_of_not_mem (Number.blank_not_mem_pointed hp)
            (Number.blank_not_mem_pointed hq) same
          exact ⟨congrArg number (Number.pointed_injective hp hq (String.toList_inj.1 text)), rest⟩
      | text t =>
          rw [toList_quoted_text] at same
          exact absurd (opens_of_head hp (congrArg List.head? same))
            (not_opens_quote (mark_mem_quotes t.toList))
  | text s =>
      rw [toList_quoted_text] at same
      cases q with
      | number y =>
          exact absurd (opens_of_head hq (congrArg List.head? same.symm))
            (not_opens_quote (mark_mem_quotes s.toList))
      | text t =>
          rw [toList_quoted_text] at same
          obtain ⟨inside, rest⟩ := encode_append_inj same
          exact ⟨congrArg text (String.toList_inj.1 inside), (List.cons.inj rest).2⟩

end Payload

namespace Token

def carriesNaN (t : Token) : Bool := t.payload.any Payload.isNaN

def ending (payload : Option Payload) (line : Int) : List Char :=
  let place := "line=".toList ++ (Number.integer line).toList
  match payload with
  | some p => p.quoted.toList ++ ' ' :: place
  | none => place

theorem toList_text (t : Token) : t.text.toList =
    t.kind.name.toList ++ ' ' :: (encode t.lexeme.toList ++ ' ' :: ending t.payload t.line) := by
  obtain ⟨kind, lexeme, line, payload⟩ := t
  cases payload <;> simp [text, ending, quote, String.toList_append]

theorem isPrintable_of_mem_text {t : Token} : ∀ c ∈ t.text.toList, isPrintable c := by
  have blank : isPrintable ' ' := by decide
  have place : ∀ c ∈ "line=".toList ++ (Number.integer t.line).toList, isPrintable c :=
    List.forall_mem_append.2
      ⟨List.all_eq_true.1 (by decide), Number.isPrintable_of_mem_integer⟩
  have rest : ∀ c ∈ ending t.payload t.line, isPrintable c := by
    unfold ending
    split
    · exact List.forall_mem_append.2
        ⟨Payload.isPrintable_of_mem_quoted, List.forall_mem_cons.2 ⟨blank, place⟩⟩
    · exact place
  rw [toList_text]
  refine List.forall_mem_append.2 ⟨Kind.isPrintable_of_mem_name, List.forall_mem_cons.2 ⟨blank, ?_⟩⟩
  exact List.forall_mem_append.2
    ⟨fun c hc => isPrintable_of_mem_encode hc, List.forall_mem_cons.2 ⟨blank, rest⟩⟩

theorem ending_injective {a b : Option Payload} {m n : Int} (ha : ∀ p ∈ a, p.isNaN = false)
    (hb : ∀ p ∈ b, p.isNaN = false) (same : ending a m = ending b n) : a = b ∧ m = n := by
  have lines {m n : Int} (same : "line=".toList ++ (Number.integer m).toList =
      "line=".toList ++ (Number.integer n).toList) : m = n :=
    Number.integer_injective (String.toList_inj.1 (List.append_cancel_left same))
  have apart {p : Payload} (hp : p.isNaN = false) (m n : Int) :
      ending (some p) m ≠ ending none n := fun same =>
    p.not_opens_line (Payload.opens_of_head hp (congrArg List.head? same))
  cases a with
  | none =>
      cases b with
      | none => exact ⟨rfl, lines same⟩
      | some q => exact absurd same.symm (apart (hb q rfl) n m)
  | some p =>
      cases b with
      | none => exact absurd same (apart (ha p rfl) m n)
      | some q =>
          obtain ⟨payload, place⟩ := Payload.quoted_append_inj (ha p rfl) (hb q rfl) same
          exact ⟨congrArg some payload, lines place⟩

theorem isNaN_of_carriesNaN {t : Token} (h : t.carriesNaN = false) :
    ∀ p ∈ t.payload, p.isNaN = false := by
  intro p hp
  rwa [carriesNaN, Option.mem_def.1 hp] at h

theorem text_injective {t u : Token} (ht : t.carriesNaN = false) (hu : u.carriesNaN = false)
    (same : t.text = u.text) : t = u := by
  have chars := congrArg String.toList same
  rw [toList_text, toList_text] at chars
  obtain ⟨kind, chars⟩ :=
    append_cons_inj_of_not_mem t.kind.blank_not_mem_name u.kind.blank_not_mem_name chars
  obtain ⟨lexeme, chars⟩ := encode_append_inj chars
  obtain ⟨payload, line⟩ := ending_injective (isNaN_of_carriesNaN ht) (isNaN_of_carriesNaN hu)
    (List.cons.inj chars).2
  cases t
  cases u
  rw [Token.mk.injEq]
  exact ⟨Kind.name_inj.1 (String.toList_inj.1 kind), String.toList_inj.1 lexeme, line, payload⟩

end Token

end Reckoner
