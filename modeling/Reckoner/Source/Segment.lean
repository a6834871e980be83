import Reckoner.Text.Letter
import Reckoner.Text.Numeral
import Reckoner.Token.Basic

namespace Reckoner

inductive Segment where
  | mark (kind : Kind) (chars : List Char)
  | word (chars : List Char)
  | number (whole fraction : List Char)
  | string (inner : List Char)
  | comment (chars : List Char)
  | blank (c : Char)
  /-- A string that the end of the source cuts off. -/
  | unclosed (inner : List Char)
  /-- Digits and a point that no digit follows. -/
  | dangling (whole : List Char)
  | stray (c : Char)
deriving DecidableEq

namespace Segment

def isDigit (c : Char) : Bool := c.isDigit

def isWordStart (c : Char) : Bool := Text.isLetter c || c == '_'

def isWordChar (c : Char) : Bool := Text.isLetter c || Text.isNumeral c || c == '_'

def singleMarks : List (Char × Kind) := [
  ('(', .leftParen), (')', .rightParen), ('{', .leftBrace), ('}', .rightBrace), (',', .comma),
  ('.', .dot), ('-', .minus), ('+', .plus), (';', .semicolon), ('*', .star)]

/-- The marks that an equals sign extends: the kinds with it and without it. -/
def pairedMarks : List (Char × Kind × Kind) := [
  ('!', .bangEqual, .bang), ('=', .equalEqual, .equal), ('<', .lessEqual, .less),
  ('>', .greaterEqual, .greater)]

def isQuote (c : Char) : Bool := c == Text.Quoted.doubleQuote

def text : Segment → List Char
  | mark _ cs | word cs | comment cs => cs
  | number whole fraction => whole ++ if fraction = [] then [] else '.' :: fraction
  | string inner => Text.Quoted.doubleQuote :: inner ++ [Text.Quoted.doubleQuote]
  | unclosed inner => Text.Quoted.doubleQuote :: inner
  | dangling whole => whole ++ ['.']
  | blank c | stray c => [c]

def breaks (s : Segment) : Nat := s.text.count '\n'

def cutPaired (c : Char) (double single : Kind) : List Char → Segment × List Char
  | '=' :: rest => (mark double [c, '='], rest)
  | rest => (mark single [c], rest)

def cutSlash : List Char → Segment × List Char
  | '/' :: rest => (comment ('/' :: '/' :: rest.takeWhile (· != '\n')), rest.dropWhile (· != '\n'))
  | rest => (mark .slash ['/'], rest)

def cutString (cs : List Char) : Segment × List Char :=
  match cs.dropWhile (!isQuote ·) with
  | [] => (unclosed cs, [])
  | _ :: rest => (string (cs.takeWhile (!isQuote ·)), rest)

def cutNumber (c : Char) (cs : List Char) : Segment × List Char :=
  let whole := c :: cs.takeWhile isDigit
  match cs.dropWhile isDigit with
  | '.' :: rest =>
      let fraction := rest.takeWhile isDigit
      if fraction = [] then (dangling whole, rest)
      else (number whole fraction, rest.dropWhile isDigit)
  | rest => (number whole [], rest)

/-- The first segment of `c :: cs`, and the rest. -/
def cut (c : Char) (cs : List Char) : Segment × List Char :=
  match singleMarks.lookup c, pairedMarks.lookup c with
  | some kind, _ => (mark kind [c], cs)
  | none, some (double, single) => cutPaired c double single cs
  | none, none =>
      if c = '/' then cutSlash cs
      else if c = ' ' ∨ c = '\r' ∨ c = '\t' ∨ c = '\n' then (blank c, cs)
      else if isQuote c then cutString cs
      else if isDigit c then cutNumber c cs
      else if isWordStart c then (word (c :: cs.takeWhile isWordChar), cs.dropWhile isWordChar)
      else (stray c, cs)

theorem text_cutString (cs : List Char) :
    (cutString cs).1.text ++ (cutString cs).2 = Text.Quoted.doubleQuote :: cs := by
  have whole := @List.takeWhile_append_dropWhile _ (!isQuote ·) cs
  unfold cutString
  split
  · simp [text]
  · rename_i c rest h
    have quote : c = Text.Quoted.doubleQuote := by
      have := List.head?_dropWhile_not (!isQuote ·) cs
      rw [h] at this
      simpa [isQuote] using this
    rw [h] at whole
    simp [text, ← quote, whole]

theorem text_cutNumber (c : Char) (cs : List Char) :
    (cutNumber c cs).1.text ++ (cutNumber c cs).2 = c :: cs := by
  have whole := @List.takeWhile_append_dropWhile _ isDigit cs
  unfold cutNumber
  dsimp only
  split
  · rename_i rest h
    have part := @List.takeWhile_append_dropWhile _ isDigit rest
    rw [h] at whole
    split
    · simp [text, whole]
    · rename_i hf
      simp [text, hf, part, whole]
  · simp [text, whole]

theorem text_cut (c : Char) (cs : List Char) : (cut c cs).1.text ++ (cut c cs).2 = c :: cs := by
  unfold cut
  split
  · simp [text]
  · unfold cutPaired
    split <;> simp [text]
  · split
    · subst c
      unfold cutSlash
      split <;> simp [text]
    · split
      · simp [text]
      · split
        · rename_i h
          rw [text_cutString, ← eq_of_beq h]
        · split
          · exact text_cutNumber c cs
          · split <;> simp [text]

theorem text_cut_ne_nil (c : Char) (cs : List Char) : (cut c cs).1.text ≠ [] := by
  unfold cut cutPaired cutSlash cutString cutNumber
  dsimp only
  repeat' split
  all_goals simp [text]

theorem length_cut (c : Char) (cs : List Char) : (cut c cs).2.length ≤ cs.length := by
  have whole := congrArg List.length (text_cut c cs)
  have := List.length_pos_iff.2 (text_cut_ne_nil c cs)
  simp only [List.length_append, List.length_cons] at whole
  omega

end Segment

def segments : List Char → List Segment
  | [] => []
  | c :: cs => (Segment.cut c cs).1 :: segments (Segment.cut c cs).2
termination_by cs => cs.length
decreasing_by exact Nat.lt_succ_of_le (Segment.length_cut c cs)

theorem flatMap_text_segments (cs : List Char) : (segments cs).flatMap Segment.text = cs := by
  fun_induction segments cs with
  | case1 => rfl
  | case2 c cs ih => rw [List.flatMap_cons, ih, Segment.text_cut]

end Reckoner
