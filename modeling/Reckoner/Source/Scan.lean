import Reckoner.Cursor
import Reckoner.Diagnostic
import Reckoner.Source.Segment

namespace Reckoner

namespace Segment

def token? (line : Int) : Segment → Option Token
  | mark kind cs => some ⟨kind, String.ofList cs, line, none⟩
  | word cs => some ⟨Kind.ofWord (String.ofList cs), String.ofList cs, line, none⟩
  | number whole fraction =>
      let lexeme := String.ofList (text (number whole fraction))
      some ⟨.number, lexeme, line, some (.number (Number.Decimal.ofDigits whole fraction).toFloat)⟩
  | string inner =>
      some ⟨.string, String.ofList inner, line, some (.text (String.ofList inner))⟩
  | _ => none

/-- The fault of a segment that starts on `line`. That a string has no end is known only at the last
line of the source. -/
def fault? (line : Int) : Segment → Option Diagnostic
  | unclosed inner => some (.ofLine (line + inner.count '\n') "Unterminated string.")
  | dangling _ => some (.ofLine line "Number cannot end with '.'.")
  | stray _ => some (.ofLine line "Unexpected character.")
  | _ => none

end Segment

structure Scan where
  tokens : List Token
  faults : List Diagnostic
  lastLine : Int

namespace Scan

/-- The scan that segments amount to, the first of which starts on `line`. A fault costs its segment
and nothing else. -/
def ofSegments (line : Int) : List Segment → Scan
  | [] => ⟨[Token.endOfInput line], [], line⟩
  | s :: rest =>
      let after := ofSegments (line + s.breaks) rest
      ⟨(s.token? line).toList ++ after.tokens, (s.fault? line).toList ++ after.faults, after.lastLine⟩

/-- A source is read through a cursor, and longer lexemes are cut out of it between the places at
which the cursor stood. -/
structure State where
  chars : Cursor Char
  line : Int
  tokens : Array Token
  faults : Array Diagnostic

def between (source : Array Char) (start stop : Nat) : List Char :=
  (source.extract start stop).toList

namespace State

def start (source : List Char) : State := ⟨Cursor.ofList source, 1, #[], #[]⟩

def rest (s : State) : List Char := s.chars.rest

def emit (s : State) (t : Token) : State := { s with tokens := s.tokens.push t }

def report (s : State) (message : String) : State :=
  { s with faults := s.faults.push (.ofLine s.line message) }

def skipWhile (test : Char → Bool) (s : State) : State :=
  { s with chars := s.chars.skipWhile test }

def lineAfter (line : Int) (c : Char) : Int := if c = '\n' then line + 1 else line

def skipString (s : State) : State :=
  match _h : s.chars.nextIf (!Segment.isQuote ·) with
  | (some c, chars) => skipString { s with chars, line := lineAfter s.line c }
  | (none, chars) => { s with chars }
termination_by s.chars.rest.length
decreasing_by
  rw [(Cursor.of_nextIf_some _h).2.1]
  exact Nat.lt_succ_self _

def readString (source : Array Char) (start : Nat) (s : State) : State :=
  let inside := s.skipString
  match inside.chars.next with
  | (some _, chars) =>
      let text := String.ofList (between source (start + 1) (chars.consumed - 1))
      { inside with chars }.emit ⟨.string, text, s.line, some (.text text)⟩
  | (none, chars) => { inside with chars }.report "Unterminated string."

def emitNumber (source : Array Char) (start : Nat) (s : State) : State :=
  let text := between source start s.chars.consumed
  s.emit ⟨.number, String.ofList text, s.line,
    some (.number (Number.Decimal.ofText text).toFloat)⟩

def readNumber (source : Array Char) (start : Nat) (s : State) : State :=
  let whole := s.skipWhile Segment.isDigit
  match whole.chars.nextIf (· == '.') with
  | (none, chars) => { whole with chars }.emitNumber source start
  | (some _, chars) =>
      match chars.nextIf Segment.isDigit with
      | (none, chars) => { whole with chars }.report "Number cannot end with '.'."
      | (some _, chars) => ({ whole with chars }.skipWhile Segment.isDigit).emitNumber source start

def readWord (source : Array Char) (start : Nat) (s : State) : State :=
  let s := s.skipWhile Segment.isWordChar
  let text := String.ofList (between source start s.chars.consumed)
  s.emit ⟨Kind.ofWord text, text, s.line, none⟩

def readPaired (c : Char) (double single : Kind) (s : State) : State :=
  match s.chars.nextIf (· == '=') with
  | (some _, chars) => { s with chars }.emit ⟨double, String.ofList [c, '='], s.line, none⟩
  | (none, chars) => { s with chars }.emit ⟨single, String.ofList [c], s.line, none⟩

def readSlash (s : State) : State :=
  match s.chars.nextIf (· == '/') with
  | (some _, chars) => { s with chars }.skipWhile (· != '\n')
  | (none, chars) => { s with chars }.emit ⟨.slash, "/", s.line, none⟩

def read (source : Array Char) (start : Nat) (c : Char) (s : State) : State :=
  match Segment.singleMarks.lookup c, Segment.pairedMarks.lookup c with
  | some kind, _ => s.emit ⟨kind, String.ofList [c], s.line, none⟩
  | none, some (double, single) => s.readPaired c double single
  | none, none =>
      if c = '/' then s.readSlash
      else if c = ' ' ∨ c = '\r' ∨ c = '\t' then s
      else if c = '\n' then { s with line := s.line + 1 }
      else if Segment.isQuote c then s.readString source start
      else if Segment.isDigit c then s.readNumber source start
      else if Segment.isWordStart c then s.readWord source start
      else s.report "Unexpected character."

theorem length_rest_skipWhile (test : Char → Bool) (s : State) :
    (s.skipWhile test).rest.length ≤ s.rest.length :=
  s.chars.length_rest_skipWhile test

theorem length_rest_skipString (s : State) : s.skipString.rest.length ≤ s.rest.length := by
  fun_induction skipString s with
  | case1 s c chars h ih => exact Nat.le_trans ih (Cursor.length_rest_of_nextIf h)
  | case2 s chars h => exact Cursor.length_rest_of_nextIf h

theorem length_rest_readString (source : Array Char) (start : Nat) (s : State) :
    (s.readString source start).rest.length ≤ s.rest.length := by
  have inside := s.length_rest_skipString
  unfold readString
  dsimp only
  split <;> rename_i h <;> exact Nat.le_trans (Cursor.length_rest_of_next h) inside

theorem length_rest_readNumber (source : Array Char) (start : Nat) (s : State) :
    (s.readNumber source start).rest.length ≤ s.rest.length := by
  have whole := s.length_rest_skipWhile Segment.isDigit
  unfold readNumber
  dsimp only
  split
  · rename_i h
    exact Nat.le_trans (Cursor.length_rest_of_nextIf h) whole
  · rename_i chars h
    have point := Nat.le_trans (Cursor.length_rest_of_nextIf h) whole
    split <;> rename_i chars' h'
    · exact Nat.le_trans (Cursor.length_rest_of_nextIf h') point
    · have first := Nat.le_trans (Cursor.length_rest_of_nextIf h') point
      exact Nat.le_trans (chars'.length_rest_skipWhile Segment.isDigit) first

theorem length_rest_readPaired (c : Char) (double single : Kind) (s : State) :
    (s.readPaired c double single).rest.length ≤ s.rest.length := by
  unfold readPaired
  split <;> rename_i h <;> exact Cursor.length_rest_of_nextIf h

theorem length_rest_readSlash (s : State) : s.readSlash.rest.length ≤ s.rest.length := by
  unfold readSlash
  split
  · rename_i chars h
    exact Nat.le_trans (chars.length_rest_skipWhile _) (Cursor.length_rest_of_nextIf h)
  · rename_i h
    exact Cursor.length_rest_of_nextIf h

theorem length_rest_read (source : Array Char) (start : Nat) (c : Char) (s : State) :
    (s.read source start c).rest.length ≤ s.rest.length := by
  unfold read
  split
  · exact Nat.le_refl _
  · exact s.length_rest_readPaired _ _ _
  · repeat' split
    · exact s.length_rest_readSlash
    · exact Nat.le_refl _
    · exact Nat.le_refl _
    · exact s.length_rest_readString source start
    · exact s.length_rest_readNumber source start
    · exact s.length_rest_skipWhile Segment.isWordChar
    · exact Nat.le_refl _

def finish (source : Array Char) (s : State) : State :=
  match _h : s.chars.next with
  | (some c, chars) => finish source ({ s with chars }.read source s.chars.consumed c)
  | (none, chars) => { s with chars }
termination_by s.rest.length
decreasing_by
  refine Nat.lt_of_le_of_lt (length_rest_read source s.chars.consumed c _) ?_
  rw [rest, rest, (Cursor.of_next_some _h).1]
  exact Nat.lt_succ_self _

end State

def ofString (source : String) : Scan :=
  let s := (State.start source.toList).finish source.toList.toArray
  ⟨(s.tokens.push (Token.endOfInput s.line)).toList, s.faults.toList, s.line⟩

/-- A scan that adds its faults to earlier diagnostics. -/
def onto (earlier : List Diagnostic) (source : String) : Scan :=
  let s := { State.start source.toList with faults := earlier.toArray }.finish source.toList.toArray
  ⟨(s.tokens.push (Token.endOfInput s.line)).toList, s.faults.toList, s.line⟩

end Scan

end Reckoner
