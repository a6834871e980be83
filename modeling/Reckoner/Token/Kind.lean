namespace Reckoner

inductive Kind where
  | leftParen | rightParen | leftBrace | rightBrace
  | comma | dot | minus | plus | semicolon | slash | star
  | bang | bangEqual | equal | equalEqual
  | greater | greaterEqual | less | lessEqual
  | identifier | string | number
  | andWord | classWord | elseWord | falseWord | funWord | forWord | ifWord | nilWord | orWord
  | printWord | returnWord | superWord | thisWord | trueWord | varWord | whileWord
  | endOfInput
deriving DecidableEq, Repr

namespace Kind

def names : List (Kind × String) := [
  (leftParen, "LeftParen"), (rightParen, "RightParen"), (leftBrace, "LeftBrace"),
  (rightBrace, "RightBrace"), (comma, "Comma"), (dot, "Dot"), (minus, "Minus"), (plus, "Plus"),
  (semicolon, "SemiColon"), (slash, "Slash"), (star, "Star"), (bang, "Bang"),
  (bangEqual, "BangEqual"), (equal, "Equal"), (equalEqual, "EqualEqual"), (greater, "Greater"),
  (greaterEqual, "GreaterEqual"), (less, "Less"), (lessEqual, "LessEqual"),
  (identifier, "Identifier"), (string, "STRING"), (number, "Number"), (andWord, "And"),
  (classWord, "Class"), (elseWord, "Else"), (falseWord, "FALSE"), (funWord, "Fun"),
  (forWord, "For"), (ifWord, "If"), (nilWord, "Nil"), (orWord, "Or"), (printWord, "Print"),
  (returnWord, "Return"), (superWord, "Super"), (thisWord, "This"), (trueWord, "TRUE"),
  (varWord, "Var"), (whileWord, "While"), (endOfInput, "EOF")]

def name (k : Kind) : String := (names.lookup k).getD ""

def ofName? (s : String) : Option Kind := (names.find? (·.2 == s)).map (·.1)

def ordinal (k : Kind) : Nat := names.findIdx (·.1 == k) + 1

theorem ofName?_name (k : Kind) : ofName? k.name = some k := by
  cases k <;> decide

theorem name_inj {j k : Kind} : j.name = k.name ↔ j = k := by
  refine ⟨fun h => ?_, fun h => h ▸ rfl⟩
  have := congrArg ofName? h
  rwa [ofName?_name, ofName?_name, Option.some_inj] at this

def words : List (String × Kind) := [
  ("and", andWord), ("class", classWord), ("else", elseWord), ("false", falseWord),
  ("for", forWord), ("fun", funWord), ("if", ifWord), ("nil", nilWord), ("or", orWord),
  ("print", printWord), ("return", returnWord), ("super", superWord), ("this", thisWord),
  ("true", trueWord), ("var", varWord), ("while", whileWord)]

def ofWord (s : String) : Kind := (words.lookup s).getD identifier

def isLiteral (k : Kind) : Bool :=
  k matches number | string | trueWord | falseWord | nilWord

/-- Whether a token of this kind looks like the start of an operand. An identifier does, although
no expression holds one. -/
def startsOperand (k : Kind) : Bool :=
  k.isLiteral || k matches leftParen | identifier

end Kind

end Reckoner
