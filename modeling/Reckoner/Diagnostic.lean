import Reckoner.Token.Basic

namespace Reckoner

structure Diagnostic where
  line : Int
  message : String
  location : String
deriving DecidableEq

namespace Diagnostic

def report (line : Int) (location message : String) : String :=
  "[line " ++ Number.integer line ++ "] Error" ++ location ++ ": " ++ message

def text (d : Diagnostic) : String := report d.line d.location d.message

def ofLine (line : Int) (message : String) : Diagnostic := ⟨line, message, ""⟩

end Diagnostic

def Token.location (t : Token) : String :=
  if t.kind = .endOfInput then " at end" else " at '" ++ t.lexeme ++ "'"

def Diagnostic.ofToken (t : Token) (message : String) : Diagnostic := ⟨t.line, message, t.location⟩

end Reckoner
