import Reckoner.Run.Basic

namespace Reckoner

/-- The library that writes lines. On a stream that is no terminal it leaves colour sequences out of
them, and these begin with an escape character. -/
class Echo where
  strip : String → String
  strip_plain {s : String} : '\x1b' ∉ s.toList → strip s = s

namespace Console

/-- What comes on the error output: a line of the program, or a note of the journal, which its handler
writes with the time in front. -/
inductive Entry where
  | line (text : String)
  | note (note : Note)
deriving DecidableEq

end Console

structure Console where
  exitCode : Nat
  out : String
  errors : List Console.Entry
deriving DecidableEq

namespace Console

def dataError : Nat := 65

def evaluationError : Nat := 70

def diagnosticLines (ds : List Diagnostic) : List Entry := ds.map (.line ·.text)

/-- The exit code where an answer was found: diagnostics alone make it a fault of the source. -/
def codeFor (ds : List Diagnostic) : Nat := if ds.isEmpty then 0 else dataError

/-- What is left after a fault. Faults of the scan and the reading are among the diagnostics; one of
the evaluation comes after them. The faults that no source leads to are left to the caller. -/
def stopped (fault : RunFault) (ds : List Diagnostic) : Except RunFault Console :=
  match fault with
  | .scan _ | .reading (.refused _ _) => .ok ⟨dataError, "", diagnosticLines ds⟩
  | .evaluation f =>
      if f.blame?.isSome then .ok ⟨evaluationError, "", diagnosticLines ds ++ [.line f.message]⟩
      else .error fault
  | _ => .error fault

def withJournal (journal : List Note) (c : Console) : Console :=
  { c with errors := journal.map .note ++ c.errors }

variable [Echo]

def line (s : String) : String := Echo.strip s ++ "\n"

def lines (texts : List String) : String := String.join (texts.map line)

def answered (answer : String) (ds : List Diagnostic) : Console :=
  ⟨codeFor ds, line answer, diagnosticLines ds⟩

def Entry.text (time : String) : Entry → String
  | line text => Console.line text
  | note n => n.line time

def Entry.written? : Entry → Option String
  | line text => some text
  | note _ => none

def err (c : Console) : String := lines (c.errors.filterMap Entry.written?)

end Console

end Reckoner
