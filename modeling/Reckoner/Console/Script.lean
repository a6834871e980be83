import Reckoner.Console.Basic
import Reckoner.Text.Blank
import Reckoner.Text.Line

namespace Reckoner

structure RunOptions where
  failFast : Bool
  threshold : Nat
deriving DecidableEq

variable [Echo]

def Console.ofRun (r : Run) : Except RunFault Console :=
  match r.result with
  | .ok v => .ok ((answered v.text r.diagnostics).withJournal r.journal)
  | .error fault => (stopped fault r.diagnostics).map (withJournal r.journal)

def Console.ofSource (o : RunOptions) (source : String) : Except RunFault Console :=
  ofRun (run o.threshold o.failFast source [])

namespace Script

def unreadable (name : String) : Console :=
  ⟨1, "", [.line ("Error: Could not open file " ++ Text.Quoted.quote name ++
    ": not valid UTF-8 text")]⟩

def ofBytes (o : RunOptions) (name : String) (contents : ByteArray) : Except RunFault Console :=
  match String.fromUTF8? contents with
  | some s => Console.ofSource o (String.ofList (Text.unifyBreaks s.toList))
  | none => .ok (unreadable name)

end Script

namespace Prompt

def mark : String := "> "

def round (o : RunOptions) (line : String) : Except RunFault Console :=
  if line.toList.all Text.isBlank then .ok ⟨0, "", []⟩ else Console.ofSource o line

/-- A talk with one mark before every line, and one more before the end of the input. -/
def rounds (o : RunOptions) : List String → Except RunFault Console
  | [] => .ok ⟨0, mark ++ Console.line "", []⟩
  | line :: rest =>
      match round o line with
      | .error fault => .error fault
      | .ok first =>
          match rounds o rest with
          | .error fault => .error fault
          | .ok later => .ok ⟨0, mark ++ first.out ++ later.out, first.errors ++ later.errors⟩

def ofInput (o : RunOptions) (input : String) : Except RunFault Console :=
  rounds o ((Text.lines input.toList).map String.ofList)

end Prompt

end Reckoner
