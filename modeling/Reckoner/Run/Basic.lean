import Reckoner.Source.Scan
import Reckoner.Grammar.Reading
import Reckoner.Expr.Rendering
import Reckoner.Expr.Evaluation
import Reckoner.Run.Journal

namespace Reckoner

inductive RunFault where
  | scan (diagnostics : List Diagnostic)
  | reading (fault : Grammar.Fault)
  | evaluation (fault : EvalFault)
  /-- The tree could not be noted in the journal. -/
  | rendering (fault : RenderFault)
deriving DecidableEq

def Diagnostic.texts (diagnostics : List Diagnostic) : String :=
  "\n".intercalate (diagnostics.map text)

def RunFault.message : RunFault → String
  | scan diagnostics => Diagnostic.texts diagnostics
  | reading fault => fault.message
  | evaluation fault => fault.message
  | rendering fault => fault.message

def Scan.notes (scan : Scan) : List Note :=
  scan.faults.map .ofDiagnostic ++
    [⟨.debug, .scan, "scanned " ++ Number.integer scan.tokens.length ++ " tokens over " ++
      Number.integer scan.lastLine ++ " lines"⟩]

structure Run where
  result : Except RunFault Value
  diagnostics : List Diagnostic
  journal : List Note

namespace Run

def scanNotes (source : String) (scan : Scan) : List Note :=
  ⟨.debug, .run, "running " ++ Number.integer source.length ++ " characters"⟩ :: scan.notes

/-- The note on a tree, which is made only if it is to be kept. -/
def readingNote (threshold : Nat) (tree : Expr) : Except RenderFault (List Note) :=
  if threshold ≤ Severity.debug.rank then
    match tree.render with
    | .ok text => .ok [⟨.debug, .reading, "parsed " ++ text⟩]
    | .error fault => .error fault
  else .ok []

def evaluationNote (v : Value) : Note := ⟨.debug, .evaluation, "evaluated to " ++ v.text⟩

def complete (threshold : Nat) (failFast : Bool) (source : String)
    (earlier : List Diagnostic) : Run :=
  let scan := Scan.ofString source
  let scanned := earlier ++ scan.faults
  let notes := scanNotes source scan
  if failFast && !scanned.isEmpty then ⟨.error (.scan scanned), scanned, notes⟩
  else
    match Expr.ofTokens scan.tokens scanned with
    | (.error fault, all) =>
        ⟨.error (.reading fault), all,
          notes ++ (all.drop scanned.length).map .ofDiagnostic⟩
    | (.ok tree, all) =>
        match readingNote threshold tree with
        | .error fault => ⟨.error (.rendering fault), all, notes⟩
        | .ok treeNotes =>
            match tree.evaluate with
            | .error fault => ⟨.error (.evaluation fault), all, notes ++ treeNotes⟩
            | .ok v => ⟨.ok v, all, notes ++ treeNotes ++ [evaluationNote v]⟩

end Run

/-- A run with the notes that reach the threshold. -/
def run (threshold : Nat) (failFast : Bool) (source : String) (earlier : List Diagnostic) : Run :=
  let r := Run.complete threshold failFast source earlier
  { r with journal := Note.reaching threshold r.journal }

end Reckoner
