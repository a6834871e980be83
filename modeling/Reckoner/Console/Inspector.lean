import Reckoner.Console.Basic
import Reckoner.Run.Settings

namespace Reckoner.Inspector

def threshold? (env : String → Option String) : Except ThresholdFault Nat :=
  (Outlet.start.configure (Settings.ofEnvironment env).level).map Outlet.inForce

variable [Echo]

def tokens (source : String) (threshold : Nat := Outlet.start.inForce) : Console :=
  let scan := Scan.ofString source
  Console.withJournal (Note.reaching threshold scan.notes)
    ⟨Console.codeFor scan.faults, Console.lines (scan.tokens.map Token.text),
      Console.diagnosticLines scan.faults⟩

/-- A single expression, scanned and read. What comes of its tree is left to `shown`, with the
diagnostics and the notes up to there. -/
def reading (source : String) (threshold : Nat)
    (shown : Expr → List Diagnostic → List Note → Except RunFault Console) :
    Except RunFault Console :=
  let scan := Scan.ofString source
  match Expr.ofTokens scan.tokens scan.faults with
  | (.error fault, ds) =>
      let reported := (ds.drop scan.faults.length).map Note.ofDiagnostic
      (Console.stopped (.reading fault) ds).map
        (Console.withJournal (Note.reaching threshold (scan.notes ++ reported)))
  | (.ok e, ds) =>
      match Run.readingNote threshold e with
      | .error fault => .error (.rendering fault)
      | .ok notes => shown e ds (scan.notes ++ notes)

def tree (source : String) (threshold : Nat := Outlet.start.inForce) : Except RunFault Console :=
  reading source threshold fun e ds notes =>
    match e.render with
    | .error fault => .error (.rendering fault)
    | .ok text => .ok ((Console.answered text ds).withJournal (Note.reaching threshold notes))

def value (source : String) (threshold : Nat := Outlet.start.inForce) : Except RunFault Console :=
  reading source threshold fun e ds notes =>
    match e.evaluate with
    | .error fault =>
        (Console.stopped (.evaluation fault) ds).map
          (Console.withJournal (Note.reaching threshold notes))
    | .ok v =>
        .ok ((Console.answered v.text ds).withJournal
          (Note.reaching threshold (notes ++ [Run.evaluationNote v])))

end Reckoner.Inspector
