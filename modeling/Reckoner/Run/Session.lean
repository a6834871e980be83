import Reckoner.Run.Basic

namespace Reckoner.Session

inductive Step where
  | run (source : String) (failFast : Bool)
  | scan (source : String)
  | read (source : String)
  | readTokens (tokens : List Token)
  | report (line : Int) (message : String)
  | reportToken (token : Token) (message : String)
  | state

inductive Answer where
  | value (result : Except RunFault Value)
  | kinds (kinds : List Kind)
  | tree (result : Except Grammar.Fault Expr)
  | reported (diagnostic : Diagnostic)
  | reportedToken (diagnostic : Diagnostic)
  | state

def answer (earlier : List Diagnostic) : Step → Answer × List Diagnostic
  | .run source failFast =>
      let r := Reckoner.run Severity.warning.rank failFast source earlier
      (.value r.result, r.diagnostics)
  | .scan source =>
      let scan := Scan.onto earlier source
      (.kinds (scan.tokens.map (·.kind)), scan.faults)
  | .read source =>
      let scan := Scan.onto earlier source
      let (result, all) := Expr.ofTokens scan.tokens scan.faults
      (.tree result, all)
  | .readTokens tokens =>
      let (result, all) := Expr.ofTokens tokens earlier
      (.tree result, all)
  | .report line message =>
      let d := Diagnostic.ofLine line message
      (.reported d, earlier ++ [d])
  | .reportToken token message =>
      let d := Diagnostic.ofToken token message
      (.reportedToken d, earlier ++ [d])
  | .state => (.state, earlier)

def answers (earlier : List Diagnostic) : List Step → List (Answer × List Diagnostic)
  | [] => []
  | s :: rest => answer earlier s :: answers (answer earlier s).2 rest

def after (earlier : List Diagnostic) : List Step → List Diagnostic
  | [] => earlier
  | s :: rest => after (answer earlier s).2 rest

def Step.failsFast : Step → Bool
  | run _ failFast => failFast
  | _ => false

end Reckoner.Session
