import Reckoner.Diagnostic

namespace Reckoner

inductive Severity where
  | debug | info | warning | error | critical
deriving DecidableEq

def Severity.name : Severity → String
  | debug => "DEBUG"
  | info => "INFO"
  | warning => "WARNING"
  | error => "ERROR"
  | critical => "CRITICAL"

def Severity.rank : Severity → Nat
  | debug => 10
  | info => 20
  | warning => 30
  | error => 40
  | critical => 50

inductive Channel where
  | run | scan | diagnostics | reading | evaluation
deriving DecidableEq

def Channel.name : Channel → String
  | run => "sumire.run"
  | scan => "sumire.tokenize"
  | diagnostics => "sumire.helper"
  | reading => "sumire.parse"
  | evaluation => "sumire.interpreter"

structure Note where
  severity : Severity
  channel : Channel
  text : String
deriving DecidableEq

def Note.ofDiagnostic (d : Diagnostic) : Note := ⟨.info, .diagnostics, d.text⟩

def Note.reaching (threshold : Nat) (notes : List Note) : List Note :=
  notes.filter (threshold ≤ ·.severity.rank)

def Note.line (time : String) (n : Note) : String :=
  time ++ " " ++ n.severity.name ++ " " ++ n.channel.name ++ " " ++ n.text ++ "\n"

/-- Where notes go: to a number of handlers, and to the surrounding outlet if it propagates. -/
structure Outlet where
  threshold : Nat
  handlers : Nat
  propagates : Bool
deriving DecidableEq

namespace Outlet

def start : Outlet := ⟨Severity.warning.rank, 1, false⟩

/-- The threshold in force. Zero is none, and the one of the surrounding outlet counts then, which is
that of warnings. -/
def inForce (o : Outlet) : Nat := if o.threshold = 0 then Severity.warning.rank else o.threshold

def thresholds : List (String × Nat) := [
  ("CRITICAL", 50), ("FATAL", 50), ("ERROR", 40), ("WARNING", 30), ("WARN", 30), ("INFO", 20),
  ("DEBUG", 10), ("NOTSET", 0)]

def layout : String := "%(levelname)s:%(name)s:%(message)s"

end Outlet

/-- Two more names are taken, but they stand for other things than thresholds. -/
inductive ThresholdFault where
  /-- The layout of a note. -/
  | layout
  /-- The table of the styles that a layout can have. -/
  | styles
deriving DecidableEq

def ThresholdFault.name : ThresholdFault → String
  | layout => "BASIC_FORMAT"
  | styles => "_STYLES"

def ThresholdFault.message : ThresholdFault → String
  | layout => "Unknown level: " ++ Text.Quoted.quote Outlet.layout
  | styles => "Level not an integer or a valid string: \x7b" ++ ", ".intercalate [
      "'%': (<class 'logging.PercentStyle'>, '%(levelname)s:%(name)s:%(message)s')",
      "'\x7b': (<class 'logging.StrFormatStyle'>, " ++
        "'\x7blevelname\x7d:\x7bname\x7d:\x7bmessage\x7d')",
      "'$': (<class 'logging.StringTemplateStyle'>, " ++
        "'$\x7blevelname\x7d:$\x7bname\x7d:$\x7bmessage\x7d')"] ++ "\x7d"

/-- The threshold for a name in capitals; unknown names stand for warnings. -/
def Outlet.threshold? (name : String) : Except ThresholdFault Nat :=
  match [ThresholdFault.layout, .styles].find? (·.name = name) with
  | some fault => .error fault
  | none => .ok ((thresholds.lookup name).getD Severity.warning.rank)

end Reckoner
