import Reckoner.Console.Piped
import Reckoner.Console.Script
import Reckoner.Run.Settings

namespace Reckoner

structure Invocation where
  options : RunOptions
  /-- The script to run, or none for the prompt. -/
  file : Option String
deriving DecidableEq

structure Arguments where
  failFast : Option Bool
  level : Option String
  files : List String
deriving DecidableEq

namespace Arguments

def empty : Arguments := ⟨none, none, []⟩

def looksLikeOption (arg : String) : Bool :=
  match arg.toList with
  | '-' :: _ :: _ => true
  | _ => false

def levelOption : String := "--log-level"

def levelValue? (arg : String) : Option String :=
  let start := levelOption.toList ++ ['=']
  if start.isPrefixOf arg.toList then some (String.ofList (arg.toList.drop start.length)) else none

/-- Sorts the arguments out. Options may stand anywhere before `--`, and of two that contradict each
other the last counts; nothing is the answer to an option that is unknown or lacks its value. -/
def ofList? : List String → Arguments → Option Arguments
  | [], a => some a
  | [arg], a =>
      if arg = "--" then some a
      else if arg = "--fail-fast" then some { a with failFast := some true }
      else if arg = "--no-fail-fast" then some { a with failFast := some false }
      else if let some v := levelValue? arg then some { a with level := some v }
      else if looksLikeOption arg then none
      else some { a with files := a.files ++ [arg] }
  | arg :: next :: rest, a =>
      if arg = "--" then some { a with files := a.files ++ next :: rest }
      else if arg = "--fail-fast" then ofList? (next :: rest) { a with failFast := some true }
      else if arg = "--no-fail-fast" then ofList? (next :: rest) { a with failFast := some false }
      else if arg = levelOption then ofList? rest { a with level := some next }
      else if let some v := levelValue? arg then ofList? (next :: rest) { a with level := some v }
      else if looksLikeOption arg then none
      else ofList? (next :: rest) { a with files := a.files ++ [arg] }

end Arguments

namespace Invocation

def choices : List (String × Bool) := [
  ("1", true), ("true", true), ("t", true), ("yes", true), ("y", true), ("on", true),
  ("0", false), ("false", false), ("f", false), ("no", false), ("n", false), ("off", false)]

def levels : List (String × Severity) := [
  ("debug", .debug), ("info", .info), ("warning", .warning), ("error", .error)]

def nonempty? (env : String → Option String) (name : String) : Option String :=
  (env name).filter (· ≠ "")

def failFast? (given : Option Bool) (fromEnvironment : Option String) : Option Bool :=
  match given, fromEnvironment with
  | some b, _ => some b
  | none, some word => choices.lookup (Text.lower (Text.trim word))
  | none, none => some false

def severity? (given fromEnvironment : Option String) : Option Severity :=
  match given.or fromEnvironment with
  | some word => levels.lookup (Text.lower word)
  | none => some .warning

def ofArguments? (args : List String) (env : String → Option String) : Option Invocation :=
  match Arguments.ofList? args Arguments.empty with
  | none => none
  | some a =>
      match failFast? a.failFast (nonempty? env Settings.failFastVariable),
        severity? a.level (nonempty? env Settings.levelVariable), a.files with
      | some b, some s, [] => some ⟨⟨b, s.rank⟩, none⟩
      | some b, some s, [file] => some ⟨⟨b, s.rank⟩, some file⟩
      | _, _, _ => none

def usageError : Nat := 2

inductive Outcome where
  | refused
  | finished (console : Console)
  | broken (fault : RunFault)
deriving DecidableEq

def Outcome.of : Except RunFault Console → Outcome
  | .ok console => finished console
  | .error fault => broken fault

/-- Carries out what the arguments ask for, where `contents` says what a file of a given name holds
and `input` is what can be read at the prompt. -/
def outcome (args : List String) (env : String → Option String)
    (contents : String → Option ByteArray) (input : String) : Outcome :=
  match ofArguments? args env with
  | none => .refused
  | some ⟨options, none⟩ => .of (Prompt.ofInput options input)
  | some ⟨options, some name⟩ =>
      match contents name with
      | none => .refused
      | some bytes => .of (Script.ofBytes options name bytes)

end Invocation

end Reckoner
