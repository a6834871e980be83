import Reckoner.Console.Invocation

open Reckoner

def environment : IO (String → Option String) := do
  let failFast ← IO.getEnv Settings.failFastVariable
  let level ← IO.getEnv Settings.levelVariable
  return fun name =>
    if name = Settings.failFastVariable then failFast
    else if name = Settings.levelVariable then level
    else none

def contents? (name : String) : IO (Option ByteArray) := do
  try
    return some (← IO.FS.readBinFile name)
  catch _ =>
    return none

/-- A time for a note, in milliseconds since some moment that the system chooses. -/
def now : IO String := return toString (← IO.monoMsNow)

def display (left : Except RunFault Console) : IO UInt32 := do
  match left with
  | .ok c =>
      for entry in c.errors do
        (← IO.getStderr).putStr (entry.text (← now))
      (← IO.getStdout).putStr c.out
      (← IO.getStdout).flush
      return UInt32.ofNat c.exitCode
  | .error _ => return 1

partial def talk (o : RunOptions) : IO UInt32 := do
  let out ← IO.getStdout
  out.putStr Prompt.mark
  out.flush
  let line ← (← IO.getStdin).getLine
  if line.isEmpty then
    out.putStr "\n"
    return 0
  let left := Prompt.round o (String.ofList (line.toList.takeWhile (· ≠ '\n')))
  let _ ← display left
  if left matches .error _ then return 1 else talk o

def main (args : List String) : IO UInt32 := do
  match Invocation.ofArguments? args (← environment) with
  | none => return UInt32.ofNat Invocation.usageError
  | some ⟨options, none⟩ => talk options
  | some ⟨options, some name⟩ =>
      match ← contents? name with
      | none => return UInt32.ofNat Invocation.usageError
      | some bytes => display (Script.ofBytes options name bytes)
