import Reshape.CommandLine

namespace Reshape.CommandLine

/-- Opens the file under a path, if the operating system lets it. -/
def openFile (path : String) (mode : IO.FS.Mode) : IO (Option IO.FS.Handle) := do
  try
    let handle ← IO.FS.Handle.mk path mode
    return some handle
  catch _ => return none

/-- What the operating system has under a path. -/
def fetch (path : String) : IO Found := do
  match ← openFile path .read with
  | none => return .missing
  | some handle =>
    try
      let content ← handle.readToEnd
      return .text content
    catch _ => return .unreadable

def fetchInput : IO (Option String) := do
  try
    let text ← (← IO.getStdin).readToEnd
    return some text
  catch _ => return none

def succeeds (act : IO Unit) : IO Bool := do
  try
    act
    return true
  catch _ => return false

/-- Carries out the steps of a program; `out` is where it writes. -/
def Program.perform {α : Type} (out : IO.FS.Stream) : Program α → IO (Except Failure α)
  | done result => return .ok result
  | fail failure => return .error failure
  | read path next => do
    let found ← fetch path
    (next found).perform out
  | input next => do
    let text ← fetchInput
    (next text).perform out
  | create path next => do
    match ← openFile path .write with
    | some file => next.perform (.ofHandle file)
    | none => return .error (.creating path)
  | write part text next => do
    if ← succeeds (out.putStr text) then next.perform out
    else return .error (.writing part)
  | flush next => do
    if ← succeeds out.flush then next.perform out
    else return .error (.writing .flush)

/-- Tells a failure on the standard error stream. -/
def report (failure : Failure) : IO UInt32 := do
  let stderr ← IO.getStderr
  stderr.putStrLn ("Error: " ++ failure.headline)
  match failure.cause? with
  | some cause => stderr.putStrLn ("\nCaused by:\n    " ++ cause)
  | none => pure ()
  return failure.code.toUInt32

def usage : String :=
  "Usage: reshape [-v] transform|check --spec SPEC [OPTIONS] [INPUT]"

end Reshape.CommandLine

open Reshape CommandLine in
/-- Runs the program with its arguments. -/
def main (args : List String) : IO UInt32 := do
  match parse args with
  | .error .refused =>
    (← IO.getStderr).putStrLn usage
    return 2
  | .error .page =>
    (← IO.getStdout).putStrLn usage
    return 0
  | .ok command =>
    match ← command.program.perform (← IO.getStdout) with
    | .error failure => report failure
    | .ok () => return 0
