import CreatureProse.Explorer.CommandLine

/-
  This file defines the program that is run from the command
  line. It reads files and lines and prints; what it prints is
  decided by `Script` and `Session`.

  Key definitions include:
    * `main`
-/

namespace CreatureProse.Explorer

/- What is shown in front of a line that is to be entered. -/
def prompt : String :=
  "bestiary> "

/- The line without its line end. -/
def withoutLineEnd (line : String) : String :=
  match Text.lines line with
  | [text] => text
  | _ => ""

/- Print the failure that ends the program. -/
def report (f : Failure) : IO UInt32 := do
  IO.eprintln (Session.complaint f)
  return 1

/- Run a script and print its outputs. -/
def runScriptFile (file : String) : IO (Option Failure) := do
  let t ←
    try
      let bytes ← IO.FS.readBinFile file
      pure (Script.runBytes Config.standard file bytes)
    catch e =>
      let reason :=
        match e with
        | .noFileOrDirectory .. => Script.missing
        | _ => toString e
      pure
        { outputs := []
          failure := some (Script.unreadable file reason) }
  for output in t.outputs do
    IO.println output
  return t.failure

/- Read one line; nothing at the end of the input. -/
def enter : IO (Option Entered) := do
  let stdin ← IO.getStdin
  if ← stdin.isTty then
    IO.print prompt
    (← IO.getStdout).flush
  try
    let line ← stdin.getLine
    if line.isEmpty then
      return none
    else
      return some (.line (withoutLineEnd line))
  catch e =>
    return some (.broken (.other (toString e)))

/- Read lines and answer them until the session is over. -/
partial def converse : IO UInt32 := do
  match ← enter with
  | none =>
    IO.println Session.farewell
    return 0
  | some e =>
    match Session.step Config.standard e with
    | .ignore => converse
    | .output text =>
      IO.println text
      converse
    | .complain failure =>
      IO.eprintln (Session.complaint failure)
      converse
    | .quit =>
      IO.println Session.farewell
      return 0
    | .stop failure => report failure

/- Run scripts in order, up to the first that fails. -/
def runScriptFiles : List String → IO (Option Failure)
| [] => return none
| file :: more => do
  match ← runScriptFile file with
  | some f => return some f
  | none => runScriptFiles more

end CreatureProse.Explorer

open CreatureProse.Explorer

/- The program. -/
def main (arguments : List String) : IO UInt32 := do
  match CommandLine.Plan.ofArguments arguments with
  | .refuse reason =>
    IO.eprint (CommandLine.Result.failed reason).complaints
    return 1
  | .print text =>
    IO.println text
    return 0
  | .explore files session =>
    match ← runScriptFiles files with
    | some f => report f
    | none =>
      if session then
        if files.isEmpty then
          IO.println Session.banner
        converse
      else
        return 0
