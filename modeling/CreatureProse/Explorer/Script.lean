import CreatureProse.Explorer.Command

/-
  This file defines scripts: files with a command on each line.
  Blank lines and comments are passed over, and a script ends
  with the first line that quits or fails.

  Key definitions include:
    * `Transcript`
    * `Script.isSkipped`
    * `Script.runLines`
    * `Script.run`
-/

namespace CreatureProse.Explorer

/- The outputs of a script and the failure that ended it. -/
structure Transcript where
  outputs : List String
  failure : Option Failure
deriving DecidableEq, Inhabited

namespace Transcript

/- The transcript with one more output in front. -/
def cons
    (output : String)
    (t : Transcript) : Transcript :=
  { t with outputs := output :: t.outputs }

/- The printed text of outputs, each on lines of its own. -/
def printed (outputs : List String) : String :=
  String.join (outputs.map fun output => output ++ "\n")

end Transcript

namespace Script

/- Whether a line is blank or a comment. -/
def isSkipped (line : String) : Bool :=
  match line.toList.dropWhile Text.isBlank with
  | [] => true
  | c :: _ => c == '#'

/-
  Run the lines of a script, the first of which has the given
  number in the source.
-/
def runLines
    (config : Config)
    (source : String)
    (number : Nat) : List String → Transcript
| [] => { outputs := [], failure := none }
| line :: more =>
  if isSkipped line then
    runLines config source (number + 1) more
  else
    match evaluate config line with
    | .error f =>
      let context : FailureContext :=
        { source := some source, line := some number, input := none }
      { outputs := [], failure := some (f.within context) }
    | .ok .quit => { outputs := [], failure := none }
    | .ok (.output text) =>
      (runLines config source (number + 1) more).cons text

/- Run a script; its lines are numbered from one. -/
def run
    (config : Config)
    (source text : String) : Transcript :=
  runLines config source 1 (Text.lines text)

/- The failure of a script that cannot be read. -/
def unreadable
    (source reason : String) : Failure :=
  .ofKind (.file ("failed to read " ++ source ++ ": " ++ reason))

/- What is said of a script that does not exist. -/
def missing : String :=
  "No such file or directory (os error 2)"

/- What is said of a script whose bytes are no text. -/
def notText : String :=
  "stream did not contain valid UTF-8"

/- Run the script that the bytes of a file hold. -/
def runBytes
    (config : Config)
    (source : String)
    (bytes : ByteArray) : Transcript :=
  match String.fromUTF8? bytes with
  | some text => run config source text
  | none =>
    { outputs := [], failure := some (unreadable source notText) }

end Script

end CreatureProse.Explorer
