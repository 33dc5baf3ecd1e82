import CreatureProse.Explorer.Script

/-
  This file defines sessions, in which lines are entered one
  after the other. A line that fails does not end a session.

  Key definitions include:
    * `Entered`
    * `Step`
    * `Session.step`
    * `Session`
    * `Session.run`
-/

namespace CreatureProse.Explorer

/- What comes from the one who enters lines. -/
inductive Entered where
| line (text : String)
| interrupt
| broken (failure : Failure)
deriving DecidableEq, Inhabited

/-
  What happens next: nothing, an output, a complaint, or the end
  of the session, which a broken entry brings about at once.
-/
inductive Step where
| ignore
| output (text : String)
| complain (failure : Failure)
| quit
| stop (failure : Failure)
deriving DecidableEq, Inhabited

/- The course of a session. -/
structure Session where
  outputs : List String
  complaints : List Failure
  history : List String
  failure : Option Failure
deriving DecidableEq, Inhabited

namespace Session

/- What is said when a session begins. -/
def banner : String :=
  "\x1b[1mBestiary\x1b[0m grammar explorer 0.1.0\nType :help for commands, Ctrl+D to exit.\n"

/- What is said when a session has come to its end. -/
def farewell : String :=
  "\nGoodbye!"

/- The wording of a complaint. -/
def complaint (f : Failure) : String :=
  Command.colored "31" ("Error: " ++ f.message)

/- Whether what is entered is a line that is not blank. -/
def isRecorded : Entered → Bool
| .line text => !text.toList.all Text.isBlank
| _ => false

/- What happens next when something is entered. -/
def step
    (config : Config)
    (e : Entered) : Step :=
  match e with
  | .interrupt => .ignore
  | .broken failure => .stop failure
  | .line text =>
    if isRecorded e then
      match evaluate config text with
      | .ok (.output text) => .output text
      | .ok .quit => .quit
      | .error failure => .complain failure
    else
      .ignore

/- The session that is over. -/
def ended : Session where
  outputs := [farewell]
  complaints := []
  history := []
  failure := none

/- The session that was broken off. -/
def broken (failure : Failure) : Session where
  outputs := []
  complaints := []
  history := []
  failure := some failure

/- The session with a line before those of its history. -/
def recording
    (e : Entered)
    (s : Session) : Session :=
  match e with
  | .line text =>
    if isRecorded e then
      { s with history := text :: s.history }
    else
      s
  | _ => s

/- The course of a session in which the given things are entered. -/
def runEntered
    (config : Config) : List Entered → Session
| [] => ended
| e :: more =>
  recording e
    (match step config e with
    | .ignore => runEntered config more
    | .output text =>
      let s := runEntered config more
      { s with outputs := text :: s.outputs }
    | .complain failure =>
      let s := runEntered config more
      { s with complaints := failure :: s.complaints }
    | .quit => ended
    | .stop failure => broken failure)

/- The course of a session, with a banner if it is wanted. -/
def run
    (config : Config)
    (showBanner : Bool)
    (entered : List Entered) : Session :=
  let s := runEntered config entered
  if showBanner then
    { s with outputs := banner :: s.outputs }
  else
    s

/- The text that a session prints. -/
def printed (s : Session) : String :=
  Transcript.printed s.outputs

/- The text that a session prints for its complaints. -/
def printedComplaints (s : Session) : String :=
  Transcript.printed (s.complaints.map complaint)

end Session

end CreatureProse.Explorer
