import CreatureProse.Explorer.Session

/-
  This file defines the command line of the explorer: its
  options, and what is printed when scripts are run and then
  lines are entered.

  Key definitions include:
    * `Options`
    * `Options.ofArguments`
    * `Plan`
    * `Plan.ofArguments`
    * `Result`
    * `run`
-/

namespace CreatureProse.Explorer.CommandLine

------------------------------------------------------------
-- Options
------------------------------------------------------------

/- What is asked for on the command line. -/
structure Options where
  files : List String
  batch : Bool
  help : Bool
  version : Bool
  trace : Bool
deriving DecidableEq, Repr, Inhabited

namespace Options

/- Nothing is asked for. -/
def none : Options where
  files := []
  batch := false
  help := false
  version := false
  trace := false

/- The options with one more argument. -/
def add
    (o : Options)
    (argument : String) : Except String Options :=
  match argument with
  | "-h" | "--help" => .ok { o with help := true }
  | "-V" | "--version" => .ok { o with version := true }
  | "-b" | "--batch" => .ok { o with batch := true }
  | "--trace" => .ok { o with trace := true }
  | _ =>
    if Text.startsWith "-" argument then
      .error ("unknown option: " ++ argument)
    else
      .ok { o with files := o.files ++ [argument] }

/- The options of a list of arguments. -/
def ofArguments (arguments : List String) : Except String Options :=
  arguments.foldlM add none

end Options

------------------------------------------------------------
-- Plans
------------------------------------------------------------

/- How the program can be used. -/
def usage : String :=
  "\n".intercalate [
    "\x1b[1mBestiary\x1b[0m - Stat block grammar explorer",
    "",
    "\x1b[1mUSAGE:\x1b[0m",
    "    bestiary [OPTIONS] [FILES...]",
    "",
    "\x1b[1mARGUMENTS:\x1b[0m",
    "    [FILES...]    Files of explorer commands to run before starting the REPL",
    "",
    "\x1b[1mOPTIONS:\x1b[0m",
    "    -h, --help         Print help information",
    "    -V, --version      Print version information",
    "    -b, --batch        Run files and exit (no REPL)",
    "    --trace            Log grammar tracing to stderr (ignores RUST_LOG)",
    "",
    "\x1b[1mEXAMPLES:\x1b[0m",
    "    bestiary                      Start the explorer",
    "    bestiary -b goblin.txt        Parse every line of goblin.txt and exit",
    "    bestiary --trace              Start with grammar tracing",
    "",
    "\x1b[1mREPL COMMANDS:\x1b[0m",
    "    :action TEXT                  Parse an action",
    "    :feature NAME | DESCRIPTION   Parse a feature",
    "    :movement, :ac, :hp, :type    Parse an auxiliary stat line",
    "    :dice TEXT                    Find dice expressions",
    "    :help, :quit",
    "    Ctrl+D                        Exit"]

/- The name of the program and its version. -/
def versionText : String :=
  "bestiary 0.1.0"

/-
  What is to be done: refuse the arguments, print a text, or run
  scripts and perhaps a session after them.
-/
inductive Plan where
| refuse (reason : String)
| print (text : String)
| explore (files : List String) (session : Bool)
deriving DecidableEq, Repr, Inhabited

/-
  What is to be done for a list of arguments. Help is preferred
  to the version, and either to anything else.
-/
def Plan.ofArguments (arguments : List String) : Plan :=
  match Options.ofArguments arguments with
  | .error reason => .refuse reason
  | .ok o =>
    if o.help then
      .print usage
    else if o.version then
      .print versionText
    else
      .explore o.files (!o.batch)

------------------------------------------------------------
-- Results
------------------------------------------------------------

/- What is printed, and whether all has gone well. -/
structure Result where
  succeeded : Bool
  printed : String
  complaints : String
deriving DecidableEq, Repr, Inhabited

/- The end of a run that has gone wrong. -/
def Result.failed (reason : String) : Result where
  succeeded := false
  printed := ""
  complaints := Command.colored "31" ("Error: " ++ reason) ++ "\n"

/- The result with more text printed in front. -/
def Result.after
    (text : String)
    (r : Result) : Result :=
  { r with printed := text ++ r.printed }

/- The result of a session. -/
def ofSession (s : Session) : Result :=
  match s.failure with
  | none =>
    { succeeded := true
      printed := s.printed
      complaints := s.printedComplaints }
  | some f =>
    { succeeded := false
      printed := s.printed
      complaints :=
        s.printedComplaints ++ (Result.failed f.message).complaints }

/- Run scripts, up to the first that fails, and then go on. -/
def runScripts
    (config : Config)
    (script : String → Transcript)
    (goOn : Result) : List String → Result
| [] => goOn
| file :: more =>
  let t := script file
  match t.failure with
  | some f =>
    (Result.failed f.message).after (Transcript.printed t.outputs)
  | none =>
    (runScripts config script goOn more).after
      (Transcript.printed t.outputs)

/-
  The result of a run. A session that follows scripts begins
  without a banner.
-/
def run
    (config : Config)
    (script : String → Transcript)
    (entered : List Entered)
    (arguments : List String) : Result :=
  match Plan.ofArguments arguments with
  | .refuse reason => .failed reason
  | .print text =>
    { succeeded := true, printed := text ++ "\n", complaints := "" }
  | .explore files session =>
    let goOn :=
      if session then
        ofSession (Session.run config files.isEmpty entered)
      else
        { succeeded := true, printed := "", complaints := "" }
    runScripts config script goOn files

end CreatureProse.Explorer.CommandLine
