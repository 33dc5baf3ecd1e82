import CreatureProse.Text.Quoted

/-
  This file defines what can go wrong around the reading of
  prose. Prose that is not understood is no failure.

  Key definitions include:
    * `FailureKind`
    * `FailureKind.message`
    * `FailureContext`
    * `FailureContext.text`
    * `Failure`
-/

namespace CreatureProse

/-
  What has gone wrong: a stored value cannot be restored, a file
  cannot be read or written, a command is not known, or anything
  else.
-/
inductive FailureKind where
| storage (detail : String)
| file (detail : String)
| unknownCommand (command : String)
| other (detail : String)
deriving DecidableEq, Repr, Inhabited

/- The wording of a failure. -/
def FailureKind.message : FailureKind → String
| .storage detail => "serialization error: " ++ detail
| .file detail => "i/o error: " ++ detail
| .unknownCommand command => "unknown command: " ++ command
| .other detail => "internal error: " ++ detail

/- Where something has gone wrong, as far as it is known. -/
structure FailureContext where
  source : Option String
  line : Option Nat
  input : Option String
deriving DecidableEq, Repr, Inhabited

namespace FailureContext

/- The source and the line in it; a line needs a source. -/
def place (c : FailureContext) : Option String :=
  c.source.map fun source =>
    match c.line with
    | some n => "at " ++ source ++ ":" ++ toString n
    | none => "at " ++ source

/- The wording of a context. -/
def text (c : FailureContext) : String :=
  let reading :=
    c.input.map fun s => "while reading " ++ Text.quoted s
  " ".intercalate (c.place.toList ++ reading.toList)

end FailureContext

/- A failure and where it has happened. -/
structure Failure where
  kind : FailureKind
  context : Option FailureContext
deriving DecidableEq, Repr, Inhabited

namespace Failure

/- A failure of which the place is not known. -/
def ofKind (kind : FailureKind) : Failure where
  kind := kind
  context := none

/- A command that is not known. -/
def unknownCommand (command : String) : Failure :=
  ofKind (.unknownCommand command)

/- Any other failure. -/
def other (detail : String) : Failure :=
  ofKind (.other detail)

/- The failure at the given place. -/
def within
    (f : Failure)
    (context : FailureContext) : Failure :=
  { f with context := some context }

/- The wording of a failure, without its place. -/
def message (f : Failure) : String :=
  f.kind.message

end Failure

end CreatureProse
