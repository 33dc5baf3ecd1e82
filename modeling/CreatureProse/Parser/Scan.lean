import CreatureProse.Parser.Repeat

/-
  This file defines how a text is searched for what a parser
  reads: the first place ahead, and all places.

  Key definitions include:
    * `Parser.seek`
    * `Parser.ahead`
    * `Parser.occurrences`
-/

namespace CreatureProse.Parser

variable {α : Type} {prose : Prose}

/-
  The first position from `c` on, the end included, at which a
  parser reads something, with its answer there.
-/
def seekFrom
    (p : Parser α)
    (c : Cursor prose) :
    Option (Cursor prose × α × Cursor prose) :=
  match p.run c with
  | some (a, rest) => some (c, a, rest)
  | none =>
    match _h : c.next? with
    | some (_, following) => p.seekFrom following
    | none => none
termination_by c.remaining
decreasing_by exact Cursor.next?_remaining _h

/-
  Skip ahead to the first place where a parser reads something.
  The value comes with the text that was skipped.
-/
def seek (p : Parser α) : Parser (String × α) where
  run c :=
    match p.seekFrom c with
    | none => none
    | some (found, a, rest) =>
      some ((c.textUntil found, a), rest)

/- Skip ahead to where a parser reads something. -/
def ahead (p : Parser α) : Parser α :=
  Prod.snd <$> p.seek

/-
  All that a parser reads from a position on, from left to
  right. Each search begins where the last one ended.
-/
def occurrences
    (p : Parser α)
    (c : Cursor prose) : List (Located α) :=
  (p.located.ahead.repeatFrom c []).1

/- All that a parser reads in a text, from left to right. -/
def allIn
    (p : Parser α)
    (prose : Prose) : List (Located α) :=
  p.occurrences (Cursor.start prose)

end CreatureProse.Parser
