import CreatureProse.Text.Cased
import CreatureProse.Text.Lowercase

/-
  This file defines the two ways in which upper and lower case
  are put on a par: character by character, which keeps every
  offset, and for a whole text, which follows the full Unicode
  rules.

  Key definitions include:
    * `lowercaseOf`
    * `foldChar`
    * `lowercase`
-/

namespace CreatureProse.Text

------------------------------------------------------------
-- Single Characters
------------------------------------------------------------

/-
  The distance from a character to its lowercase form, found in
  the run that holds it; zero when no run does.
-/
def lowercaseShift (c : Char) : Int :=
  match lowercaseRuns.find? (fun (low, high, step, _) =>
      low ≤ c.toNat && c.toNat ≤ high &&
        (c.toNat - low) % step == 0) with
  | some (_, _, _, shift) => shift
  | none => 0

/-
  The lowercase form of a character taken alone. The capital I
  with a dot above is the only character whose lowercase form
  is more than one character.
-/
def lowercaseOf (c : Char) : List Char :=
  if c.toNat < 128 then
    [c.toLower]
  else if c = 'İ' then
    ['i', '\u0307']
  else
    [Char.ofNat (c.toNat + lowercaseShift c).toNat]

/-
  The case-folded form of a character. It is always one
  character, so that an offset into a folded text is an offset
  into the text itself: a character whose lowercase form is
  longer stays as it is.
-/
def foldChar (c : Char) : Char :=
  match lowercaseOf c with
  | [d] => d
  | _ => c

------------------------------------------------------------
-- Whole Texts
------------------------------------------------------------

/-
  Whether the nearest character that is not passed over has a
  case.
-/
def casedNext (cs : List Char) : Bool :=
  match cs.dropWhile caseIgnorable.contains with
  | c :: _ => cased.contains c
  | [] => false

/-
  The lowercase form of the characters that follow `before`,
  which is held in reverse. A capital sigma at the end of a word
  becomes the final small sigma.
-/
def lowercaseFrom
    (before : List Char) : List Char → List Char
| [] => []
| c :: rest =>
  let here :=
    if c = 'Σ' then
      if casedNext before && !casedNext rest then ['ς'] else ['σ']
    else
      lowercaseOf c
  here ++ lowercaseFrom (c :: before) rest

/- The lowercase form of a text. -/
def lowercase (s : String) : String :=
  String.ofList (lowercaseFrom [] s.toList)

end CreatureProse.Text
