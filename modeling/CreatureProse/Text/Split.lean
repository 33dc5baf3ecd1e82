import CreatureProse.Text.Letter

/-
  This file defines how texts are trimmed and taken apart: at
  blanks, at line ends, and at a chosen character.

  Key definitions include:
    * `trimWhere`
    * `trim`
    * `words`
    * `lines`
    * `splitOnce?`
    * `contains`
-/

namespace CreatureProse.Text

/- Drop the characters of a kind from both ends. -/
def trimWhere
    (drop : Char → Bool)
    (cs : List Char) : List Char :=
  ((cs.dropWhile drop).reverse.dropWhile drop).reverse

/- Drop the blank space around a text. -/
def trim (s : String) : String :=
  String.ofList (trimWhere isBlank s.toList)

/- Drop the blank space in front of a text. -/
def trimStart (s : String) : String :=
  String.ofList (s.toList.dropWhile isBlank)

/-
  The non-empty stretches between the characters of a kind, in
  order; `current` is the stretch being read, in reverse.
-/
def stretches
    (separates : Char → Bool)
    (current : List Char) : List Char → List (List Char)
| [] => if current.isEmpty then [] else [current.reverse]
| c :: cs =>
  if separates c then
    if current.isEmpty then
      stretches separates [] cs
    else
      current.reverse :: stretches separates [] cs
  else
    stretches separates (c :: current) cs

/- The words of a text, parted by blank space. -/
def words (s : String) : List String :=
  (stretches isBlank [] s.toList).map String.ofList

/-
  The lines in `done`, held in reverse, and those of the text
  after them; `current` is the line being read, in reverse. A
  line ends with a line feed, and a carriage return right before
  it belongs to the line end. The end of the text ends a last
  line that is not empty.
-/
def linesFrom
    (current : List Char)
    (done : List String) : List Char → List String
| [] =>
  if current.isEmpty then
    done.reverse
  else
    (String.ofList current.reverse :: done).reverse
| '\n' :: cs =>
  let line :=
    match current with
    | '\r' :: before => before
    | _ => current
  linesFrom [] (String.ofList line.reverse :: done) cs
| c :: cs => linesFrom (c :: current) done cs

/- The lines of a text without their line ends. -/
def lines (s : String) : List String :=
  linesFrom [] [] s.toList

/-
  The two parts of a text around the first character of a kind,
  or nothing when there is no such character.
-/
def splitOnce?
    (separates : Char → Bool)
    (s : String) : Option (String × String) :=
  match s.toList.span (fun c => !separates c) with
  | (_, []) => none
  | (before, _ :: after) =>
    some (String.ofList before, String.ofList after)

/- Whether the characters occur next to each other, in order. -/
def occursIn (part : List Char) : List Char → Bool
| [] => part.isEmpty
| c :: cs => part.isPrefixOf (c :: cs) || occursIn part cs

/- Whether one text occurs inside another. -/
def contains
    (part whole : String) : Bool :=
  occursIn part.toList whole.toList

/- Whether a text begins with another. -/
def startsWith
    (start whole : String) : Bool :=
  start.toList.isPrefixOf whole.toList

end CreatureProse.Text
