import CreatureProse.Outline.Basic
import CreatureProse.Text.Quoted

/-
  This file defines how values are shown: spread over lines,
  with the parts of a value indented below it.

  Key definitions include:
    * `Outline.display`
    * `display`
-/

namespace CreatureProse

namespace Outline

/- The blank space in front of a line. -/
def indent (depth : Nat) : String :=
  String.ofList (List.replicate (4 * depth) ' ')

/- The shown name of a form: its tag with a capital letter. -/
def capitalized (tag : String) : String :=
  match tag.toList with
  | [] => ""
  | c :: cs => String.ofList (c.toUpper :: cs)

/-
  Parts on lines of their own between an opening and a closing
  mark. The parts are given without their indentation.
-/
def spread
    (depth : Nat)
    (opening closing : String)
    (parts : List String) : String :=
  opening ++ "\n"
    ++ String.join (parts.map fun part =>
        indent (depth + 1) ++ part ++ ",\n")
    ++ indent depth ++ closing

/- Parts between marks, or the marks alone if there are none. -/
def spreadOrEmpty
    (depth : Nat)
    (opening closing : String)
    (parts : List String) : String :=
  if parts.isEmpty then
    opening ++ closing
  else
    spread depth opening closing parts

mutual

/- The text of a value below `depth` others. -/
def displayAt
    (depth : Nat) : Outline → String
| .flag b => if b then "true" else "false"
| .number n => toString n
| .text s => Text.quoted s
| .absent => "None"
| .present o =>
  spread depth "Some(" ")" [displayAt (depth + 1) o]
| .list items =>
  spreadOrEmpty depth "[" "]" (displayItems (depth + 1) items)
| .set items =>
  spreadOrEmpty depth "\x7b" "\x7d"
    (displayItems (depth + 1) items)
| .mapping entries =>
  spreadOrEmpty depth "\x7b" "\x7d"
    (displayEntries (depth + 1) entries)
| .record name fields =>
  spread depth (name ++ " \x7b") "\x7d"
    (displayFields (depth + 1) fields)
| .wrapped name o =>
  spread depth (name ++ "(") ")" [displayAt (depth + 1) o]
| .choice tag items =>
  if items.isEmpty then
    capitalized tag
  else
    spread depth (capitalized tag ++ "(") ")"
      (displayItems (depth + 1) items)
| .choiceRecord tag fields =>
  spread depth (capitalized tag ++ " \x7b") "\x7d"
    (displayFields (depth + 1) fields)

/- The texts of the members of a list. -/
def displayItems
    (depth : Nat) : List Outline → List String
| [] => []
| o :: more => displayAt depth o :: displayItems depth more

/- The texts of keys and values. -/
def displayEntries
    (depth : Nat) : List (Outline × Outline) → List String
| [] => []
| (k, v) :: more =>
  (displayAt depth k ++ ": " ++ displayAt depth v)
    :: displayEntries depth more

/- The texts of named parts. -/
def displayFields
    (depth : Nat) : List (String × Outline) → List String
| [] => []
| (name, o) :: more =>
  (name ++ ": " ++ displayAt depth o)
    :: displayFields depth more

end

/- The text of a value. -/
def display (o : Outline) : String :=
  displayAt 0 o

end Outline

/- The text of a value as it is shown. -/
def display
    {α : Type}
    [Outlined α]
    (a : α) : String :=
  (outline a).display

end CreatureProse
