import CreatureProse.Parser.Character
import CreatureProse.Parser.Scan

/-
  This file defines armor class lines, such as
  12 (natural armor).

  Key definitions include:
    * `ArmorClass`
    * `ArmorClass.parser`
    * `ArmorClass.ofString?`
-/

namespace CreatureProse

/- An armor class and what it comes from. -/
structure ArmorClass where
  value : UInt32
  description : Option String
deriving DecidableEq, Repr

namespace ArmorClass

open CreatureProse.Parser

/- Words in brackets, with single spaces put between them. -/
def descriptionParser : Parser String :=
  (literal "(").ahead
    *> joined " " (word <* spaces.optional).repeated
    <* literal ")"

/- An armor class, with a description if it is made of words. -/
def parser : Parser ArmorClass :=
  (fun value description => ⟨value, description⟩)
    <$> number
    <*> descriptionParser.optional

/- Read an armor class line. -/
def ofString? (s : String) : Option ArmorClass :=
  parser.value? (Prose.ofString s)

end ArmorClass

end CreatureProse
