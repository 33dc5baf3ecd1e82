import CreatureProse.Parser.Character

/-
  This file defines lists of labeled modifiers, such as
  Dex +1, Cha +5.

  Key definitions include:
    * `ModifierList`
    * `ModifierList.parser`
    * `ModifierList.ofString`
-/

namespace CreatureProse

/- Labels and their modifiers in the order of the line. -/
abbrev ModifierList :=
  List (String × Int32)

namespace ModifierList

open CreatureProse.Parser

/- A label, its modifier, and the comma before the next one. -/
def entryParser : Parser (String × Int32) :=
  (fun label modifier => (label, modifier))
    <$> (word <* spaces)
    <*> (signedNumber <* (literal ", ").optional)

/- Entries one after the other. -/
def parser : Parser ModifierList :=
  entryParser.repeated

/- Read a list of modifiers. -/
def ofString (s : String) : ModifierList :=
  (parser.value? (Prose.ofString s)).getD []

end ModifierList

end CreatureProse
