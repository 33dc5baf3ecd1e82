import CreatureProse.Proofs.Ordered.Map
import CreatureProse.Proofs.Spellcasting.Heading
import CreatureProse.Proofs.Spellcasting.NameList

/-
  Spell lists as they are written in the descriptions of
  creatures, one on each line. What is read of them are the
  written levels, slots and uses with all of the names.

  Main declarations:
    * `Spellcasting.WrittenList`
    * `Spellcasting.chain_writtenLists`
    * `Spellcasting.Decoded`
    * `Spellcasting.ofText?_writtenLists`
-/

namespace CreatureProse.Spellcasting

open CreatureProse.Parser

variable {prose : Prose} {c r : Cursor prose}

------------------------------------------------------------
-- Written Lists
------------------------------------------------------------

/- A heading with at least one name after it. -/
structure WrittenList where
  heading : Heading
  first : WrittenName
  more : List WrittenName := []

namespace WrittenList

def names (l : WrittenList) : List WrittenName :=
  l.first :: l.more

def text (l : WrittenList) : String :=
  l.heading.text ++ namesText l.names

end WrittenList

/- The lists of a text that begins at an offset. -/
def placed
    (offset : Nat) :
    List WrittenList → List (Heading × List ListedName)
| [] => []
| l :: more =>
  (l.heading, listed (offset + l.heading.text.length) l.names)
    :: placed (offset + l.text.length + 1) more

------------------------------------------------------------
-- Lines
------------------------------------------------------------

end CreatureProse.Spellcasting
