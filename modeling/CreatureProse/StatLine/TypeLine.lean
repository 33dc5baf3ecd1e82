import CreatureProse.Creature.Alignment
import CreatureProse.Creature.Size
import CreatureProse.Parser.Character

/-
  This file defines type lines, such as
  M humanoid (gnoll), chaotic neutral. The components of a line
  come in any order, and those that are not understood are left
  out.

  Key definitions include:
    * `TypeLine`
    * `TypeLine.Component`
    * `TypeLine.parser`
    * `TypeLine.ofString?`
-/

namespace CreatureProse

/- What a type line tells of a creature. -/
structure TypeLine where
  size : Option CreatureSize
  creatureType : String
  subtype : Option String
  alignment : Option Alignment
deriving DecidableEq, Repr

namespace TypeLine

open CreatureProse.Parser

------------------------------------------------------------
-- Components
------------------------------------------------------------

/- What one component of a line can tell. -/
structure Component where
  size : Option CreatureSize
  creatureType : Option String
  subtype : Option String
  alignment : Option Alignment
deriving DecidableEq, Repr

namespace Component

/- A component that is not understood tells nothing. -/
def none : Component where
  size := Option.none
  creatureType := Option.none
  subtype := Option.none
  alignment := Option.none

/- What two components tell; the first one has precedence. -/
def orElse
    (first second : Component) : Component where
  size := first.size <|> second.size
  creatureType := first.creatureType <|> second.creatureType
  subtype := first.subtype <|> second.subtype
  alignment := first.alignment <|> second.alignment

end Component

------------------------------------------------------------
-- Grammar
------------------------------------------------------------

/- The text of a component, up to the next comma. -/
def componentText : Parser String :=
  (character (· != ',')).repeated1.textOf

/- A comma with spaces after it, or the end of the line. -/
def endOfComponent : Parser Unit :=
  (char ',' <* (char ' ').repeated).as () <|> atEnd

/- An alignment phrase. -/
def alignmentParser : Parser Component :=
  componentText.filterMap fun s =>
    (Alignment.ofPhrase? s).map fun alignment =>
      { Component.none with alignment := some alignment }

/- A size before a creature type. -/
def sizeParser : Parser CreatureSize :=
  (word <* spaces).filterMap CreatureSize.ofName?

/- A creature type with an optional size and subtype. -/
def sizeAndType : Parser Component :=
  (fun size creatureType subtype =>
    { size
      creatureType := some creatureType
      subtype
      alignment := none })
    <$> sizeParser.optional
    <*> word
    <*> (bracketed.padded spaces).optional

/- A component that is understood as a whole. -/
def recognized : Parser Component :=
  (alignmentParser <|> sizeAndType) <* endOfComponent

/- A component that is left out. -/
def skipped : Parser Component :=
  (componentText <* endOfComponent).as Component.none

/- The line that components make, which needs a type. -/
def ofComponents? (components : List Component) : Option TypeLine :=
  let told := components.foldl Component.orElse Component.none
  told.creatureType.map fun creatureType =>
    { size := told.size
      creatureType
      subtype := told.subtype
      alignment := told.alignment }

/- A type line. -/
def parser : Parser TypeLine :=
  (recognized <|> skipped).repeated.filterMap ofComponents?

/- Read a type line. -/
def ofString? (s : String) : Option TypeLine :=
  parser.value? (Prose.ofString s)

end TypeLine

end CreatureProse
