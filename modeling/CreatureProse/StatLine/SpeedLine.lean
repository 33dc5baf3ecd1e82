import CreatureProse.Creature.Speed
import CreatureProse.Parser.Character
import CreatureProse.Parser.Scan

/-
  This file defines speed lines, such as
  40 ft., burrow 40 ft., fly 80 ft.

  Key definitions include:
    * `Movement.speedParser`
    * `Movement.parser`
    * `Movement.ofString`
-/

namespace CreatureProse.Movement

open CreatureProse.Parser

/- A comma between spaces, or the end of the line. -/
def separator : Parser Unit :=
  ((literal ",").padded spaces).as () <|> atEnd

/- The unit of a speed, with anything before it. -/
def feet : Parser String :=
  (literal "ft.").ahead

/- A speed with the mode in front, if one is given. -/
def modeFirst : Parser (Option String × UInt32) :=
  (fun mode speed => (mode, speed))
    <$> (word.optional <* char ' ')
    <*> (number <* feet <* separator)

/- A speed with the mode behind, if one is given. -/
def speedFirst : Parser (Option String × UInt32) :=
  (fun speed mode => (mode, speed))
    <$> (number <* feet)
    <*> ((char ' ' *> word).optional <* separator)

/- The mode that a label names; a speed without one is walked. -/
def mode? : Option String → Option MovementMode
| some label => MovementMode.ofName? label
| none => some .walk

/- One speed of a line. -/
def speedParser : Parser (MovementMode × UInt32) :=
  (modeFirst <|> speedFirst).filterMap fun (label, speed) =>
    (mode? label).map fun mode => (mode, speed)

/- The speeds of a list, of each mode the first. -/
def ofSpeeds (speeds : List (MovementMode × UInt32)) : Movement :=
  speeds.foldl (fun m e => m.insertNew e.1 e.2) OrderedMap.empty

/- A speed line, which has to be read to its end. -/
def parser : Parser Movement :=
  ofSpeeds <$> (speedParser.repeated <* atEnd)

/- Read a speed line; one that is malformed has no speeds. -/
def ofString (s : String) : Movement :=
  (parser.value? (Prose.ofString s)).getD OrderedMap.empty

end CreatureProse.Movement
