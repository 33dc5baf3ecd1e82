import CreatureProse.LimitedUse.Grammar
import CreatureProse.Spellcasting.Basic
import CreatureProse.Text.Split

/-
  This file defines the grammar of spellcasting in the
  descriptions of features and actions. Fragments such as the
  save DC or a list of spells are looked for one after the
  other, and whatever stands between them is passed over.

  Key definitions include:
    * `Spellcasting.Fragment`
    * `Spellcasting.fragmentParser`
    * `Spellcasting.add`
    * `Spellcasting.parser`
    * `Spellcasting.ofText?`
-/

namespace CreatureProse.Spellcasting

open CreatureProse.Parser

------------------------------------------------------------
-- Fragments
------------------------------------------------------------

/- A spell name and where it was read. -/
abbrev ListedName :=
  Located String

/- What one fragment of a description tells. -/
inductive Fragment where
| casterLevel (level : UInt32)
| ability (a : Ability)
| innateAbility (a : Ability)
| saveDC (dc : UInt32)
| attackHit (m : Modifier)
| spellsByLevel
    (level : UInt32)
    (slots : Option UInt32)
    (names : List ListedName)
| spellsByUse
    (limit : Option LimitedUse)
    (shared : Bool)
    (names : List ListedName)
deriving DecidableEq

/- An ability by its name. -/
def abilityName : Parser Ability :=
  word.filterMap Ability.ofName?

/- The level of the caster, such as 9th-level spellcaster. -/
def casterLevelParser : Parser Fragment :=
  .casterLevel
    <$> (number <* (character Text.isAlphabetic).repeated
          <* literal "-level spellcaster")

/- The ability of a caster who needs no slots for its spells. -/
def usingAbilityParser : Parser Fragment :=
  .innateAbility
    <$> (literal "using " *> abilityName
          <* literal " as the spellcasting ability")

/- The ability for innate spells. -/
def innateAbilityParser : Parser Fragment :=
  .innateAbility
    <$> (literal "innate spellcasting ability is " *> abilityName)

/- The ability for spells. -/
def abilityParser : Parser Fragment :=
  .ability <$> (literal "spellcasting ability is " *> abilityName)

/- The DC of saving throws against spells. -/
def saveDCParser : Parser Fragment :=
  .saveDC <$> (literal "spell save dc " *> number)

/- The bonus to hit with spells. -/
def attackHitParser : Parser Fragment :=
  (fun n => .attackHit ⟨n⟩)
    <$> (signedNumber <* literal " to hit with spell attacks")

------------------------------------------------------------
-- Spell Lists
------------------------------------------------------------

/- The colon in front of a list, after the given text. -/
def listStart (closing : String) : Parser Unit :=
  (literal closing <* char ':' <* spaces.optional).as ()

/- The name of a spell, with single spaces put between words. -/
def spellName : Parser ListedName :=
  ((fun first more => " ".intercalate (first :: more))
    <$> word
    <*> (spaces *> word).repeated).located

/- A marker and a remark after a name, which are left out. -/
def note : Parser Unit :=
  ((char '*').optional
    *> (spaces.optional *> bracketed).optional).as ()

/- Spell names with commas between them. -/
def spellList : Parser (List ListedName) :=
  (spellName <* note
    <* ((literal ",").padded spaces).optional).repeated

/- A level of spells in front of its list. -/
def levelParser : Parser UInt32 :=
  (literal "cantrips").as 0
    <|> number <* word <* literal " level"

/- The slots of a level; spells at will need none. -/
def slotsParser : Parser (Option UInt32) :=
  (literal "at will").as none
    <|> some <$> (number <* literal " slot" <* word.optional)

/- A list such as 1st level (3 slots): bless, light. -/
def spellsByLevelParser : Parser Fragment :=
  .spellsByLevel
    <$> (levelParser <* literal " (")
    <*> (slotsParser <* listStart ")")
    <*> spellList

/-
  How often spells can be cast, and whether they share their
  uses, as they do unless the uses are meant for each of them.
-/
def rateParser : Parser (Option LimitedUse × Bool) :=
  (literal "at will").as (none, false)
    <|> (fun limit => (some (.perDay limit.1), !limit.2))
          <$> LimitedUse.perDayParser

/- A list such as 3/day each: darkness, fear. -/
def spellsByUseParser : Parser Fragment :=
  (fun rate names => .spellsByUse rate.1 rate.2 names)
    <$> (rateParser <* listStart "")
    <*> spellList

------------------------------------------------------------
-- Descriptions
------------------------------------------------------------

/- One of the fragments. -/
def fragmentParser : Parser Fragment :=
  firstOf [
    casterLevelParser,
    usingAbilityParser,
    innateAbilityParser,
    abilityParser,
    saveDCParser,
    attackHitParser,
    spellsByLevelParser,
    spellsByUseParser]

/- The listed spell of a name. -/
def spellOf (name : ListedName) : ListedSpell :=
  name.map ItemReference.spell

/-
  Add what a fragment tells. A later list of a level takes the
  place of an earlier one, and spells with uses of their own
  each become a group.
-/
def add
    (s : Spellcasting) : Fragment → Spellcasting
| .casterLevel level => { s with casterLevel := some level }
| .ability a => { s with ability := some a }
| .innateAbility a => { s with ability := some a, innate := true }
| .saveDC dc => { s with saveDC := some dc }
| .attackHit m => { s with attackHit := some m }
| .spellsByLevel level slots names =>
  { s with
    slotsByLevel :=
      match slots with
      | some n => s.slotsByLevel.insert level n
      | none => s.slotsByLevel
    spellsByLevel :=
      s.spellsByLevel.insert level (names.map spellOf) }
| .spellsByUse limit shared names =>
  let spells := names.map spellOf
  let new : List SpellGroup :=
    if shared then
      [⟨spells, limit⟩]
    else
      spells.map fun spell => ⟨[spell], limit⟩
  { s with groups := s.groups ++ new }

/- The spellcasting in a folded description. -/
def parser : Parser Spellcasting :=
  (fun fragments => fragments.foldl add unknown)
    <$> fragmentParser.ahead.repeated

/-
  The spellcasting in a description, if the name above it
  mentions any.
-/
def ofText?
    (name description : String) : Option Spellcasting :=
  let name := Text.lowercase name
  if Text.contains "spellcasting" name then
    (parser.value? (Prose.folded description)).map fun s =>
      { s with innate := s.innate || Text.contains "innate" name }
  else
    none

end CreatureProse.Spellcasting
