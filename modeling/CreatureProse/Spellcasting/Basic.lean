import CreatureProse.Creature.Ability
import CreatureProse.LimitedUse.Basic
import CreatureProse.Ordered.Map
import CreatureProse.Reference.Basic
import CreatureProse.Span

/-
  This file defines the spellcasting of a creature: how well it
  casts, and which spells it has at which level or how often.

  Key definitions include:
    * `SpellGroup`
    * `Spellcasting`
    * `Spellcasting.spells`
-/

namespace CreatureProse

/- The name of a spell and where it was read. -/
abbrev ListedSpell :=
  Located ItemReference

/- Spells that share a usage limit, or none at all at will. -/
structure SpellGroup where
  spells : List ListedSpell
  limitedUse : Option LimitedUse
deriving DecidableEq

/-
  The spellcasting of a creature. Cantrips are spells of level
  zero and have no slots.
-/
structure Spellcasting where
  innate : Bool
  casterLevel : Option UInt32
  ability : Option Ability
  saveDC : Option UInt32
  attackHit : Option Modifier
  slotsByLevel : OrderedMap UInt32 UInt32
  spellsByLevel : OrderedMap UInt32 (List ListedSpell)
  groups : List SpellGroup
deriving DecidableEq

namespace Spellcasting

/- Spellcasting of which nothing is known. -/
def unknown : Spellcasting where
  innate := false
  casterLevel := none
  ability := none
  saveDC := none
  attackHit := none
  slotsByLevel := .empty
  spellsByLevel := .empty
  groups := []

/-
  All spells: those with a level, in ascending order of it, and
  then the groups in the order of the text.
-/
def spells (s : Spellcasting) : List ListedSpell :=
  s.spellsByLevel.values.flatten
    ++ s.groups.flatMap SpellGroup.spells

/- Where the spells are listed. -/
def spellSpans (s : Spellcasting) : List Span :=
  s.spells.map Located.span

/- Where spells are listed; nowhere without a spellcasting. -/
def listedSpans : Option Spellcasting → List Span
| some s => s.spellSpans
| none => []

end Spellcasting

end CreatureProse
