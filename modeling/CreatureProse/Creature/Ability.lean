import CreatureProse.Tagged
import CreatureProse.Text.Case

/-
  This file defines the six ability scores of a creature.

  Key definitions include:
    * `Ability`
    * `Ability.ofName?`
-/

namespace CreatureProse

/- An ability score. -/
inductive Ability where
| strength
| dexterity
| constitution
| intelligence
| wisdom
| charisma
deriving DecidableEq, Repr, Inhabited

namespace Ability

/- The abilities in the order of a stat block. -/
def all : List Ability :=
  [.strength, .dexterity, .constitution, .intelligence, .wisdom,
    .charisma]

/- The English name. -/
def name : Ability → String
| .strength => "strength"
| .dexterity => "dexterity"
| .constitution => "constitution"
| .intelligence => "intelligence"
| .wisdom => "wisdom"
| .charisma => "charisma"

/- The first three letters of the name. -/
def abbreviation : Ability → String
| .strength => "str"
| .dexterity => "dex"
| .constitution => "con"
| .intelligence => "int"
| .wisdom => "wis"
| .charisma => "cha"

instance : Tagged Ability where
  members := all
  tag := name

/- The ability with a name or abbreviation, in either case. -/
def ofName? (s : String) : Option Ability :=
  let s := Text.lowercase s
  all.find? fun a => a.name == s || a.abbreviation == s

end Ability

end CreatureProse
