import CreatureProse.Tagged
import CreatureProse.Text.Case

/-
  This file defines the types of damage.

  Key definitions include:
    * `DamageType`
    * `DamageType.ofName?`
-/

namespace CreatureProse

/- A type of damage. -/
inductive DamageType where
| acid
| bludgeoning
| cold
| fire
| force
| lightning
| necrotic
| piercing
| poison
| psychic
| radiant
| slashing
| thunder
deriving DecidableEq, Repr, Inhabited

namespace DamageType

/- The damage types in alphabetical order. -/
def all : List DamageType :=
  [.acid, .bludgeoning, .cold, .fire, .force, .lightning,
    .necrotic, .piercing, .poison, .psychic, .radiant, .slashing,
    .thunder]

/- The English name. -/
def name : DamageType → String
| .acid => "acid"
| .bludgeoning => "bludgeoning"
| .cold => "cold"
| .fire => "fire"
| .force => "force"
| .lightning => "lightning"
| .necrotic => "necrotic"
| .piercing => "piercing"
| .poison => "poison"
| .psychic => "psychic"
| .radiant => "radiant"
| .slashing => "slashing"
| .thunder => "thunder"

instance : Tagged DamageType where
  members := all
  tag := name

/- The damage type with a name, in either case. -/
def ofName? (s : String) : Option DamageType :=
  Tagged.ofTag? (Text.lowercase s)

end DamageType

end CreatureProse
