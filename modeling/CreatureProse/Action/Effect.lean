import CreatureProse.Creature.Ability
import CreatureProse.Creature.Condition
import CreatureProse.Creature.DamageType
import CreatureProse.Dice.Expression

/-
  This file defines saving throws and the effects that an attack
  or a failed save can have.

  Key definitions include:
    * `SavingThrow`
    * `Conditions`
    * `Damage`
    * `AppliedCondition`
    * `Effect`
    * `Effect.make?`
-/

namespace CreatureProse

------------------------------------------------------------
-- Saving Throws
------------------------------------------------------------

/- What a successful save does to an effect. -/
inductive SaveEffect where
| none
| half
deriving DecidableEq, Repr, Inhabited

instance : Tagged SaveEffect where
  members := [.none, .half]
  tag
  | .none => "none"
  | .half => "half"

/-
  A save against an effect. The margin is by how much the save
  has to fail at least.
-/
structure SavingThrow where
  ability : Ability
  dc : UInt32
  saveEffect : SaveEffect
  failureMargin : Option UInt32
deriving DecidableEq, Repr, Inhabited

namespace SavingThrow

/- A save that prevents the effect, failed by any margin. -/
def against
    (ability : Ability)
    (dc : UInt32) : SavingThrow where
  ability := ability
  dc := dc
  saveEffect := .none
  failureMargin := none

/- The save with another effect of success. -/
def withSaveEffect
    (save : SavingThrow)
    (saveEffect : SaveEffect) : SavingThrow :=
  { save with saveEffect }

/- The save failed by at least a margin. -/
def withMargin
    (save : SavingThrow)
    (margin : UInt32) : SavingThrow :=
  { save with failureMargin := some margin }

end SavingThrow

------------------------------------------------------------
-- Circumstances
------------------------------------------------------------

/- In melee or at range. -/
inductive AttackType where
| melee
| ranged
deriving DecidableEq, Repr, Inhabited

instance : Tagged AttackType where
  members := [.melee, .ranged]
  tag
  | .melee => "melee"
  | .ranged => "ranged"

/- How a versatile weapon is held. -/
inductive WeaponGrip where
| oneHanded
| twoHanded
deriving DecidableEq, Repr, Inhabited

instance : Tagged WeaponGrip where
  members := [.oneHanded, .twoHanded]
  tag
  | .oneHanded => "oneHanded"
  | .twoHanded => "twoHanded"

/- The circumstances in which an effect takes place. -/
structure Conditions where
  attackType : Option AttackType
  grip : Option WeaponGrip
  savingThrow : Option SavingThrow
  other : Option String
deriving DecidableEq, Repr, Inhabited

namespace Conditions

/- No particular circumstances. -/
def none : Conditions where
  attackType := Option.none
  grip := Option.none
  savingThrow := Option.none
  other := Option.none

/- Whether there are no particular circumstances. -/
def isEmpty (c : Conditions) : Bool :=
  c.attackType.isNone && c.grip.isNone
    && c.savingThrow.isNone && c.other.isNone

end Conditions

------------------------------------------------------------
-- Consequences
------------------------------------------------------------

/-
  Damage as printed: its average, its roll, its type, and the
  types it may have instead.
-/
structure Damage where
  average : UInt32
  dice : Option DiceExpression
  damageType : DamageType
  alternatives : List DamageType
deriving DecidableEq, Repr, Inhabited

/- A condition and what is said about it. -/
structure AppliedCondition where
  condition : Condition
  comment : Option String
deriving DecidableEq, Repr, Inhabited

/-
  One consequence of an attack or a save: damage, a condition,
  or anything else as text.
-/
structure Effect where
  conditions : Conditions
  damage : List Damage
  condition : Option AppliedCondition
  replacesDamage : Bool
  other : Option String
deriving DecidableEq, Repr, Inhabited

namespace Effect

/- Whether there is no damage, no condition and no text. -/
def isEmpty (e : Effect) : Bool :=
  e.damage.isEmpty && e.condition.isNone && e.other.isNone

/- An effect of the given parts, unless it would be empty. -/
def make?
    (conditions : Conditions)
    (damage : List Damage)
    (condition : Option AppliedCondition)
    (replacesDamage : Bool)
    (other : Option String) : Option Effect :=
  let e : Effect :=
    { conditions, damage, condition, replacesDamage, other }
  if e.isEmpty then none else some e

/- Damage in any circumstances. -/
def ofDamage (damage : List Damage) : Effect where
  conditions := .none
  damage := damage
  condition := none
  replacesDamage := false
  other := none

/- A condition in any circumstances. -/
def ofCondition
    (condition : Condition)
    (comment : Option String) : Effect where
  conditions := .none
  damage := []
  condition := some ⟨condition, comment⟩
  replacesDamage := false
  other := none

/- Anything else in any circumstances. -/
def ofText (text : String) : Effect where
  conditions := .none
  damage := []
  condition := none
  replacesDamage := false
  other := some text

/- The effect in the given circumstances. -/
def under
    (e : Effect)
    (conditions : Conditions) : Effect :=
  { e with conditions }

/- The effect in place of the damage of the attack. -/
def replacingDamage (e : Effect) : Effect :=
  { e with replacesDamage := true }

/- The effect on a failed save. -/
def onFailed
    (e : Effect)
    (save : SavingThrow) : Effect :=
  { e with
    conditions := { e.conditions with savingThrow := some save } }

/- The effect in a circumstance that is given as text. -/
def when
    (e : Effect)
    (circumstance : String) : Effect :=
  { e with
    conditions := { e.conditions with other := some circumstance } }

end Effect

end CreatureProse
