import CreatureProse.Action.Basic
import CreatureProse.Form.Dice

/-
  This file defines how actions and their effects are put
  together and restored.

  Key definitions include:
    * `Outlined Effect`
    * `Outlined Attack`
    * `Outlined SaveAction`
    * `Outlined Action`
-/

namespace CreatureProse

------------------------------------------------------------
-- Members with Tags
------------------------------------------------------------

instance : Outlined Ability where
  outline := outlineOfTag

instance : Restorable Ability where
  restore? := restoreTag?

instance : Outlined DamageType where
  outline := outlineOfTag

instance : Restorable DamageType where
  restore? := restoreTag?

instance : Outlined Condition where
  outline := outlineOfTag

instance : Restorable Condition where
  restore? := restoreTag?

instance : Outlined SaveEffect where
  outline := outlineOfTag

instance : Restorable SaveEffect where
  restore? := restoreTag?

instance : Outlined AttackType where
  outline := outlineOfTag

instance : Restorable AttackType where
  restore? := restoreTag?

instance : Outlined WeaponGrip where
  outline := outlineOfTag

instance : Restorable WeaponGrip where
  restore? := restoreTag?

instance : Outlined OutcomeKind where
  outline := outlineOfTag

instance : Restorable OutcomeKind where
  restore? := restoreTag?

------------------------------------------------------------
-- Effects
------------------------------------------------------------

instance : Outlined SavingThrow where
  outline save := .record "SavingThrow"
    [("ability", outline save.ability),
      ("dc", outline save.dc),
      ("save_effect", outline save.saveEffect),
      ("failure_margin", outline save.failureMargin)]

instance : Restorable SavingThrow where
  restore? p :=
    match allFields?
      ["ability", "dc", "save_effect", "failure_margin"] p with
    | some [ability, dc, saveEffect, failureMargin] => do
      let ability ← required? ability
      let dc ← required? dc
      let saveEffect ← required? saveEffect
      let failureMargin ← optional? failureMargin
      return { ability, dc, saveEffect, failureMargin }
    | _ => none

instance : Outlined Conditions where
  outline c := .record "Conditions"
    [("attack_type", outline c.attackType),
      ("grip", outline c.grip),
      ("saving_throw", outline c.savingThrow),
      ("other", outline c.other)]

instance : Restorable Conditions where
  restore? p :=
    match allFields?
      ["attack_type", "grip", "saving_throw", "other"] p with
    | some [attackType, grip, savingThrow, other] => do
      let attackType ← optional? attackType
      let grip ← optional? grip
      let savingThrow ← optional? savingThrow
      let other ← optional? other
      return { attackType, grip, savingThrow, other }
    | _ => none

instance : Outlined Damage where
  outline d := .record "Damage"
    [("static_damage", outline d.average),
      ("dice", outline d.dice),
      ("damage_type", outline d.damageType),
      ("alternative_types", outline d.alternatives)]

instance : Restorable Damage where
  restore? p :=
    match allFields?
      ["static_damage", "dice", "damage_type",
        "alternative_types"] p with
    | some [average, dice, damageType, alternatives] => do
      let average ← required? average
      let dice ← optional? dice
      let damageType ← required? damageType
      let alternatives ← required? alternatives
      return { average, dice, damageType, alternatives }
    | _ => none

instance : Outlined AppliedCondition where
  outline a := .record "AppliedCondition"
    [("condition", outline a.condition),
      ("comment", outline a.comment)]

instance : Restorable AppliedCondition where
  restore? p :=
    match allFields? ["condition", "comment"] p with
    | some [condition, comment] => do
      let condition ← required? condition
      let comment ← optional? comment
      return { condition, comment }
    | _ => none

instance : Outlined Effect where
  outline e := .record "Effect"
    [("conditions", outline e.conditions),
      ("damage", outline e.damage),
      ("condition", outline e.condition),
      ("replaces_damage", outline e.replacesDamage),
      ("other", outline e.other)]

instance : Restorable Effect where
  restore? p :=
    match allFields?
      ["conditions", "damage", "condition", "replaces_damage",
        "other"] p with
    | some [conditions, damage, condition, replacesDamage,
        other] => do
      let conditions ← required? conditions
      let damage ← required? damage
      let condition ← optional? condition
      let replacesDamage ← required? replacesDamage
      let other ← optional? other
      return {
        conditions, damage, condition, replacesDamage, other }
    | _ => none

------------------------------------------------------------
-- Attacks
------------------------------------------------------------

instance : Outlined AttackRange where
  outline
  | .reach feet => .choice "reach" [outline feet]
  | .range normal long =>
    .choice "range" [outline normal, outline long]

instance : Restorable AttackRange where
  restore? p :=
    match choice? ["reach", "range"] p with
    | some (0, some feet) => (restore? feet).map .reach
    | some (1, some parts) =>
      match parts.items? with
      | some [normal, long] => do
        let normal ← restore? normal
        let long ← restore? long
        return .range normal long
      | _ => none
    | _ => none

instance : Outlined ConditionalHit where
  outline h := .record "ConditionalHitModifier"
    [("hit_modifier", outline h.modifier),
      ("condition", outline h.condition)]

instance : Restorable ConditionalHit where
  restore? p :=
    match allFields? ["hit_modifier", "condition"] p with
    | some [modifier, condition] => do
      let modifier ← required? modifier
      let condition ← required? condition
      return { modifier, condition }
    | _ => none

instance : Outlined Attack where
  outline a := .record "WeaponAttack"
    [("hit_modifier", outline a.modifier),
      ("conditional_hit_modifiers", outline a.conditionalHits),
      ("ranges", outline a.ranges),
      ("effects", outline a.effects)]

instance : Restorable Attack where
  restore? p :=
    match allFields?
      ["hit_modifier", "conditional_hit_modifiers", "ranges",
        "effects"] p with
    | some [modifier, conditionalHits, ranges, effects] => do
      let modifier ← required? modifier
      let conditionalHits ← required? conditionalHits
      let ranges ← required? ranges
      let effects ← required? effects
      return { modifier, conditionalHits, ranges, effects }
    | _ => none

------------------------------------------------------------
-- Saving Throws
------------------------------------------------------------

instance : Outlined Outcome where
  outline o := .record "Outcome"
    [("outcome", outline o.kind), ("effects", outline o.effects)]

instance : Restorable Outcome where
  restore? p :=
    match allFields? ["outcome", "effects"] p with
    | some [kind, effects] => do
      let kind ← required? kind
      let effects ← required? effects
      return { kind, effects }
    | _ => none

instance : Outlined SaveAction where
  outline s := .record "SavingThrowAction"
    [("saving_throw", outline s.save),
      ("target", outline s.target),
      ("outcomes", outline s.outcomes)]

instance : Restorable SaveAction where
  restore? p :=
    match allFields? ["saving_throw", "target", "outcomes"] p with
    | some [save, target, outcomes] => do
      let save ← required? save
      let target ← optional? target
      let outcomes ← required? outcomes
      return { save, target, outcomes }
    | _ => none

instance : Outlined Action where
  outline
  | .attack a => .choice "weaponAttack" [outline a]
  | .save s => .choice "savingThrow" [outline s]

instance : Restorable Action where
  restore? p :=
    match choice? ["weaponAttack", "savingThrow"] p with
    | some (0, some parts) => (restore? parts).map .attack
    | some (1, some parts) => (restore? parts).map .save
    | _ => none

end CreatureProse
