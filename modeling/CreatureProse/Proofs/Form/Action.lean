import CreatureProse.Form.Action
import CreatureProse.Proofs.Form.Dice

/-
  Actions and their effects are storable.

  Main declarations:
    * `Storable Effect`
    * `Storable Attack`
    * `Storable SaveAction`
    * `Storable Action`
-/

namespace CreatureProse

open Storage

------------------------------------------------------------
-- Members with Tags
------------------------------------------------------------

instance : Storable Ability :=
  .ofTags (fun _ => rfl) (fun _ => rfl)
    (fun a => by cases a <;> decide) (by decide) (by decide)

instance : Storable DamageType :=
  .ofTags (fun _ => rfl) (fun _ => rfl)
    (fun a => by cases a <;> decide) (by decide) (by decide)

instance : Storable Condition :=
  .ofTags (fun _ => rfl) (fun _ => rfl)
    (fun a => by cases a <;> decide) (by decide) (by decide)

instance : Storable SaveEffect :=
  .ofTags (fun _ => rfl) (fun _ => rfl)
    (fun a => by cases a <;> decide) (by decide) (by decide)

instance : Storable AttackType :=
  .ofTags (fun _ => rfl) (fun _ => rfl)
    (fun a => by cases a <;> decide) (by decide) (by decide)

instance : Storable WeaponGrip :=
  .ofTags (fun _ => rfl) (fun _ => rfl)
    (fun a => by cases a <;> decide) (by decide) (by decide)

instance : Storable OutcomeKind :=
  .ofTags (fun _ => rfl) (fun _ => rfl)
    (fun a => by cases a <;> decide) (by decide) (by decide)

------------------------------------------------------------
-- Effects
------------------------------------------------------------

instance : Storable SavingThrow := by
  refine .ofRecord
    (allFields? ["ability", "dc", "save_effect",
      "failure_margin"])
    rfl (fun _ => rfl) (fun _ => rfl) (by decide) (by decide)
    (by simp) ?_ ?_
  · intro p hNone
    unfold instRestorableSavingThrow
    simp only [hNone]
  · intro p levels a b hSome
    unfold instRestorableSavingThrow
    simp [hSome, Outline.levelsOfFields, and_assoc]

instance : Storable Conditions := by
  refine .ofRecord
    (allFields? ["attack_type", "grip", "saving_throw",
      "other"])
    rfl (fun _ => rfl) (fun _ => rfl) (by decide) (by decide)
    (by simp) ?_ ?_
  · intro p hNone
    unfold instRestorableConditions
    simp only [hNone]
  · intro p levels a b hSome
    unfold instRestorableConditions
    simp [hSome, Outline.levelsOfFields, and_assoc]

instance : Storable Damage := by
  refine .ofRecord
    (allFields? ["static_damage", "dice", "damage_type",
      "alternative_types"])
    rfl (fun _ => rfl) (fun _ => rfl) (by decide) (by decide)
    (by simp) ?_ ?_
  · intro p hNone
    unfold instRestorableDamage
    simp only [hNone]
  · intro p levels a b hSome
    unfold instRestorableDamage
    simp [hSome, Outline.levelsOfFields, and_assoc]

instance : Storable AppliedCondition := by
  refine .ofRecord (allFields? ["condition", "comment"]) rfl
    (fun _ => rfl) (fun _ => rfl) (by decide) (by decide)
    (by simp) ?_ ?_
  · intro p hNone
    unfold instRestorableAppliedCondition
    simp only [hNone]
  · intro p levels a b hSome
    unfold instRestorableAppliedCondition
    simp [hSome, Outline.levelsOfFields, and_assoc]

instance : Storable Effect := by
  refine .ofRecord
    (allFields? ["conditions", "damage", "condition",
      "replaces_damage", "other"])
    rfl (fun _ => rfl) (fun _ => rfl) (by decide) (by decide)
    (by simp) ?_ ?_
  · intro p hNone
    unfold instRestorableEffect
    simp only [hNone]
  · intro p levels a b hSome
    unfold instRestorableEffect
    simp [hSome, Outline.levelsOfFields, and_assoc]

------------------------------------------------------------
-- Attacks
------------------------------------------------------------

instance : Storable AttackRange where
  named a := by
    cases a with
    | reach feet | range normal long =>
        exact Outline.named_choice (by decide) (by simp) (by simp)
  stored_ne_nil a := by
    cases a <;> exact Value.noConfusion
  restore?_stored {levels a b} := by
    unfold instOutlinedAttackRange instRestorableAttackRange
    cases a with
    | reach feet =>
        simp only [Outline.stored, choice?_map, Outline.levels]
        exact map_restore?_stored
    | range normal long =>
        simp only [Outline.stored, choice?_map, Outline.levels]
        change (match Part.items? (.value levels
            (.list [(outline normal).stored,
              (outline long).stored])) with
          | some [normal, long] => do
            let normal ← restore? normal
            let long ← restore? long
            return AttackRange.range normal long
          | _ => none) = some b ↔ _
        cases levels with
        | zero => simp [Part.items?]
        | succ levels =>
            simp [Part.items?, Outline.levelsOfItems]
            grind

instance : Storable ConditionalHit := by
  refine .ofRecord
    (allFields? ["hit_modifier", "condition"])
    rfl (fun _ => rfl) (fun _ => rfl) (by decide) (by decide)
    (by simp) ?_ ?_
  · intro p hNone
    unfold instRestorableConditionalHit
    simp only [hNone]
  · intro p levels a b hSome
    unfold instRestorableConditionalHit
    simp [hSome, Outline.levelsOfFields, and_assoc]

instance : Storable Attack := by
  refine .ofRecord
    (allFields? ["hit_modifier", "conditional_hit_modifiers",
      "ranges", "effects"])
    rfl (fun _ => rfl) (fun _ => rfl) (by decide) (by decide)
    (by simp) ?_ ?_
  · intro p hNone
    unfold instRestorableAttack
    simp only [hNone]
  · intro p levels a b hSome
    unfold instRestorableAttack
    simp [hSome, Outline.levelsOfFields, and_assoc]

------------------------------------------------------------
-- Saving Throws
------------------------------------------------------------

instance : Storable Outcome := by
  refine .ofRecord (allFields? ["outcome", "effects"]) rfl
    (fun _ => rfl) (fun _ => rfl) (by decide) (by decide)
    (by simp) ?_ ?_
  · intro p hNone
    unfold instRestorableOutcome
    simp only [hNone]
  · intro p levels a b hSome
    unfold instRestorableOutcome
    simp [hSome, Outline.levelsOfFields, and_assoc]

instance : Storable SaveAction := by
  refine .ofRecord
    (allFields? ["saving_throw", "target", "outcomes"])
    rfl (fun _ => rfl) (fun _ => rfl) (by decide) (by decide)
    (by simp) ?_ ?_
  · intro p hNone
    unfold instRestorableSaveAction
    simp only [hNone]
  · intro p levels a b hSome
    unfold instRestorableSaveAction
    simp [hSome, Outline.levelsOfFields, and_assoc]

instance : Storable Action where
  named a := by
    cases a with
    | attack a | save a =>
        exact Outline.named_choice (by decide) (by simp) (by simp)
  stored_ne_nil a := by
    cases a <;> exact Value.noConfusion
  restore?_stored {levels a b} := by
    unfold instOutlinedAction instRestorableAction
    cases a with
    | attack a | save a =>
        simp only [Outline.stored, choice?_map, Outline.levels]
        exact map_restore?_stored

end CreatureProse
