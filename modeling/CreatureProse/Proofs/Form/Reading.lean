import CreatureProse.Form.Reading
import CreatureProse.Proofs.Form.Action

/-
  Spellcasting and what is read in features and actions are
  storable.

  Main declarations:
    * `Storable Spellcasting`
    * `Storable FeatureReading`
    * `Storable ActionReading`
-/

namespace CreatureProse

open Storage

------------------------------------------------------------
-- Spellcasting
------------------------------------------------------------

instance : Storable SpellGroup := by
  refine .ofRecord (allFields? ["spells", "limited_use"]) rfl
    (fun _ => rfl) (fun _ => rfl) (by decide) (by decide)
    (by simp) ?_ ?_
  · intro p hNone
    unfold instRestorableSpellGroup
    simp only [hNone]
  · intro p levels a b hSome
    unfold instRestorableSpellGroup
    simp [hSome, Outline.levelsOfFields, and_assoc]

instance : Storable Spellcasting := by
  refine .ofRecord
    (allFields? ["innate", "spellcaster_level", "ability",
      "spell_save_dc", "spell_attack_hit", "slots_by_level",
      "spells_by_level", "limited_use_spells"])
    rfl (fun _ => rfl) (fun _ => rfl) (by decide) (by decide)
    (by simp) ?_ ?_
  · intro p hNone
    unfold instRestorableSpellcasting
    simp only [hNone]
  · intro p levels a b hSome
    unfold instRestorableSpellcasting
    simp [hSome, Outline.levelsOfFields, and_assoc]

------------------------------------------------------------
-- Features and Actions
------------------------------------------------------------

instance : Storable Feature := by
  refine .ofRecord (allFields? ["name", "description"]) rfl
    (fun _ => rfl) (fun _ => rfl) (by decide) (by decide)
    (by simp) ?_ ?_
  · intro p hNone
    unfold instRestorableFeature
    simp only [hNone]
  · intro p levels a b hSome
    unfold instRestorableFeature
    simp [hSome, Outline.levelsOfFields, and_assoc]

instance : Storable CreatureAction := by
  refine .ofRecord (allFields? ["name", "description"]) rfl
    (fun _ => rfl) (fun _ => rfl) (by decide) (by decide)
    (by simp) ?_ ?_
  · intro p hNone
    unfold instRestorableCreatureAction
    simp only [hNone]
  · intro p levels a b hSome
    unfold instRestorableCreatureAction
    simp [hSome, Outline.levelsOfFields, and_assoc]

instance : Storable FeatureReading := by
  refine .ofRecord
    (allFields? ["limited_use", "spellcasting",
      "other_description_annotations"])
    rfl (fun _ => rfl) (fun _ => rfl) (by decide) (by decide)
    (by simp) ?_ ?_
  · intro p hNone
    unfold instRestorableFeatureReading
    simp only [hNone]
  · intro p levels a b hSome
    unfold instRestorableFeatureReading
    simp [hSome, Outline.levelsOfFields, and_assoc]

instance : Storable ActionReading := by
  refine .ofRecord
    (allFields? ["limited_use", "action", "spellcasting",
      "other_description_annotations"])
    rfl (fun _ => rfl) (fun _ => rfl) (by decide) (by decide)
    (by simp) ?_ ?_
  · intro p hNone
    unfold instRestorableActionReading
    simp only [hNone]
  · intro p levels a b hSome
    unfold instRestorableActionReading
    simp [hSome, Outline.levelsOfFields, and_assoc]

end CreatureProse
