import CreatureProse.Entry.Action
import CreatureProse.Entry.Feature
import CreatureProse.Form.Action

/-
  This file defines how spellcasting and what is read in
  features and actions are put together and restored.

  Key definitions include:
    * `Outlined Spellcasting`
    * `Outlined FeatureReading`
    * `Outlined ActionReading`
-/

namespace CreatureProse

------------------------------------------------------------
-- Spellcasting
------------------------------------------------------------

instance : Outlined SpellGroup where
  outline g := .record "LimitedUseSpellGroup"
    [("spells", outline g.spells),
      ("limited_use", outline g.limitedUse)]

instance : Restorable SpellGroup where
  restore? p :=
    match allFields? ["spells", "limited_use"] p with
    | some [spells, limitedUse] => do
      let spells ← required? spells
      let limitedUse ← optional? limitedUse
      return { spells, limitedUse }
    | _ => none

instance : Outlined Spellcasting where
  outline s := .record "Spellcasting"
    [("innate", outline s.innate),
      ("spellcaster_level", outline s.casterLevel),
      ("ability", outline s.ability),
      ("spell_save_dc", outline s.saveDC),
      ("spell_attack_hit", outline s.attackHit),
      ("slots_by_level", outline s.slotsByLevel),
      ("spells_by_level", outline s.spellsByLevel),
      ("limited_use_spells", outline s.groups)]

instance : Restorable Spellcasting where
  restore? p :=
    match allFields?
      ["innate", "spellcaster_level", "ability", "spell_save_dc",
        "spell_attack_hit", "slots_by_level", "spells_by_level",
        "limited_use_spells"] p with
    | some [innate, casterLevel, ability, saveDC, attackHit,
        slotsByLevel, spellsByLevel, groups] => do
      let innate ← required? innate
      let casterLevel ← optional? casterLevel
      let ability ← optional? ability
      let saveDC ← optional? saveDC
      let attackHit ← optional? attackHit
      let slotsByLevel ← required? slotsByLevel
      let spellsByLevel ← required? spellsByLevel
      let groups ← required? groups
      return {
        innate, casterLevel, ability, saveDC, attackHit,
        slotsByLevel, spellsByLevel, groups }
    | _ => none

------------------------------------------------------------
-- Features and Actions
------------------------------------------------------------

instance : Outlined Feature where
  outline f := .record "CreatureFeature"
    [("name", outline f.name),
      ("description", outline f.description)]

instance : Restorable Feature where
  restore? p :=
    match allFields? ["name", "description"] p with
    | some [name, description] => do
      let name ← required? name
      let description ← required? description
      return { name, description }
    | _ => none

instance : Outlined CreatureAction where
  outline a := .record "CreatureAction"
    [("name", outline a.name),
      ("description", outline a.description)]

instance : Restorable CreatureAction where
  restore? p :=
    match allFields? ["name", "description"] p with
    | some [name, description] => do
      let name ← required? name
      let description ← required? description
      return { name, description }
    | _ => none

instance : Outlined FeatureReading where
  outline r := .record "ParsedCreatureFeature"
    [("limited_use", outline r.limitedUse),
      ("spellcasting", outline r.spellcasting),
      ("other_description_annotations", outline r.annotations)]

instance : Restorable FeatureReading where
  restore? p :=
    match allFields?
      ["limited_use", "spellcasting",
        "other_description_annotations"] p with
    | some [limitedUse, spellcasting, annotations] => do
      let limitedUse ← optional? limitedUse
      let spellcasting ← optional? spellcasting
      let annotations ← required? annotations
      return { limitedUse, spellcasting, annotations }
    | _ => none

instance : Outlined ActionReading where
  outline r := .record "ParsedCreatureAction"
    [("limited_use", outline r.limitedUse),
      ("action", outline r.action),
      ("spellcasting", outline r.spellcasting),
      ("other_description_annotations", outline r.annotations)]

instance : Restorable ActionReading where
  restore? p :=
    match allFields?
      ["limited_use", "action", "spellcasting",
        "other_description_annotations"] p with
    | some [limitedUse, action, spellcasting, annotations] => do
      let limitedUse ← optional? limitedUse
      let action ← optional? action
      let spellcasting ← optional? spellcasting
      let annotations ← required? annotations
      return { limitedUse, action, spellcasting, annotations }
    | _ => none

end CreatureProse
