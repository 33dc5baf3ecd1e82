import CreatureProse.Action.Basic
import CreatureProse.Entry.Annotation
import CreatureProse.LimitedUse.Grammar
import CreatureProse.Spellcasting.Grammar

/-
  This file defines the actions of a creature as they are
  written and what can be read in them.

  Key definitions include:
    * `CreatureAction`
    * `ActionReading`
    * `ActionReading.ofAction?`
-/

namespace CreatureProse

/- An action, reaction or legendary action as it is written. -/
structure CreatureAction where
  name : String
  description : String
deriving DecidableEq, Repr, Inhabited

/-
  What is read in an action: the limit in its name, what it does
  and the spellcasting in its description, and what else is
  pointed out there.
-/
structure ActionReading where
  limitedUse : Option (Located LimitedUse)
  action : Option Action
  spellcasting : Option Spellcasting
  annotations : List (Located Annotation)
deriving DecidableEq

namespace ActionReading

/- Whether nothing is read. -/
def isEmpty (r : ActionReading) : Bool :=
  r.limitedUse.isNone && r.action.isNone
    && r.spellcasting.isNone && r.annotations.isEmpty

/- What is pointed out in the name. -/
def nameAnnotations
    (r : ActionReading) : List (Located Annotation) :=
  Annotation.rechargeRoll r.limitedUse

/- What is pointed out in the description. -/
def descriptionAnnotations
    (r : ActionReading) : List (Located Annotation) :=
  r.annotations ++ Annotation.listedSpells r.spellcasting

/- Read an action, unless nothing is read in it. -/
def ofAction?
    (config : Config)
    (action : CreatureAction) : Option ActionReading :=
  let spellcasting :=
    Spellcasting.ofText? action.name action.description
  let reading : ActionReading :=
    { limitedUse := LimitedUse.inName? action.name
      action :=
        (Action.ofText? config.vocabulary action.description).map
          Prod.fst
      spellcasting
      annotations :=
        Annotation.inProse config (Prose.folded action.description)
          (Spellcasting.listedSpans spellcasting) }
  if reading.isEmpty then none else some reading

end ActionReading

end CreatureProse
