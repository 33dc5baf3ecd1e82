import CreatureProse.Entry.Annotation
import CreatureProse.LimitedUse.Grammar
import CreatureProse.Spellcasting.Grammar

/-
  This file defines the features of a creature and what can be
  read in them.

  Key definitions include:
    * `Feature`
    * `FeatureReading`
    * `FeatureReading.ofFeature`
-/

namespace CreatureProse

/- A trait of a creature as it is written. -/
structure Feature where
  name : String
  description : String
deriving DecidableEq, Repr, Inhabited

/-
  What is read in a feature: the limit in its name, the
  spellcasting in its description, and what else is pointed out
  there.
-/
structure FeatureReading where
  limitedUse : Option (Located LimitedUse)
  spellcasting : Option Spellcasting
  annotations : List (Located Annotation)
deriving DecidableEq

namespace FeatureReading

/- Whether nothing is read. -/
def isEmpty (r : FeatureReading) : Bool :=
  r.limitedUse.isNone && r.spellcasting.isNone
    && r.annotations.isEmpty

/- What is pointed out in the name. -/
def nameAnnotations
    (r : FeatureReading) : List (Located Annotation) :=
  Annotation.rechargeRoll r.limitedUse

/- What is pointed out in the description. -/
def descriptionAnnotations
    (r : FeatureReading) : List (Located Annotation) :=
  r.annotations ++ Annotation.listedSpells r.spellcasting

/- Read a feature. -/
def ofFeature
    (config : Config)
    (feature : Feature) : FeatureReading :=
  let spellcasting :=
    Spellcasting.ofText? feature.name feature.description
  { limitedUse := LimitedUse.inName? feature.name
    spellcasting
    annotations :=
      Annotation.inProse config (Prose.folded feature.description)
        (Spellcasting.listedSpans spellcasting) }

end FeatureReading

end CreatureProse
