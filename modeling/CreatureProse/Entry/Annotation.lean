import CreatureProse.Dice.Grammar
import CreatureProse.Entry.Config
import CreatureProse.LimitedUse.Basic
import CreatureProse.Spellcasting.Basic

/-
  This file defines what is pointed out in the name and in the
  description of a feature or an action.

  Key definitions include:
    * `Annotation.inProse`
    * `Annotation.rechargeRoll`
    * `Annotation.listedSpells`
-/

namespace CreatureProse.Annotation

/-
  The rolls of a folded text and then its names. A name inside
  an excluded span is listed elsewhere and left out.
-/
def inProse
    (config : Config)
    (prose : Prose)
    (excluded : List Span) : List (Located Annotation) :=
  let rolls :=
    if config.annotateDice then
      (DiceExpression.allIn prose).map fun a => a.map Annotation.dice
    else
      []
  let names :=
    (config.catalog.allIn prose).filter fun a =>
      !excluded.any fun span => span.overlaps a.span
  rolls ++ names.map fun a => a.map Annotation.reference

/- The roll of a six-sided die at a recharge limit in a name. -/
def rechargeRoll :
    Option (Located LimitedUse) → List (Located Annotation)
| some ⟨⟨_, some (.turnStart _)⟩, span⟩ =>
  [⟨.dice (.pool 1 6), span⟩]
| _ => []

/- The spells that a spellcasting lists. -/
def listedSpells : Option Spellcasting → List (Located Annotation)
| some s => s.spells.map fun a => a.map Annotation.reference
| none => []

end CreatureProse.Annotation
