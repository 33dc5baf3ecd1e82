import CreatureProse.Dice.Grammar

/-
  This file defines hit point lines, such as 225 (18d12 + 108).

  Key definitions include:
    * `HitPoints`
    * `HitPoints.parser`
    * `HitPoints.ofString?`
-/

namespace CreatureProse

/- Average hit points and the dice they come from. -/
structure HitPoints where
  value : UInt32
  dice : Option DiceExpression
deriving DecidableEq, Repr

namespace HitPoints

open CreatureProse.Parser

/- A dice expression alone in brackets. -/
def diceParser : Parser DiceExpression :=
  (char '(').ahead *> DiceExpression.parser <* char ')'

/- Hit points, with the dice if they are well formed. -/
def parser : Parser HitPoints :=
  (fun value dice => ⟨value, dice⟩)
    <$> number
    <*> diceParser.optional

/- Read a hit point line. -/
def ofString? (s : String) : Option HitPoints :=
  parser.value? (Prose.ofString s)

end HitPoints

end CreatureProse
