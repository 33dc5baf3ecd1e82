import CreatureProse.Dice.Expression
import CreatureProse.Parser.Character
import CreatureProse.Parser.Scan

/-
  This file defines the grammar of dice expressions, such as
  2d6, 1d8 + 3 and 12. A modifier alone, such as +5, stands for
  a check with a twenty-sided die.

  Key definitions include:
    * `DiceExpression.parser`
    * `DiceExpression.rolled`
    * `DiceExpression.allIn`
-/

namespace CreatureProse.DiceExpression

open CreatureProse.Parser

/- A pool of dice, such as 2d6. -/
def poolParser : Parser DiceExpression :=
  (fun count sides => .pool count sides)
    <$> (number <* char 'd')
    <*> number

/- A number that fits into 32 bits with sign. -/
def constantParser : Parser DiceExpression :=
  number.filterMap fun n =>
    if n.toNat < 0x80000000 then
      some (.constant (Int32.ofInt n.toNat))
    else
      none

/- A pool or a number. -/
def termParser : Parser DiceExpression :=
  poolParser <|> constantParser

/- A plus or a minus between spaces. -/
def operatorParser : Parser Operator :=
  (oneOf " ").repeated
    *> ((char '+').as .add <|> (char '-').as .subtract)
    <* (oneOf " ").repeated

/- Terms joined from the left. -/
def joinTerms
    (first : DiceExpression)
    (more : List (Operator × DiceExpression)) : DiceExpression :=
  more.foldl (fun lhs e => .compound lhs e.1 e.2) first

/- One or more terms with operators between them. -/
def sumParser : Parser DiceExpression :=
  joinTerms
    <$> termParser
    <*> ((fun op e => (op, e)) <$> operatorParser
          <*> termParser).repeated

/- A modifier alone. -/
def checkParser : Parser DiceExpression :=
  check <$> signedNumber

/- A dice expression. -/
def parser : Parser DiceExpression :=
  sumParser <|> checkParser

/- A dice expression with at least one die. -/
def rolled : Parser DiceExpression :=
  parser.filter hasDice

/-
  The rolls in a folded text, from left to right. Plain numbers
  are passed over.
-/
def allIn (prose : Prose) : List (Located DiceExpression) :=
  rolled.allIn prose

end CreatureProse.DiceExpression
