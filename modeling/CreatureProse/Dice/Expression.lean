import CreatureProse.Text.Decimal

/-
  This file defines expressions of dice and numbers, their text,
  and the totals that a roll of them can come to.

  Key definitions include:
    * `Modifier`
    * `DiceExpression`
    * `DiceExpression.text`
    * `DiceExpression.check`
    * `DiceExpression.bounds`
    * `DiceExpression.average`
-/

namespace CreatureProse

------------------------------------------------------------
-- Modifiers
------------------------------------------------------------

/- A bonus or a penalty, such as the one to an attack roll. -/
structure Modifier where
  value : Int32
deriving DecidableEq, Repr, Inhabited

/- A modifier is always written with its sign. -/
def Modifier.text (m : Modifier) : String :=
  Text.signed m.value.toInt

------------------------------------------------------------
-- Totals
------------------------------------------------------------

namespace Total

/- The least total that can be held. -/
def least : Int :=
  -0x8000000000000000

/- The greatest total that can be held. -/
def greatest : Int :=
  0x8000000000000000 - 1

/-
  A total as it is held in 64 bits: one that does not fit stops
  at the nearer bound.
-/
def held (n : Int) : Int :=
  max least (min n greatest)

end Total

------------------------------------------------------------
-- Expressions
------------------------------------------------------------

/- What is done with the two sides of a compound expression. -/
inductive Operator where
| add
| subtract
deriving DecidableEq, Repr, Inhabited

/- The sign of an operator. -/
def Operator.symbol : Operator → String
| .add => "+"
| .subtract => "-"

/- The total of two sides. -/
def Operator.total
    (op : Operator)
    (lhs rhs : Int) : Int :=
  match op with
  | .add => Total.held (lhs + rhs)
  | .subtract => Total.held (lhs - rhs)

/-
  A pool of equal dice, a number, or two expressions added or
  subtracted.
-/
inductive DiceExpression where
| pool (count sides : UInt32)
| constant (n : Int32)
| compound
    (lhs : DiceExpression)
    (op : Operator)
    (rhs : DiceExpression)
deriving DecidableEq, Repr, Inhabited

namespace DiceExpression

instance : Add DiceExpression where
  add lhs rhs := .compound lhs .add rhs

instance : Sub DiceExpression where
  sub lhs rhs := .compound lhs .subtract rhs

/-
  The text of an expression. It has no brackets, so the right
  side of a compound expression is not set apart.
-/
def text : DiceExpression → String
| .pool count sides =>
  toString count.toNat ++ "d" ++ toString sides.toNat
| .constant n => toString n.toInt
| .compound lhs op rhs =>
  lhs.text ++ " " ++ op.symbol ++ " " ++ rhs.text

/- The opposite of a penalty, at most the largest number. -/
def bonusOf (n : Int32) : Int32 :=
  if n = Int32.minValue then Int32.maxValue else -n

/-
  The roll that a modifier alone stands for: a twenty-sided die
  and the modifier.
-/
def check (n : Int32) : DiceExpression :=
  if n < 0 then
    .pool 1 20 - .constant (bonusOf n)
  else
    .pool 1 20 + .constant n

------------------------------------------------------------
-- Counting Dice
------------------------------------------------------------

/- The number of dice; a number past 32 bits stops at the last. -/
def diceCount : DiceExpression → Nat
| .pool count _ => count.toNat
| .constant _ => 0
| .compound lhs _ rhs =>
  min (lhs.diceCount + rhs.diceCount) (0x100000000 - 1)

/- Whether at least one die is rolled. -/
def hasDice : DiceExpression → Bool
| .pool count _ => 0 < count
| .constant _ => false
| .compound lhs _ rhs => lhs.hasDice || rhs.hasDice

------------------------------------------------------------
-- Least, Greatest and Average Totals
------------------------------------------------------------

/-
  The least and the greatest total. Each die shows at least one
  and at most its number of sides, and subtracting exchanges the
  two bounds of the right side.
-/
def bounds : DiceExpression → Int × Int
| .pool count sides =>
  (count.toNat, Total.held (count.toNat * sides.toNat))
| .constant n => (n.toInt, n.toInt)
| .compound lhs op rhs =>
  let (low, high) := lhs.bounds
  let (low', high') := rhs.bounds
  match op with
  | .add => (Total.held (low + low'), Total.held (high + high'))
  | .subtract => (Total.held (low - high'), Total.held (high - low'))

/- The least total. -/
def minimum (e : DiceExpression) : Int :=
  e.bounds.1

/- The greatest total. -/
def maximum (e : DiceExpression) : Int :=
  e.bounds.2

/-
  The total when every pool comes to its average, rounded down.
  The doubled average of a pool is held before it is halved.
-/
def average : DiceExpression → Int
| .pool count sides =>
  (Total.held (count.toNat * (sides.toNat + 1))).tdiv 2
| .constant n => n.toInt
| .compound lhs op rhs => op.total lhs.average rhs.average

end DiceExpression

end CreatureProse
