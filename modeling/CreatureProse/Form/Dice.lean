import CreatureProse.Dice.Expression
import CreatureProse.LimitedUse.Basic
import CreatureProse.Reference.Basic
import CreatureProse.Span
import CreatureProse.Storage.Restore

/-
  This file defines how spans, dice, usage limits and what is
  pointed out in a text are put together and restored.

  Key definitions include:
    * `Outlined Span`
    * `Outlined DiceExpression`
    * `Outlined LimitedUse`
    * `Outlined Annotation`
    * `DiceExpression.restored?`
-/

namespace CreatureProse

open Storage

------------------------------------------------------------
-- Spans
------------------------------------------------------------

instance : Outlined Span where
  outline s := .record "Span"
    [("start", outline s.start), ("end", outline s.stop)]

instance : Restorable Span where
  restore? p :=
    match allFields? ["start", "end"] p with
    | some [start, stop] => do
      let start ← required? start
      let stop ← required? stop
      return { start, stop }
    | _ => none

instance {α : Type} [Outlined α] : Outlined (Located α) where
  outline a := .record "Located"
    [("value", outline a.value), ("span", outline a.span)]

instance {α : Type} [Restorable α] : Restorable (Located α) where
  restore? p :=
    match allFields? ["value", "span"] p with
    | some [value, span] => do
      let value ← required? value
      let span ← required? span
      return { value, span }
    | _ => none

------------------------------------------------------------
-- Dice
------------------------------------------------------------

instance : Outlined Modifier where
  outline m := .wrapped "Modifier" (outline m.value)

instance : Restorable Modifier where
  restore? p := (restore? p).map fun n => ⟨n⟩

instance : Tagged Operator where
  members := [.add, .subtract]
  tag
  | .add => "add"
  | .subtract => "subtract"

instance : Outlined Operator where
  outline := outlineOfTag

instance : Restorable Operator where
  restore? := restoreTag?

namespace DiceExpression

/- The outline of an expression. -/
def outlined : DiceExpression → Outline
| .pool count sides =>
  .choiceRecord "dice"
    [("count", outline count),
      ("die", .record "Die" [("sides", outline sides)])]
| .constant n => .choice "number" [outline n]
| .compound lhs op rhs =>
  .choice "compound" [lhs.outlined, outline op, rhs.outlined]

/- The number of sides of a stored die. -/
def restoredDie? (p : Part) : Option UInt32 :=
  match allFields? ["sides"] p with
  | some [sides] => required? sides
  | _ => none

/- The pool of stored parts. -/
def restoredPool? (p : Part) : Option DiceExpression :=
  match allFields? ["count", "die"] p with
  | some [count, die] => do
    let count ← required? count
    let sides ← die.bind restoredDie?
    return .pool count sides
  | _ => none

/-
  The expression of a stored value in which the given number of
  lists and maps may stand inside each other.
-/
def restoredWithin? : Nat → Value → Option DiceExpression
| levels, .map [(tag, parts)] =>
  match tagIndex? ["dice", "number", "compound"] tag with
  | some 0 => restoredPool? (.value levels parts)
  | some 1 => (restore? (Part.value levels parts)).map .constant
  | some 2 =>
    match levels, parts with
    | levels + 1, .list [lhs, op, rhs] =>
      match restoredWithin? levels lhs,
          restore? (Part.value levels op),
          restoredWithin? levels rhs with
      | some lhs, some op, some rhs => some (.compound lhs op rhs)
      | _, _, _ => none
    | _, _ => none
  | _ => none
| _, _ => none

/- The expression that is stored in a part. -/
def restored? : Part → Option DiceExpression
| .value levels v => restoredWithin? levels v
| .byte _ => none

end DiceExpression

instance : Outlined DiceExpression where
  outline := DiceExpression.outlined

instance : Restorable DiceExpression where
  restore? := DiceExpression.restored?

------------------------------------------------------------
-- Usage Limits
------------------------------------------------------------

instance : Outlined Recharge where
  outline
  | .rest short long =>
    .choiceRecord "rest"
      [("short", outline short), ("long", outline long)]
  | .day => .choice "day" []
  | .turnStart faces => .choice "turnStart" [outline faces]

instance : Restorable Recharge where
  restore? p :=
    match choice? ["rest", "day", "turnStart"] p with
    | some (0, some parts) =>
      match allFields? ["short", "long"] parts with
      | some [short, long] => do
        let short ← required? short
        let long ← required? long
        return .rest short long
      | _ => none
    | some (1, parts) => if noParts parts then some .day else none
    | some (2, some faces) => (restore? faces).map .turnStart
    | _ => none

instance : Outlined LimitedUse where
  outline l := .record "LimitedUse"
    [("amount", outline l.amount),
      ("recharge", outline l.recharge)]

instance : Restorable LimitedUse where
  restore? p :=
    match allFields? ["amount", "recharge"] p with
    | some [amount, recharge] => do
      let amount ← required? amount
      let recharge ← optional? recharge
      return { amount, recharge }
    | _ => none

------------------------------------------------------------
-- References and Annotations
------------------------------------------------------------

instance : Outlined ItemKind where
  outline := outlineOfTag

instance : Restorable ItemKind where
  restore? := restoreTag?

instance : Outlined ItemReference where
  outline r := .record "ItemReference"
    [("text", outline r.text), ("kind", outline r.kind)]

instance : Restorable ItemReference where
  restore? p :=
    match allFields? ["text", "kind"] p with
    | some [text, kind] => do
      let text ← required? text
      let kind ← optional? kind
      return { text, kind }
    | _ => none

instance : Outlined Annotation where
  outline
  | .dice e => .choice "diceExpression" [outline e]
  | .reference r => .choice "reference" [outline r]

instance : Restorable Annotation where
  restore? p :=
    match choice? ["diceExpression", "reference"] p with
    | some (0, some parts) => (restore? parts).map .dice
    | some (1, some parts) => (restore? parts).map .reference
    | _ => none

end CreatureProse
