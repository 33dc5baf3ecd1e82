import CreatureProse.Dice.Expression
import CreatureProse.Tagged

/-
  This file defines what can be pointed out in the prose of a
  stat block: rolls, and the names of spells, items and
  monsters.

  Key definitions include:
    * `ItemKind`
    * `ItemReference`
    * `Annotation`
-/

namespace CreatureProse

------------------------------------------------------------
-- References
------------------------------------------------------------

/- What a name stands for. -/
inductive ItemKind where
| spell
| item
| monster
deriving DecidableEq, Repr, Inhabited

namespace ItemKind

/- The kinds of things that have names. -/
def all : List ItemKind :=
  [.spell, .item, .monster]

/- The English name. -/
def name : ItemKind → String
| .spell => "spell"
| .item => "item"
| .monster => "monster"

instance : Tagged ItemKind where
  members := all
  tag := name

end ItemKind

/- A name as it is read in a text, and its kind if known. -/
structure ItemReference where
  text : String
  kind : Option ItemKind
deriving DecidableEq, Repr, Inhabited

/- The name of a spell. -/
def ItemReference.spell (text : String) : ItemReference where
  text := text
  kind := some .spell

------------------------------------------------------------
-- Annotations
------------------------------------------------------------

/- Something pointed out in a text. -/
inductive Annotation where
| dice (e : DiceExpression)
| reference (r : ItemReference)
deriving DecidableEq, Repr, Inhabited

namespace Annotation

/- The roll that is pointed out, if it is one. -/
def dice? : Annotation → Option DiceExpression
| .dice e => some e
| .reference _ => none

/- The name that is pointed out, if it is one. -/
def reference? : Annotation → Option ItemReference
| .dice _ => none
| .reference r => some r

end Annotation

end CreatureProse
