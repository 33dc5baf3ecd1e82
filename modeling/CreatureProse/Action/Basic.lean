import CreatureProse.Action.Attack
import CreatureProse.Action.Save

/-
  This file defines actions, which are decided by an attack roll
  or by a saving throw, and how their text is read.

  Key definitions include:
    * `Action`
    * `Action.ofText?`
-/

namespace CreatureProse

/- What an action does. -/
inductive Action where
| attack (a : Attack)
| save (s : SaveAction)
deriving DecidableEq, Repr, Inhabited

namespace Action

/- Whether an action is an attack. -/
def isAttack : Action → Bool
| .attack _ => true
| .save _ => false

/-
  The action that a text describes in either case, and the
  folded text that was left over. An attack is tried first. An
  action with a saving throw leaves nothing over.
-/
def ofText?
    (vocabulary : Vocabulary)
    (text : String) : Option (Action × String) :=
  let prose := Prose.folded text
  match (Attack.parser vocabulary).parse? prose with
  | some (a, rest) => some (.attack a, rest)
  | none =>
    (SaveAction.ofProse? vocabulary prose).map fun s =>
      (.save s, "")

end Action

end CreatureProse
