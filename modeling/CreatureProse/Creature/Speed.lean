import CreatureProse.Ordered.Map
import CreatureProse.Tagged
import CreatureProse.Text.Case

/-
  This file defines the ways in which a creature can move and
  its speeds.

  Key definitions include:
    * `MovementMode`
    * `MovementMode.ofName?`
    * `Movement`
-/

namespace CreatureProse

/- A way of moving. -/
inductive MovementMode where
| walk
| fly
| swim
| climb
| burrow
deriving DecidableEq, Repr, Inhabited, Ord

namespace MovementMode

/- The ways of moving in ascending order. -/
def all : List MovementMode :=
  [.walk, .fly, .swim, .climb, .burrow]

/- The English name. -/
def name : MovementMode → String
| .walk => "walk"
| .fly => "fly"
| .swim => "swim"
| .climb => "climb"
| .burrow => "burrow"

instance : Tagged MovementMode where
  members := all
  tag := name

instance : Std.TransOrd MovementMode where
  eq_swap := by
    intro m n
    cases m <;> cases n <;> rfl
  isLE_trans := by
    intro m n k
    cases m <;> cases n <;> cases k <;> decide

instance : Std.LawfulEqOrd MovementMode where
  eq_of_compare := by
    intro m n
    cases m <;> cases n <;> decide
  compare_self := by
    intro m
    cases m <;> rfl

/- The way of moving with a name, in either case. -/
def ofName? (s : String) : Option MovementMode :=
  Tagged.ofTag? (Text.lowercase s)

end MovementMode

/- The speed in feet for each way of moving that has one. -/
abbrev Movement :=
  OrderedMap MovementMode UInt32

end CreatureProse
