import CreatureProse.Tagged
import CreatureProse.Text.Case

/-
  This file defines the size categories of creatures.

  Key definitions include:
    * `CreatureSize`
    * `CreatureSize.ofName?`
-/

namespace CreatureProse

/- A size category. -/
inductive CreatureSize where
| tiny
| small
| medium
| large
| huge
| gargantuan
deriving DecidableEq, Repr, Inhabited

namespace CreatureSize

/- The sizes in ascending order. -/
def all : List CreatureSize :=
  [.tiny, .small, .medium, .large, .huge, .gargantuan]

/- The English name. -/
def name : CreatureSize → String
| .tiny => "tiny"
| .small => "small"
| .medium => "medium"
| .large => "large"
| .huge => "huge"
| .gargantuan => "gargantuan"

instance : Tagged CreatureSize where
  members := all
  tag := name

/- The size with a name or its first letter, in either case. -/
def ofName? (s : String) : Option CreatureSize :=
  match Text.lowercase s with
  | "tiny" | "t" => some .tiny
  | "small" | "s" => some .small
  | "medium" | "m" => some .medium
  | "large" | "l" => some .large
  | "huge" | "h" => some .huge
  | "gargantuan" | "g" => some .gargantuan
  | _ => none

end CreatureSize

end CreatureProse
