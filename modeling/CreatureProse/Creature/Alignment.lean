import CreatureProse.Tagged
import CreatureProse.Text.Case
import CreatureProse.Text.Split

/-
  This file defines alignments: a place on the axis between
  lawful and chaotic, one on the axis between good and evil, and
  the phrases that leave one or both of them open.

  Key definitions include:
    * `Moral`
    * `Ethic`
    * `Alignment`
    * `Alignment.ofPhrase?`
-/

namespace CreatureProse

------------------------------------------------------------
-- The Two Axes
------------------------------------------------------------

/- A place on the lawful and chaotic axis. -/
inductive Moral where
| lawful
| neutral
| chaotic
deriving DecidableEq, Repr, Inhabited

/- A place on the good and evil axis. -/
inductive Ethic where
| good
| neutral
| evil
deriving DecidableEq, Repr, Inhabited

namespace Moral

/- The places from lawful to chaotic. -/
def all : List Moral :=
  [.lawful, .neutral, .chaotic]

/- The English name. -/
def name : Moral → String
| .lawful => "lawful"
| .neutral => "neutral"
| .chaotic => "chaotic"

instance : Tagged Moral where
  members := all
  tag := name

/- The place with a name in lower case. -/
def ofName? (s : String) : Option Moral :=
  Tagged.ofTag? s

end Moral

namespace Ethic

/- The places from good to evil. -/
def all : List Ethic :=
  [.good, .neutral, .evil]

/- The English name. -/
def name : Ethic → String
| .good => "good"
| .neutral => "neutral"
| .evil => "evil"

instance : Tagged Ethic where
  members := all
  tag := name

/- The place with a name in lower case. -/
def ofName? (s : String) : Option Ethic :=
  Tagged.ofTag? s

end Ethic

------------------------------------------------------------
-- Alignments
------------------------------------------------------------

/-
  The alignment of a creature. One axis alone leaves the other
  one open.
-/
inductive Alignment where
| unaligned
| any
| moral (m : Moral)
| ethic (e : Ethic)
| both (m : Moral) (e : Ethic)
deriving DecidableEq, Repr, Inhabited

namespace Alignment

/- The middle of both axes. -/
def trueNeutral : Alignment :=
  .both .neutral .neutral

/-
  The alignment on one axis, left open on the other. The middle
  of an axis does not tell which axis is meant.
-/
def ofAxis? (axis : String) : Option Alignment :=
  match Moral.ofName? axis, Ethic.ofName? axis with
  | some .lawful, _ => some (.moral .lawful)
  | some .chaotic, _ => some (.moral .chaotic)
  | _, some .good => some (.ethic .good)
  | _, some .evil => some (.ethic .evil)
  | _, _ => none

/- The alignment that a phrase in lower case stands for. -/
def ofWords? : List String → Option Alignment
| [first, second] =>
  match Moral.ofName? first, Ethic.ofName? second with
  | some m, some e => some (.both m e)
  | _, _ => none
| ["any", axis, "alignment"] => ofAxis? axis
| _ => none

/-
  The alignment that a phrase stands for, in either case. The
  phrases that are taken as a whole have single spaces.
-/
def ofPhrase? (s : String) : Option Alignment :=
  match Text.lowercase (Text.trim s) with
  | "any alignment" => some .any
  | "unaligned" => some .unaligned
  | "neutral" => some trueNeutral
  | phrase => ofWords? (Text.words phrase)

end Alignment

end CreatureProse
