/-
  This file defines sets of characters given as ranges of code
  points.

  Key definitions include:
    * `CharTable`
    * `CharTable.contains`
-/

namespace CreatureProse.Text

/-
  A set of characters: ranges of code points, both ends
  included.
-/
abbrev CharTable :=
  Array (Nat × Nat)

/- Whether a character lies in one of the ranges. -/
def CharTable.contains
    (table : CharTable)
    (c : Char) : Bool :=
  table.any fun (low, high) =>
    low ≤ c.toNat && c.toNat ≤ high

end CreatureProse.Text
