import CreatureProse.Creature.Condition
import CreatureProse.Reference.Catalog

/-
  This file defines what can be chosen for the reading of stat
  blocks.

  Key definitions include:
    * `Config`
    * `Config.standard`
-/

namespace CreatureProse

/-
  The words for conditions, the names that are pointed out, and
  whether rolls are pointed out.
-/
structure Config where
  vocabulary : Vocabulary
  catalog : Catalog
  annotateDice : Bool
deriving DecidableEq, Inhabited

/- The standard vocabulary, no names, and rolls. -/
def Config.standard : Config where
  vocabulary := .standard
  catalog := .empty
  annotateDice := true

end CreatureProse
