import CreatureProse.StatBlock.Basic
import CreatureProse.Text.English

/-
  This file defines the resources that are kept track of in
  combat, such as spell slots, and how they are found in a stat
  block.

  Key definitions include:
    * `Resource`
    * `Resource.setUsed`
    * `StatBlock.resources`
-/

namespace CreatureProse

------------------------------------------------------------
-- Resources
------------------------------------------------------------

/-
  A resource with a mark for each of its uses, set for those
  that are spent.
-/
structure Resource where
  id : String
  title : String
  slots : List Bool
deriving DecidableEq, Repr, Inhabited

namespace Resource

/- The greatest number of uses that is kept track of. -/
def maxUses : Nat :=
  100

/- A resource of which nothing is spent. -/
def unused
    (id title : String)
    (uses : Nat) : Resource where
  id := id
  title := title
  slots := List.replicate (min uses maxUses) false

/- The number of uses that are spent. -/
def used (r : Resource) : Nat :=
  r.slots.count true

/- The number of uses that are left. -/
def remaining (r : Resource) : Nat :=
  r.slots.length - r.used

/- Spend the given number of uses, the first ones, and no others. -/
def setUsed
    (r : Resource)
    (count : Nat) : Except Failure Resource :=
  if r.slots.length < count then
    .error (.other
      ("cannot spend " ++ toString count ++ " uses of '" ++ r.title
        ++ "', which has " ++ toString r.slots.length))
  else
    .ok { r with
      slots := List.replicate count true
        ++ List.replicate (r.slots.length - count) false }

/- Make all uses free again. -/
def reset (r : Resource) : Resource :=
  { r with slots := r.slots.map fun _ => false }

/- Exchange the mark of one use, if there is such a use. -/
def flip
    (r : Resource)
    (i : Nat) : Resource :=
  { r with slots := r.slots.modify i not }

end Resource

instance : Outlined Resource where
  outline r := .record "CombatantResource"
    [("id", outline r.id),
      ("title", outline r.title),
      ("slots", outline r.slots)]

instance : Restorable Resource where
  restore? p :=
    match allFields? ["id", "title", "slots"] p with
    | some [id, title, slots] => do
      let id ← required? id
      let title ← required? title
      let slots ← required? slots
      return { id, title, slots }
    | _ => none

------------------------------------------------------------
-- Resources of a Stat Block
------------------------------------------------------------

namespace StatBlock

open CreatureProse.Parser

/- What resources can come from in an entry that was read. -/
structure Entry where
  name : String
  limitedUse : Option LimitedUse
  spellcasting : Option Spellcasting
deriving DecidableEq

/- The features and then the actions that were understood. -/
def entries (b : StatBlock) : List Entry :=
  (b.features.filterMap fun m =>
    m.value?.map fun r =>
      { name := m.input.name
        limitedUse := r.limitedUse.map Located.value
        spellcasting := r.spellcasting })
  ++ b.actions.filterMap fun m =>
    m.value?.map fun r =>
      { name := m.input.name
        limitedUse := r.limitedUse.map Located.value
        spellcasting := r.spellcasting }

/- A title and a number of uses. -/
abbrev TitledUses :=
  String × Nat

/-
  Add slots to those of their level. A sum past 32 bits stops at
  the last number, and cantrips need no slots.
-/
def addSlots
    (slots : OrderedMap UInt32 Nat)
    (level count : UInt32) : OrderedMap UInt32 Nat :=
  if level = 0 then
    slots
  else
    let total := (slots.get? level).getD 0 + count.toNat
    slots.insert level (min total (0x100000000 - 1))

/- The slots of each level in all spellcastings. -/
def slotTotals
    (spellcastings : List Spellcasting) : OrderedMap UInt32 Nat :=
  (spellcastings.flatMap fun s => s.slotsByLevel.entries).foldl
    (fun slots e => addSlots slots e.1 e.2) .empty

/- The spell slots, by ascending level. -/
def slotUses
    (spellcastings : List Spellcasting) : List TitledUses :=
  (slotTotals spellcastings).entries.map fun (level, count) =>
    (Text.ordinal level.toNat ++ " level spell slots", count)

/- A group of spells with a limit. -/
def groupUses? (g : SpellGroup) : Option TitledUses :=
  g.limitedUse.map fun limit =>
    let names := g.spells.map fun spell => spell.value.text
    (Text.englishList names ++ " (" ++ limit.text ++ ")",
      limit.amount.toNat)

/- The names of entries and their limits, recharging ones first. -/
def limitUses (entries : List Entry) : List TitledUses :=
  let limited := entries.filterMap fun e =>
    e.limitedUse.map fun limit => (e.name, limit)
  let recharging := limited.filter fun e => e.2.isRecharging
  let others := limited.filter fun e => !e.2.isRecharging
  (recharging ++ others).map fun (name, limit) =>
    (name, limit.amount.toNat)

/- The number of legendary actions that a text speaks of. -/
def legendaryCountParser : Parser UInt32 :=
  (literal "take " *> number <* literal " legendary actions").ahead

/- The legendary actions, if the text in front grants any. -/
def legendaryUses (b : StatBlock) : List TitledUses :=
  let count? :=
    (b.legendary.bind Legendary.description).bind fun s =>
      legendaryCountParser.value? (Prose.folded s)
  match count? with
  | some count =>
    if count = 0 then [] else [("Legendary Actions", count.toNat)]
  | none => []

/-
  All that is kept track of: spell slots, spells with a limit,
  entries that recharge, other entries with a limit, and
  legendary actions.
-/
def titledUses (b : StatBlock) : List TitledUses :=
  let entries := b.entries
  let spellcastings := entries.filterMap Entry.spellcasting
  slotUses spellcastings
    ++ (spellcastings.flatMap Spellcasting.groups).filterMap
        groupUses?
    ++ limitUses entries
    ++ b.legendaryUses

/- The resource of a title at a place in the list. -/
def resourceOf
    (position : Nat)
    (t : TitledUses) : Resource :=
  .unused (toString position ++ "-" ++ Text.slug t.1) t.1 t.2

/- The resources of a stat block, none of them spent. -/
def resources (b : StatBlock) : List Resource :=
  b.titledUses.mapIdx resourceOf

end StatBlock

end CreatureProse
