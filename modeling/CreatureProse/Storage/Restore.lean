import CreatureProse.Ordered.Map
import CreatureProse.Ordered.Set
import CreatureProse.Outline.Basic
import CreatureProse.Storage.MessagePack
import CreatureProse.Storage.Part

/-
  This file defines how values become stored values and how they
  are restored from them.

  A record is stored as a map from its field names, and it can
  be restored from such a map in any order, or from a list of
  its fields. A member of a type with several forms is stored as
  its tag, or as a map from its tag to its parts. Such a map of
  a known type does not count among those that stand inside each
  other. Names and tags may also be given by their number.

  Key definitions include:
    * `Outline.stored`
    * `toBytes`
    * `Restorable`
    * `ofBytesWithin?`
    * `ofBytes?`
    * `fields?`
    * `choice?`
-/

namespace CreatureProse

open Storage

------------------------------------------------------------
-- Storing
------------------------------------------------------------

namespace Outline

mutual

/- The stored value of an outline. -/
def stored : Outline → Value
| .flag b => .flag b
| .number n => .ofInt n
| .text s => .ofString s
| .absent => .nil
| .present o => stored o
| .list items => .list (storedItems items)
| .set items => .list (storedItems items)
| .mapping entries => .map (storedEntries entries)
| .record _ fields => .map (storedFields fields)
| .wrapped _ o => stored o
| .choice tag items =>
  match items with
  | [] => .ofString tag
  | [o] => .map [(.ofString tag, stored o)]
  | o :: more =>
    .map [(.ofString tag, .list (stored o :: storedItems more))]
| .choiceRecord tag fields =>
  .map [(.ofString tag, .map (storedFields fields))]

/- The stored values of the members of a list. -/
def storedItems : List Outline → List Value
| [] => []
| o :: more => stored o :: storedItems more

/- The stored values of keys and values. -/
def storedEntries :
    List (Outline × Outline) → List (Value × Value)
| [] => []
| (k, v) :: more => (stored k, stored v) :: storedEntries more

/- The stored values of named parts. -/
def storedFields :
    List (String × Outline) → List (Value × Value)
| [] => []
| (name, o) :: more =>
  (.ofString name, stored o) :: storedFields more

end

end Outline

/- The bytes of a value. -/
def toBytes
    {α : Type}
    [Outlined α]
    (a : α) : List UInt8 :=
  (outline a).stored.write

------------------------------------------------------------
-- Restoring
------------------------------------------------------------

/- A type whose values can be restored. -/
class Restorable (α : Type) where
  restore? : Part → Option α

export Restorable (restore?)

/-
  The value that the bytes hold, if no more than the given
  number of lists and maps stand inside each other.
-/
def ofBytesWithin?
    {α : Type}
    [Restorable α]
    (levels : Nat)
    (bytes : List UInt8) : Option α :=
  (read? bytes).bind fun v => restore? (Part.value levels v)

/- The value that the bytes hold. -/
def ofBytes?
    {α : Type}
    [Restorable α]
    (bytes : List UInt8) : Option α :=
  ofBytesWithin? Part.maxLevels bytes

instance : Restorable Bool where
  restore?
  | .value _ (.flag b) => some b
  | _ => none

instance : Restorable Nat where
  restore? p :=
    p.int?.bind fun n => if 0 ≤ n then some n.toNat else none

instance : Restorable UInt32 where
  restore? p :=
    p.int?.bind fun n =>
      if 0 ≤ n && n < 0x100000000 then
        some (UInt32.ofNat n.toNat)
      else
        none

instance : Restorable Int32 where
  restore? p :=
    p.int?.bind fun n =>
      if -0x80000000 ≤ n && n < 0x80000000 then
        some (Int32.ofInt n)
      else
        none

instance : Restorable String where
  restore? := Part.string?

/- A byte of bytes that are taken for a list is never absent. -/
instance {α : Type} [Restorable α] : Restorable (Option α) where
  restore?
  | .byte _ => none
  | .value _ .nil => some none
  | p => (restore? p).map some

instance {α : Type} [Restorable α] : Restorable (List α) where
  restore? p := p.items?.bind fun items => items.mapM restore?

------------------------------------------------------------
-- Names and Tags
------------------------------------------------------------

/-
  The place among the names of the one that is given, if it is
  among them. A value that can be no name gives nothing.
-/
def nameIndex?
    (names : List String) : Value → Option (Option Nat)
| .text bytes | .binary bytes =>
  some (names.findIdx? fun name => name.toUTF8.toList == bytes)
| .unsigned n => some (if n < names.length then some n else none)
| _ => none

/- The place of a tag, which has to be among the tags. -/
def tagIndex?
    (tags : List String)
    (v : Value) : Option Nat :=
  (nameIndex? tags v).join

/-
  The place of the tag of a stored member, and its parts, if
  parts are stored with it.
-/
def choice?
    (tags : List String) : Part → Option (Nat × Option Part)
| .value levels (.map [(tag, parts)]) =>
  (tagIndex? tags tag).map fun i => (i, some (.value levels parts))
| .value _ (.map _) => none
| .value _ v => (tagIndex? tags v).map fun i => (i, none)
| .byte _ => none

/- Whether no parts are stored. -/
def noParts : Option Part → Bool
| none => true
| some (.value _ .nil) => true
| some _ => false

/- A member that is stored with nothing but a tag. -/
def restoreTag?
    {α : Type}
    [Tagged α]
    (p : Part) : Option α :=
  let members : List α := Tagged.members
  (choice? (members.map Tagged.tag) p).bind fun (i, parts) =>
    if noParts parts then members[i]? else none

------------------------------------------------------------
-- Records
------------------------------------------------------------

/-
  Put the entries of a map into the places of the names. No name
  may have two entries. Entries without a name are left out, but
  they too keep to the limit on what stands inside each other.
-/
def fillSlots
    (names : List String)
    (levels : Nat)
    (slots : List (Option Part)) :
    List (Value × Value) → Option (List (Option Part))
| [] => some slots
| (key, v) :: more =>
  match nameIndex? names key with
  | none => none
  | some none =>
    if v.depth ≤ levels then
      fillSlots names levels slots more
    else
      none
  | some (some i) =>
    match slots[i]? with
    | some none =>
      fillSlots names levels
        (slots.set i (some (.value levels v))) more
    | _ => none

/- The members of a list in the places of that many names. -/
def placed
    (count : Nat)
    (items : List Part) : List (Option Part) :=
  items.map some ++ List.replicate (count - items.length) none

/-
  The fields of a stored record by their names. A list has to
  hold at least the given number of fields and no more than
  there are names. Bytes have to be at least as many, and those
  beyond the names are left out.
-/
def fields?
    (names : List String)
    (least : Nat) : Part → Option (List (Option Part))
| .value (levels + 1) (.map entries) =>
  fillSlots names levels (names.map fun _ => none) entries
| .value (levels + 1) (.list items) =>
  if least ≤ items.length && items.length ≤ names.length then
    some (placed names.length (items.map (.value levels)))
  else
    none
| .value _ (.binary bytes) =>
  if least ≤ bytes.length then
    some (placed names.length
      ((bytes.take names.length).map .byte))
  else
    none
| _ => none

/- All fields of a stored record of which none is left out. -/
def allFields?
    (names : List String)
    (p : Part) : Option (List (Option Part)) :=
  fields? names names.length p

/- A field that must be there. -/
def required?
    {α : Type}
    [Restorable α]
    (slot : Option Part) : Option α :=
  slot.bind restore?

/- A field that is absent if it is not there. -/
def optional?
    {α : Type}
    [Restorable α] :
    Option Part → Option (Option α)
| none => some none
| some p => restore? p

/- A text that is empty if it is not there. -/
def orEmpty? : Option Part → Option String
| none => some ""
| some p => restore? p

------------------------------------------------------------
-- Ordered Maps and Sets
------------------------------------------------------------

instance
    {κ ν : Type}
    [Ord κ]
    [Outlined κ]
    [Outlined ν] :
    Outlined (OrderedMap κ ν) where
  outline m :=
    .mapping (m.entries.map fun e => (outline e.1, outline e.2))

instance
    {κ ν : Type}
    [Ord κ]
    [Std.TransOrd κ]
    [Std.LawfulEqOrd κ]
    [Restorable κ]
    [Restorable ν] :
    Restorable (OrderedMap κ ν) where
  restore? p :=
    p.entries?.bind fun entries =>
      (entries.mapM fun (k, v) =>
        (restore? k).bind fun k =>
          (restore? v).map fun v => (k, v)).map OrderedMap.ofList

instance
    {α : Type}
    [Ord α]
    [Outlined α] :
    Outlined (OrderedSet α) where
  outline s := .set (s.members.map outline)

instance
    {α : Type}
    [Ord α]
    [Std.TransOrd α]
    [Restorable α] :
    Restorable (OrderedSet α) where
  restore? p :=
    p.items?.bind fun items =>
      (items.mapM restore?).map OrderedSet.ofList

end CreatureProse
