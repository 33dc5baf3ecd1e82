import CreatureProse.Storage.Value

/-
  This file defines the parts of a stored value as they are seen
  when something is restored from it. Lists and maps may stand
  inside each other up to a limit only, and a part keeps how
  many of them may still follow. Where a list is expected, bytes
  are taken for a list of small numbers.

  Key definitions include:
    * `Part`
    * `Part.maxLevels`
    * `Part.items?`
    * `Part.entries?`
-/

namespace CreatureProse.Storage

/-
  A part of a stored value: a value in which the given number of
  lists and maps may stand inside each other, or one byte of
  bytes that are taken for a list.
-/
inductive Part where
| value (levels : Nat) (v : Value)
| byte (b : UInt8)
deriving Inhabited

namespace Part

/-
  The number of lists and maps that may stand inside each other
  in all.
-/
def maxLevels : Nat :=
  1023

/- The number that stands here. -/
def int? : Part → Option Int
| .value _ (.unsigned n) => some n
| .value _ (.signed n) => some n
| .byte b => some b.toNat
| _ => none

/- The text that stands here, if its bytes make up characters. -/
def string? : Part → Option String
| .value _ (.text bytes) => String.fromUTF8? ⟨bytes.toArray⟩
| .value _ (.binary bytes) => String.fromUTF8? ⟨bytes.toArray⟩
| _ => none

/- The members of the list that stands here. -/
def items? : Part → Option (List Part)
| .value (levels + 1) (.list items) =>
  some (items.map (.value levels))
| .value _ (.binary bytes) => some (bytes.map .byte)
| _ => none

/- The keys and values of the map that stands here. -/
def entries? : Part → Option (List (Part × Part))
| .value (levels + 1) (.map entries) =>
  some (entries.map fun (k, v) => (.value levels k, .value levels v))
| _ => none

end Part

end CreatureProse.Storage
