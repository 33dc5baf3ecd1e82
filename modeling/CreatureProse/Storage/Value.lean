/-
  This file defines the values that can be stored in the
  MessagePack format.

  Key definitions include:
    * `Value`
    * `Value.ofInt`
    * `Value.ofString`
    * `Value.depth`
-/

namespace CreatureProse.Storage

/-
  A stored value. Numbers keep whether they are stored with a
  sign, and texts are kept as bytes, which need not make up
  characters.
-/
inductive Value where
| nil
| flag (b : Bool)
| unsigned (n : Nat)
| signed (n : Int)
| float (bytes : List UInt8)
| text (bytes : List UInt8)
| binary (bytes : List UInt8)
| list (items : List Value)
| map (entries : List (Value × Value))
| extension (kind : UInt8) (bytes : List UInt8)
deriving Inhabited

namespace Value

/- A number; one that is not negative has no sign. -/
def ofInt (n : Int) : Value :=
  if 0 ≤ n then .unsigned n.toNat else .signed n

/- A text as its UTF-8 bytes. -/
def ofString (s : String) : Value :=
  .text s.toUTF8.toList

mutual

/-
  The number of values with parts that stand inside each other
  at the most, an extension counting as one of them.
-/
def depth : Value → Nat
| .list items => depthOfItems items + 1
| .map entries => depthOfEntries entries + 1
| .extension _ _ => 1
| _ => 0

/- The greatest depth among values. -/
def depthOfItems : List Value → Nat
| [] => 0
| v :: more => max v.depth (depthOfItems more)

/- The greatest depth among keys and values. -/
def depthOfEntries : List (Value × Value) → Nat
| [] => 0
| (k, v) :: more =>
  max (max k.depth v.depth) (depthOfEntries more)

end

end Value

end CreatureProse.Storage
