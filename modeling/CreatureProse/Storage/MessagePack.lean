import CreatureProse.Storage.Value

/-
  This file defines the MessagePack format: how a value is
  written as bytes, always in its shortest form, and how it is
  read, in any form.

  Key definitions include:
    * `Value.write`
    * `Head`
    * `readHead?`
    * `readForest?`
    * `read?`
-/

namespace CreatureProse.Storage

------------------------------------------------------------
-- Numbers as Bytes
------------------------------------------------------------

/- The number of values that bytes of a width can have. -/
def valueCount : Nat → Nat
| 0 => 1
| width + 1 => 256 * valueCount width

/- The lowest bytes of a number, the highest of them first. -/
def bigEndian : Nat → Nat → List UInt8
| 0, _ => []
| width + 1, n =>
  UInt8.ofNat (n / valueCount width) :: bigEndian width n

/- The number of bytes, the highest of them first. -/
def ofBigEndian (bytes : List UInt8) : Nat :=
  bytes.foldl (fun n b => 256 * n + b.toNat) 0

/- The number of bytes whose highest bit counts negatively. -/
def ofTwosComplement (bytes : List UInt8) : Int :=
  let n := ofBigEndian bytes
  if 2 * n < valueCount bytes.length then
    n
  else
    (n : Int) - valueCount bytes.length

------------------------------------------------------------
-- Writing
------------------------------------------------------------

/- A number without sign. -/
def writeUnsigned (n : Nat) : List UInt8 :=
  if n < 0x80 then [UInt8.ofNat n]
  else if n < 0x100 then 0xcc :: bigEndian 1 n
  else if n < 0x10000 then 0xcd :: bigEndian 2 n
  else if n < 0x100000000 then 0xce :: bigEndian 4 n
  else 0xcf :: bigEndian 8 n

/- A number with sign, which has one only if it is negative. -/
def writeSigned (n : Int) : List UInt8 :=
  if 0 ≤ n then writeUnsigned n.toNat
  else if -0x20 ≤ n then bigEndian 1 (n + 0x100).toNat
  else if -0x80 ≤ n then 0xd0 :: bigEndian 1 (n + 0x100).toNat
  else if -0x8000 ≤ n then 0xd1 :: bigEndian 2 (n + 0x10000).toNat
  else if -0x80000000 ≤ n then 0xd2 :: bigEndian 4 (n + 0x100000000).toNat
  else 0xd3 :: bigEndian 8 (n + 0x10000000000000000).toNat

/- The mark and the size in front of a text. -/
def writeTextSize (n : Nat) : List UInt8 :=
  if n < 0x20 then [UInt8.ofNat (0xa0 + n)]
  else if n < 0x100 then 0xd9 :: bigEndian 1 n
  else if n < 0x10000 then 0xda :: bigEndian 2 n
  else 0xdb :: bigEndian 4 n

/- The mark and the size in front of bytes. -/
def writeBinarySize (n : Nat) : List UInt8 :=
  if n < 0x100 then 0xc4 :: bigEndian 1 n
  else if n < 0x10000 then 0xc5 :: bigEndian 2 n
  else 0xc6 :: bigEndian 4 n

/- The mark and the size in front of a list. -/
def writeListSize (n : Nat) : List UInt8 :=
  if n < 0x10 then [UInt8.ofNat (0x90 + n)]
  else if n < 0x10000 then 0xdc :: bigEndian 2 n
  else 0xdd :: bigEndian 4 n

/- The mark and the size in front of a map. -/
def writeMapSize (n : Nat) : List UInt8 :=
  if n < 0x10 then [UInt8.ofNat (0x80 + n)]
  else if n < 0x10000 then 0xde :: bigEndian 2 n
  else 0xdf :: bigEndian 4 n

/- The mark, the size and the kind in front of an extension. -/
def writeExtensionSize
    (kind : UInt8)
    (n : Nat) : List UInt8 :=
  if n < 0x100 then 0xc7 :: bigEndian 1 n ++ [kind]
  else if n < 0x10000 then 0xc8 :: bigEndian 2 n ++ [kind]
  else 0xc9 :: bigEndian 4 n ++ [kind]

mutual

/- The bytes of a value. -/
def Value.write : Value → List UInt8
| .nil => [0xc0]
| .flag b => [if b then 0xc3 else 0xc2]
| .unsigned n => writeUnsigned n
| .signed n => writeSigned n
| .float bytes =>
  (if bytes.length = 4 then 0xca else 0xcb) :: bytes
| .text bytes => writeTextSize bytes.length ++ bytes
| .binary bytes => writeBinarySize bytes.length ++ bytes
| .list items => writeListSize items.length ++ writeItems items
| .map entries =>
  writeMapSize entries.length ++ writeEntries entries
| .extension kind bytes =>
  writeExtensionSize kind bytes.length ++ bytes

/- The bytes of values one after the other. -/
def writeItems : List Value → List UInt8
| [] => []
| v :: more => v.write ++ writeItems more

/- The bytes of keys and values one after the other. -/
def writeEntries : List (Value × Value) → List UInt8
| [] => []
| (k, v) :: more => k.write ++ (v.write ++ writeEntries more)

end

------------------------------------------------------------
-- Reading
------------------------------------------------------------

/-
  What a mark announces: a value without parts, or a list or a
  map of the given size.
-/
inductive Head where
| leaf (v : Value)
| list (size : Nat)
| map (size : Nat)

/- The first bytes of the given number and those after them. -/
def take?
    (count : Nat)
    (bytes : List UInt8) : Option (List UInt8 × List UInt8) :=
  let (taken, rest) := bytes.splitAt count
  if taken.length = count then some (taken, rest) else none

/- What is taken and what is left make up the bytes. -/
theorem append_of_take?
    {count : Nat}
    {bytes taken rest : List UInt8}
    (h : take? count bytes = some (taken, rest)) :
    taken ++ rest = bytes := by
  simp only [take?, List.splitAt_eq] at h
  split at h
  · cases h
    exact List.take_append_drop count bytes
  · cases h

/- Taking bytes leaves no more than there were. -/
theorem length_le_of_take?
    {count : Nat}
    {bytes taken rest : List UInt8}
    (h : take? count bytes = some (taken, rest)) :
    rest.length ≤ bytes.length := by
  rw [← append_of_take? h, List.length_append]
  omega

/- A size of the given width and the bytes after it. -/
def takeSize?
    (width : Nat)
    (bytes : List UInt8) : Option (Nat × List UInt8) :=
  (take? width bytes).map fun (size, rest) => (ofBigEndian size, rest)

/- Bytes that become a value, and the bytes after them. -/
def leafOf
    (make : List UInt8 → Value)
    (count : Nat)
    (bytes : List UInt8) : Option (Head × List UInt8) :=
  (take? count bytes).map fun (taken, rest) =>
    (.leaf (make taken), rest)

/- Bytes with their size in front that become a value. -/
def sizedLeafOf
    (make : List UInt8 → Value)
    (width : Nat)
    (bytes : List UInt8) : Option (Head × List UInt8) :=
  (takeSize? width bytes).bind fun (size, rest) =>
    leafOf make size rest

/- An extension of the given size: its kind and its bytes. -/
def extensionOf
    (size : Nat) : List UInt8 → Option (Head × List UInt8)
| [] => none
| kind :: rest => leafOf (.extension kind) size rest

/- What comes after the given mark. The mark c1 is not in use. -/
def headAfter
    (mark : Nat)
    (bytes : List UInt8) : Option (Head × List UInt8) :=
  if mark < 0x80 then some (.leaf (.unsigned mark), bytes)
  else if mark < 0x90 then some (.map (mark - 0x80), bytes)
  else if mark < 0xa0 then some (.list (mark - 0x90), bytes)
  else if mark < 0xc0 then leafOf .text (mark - 0xa0) bytes
  else if 0xe0 ≤ mark then
    some (.leaf (.signed ((mark : Int) - 0x100)), bytes)
  else
    match mark with
    | 0xc0 => some (.leaf .nil, bytes)
    | 0xc2 => some (.leaf (.flag false), bytes)
    | 0xc3 => some (.leaf (.flag true), bytes)
    | 0xc4 => sizedLeafOf .binary 1 bytes
    | 0xc5 => sizedLeafOf .binary 2 bytes
    | 0xc6 => sizedLeafOf .binary 4 bytes
    | 0xc7 => (takeSize? 1 bytes).bind fun (n, r) => extensionOf n r
    | 0xc8 => (takeSize? 2 bytes).bind fun (n, r) => extensionOf n r
    | 0xc9 => (takeSize? 4 bytes).bind fun (n, r) => extensionOf n r
    | 0xca => leafOf .float 4 bytes
    | 0xcb => leafOf .float 8 bytes
    | 0xcc => leafOf (fun b => .unsigned (ofBigEndian b)) 1 bytes
    | 0xcd => leafOf (fun b => .unsigned (ofBigEndian b)) 2 bytes
    | 0xce => leafOf (fun b => .unsigned (ofBigEndian b)) 4 bytes
    | 0xcf => leafOf (fun b => .unsigned (ofBigEndian b)) 8 bytes
    | 0xd0 => leafOf (fun b => .signed (ofTwosComplement b)) 1 bytes
    | 0xd1 => leafOf (fun b => .signed (ofTwosComplement b)) 2 bytes
    | 0xd2 => leafOf (fun b => .signed (ofTwosComplement b)) 4 bytes
    | 0xd3 => leafOf (fun b => .signed (ofTwosComplement b)) 8 bytes
    | 0xd4 => extensionOf 1 bytes
    | 0xd5 => extensionOf 2 bytes
    | 0xd6 => extensionOf 4 bytes
    | 0xd7 => extensionOf 8 bytes
    | 0xd8 => extensionOf 16 bytes
    | 0xd9 => sizedLeafOf .text 1 bytes
    | 0xda => sizedLeafOf .text 2 bytes
    | 0xdb => sizedLeafOf .text 4 bytes
    | 0xdc => (takeSize? 2 bytes).map fun (n, r) => (.list n, r)
    | 0xdd => (takeSize? 4 bytes).map fun (n, r) => (.list n, r)
    | 0xde => (takeSize? 2 bytes).map fun (n, r) => (.map n, r)
    | 0xdf => (takeSize? 4 bytes).map fun (n, r) => (.map n, r)
    | _ => none

/- Taking a size leaves no more bytes than there were. -/
theorem length_le_of_takeSize?
    {width size : Nat}
    {bytes rest : List UInt8}
    (h : takeSize? width bytes = some (size, rest)) :
    rest.length ≤ bytes.length := by
  simp only [takeSize?, Option.map_eq_some_iff] at h
  obtain ⟨⟨taken, left⟩, hTake, hEq⟩ := h
  cases hEq
  exact length_le_of_take? hTake

/- A value without parts leaves no more bytes than there were. -/
theorem length_le_of_leafOf
    {make : List UInt8 → Value}
    {count : Nat}
    {bytes rest : List UInt8}
    {head : Head}
    (h : leafOf make count bytes = some (head, rest)) :
    rest.length ≤ bytes.length := by
  simp only [leafOf, Option.map_eq_some_iff] at h
  obtain ⟨⟨taken, left⟩, hTake, hEq⟩ := h
  cases hEq
  exact length_le_of_take? hTake

/- Bytes with a size leave no more bytes than there were. -/
theorem length_le_of_sizedLeafOf
    {make : List UInt8 → Value}
    {width : Nat}
    {bytes rest : List UInt8}
    {head : Head}
    (h : sizedLeafOf make width bytes = some (head, rest)) :
    rest.length ≤ bytes.length := by
  simp only [sizedLeafOf, Option.bind_eq_some_iff] at h
  obtain ⟨⟨size, left⟩, hSize, hLeaf⟩ := h
  exact Nat.le_trans (length_le_of_leafOf hLeaf)
    (length_le_of_takeSize? hSize)

/- An extension leaves no more bytes than there were. -/
theorem length_le_of_extensionOf
    {size : Nat}
    {bytes rest : List UInt8}
    {head : Head}
    (h : extensionOf size bytes = some (head, rest)) :
    rest.length ≤ bytes.length := by
  cases bytes with
  | nil => cases h
  | cons kind bytes =>
      have := length_le_of_leafOf h
      simp only [List.length_cons]
      omega

/- An extension with a size leaves no more bytes. -/
theorem length_le_of_sized_extension
    {width : Nat}
    {bytes rest : List UInt8}
    {head : Head}
    (h : ((takeSize? width bytes).bind
      fun (n, r) => extensionOf n r) = some (head, rest)) :
    rest.length ≤ bytes.length := by
  simp only [Option.bind_eq_some_iff] at h
  obtain ⟨⟨size, left⟩, hSize, hExt⟩ := h
  exact Nat.le_trans (length_le_of_extensionOf hExt)
    (length_le_of_takeSize? hSize)

/- The size of a list or map leaves no more bytes. -/
theorem length_le_of_sized_head
    {width : Nat}
    {bytes rest : List UInt8}
    {head : Head}
    {make : Nat → Head}
    (h : ((takeSize? width bytes).map
      fun (n, r) => (make n, r)) = some (head, rest)) :
    rest.length ≤ bytes.length := by
  simp only [Option.map_eq_some_iff] at h
  obtain ⟨⟨size, left⟩, hSize, hEq⟩ := h
  cases hEq
  exact length_le_of_takeSize? hSize

/- What comes after a mark leaves no more bytes. -/
theorem length_le_of_headAfter
    {mark : Nat}
    {bytes rest : List UInt8}
    {head : Head}
    (h : headAfter mark bytes = some (head, rest)) :
    rest.length ≤ bytes.length := by
  unfold headAfter at h
  repeat' split at h
  all_goals first
    | exact length_le_of_leafOf h
    | exact length_le_of_sizedLeafOf h
    | exact length_le_of_sized_extension h
    | exact length_le_of_extensionOf h
    | exact length_le_of_sized_head h
    | (cases h; exact Nat.le_refl _)
    | cases h

/- What the first mark announces, and the bytes after it. -/
def readHead? : List UInt8 → Option (Head × List UInt8)
| [] => none
| mark :: bytes => headAfter mark.toNat bytes

/- Reading a head uses up at least its mark. -/
theorem length_lt_of_readHead?
    {bytes rest : List UInt8}
    {head : Head}
    (h : readHead? bytes = some (head, rest)) :
    rest.length < bytes.length := by
  cases bytes with
  | nil => cases h
  | cons mark bytes =>
      have := length_le_of_headAfter h
      simp only [List.length_cons]
      omega

/- Neighbouring values as keys and values. -/
def pairUp : List Value → List (Value × Value)
| k :: v :: more => (k, v) :: pairUp more
| _ => []

/-
  The given number of values one after the other, and the bytes
  after them.
-/
def readForest?
    (count : Nat)
    (bytes : List UInt8) :
    Option (List Value × { rest : List UInt8 //
      rest.length ≤ bytes.length }) :=
  match count with
  | 0 => some ([], ⟨bytes, Nat.le_refl _⟩)
  | count + 1 =>
    match h : readHead? bytes with
    | none => none
    | some (head, rest) =>
      have hr := length_lt_of_readHead? h
      match head with
      | .leaf v =>
        match readForest? count rest with
        | none => none
        | some (vs, ⟨last, hl⟩) =>
          some (v :: vs, ⟨last, by omega⟩)
      | .list size =>
        match readForest? size rest with
        | none => none
        | some (items, ⟨middle, hm⟩) =>
          match readForest? count middle with
          | none => none
          | some (vs, ⟨last, hl⟩) =>
            some (.list items :: vs, ⟨last, by omega⟩)
      | .map size =>
        match readForest? (2 * size) rest with
        | none => none
        | some (items, ⟨middle, hm⟩) =>
          match readForest? count middle with
          | none => none
          | some (vs, ⟨last, hl⟩) =>
            some (.map (pairUp items) :: vs, ⟨last, by omega⟩)
termination_by bytes.length

/-
  The first value that the bytes hold. Bytes after it are left
  out of account.
-/
def read? (bytes : List UInt8) : Option Value :=
  match readForest? 1 bytes with
  | some ([v], _) => some v
  | _ => none

end CreatureProse.Storage
