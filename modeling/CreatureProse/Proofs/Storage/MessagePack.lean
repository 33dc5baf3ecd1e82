import CreatureProse.Storage.MessagePack
import Mathlib.Algebra.Group.Int.Defs
import Mathlib.Algebra.Group.Nat.Defs

/-
  The MessagePack format is read as it was written: the bytes of
  values are read back as the same values, whatever comes after
  them.

  Main declarations:
    * `ofBigEndian_bigEndian`
    * `ofTwosComplement_bigEndian`
    * `Value.Fits`
    * `reads_writeItems`
    * `read?_write`
-/

namespace CreatureProse.Storage

------------------------------------------------------------
-- Numbers as Bytes
------------------------------------------------------------

/- Each byte multiplies the number of values by 256. -/
theorem valueCount_eq (width : Nat) :
    valueCount width = 256 ^ width := by
  induction width with
  | zero => rfl
  | succ width ih =>
      rw [valueCount, ih, Nat.pow_succ, Nat.mul_comm]

@[simp] theorem length_bigEndian (width n : Nat) :
    (bigEndian width n).length = width := by
  induction width with
  | zero => rfl
  | succ width ih => rw [bigEndian, List.length_cons, ih]

/-
  Reading on from a number shifts it to the left by as many
  bytes as follow.
-/
theorem foldl_bigEndian
    (width n start : Nat) :
    (bigEndian width n).foldl
        (fun n b => 256 * n + b.toNat) start =
      start * 256 ^ width + n % 256 ^ width := by
  induction width generalizing start with
  | zero => simp [bigEndian, Nat.mod_one]
  | succ width ih =>
      have hSplit :
          n % 256 ^ (width + 1) =
            n / 256 ^ width % 256 * 256 ^ width +
              n % 256 ^ width := by
        rw [Nat.pow_succ, Nat.mod_mul, Nat.mul_comm,
          Nat.add_comm]
      rw [bigEndian, List.foldl_cons, ih, valueCount_eq,
        UInt8.toNat_ofNat', hSplit, Nat.pow_succ,
        Nat.add_mul, ← Nat.add_assoc]
      congr 2
      rw [Nat.mul_comm 256 start, Nat.mul_assoc,
        Nat.mul_comm 256 (256 ^ width), ← Nat.pow_succ]

/- A number that fits into its bytes is read back from them. -/
theorem ofBigEndian_bigEndian
    {width n : Nat}
    (hFits : n < 256 ^ width) :
    ofBigEndian (bigEndian width n) = n := by
  rw [ofBigEndian, foldl_bigEndian, Nat.zero_mul,
    Nat.zero_add, Nat.mod_eq_of_lt hFits]

/- So is a negative number. -/
theorem ofTwosComplement_bigEndian
    {width : Nat}
    {n : Int}
    (hNegative : n < 0)
    (hFits : -(256 ^ width : Nat) ≤ 2 * n) :
    ofTwosComplement
        (bigEndian width (n + (256 ^ width : Nat)).toNat) =
      n := by
  have hSmall :
      (n + (256 ^ width : Nat)).toNat < 256 ^ width := by
    omega
  simp only [ofTwosComplement, length_bigEndian,
    ofBigEndian_bigEndian hSmall, valueCount_eq]
  rw [if_neg (by omega)]
  omega

------------------------------------------------------------
-- Taking Bytes
------------------------------------------------------------

/- The bytes in front are taken and the others are left. -/
theorem take?_append
    {count : Nat}
    {bytes : List UInt8}
    (hCount : bytes.length = count)
    (rest : List UInt8) :
    take? count (bytes ++ rest) = some (bytes, rest) := by
  simp [take?, List.splitAt_eq, ← hCount]

/- A size in front is taken. -/
theorem takeSize?_append
    {width n : Nat}
    (hFits : n < 256 ^ width)
    (rest : List UInt8) :
    takeSize? width (bigEndian width n ++ rest) =
      some (n, rest) := by
  rw [takeSize?, take?_append (length_bigEndian width n)]
  simp [ofBigEndian_bigEndian hFits]

/- The bytes in front become a value. -/
theorem leafOf_append
    {make : List UInt8 → Value}
    {count : Nat}
    {bytes : List UInt8}
    (hCount : bytes.length = count)
    (rest : List UInt8) :
    leafOf make count (bytes ++ rest) =
      some (.leaf (make bytes), rest) := by
  rw [leafOf, take?_append hCount]
  rfl

/- Bytes with their size in front become a value. -/
theorem sizedLeafOf_append
    {make : List UInt8 → Value}
    (width : Nat)
    {bytes : List UInt8}
    (hFits : bytes.length < 256 ^ width)
    (rest : List UInt8) :
    sizedLeafOf make width
        (bigEndian width bytes.length ++ (bytes ++ rest)) =
      some (.leaf (make bytes), rest) := by
  rw [sizedLeafOf, takeSize?_append hFits, Option.bind_some]
  exact leafOf_append rfl rest

------------------------------------------------------------
-- Heads
------------------------------------------------------------

/- The byte of a small number stands for it. -/
theorem toNat_ofNat_of_lt
    {n : Nat}
    (hSmall : n < 256) :
    (UInt8.ofNat n).toNat = n := by
  rw [UInt8.toNat_ofNat', Nat.mod_eq_of_lt hSmall]

/- A number without sign is read back. -/
theorem readHead?_writeUnsigned
    {n : Nat}
    (hFits : n < 2 ^ 64)
    (rest : List UInt8) :
    readHead? (writeUnsigned n ++ rest) =
      some (.leaf (.unsigned n), rest) := by
  have hLeaf (width : Nat) (hWidth : n < 256 ^ width) :
      leafOf (fun b => .unsigned (ofBigEndian b)) width
          (bigEndian width n ++ rest) =
        some (.leaf (.unsigned n), rest) := by
    rw [leafOf_append (length_bigEndian width n),
      ofBigEndian_bigEndian hWidth]
  unfold writeUnsigned
  split
  · rename_i hSmall
    simp only [List.cons_append, List.nil_append, readHead?,
      headAfter]
    rw [toNat_ofNat_of_lt (by omega), if_pos hSmall]
  · split
    · exact hLeaf 1 (by omega)
    · split
      · exact hLeaf 2 (by omega)
      · split
        · exact hLeaf 4 (by omega)
        · exact hLeaf 8 (by omega)

/- A negative number is read back. -/
theorem readHead?_writeSigned
    {n : Int}
    (hNegative : n < 0)
    (hFits : -2 ^ 63 ≤ n)
    (rest : List UInt8) :
    readHead? (writeSigned n ++ rest) =
      some (.leaf (.signed n), rest) := by
  have hLeaf
      (width : Nat)
      (hWidth : -(256 ^ width : Nat) ≤ 2 * n) :
      leafOf (fun b => .signed (ofTwosComplement b)) width
          (bigEndian width (n + (256 ^ width : Nat)).toNat
            ++ rest) =
        some (.leaf (.signed n), rest) := by
    rw [leafOf_append (length_bigEndian width _),
      ofTwosComplement_bigEndian hNegative hWidth]
  unfold writeSigned
  rw [if_neg (by omega)]
  split
  · -- The byte itself is the mark, from e0 up.
    have hMark :
        (UInt8.ofNat (n + 0x100).toNat).toNat =
          (n + 0x100).toNat :=
      toNat_ofNat_of_lt (by omega)
    simp only [bigEndian, valueCount, Nat.div_one,
      List.cons_append, List.nil_append, readHead?, headAfter,
      hMark]
    rw [if_neg (by omega), if_neg (by omega),
      if_neg (by omega), if_neg (by omega), if_pos (by omega)]
    congr 4
    omega
  · split
    · exact hLeaf 1 (by omega)
    · split
      · exact hLeaf 2 (by omega)
      · split
        · exact hLeaf 4 (by omega)
        · exact hLeaf 8 (by omega)

/- A text is read back. -/
theorem readHead?_writeTextSize
    {bytes : List UInt8}
    (hFits : bytes.length < 2 ^ 32)
    (rest : List UInt8) :
    readHead?
        (writeTextSize bytes.length ++ (bytes ++ rest)) =
      some (.leaf (.text bytes), rest) := by
  unfold writeTextSize
  split
  · simp only [List.cons_append, List.nil_append, readHead?,
      headAfter]
    rw [toNat_ofNat_of_lt (by omega), if_neg (by omega),
      if_neg (by omega), if_neg (by omega), if_pos (by omega),
      leafOf_append (by omega)]
  · split
    · exact sizedLeafOf_append 1 (by omega) rest
    · split
      · exact sizedLeafOf_append 2 (by omega) rest
      · exact sizedLeafOf_append 4 (by omega) rest

/- Bytes are read back. -/
theorem readHead?_writeBinarySize
    {bytes : List UInt8}
    (hFits : bytes.length < 2 ^ 32)
    (rest : List UInt8) :
    readHead?
        (writeBinarySize bytes.length ++ (bytes ++ rest)) =
      some (.leaf (.binary bytes), rest) := by
  unfold writeBinarySize
  split
  · exact sizedLeafOf_append 1 (by omega) rest
  · split
    · exact sizedLeafOf_append 2 (by omega) rest
    · exact sizedLeafOf_append 4 (by omega) rest

/- The size of a list is read back. -/
theorem readHead?_writeListSize
    {n : Nat}
    (hFits : n < 2 ^ 32)
    (rest : List UInt8) :
    readHead? (writeListSize n ++ rest) =
      some (.list n, rest) := by
  have hSize (width : Nat) (hWidth : n < 256 ^ width) :
      (takeSize? width (bigEndian width n ++ rest)).map
          (fun read => (Head.list read.1, read.2)) =
        some (.list n, rest) := by
    rw [takeSize?_append hWidth]
    rfl
  unfold writeListSize
  split
  · simp only [List.cons_append, List.nil_append, readHead?,
      headAfter]
    rw [toNat_ofNat_of_lt (by omega), if_neg (by omega),
      if_neg (by omega), if_pos (by omega),
      Nat.add_sub_cancel_left]
  · split
    · exact hSize 2 (by omega)
    · exact hSize 4 (by omega)

/- The size of a map is read back. -/
theorem readHead?_writeMapSize
    {n : Nat}
    (hFits : n < 2 ^ 32)
    (rest : List UInt8) :
    readHead? (writeMapSize n ++ rest) =
      some (.map n, rest) := by
  have hSize (width : Nat) (hWidth : n < 256 ^ width) :
      (takeSize? width (bigEndian width n ++ rest)).map
          (fun read => (Head.map read.1, read.2)) =
        some (.map n, rest) := by
    rw [takeSize?_append hWidth]
    rfl
  unfold writeMapSize
  split
  · simp only [List.cons_append, List.nil_append, readHead?,
      headAfter]
    rw [toNat_ofNat_of_lt (by omega), if_neg (by omega),
      if_pos (by omega), Nat.add_sub_cancel_left]
  · split
    · exact hSize 2 (by omega)
    · exact hSize 4 (by omega)

/- An extension is read back. -/
theorem readHead?_writeExtensionSize
    {bytes : List UInt8}
    (kind : UInt8)
    (hFits : bytes.length < 2 ^ 32)
    (rest : List UInt8) :
    readHead?
        (writeExtensionSize kind bytes.length
          ++ (bytes ++ rest)) =
      some (.leaf (.extension kind bytes), rest) := by
  have hSize
      (width : Nat)
      (hWidth : bytes.length < 256 ^ width) :
      (takeSize? width
          (bigEndian width bytes.length
            ++ (kind :: (bytes ++ rest)))).bind
          (fun read => extensionOf read.1 read.2) =
        some (.leaf (.extension kind bytes), rest) := by
    rw [takeSize?_append hWidth, Option.bind_some]
    exact leafOf_append rfl rest
  unfold writeExtensionSize
  split
  · simp only [List.cons_append, List.append_assoc,
      List.nil_append]
    exact hSize 1 (by omega)
  · split
    · simp only [List.cons_append, List.append_assoc,
        List.nil_append]
      exact hSize 2 (by omega)
    · simp only [List.cons_append, List.append_assoc,
        List.nil_append]
      exact hSize 4 (by omega)

------------------------------------------------------------
-- Values That Can Be Written
------------------------------------------------------------

mutual

/-
  A value that the format can hold: its numbers fit into 64
  bits, its sizes into 32, and only negative numbers are kept
  with a sign.
-/
def Value.Fits : Value → Prop
| .nil => True
| .flag _ => True
| .unsigned n => n < 2 ^ 64
| .signed n => -2 ^ 63 ≤ n ∧ n < 0
| .float bytes => bytes.length = 4 ∨ bytes.length = 8
| .text bytes => bytes.length < 2 ^ 32
| .binary bytes => bytes.length < 2 ^ 32
| .list items => items.length < 2 ^ 32 ∧ ItemsFit items
| .map entries => entries.length < 2 ^ 32 ∧ EntriesFit entries
| .extension _ bytes => bytes.length < 2 ^ 32

/- All of several values can be written. -/
def ItemsFit : List Value → Prop
| [] => True
| v :: more => v.Fits ∧ ItemsFit more

/- All keys and values can be written. -/
def EntriesFit : List (Value × Value) → Prop
| [] => True
| (k, v) :: more => k.Fits ∧ v.Fits ∧ EntriesFit more

end

------------------------------------------------------------
-- Entries as Items
------------------------------------------------------------

/- The keys and values one after the other. -/
def flatEntries : List (Value × Value) → List Value
| [] => []
| (k, v) :: more => k :: v :: flatEntries more

theorem length_flatEntries (entries : List (Value × Value)) :
    (flatEntries entries).length = 2 * entries.length := by
  induction entries with
  | nil => rfl
  | cons e more ih =>
      simp only [flatEntries, List.length_cons, ih]
      omega

theorem pairUp_flatEntries (entries : List (Value × Value)) :
    pairUp (flatEntries entries) = entries := by
  induction entries with
  | nil => rfl
  | cons e more ih => simp [flatEntries, pairUp, ih]

/- A map is written like the list of its keys and values. -/
theorem writeItems_flatEntries
    (entries : List (Value × Value)) :
    writeItems (flatEntries entries) = writeEntries entries := by
  induction entries with
  | nil => simp [flatEntries, writeItems, writeEntries]
  | cons e more ih =>
      simp [flatEntries, writeItems, writeEntries, ih]

theorem itemsFit_flatEntries
    {entries : List (Value × Value)}
    (hFit : EntriesFit entries) :
    ItemsFit (flatEntries entries) := by
  induction entries with
  | nil => simp [flatEntries, ItemsFit]
  | cons e more ih =>
      simp only [EntriesFit] at hFit
      exact ⟨hFit.1, hFit.2.1, ih hFit.2.2⟩

------------------------------------------------------------
-- Reading Values Back
------------------------------------------------------------

/-
  The given number of values is read from the bytes, with some
  bytes left over.
-/
def Reads
    (count : Nat)
    (bytes : List UInt8)
    (vs : List Value)
    (rest : List UInt8) : Prop :=
  ∃ h, readForest? count bytes = some (vs, ⟨rest, h⟩)

/- No values are read from no bytes. -/
theorem Reads.zero (bytes : List UInt8) :
    Reads 0 bytes [] bytes :=
  ⟨Nat.le_refl _, by rw [readForest?]⟩

/- A value without parts is read, and then the other values. -/
theorem Reads.leaf
    {count : Nat}
    {bytes rest last : List UInt8}
    {v : Value}
    {vs : List Value}
    (hHead : readHead? bytes = some (.leaf v, rest))
    (hMore : Reads count rest vs last) :
    Reads (count + 1) bytes (v :: vs) last := by
  rcases hMore with ⟨hLast, hMore⟩
  have hShorter := length_lt_of_readHead? hHead
  refine ⟨by omega, ?_⟩
  rw [readForest?]
  split
  · rename_i hNone
    rw [hHead] at hNone
    cases hNone
  · rename_i hSome
    rw [hHead] at hSome
    cases hSome
    simp only [hMore]

/- A list is read, and then the other values. -/
theorem Reads.list
    {count size : Nat}
    {bytes rest middle last : List UInt8}
    {items vs : List Value}
    (hHead : readHead? bytes = some (.list size, rest))
    (hItems : Reads size rest items middle)
    (hMore : Reads count middle vs last) :
    Reads (count + 1) bytes (.list items :: vs) last := by
  rcases hItems with ⟨hMiddle, hItems⟩
  rcases hMore with ⟨hLast, hMore⟩
  have hShorter := length_lt_of_readHead? hHead
  refine ⟨by omega, ?_⟩
  rw [readForest?]
  split
  · rename_i hNone
    rw [hHead] at hNone
    cases hNone
  · rename_i hSome
    rw [hHead] at hSome
    cases hSome
    simp only [hItems, hMore]

/- A map is read, and then the other values. -/
theorem Reads.map
    {count size : Nat}
    {bytes rest middle last : List UInt8}
    {items vs : List Value}
    (hHead : readHead? bytes = some (.map size, rest))
    (hItems : Reads (2 * size) rest items middle)
    (hMore : Reads count middle vs last) :
    Reads (count + 1) bytes (.map (pairUp items) :: vs)
      last := by
  rcases hItems with ⟨hMiddle, hItems⟩
  rcases hMore with ⟨hLast, hMore⟩
  have hShorter := length_lt_of_readHead? hHead
  refine ⟨by omega, ?_⟩
  rw [readForest?]
  split
  · rename_i hNone
    rw [hHead] at hNone
    cases hNone
  · rename_i hSome
    rw [hHead] at hSome
    cases hSome
    simp only [hItems, hMore]

/- The bytes of several values are those of each in turn. -/
theorem writeItems_cons
    (v : Value)
    (vs : List Value) :
    writeItems (v :: vs) = v.write ++ writeItems vs := by
  rw [writeItems]

/- A list takes more bytes than its members. -/
theorem length_writeItems_lt_list (items : List Value) :
    (writeItems items).length <
      (Value.list items).write.length := by
  simp only [Value.write, List.length_append, writeListSize]
  split
  · simp
  · split
    · simp
    · simp

/- A map takes more bytes than its keys and values. -/
theorem length_writeEntries_lt_map
    (entries : List (Value × Value)) :
    (writeEntries entries).length <
      (Value.map entries).write.length := by
  simp only [Value.write, List.length_append, writeMapSize]
  split
  · simp
  · split
    · simp
    · simp

/- Every value takes at least one byte. -/
theorem length_write_pos (v : Value) :
    0 < v.write.length := by
  cases v with
  | nil => simp [Value.write]
  | flag b => simp [Value.write]
  | unsigned n =>
      simp only [Value.write, writeUnsigned]
      repeat' split
      all_goals simp
  | signed n =>
      simp only [Value.write, writeSigned, writeUnsigned]
      repeat' split
      all_goals simp
  | float bytes => simp [Value.write]
  | text bytes =>
      simp only [Value.write, writeTextSize]
      repeat' split
      all_goals simp
  | binary bytes =>
      simp only [Value.write, writeBinarySize]
      repeat' split
      all_goals simp
  | list items =>
      exact Nat.zero_lt_of_lt (length_writeItems_lt_list items)
  | map entries =>
      exact
        Nat.zero_lt_of_lt (length_writeEntries_lt_map entries)
  | extension kind bytes =>
      simp only [Value.write, writeExtensionSize]
      repeat' split
      all_goals simp

/-
  A value that can be written is read back, and then the other
  values, if its own parts are.
-/
theorem reads_write_append
    {v : Value}
    (hFits : v.Fits)
    {count : Nat}
    {vs : List Value}
    {rest last : List UInt8}
    (hMore : Reads count rest vs last)
    (hParts :
      ∀ items,
        (writeItems items).length < v.write.length →
          ItemsFit items →
            Reads items.length (writeItems items ++ rest)
              items rest) :
    Reads (count + 1) (v.write ++ rest) (v :: vs) last := by
  cases v with
  | nil => exact Reads.leaf rfl hMore
  | flag b =>
      cases b with
      | true => exact Reads.leaf rfl hMore
      | false => exact Reads.leaf rfl hMore
  | unsigned n =>
      simp only [Value.Fits] at hFits
      rw [Value.write]
      exact Reads.leaf (readHead?_writeUnsigned hFits rest)
        hMore
  | signed n =>
      simp only [Value.Fits] at hFits
      rw [Value.write]
      exact Reads.leaf
        (readHead?_writeSigned hFits.2 hFits.1 rest) hMore
  | float bytes =>
      simp only [Value.Fits] at hFits
      rw [Value.write]
      rcases hFits with hFour | hEight
      · rw [if_pos hFour]
        exact Reads.leaf (leafOf_append hFour rest) hMore
      · rw [if_neg (by omega)]
        exact Reads.leaf (leafOf_append hEight rest) hMore
  | text bytes =>
      simp only [Value.Fits] at hFits
      rw [Value.write, List.append_assoc]
      exact Reads.leaf (readHead?_writeTextSize hFits rest)
        hMore
  | binary bytes =>
      simp only [Value.Fits] at hFits
      rw [Value.write, List.append_assoc]
      exact Reads.leaf (readHead?_writeBinarySize hFits rest)
        hMore
  | list items =>
      have hShorter := length_writeItems_lt_list items
      simp only [Value.Fits] at hFits
      rw [Value.write, List.append_assoc]
      exact Reads.list (readHead?_writeListSize hFits.1 _)
        (hParts items hShorter hFits.2) hMore
  | map entries =>
      have hShorter := length_writeEntries_lt_map entries
      simp only [Value.Fits] at hFits
      have hItems :=
        hParts (flatEntries entries)
          (by rwa [writeItems_flatEntries])
          (itemsFit_flatEntries hFits.2)
      rw [length_flatEntries, writeItems_flatEntries]
        at hItems
      rw [Value.write, List.append_assoc]
      have hRead :=
        Reads.map (readHead?_writeMapSize hFits.1 _)
          hItems hMore
      rwa [pairUp_flatEntries] at hRead
  | extension kind bytes =>
      simp only [Value.Fits] at hFits
      rw [Value.write, List.append_assoc]
      exact Reads.leaf
        (readHead?_writeExtensionSize kind hFits rest) hMore

/-
  Values that can be written are read back, whatever bytes come
  after them. The induction is on the number of bytes, because
  the keys and values of a map are read as one list.
-/
theorem reads_writeItems
    (vs : List Value)
    (hFit : ItemsFit vs)
    (rest : List UInt8) :
    Reads vs.length (writeItems vs ++ rest) vs rest := by
  match vs with
  | [] =>
      rw [writeItems]
      exact Reads.zero rest
  | v :: more =>
      simp only [ItemsFit] at hFit
      rw [writeItems_cons, List.append_assoc]
      apply reads_write_append hFit.1
      · exact reads_writeItems more hFit.2 rest
      · intro items hShorter hItems
        exact reads_writeItems items hItems _
termination_by (writeItems vs).length
decreasing_by
  · have := length_write_pos v
    simp only [writeItems_cons, List.length_append]
    omega
  · simp only [writeItems_cons, List.length_append]
    omega

/- A value that can be written is read back from its bytes. -/
theorem read?_write
    {v : Value}
    (hFits : v.Fits) :
    read? v.write = some v := by
  have hReads : Reads 1 v.write [v] [] := by
    simpa [writeItems] using
      reads_writeItems [v] (by simp [ItemsFit, hFits]) []
  rcases hReads with ⟨h, hRead⟩
  rw [read?, hRead]

end CreatureProse.Storage
