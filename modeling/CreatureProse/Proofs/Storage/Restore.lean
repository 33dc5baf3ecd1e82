import CreatureProse.Proofs.Storage.MessagePack
import CreatureProse.Storage.Restore
import Mathlib.Order.Lattice

/-
  What is stored is restored. A type is storable when each of
  its values is restored from the value that is stored for it,
  exactly as long as no more lists and maps stand inside each
  other than are allowed.

  Main declarations:
    * `Outline.levels`
    * `Outline.named` and `Outline.fits`
    * `Outline.stored_fits`
    * `Storable`
    * `ofBytesWithin?_toBytes`
    * `Storable.ofTags`
    * `Storable.ofRecord`
-/

namespace CreatureProse

open Storage

------------------------------------------------------------
-- Bytes of Texts
------------------------------------------------------------

/- Collecting bytes goes on from those that are collected. -/
theorem toList_loop_eq
    (bytes : ByteArray)
    (i : Nat)
    (taken : List UInt8) :
    ByteArray.toList.loop bytes i taken =
      taken.reverse ++ bytes.data.toList.drop i := by
  fun_induction ByteArray.toList.loop bytes i taken with
  | case1 i taken hLt ih =>
      have hBound : i < bytes.data.size := hLt
      have hGet : bytes.get! i = bytes.data[i] :=
        getElem!_pos bytes.data i hBound
      rw [ih, hGet, List.reverse_cons, List.append_assoc,
        List.singleton_append, ← Array.getElem_toList hBound,
        ← List.drop_eq_getElem_cons]
  | case2 i taken hGe =>
      have hBound : bytes.data.size ≤ i :=
        Nat.le_of_not_lt hGe
      rw [List.drop_eq_nil_of_le (by simpa using hBound),
        List.append_nil]

theorem byteArray_toList_eq (bytes : ByteArray) :
    bytes.toList = bytes.data.toList := by
  rw [ByteArray.toList, toList_loop_eq, List.reverse_nil,
    List.nil_append, List.drop_zero]

/- A text has as many bytes as its UTF-8 form. -/
theorem length_toUTF8_toList (s : String) :
    s.toUTF8.toList.length = s.utf8ByteSize := by
  rw [byteArray_toList_eq]
  rfl

/- A text is restored from its bytes. -/
theorem fromUTF8?_toUTF8_toList (s : String) :
    String.fromUTF8? ⟨s.toUTF8.toList.toArray⟩ = some s := by
  rw [byteArray_toList_eq, Array.toArray_toList]
  exact dif_pos s.isValidUTF8

/- Texts with equal bytes are equal. -/
theorem toUTF8_toList_inj
    {s t : String} :
    s.toUTF8.toList = t.toUTF8.toList ↔ s = t := by
  constructor
  · intro hBytes
    have hSome := fromUTF8?_toUTF8_toList s
    rw [hBytes, fromUTF8?_toUTF8_toList t] at hSome
    exact (Option.some.inj hSome).symm
  · intro hEq
    rw [hEq]

------------------------------------------------------------
-- Nesting, Names and Sizes
------------------------------------------------------------

namespace Outline

mutual

/-
  How many lists and maps stand inside each other in the stored
  value. The map around the parts of a choice does not count.
-/
def levels : Outline → Nat
| .flag _ => 0
| .number _ => 0
| .text _ => 0
| .absent => 0
| .present o => levels o
| .list items => levelsOfItems items + 1
| .set items => levelsOfItems items + 1
| .mapping entries => levelsOfEntries entries + 1
| .record _ fields => levelsOfFields fields + 1
| .wrapped _ o => levels o
| .choice _ items =>
  match items with
  | [] => 0
  | [o] => levels o
  | o :: more => max (levels o) (levelsOfItems more) + 1
| .choiceRecord _ fields => levelsOfFields fields + 1

/- The most levels among the members of a list. -/
def levelsOfItems : List Outline → Nat
| [] => 0
| o :: more => max (levels o) (levelsOfItems more)

/- The most levels among keys and values. -/
def levelsOfEntries : List (Outline × Outline) → Nat
| [] => 0
| (k, v) :: more =>
  max (max (levels k) (levels v)) (levelsOfEntries more)

/- The most levels among named parts. -/
def levelsOfFields : List (String × Outline) → Nat
| [] => 0
| (_, o) :: more => max (levels o) (levelsOfFields more)

end

/- Whether a name or a tag is short. -/
def shortName (name : String) : Bool :=
  name.utf8ByteSize < 2 ^ 32

mutual

/-
  Whether the names and tags, which belong to the types and not
  to the values, are short and no record has too many parts.
-/
def named : Outline → Bool
| .flag _ => true
| .number _ => true
| .text _ => true
| .absent => true
| .present o => named o
| .list items => itemsNamed items
| .set items => itemsNamed items
| .mapping entries => entriesNamed entries
| .record _ fields =>
  fields.length < 2 ^ 32 && fieldsNamed fields
| .wrapped _ o => named o
| .choice tag items =>
  shortName tag && items.length < 2 ^ 32 && itemsNamed items
| .choiceRecord tag fields =>
  shortName tag && fields.length < 2 ^ 32
    && fieldsNamed fields

/- Whether all members of a list have short names. -/
def itemsNamed : List Outline → Bool
| [] => true
| o :: more => named o && itemsNamed more

/- Whether all keys and values have short names. -/
def entriesNamed : List (Outline × Outline) → Bool
| [] => true
| (k, v) :: more => named k && named v && entriesNamed more

/- Whether all named parts have short names. -/
def fieldsNamed : List (String × Outline) → Bool
| [] => true
| (name, o) :: more =>
  shortName name && named o && fieldsNamed more

end

/- Each member of a list has short names. -/
theorem itemsNamed_eq_true
    {items : List Outline} :
    itemsNamed items = true ↔
      ∀ o ∈ items, o.named = true := by
  induction items with
  | nil => simp [itemsNamed]
  | cons o more ih => simp [itemsNamed, ih]

/- A choice has short names if its tag and parts have them. -/
theorem named_choice
    {tag : String}
    {items : List Outline}
    (hTag : shortName tag = true)
    (hFew : items.length < 2 ^ 32)
    (hItems : ∀ o ∈ items, o.named = true) :
    (choice tag items).named = true := by
  have hAll := itemsNamed_eq_true.mpr hItems
  rw [named, Bool.and_eq_true, Bool.and_eq_true,
    decide_eq_true_eq]
  exact ⟨⟨hTag, hFew⟩, hAll⟩

/- Each part of a record has a short name. -/
theorem fieldsNamed_eq_true
    {fields : List (String × Outline)} :
    fieldsNamed fields = true ↔
      ∀ f ∈ fields,
        shortName f.1 = true ∧ f.2.named = true := by
  induction fields with
  | nil => simp [fieldsNamed]
  | cons f more ih => simp [fieldsNamed, ih]

mutual

/-
  Whether all texts have fewer than 2^32 bytes, all lists, sets
  and maps fewer than 2^32 members, and all numbers fit into 64
  bits.
-/
def fits : Outline → Bool
| .flag _ => true
| .number n => -2 ^ 63 ≤ n && n < 2 ^ 64
| .text s => s.utf8ByteSize < 2 ^ 32
| .absent => true
| .present o => fits o
| .list items => items.length < 2 ^ 32 && itemsFit items
| .set items => items.length < 2 ^ 32 && itemsFit items
| .mapping entries =>
  entries.length < 2 ^ 32 && entriesFit entries
| .record _ fields => fieldsFit fields
| .wrapped _ o => fits o
| .choice _ items => itemsFit items
| .choiceRecord _ fields => fieldsFit fields

/- Whether all members of a list fit. -/
def itemsFit : List Outline → Bool
| [] => true
| o :: more => fits o && itemsFit more

/- Whether all keys and values fit. -/
def entriesFit : List (Outline × Outline) → Bool
| [] => true
| (k, v) :: more => fits k && fits v && entriesFit more

/- Whether all named parts fit. -/
def fieldsFit : List (String × Outline) → Bool
| [] => true
| (_, o) :: more => fits o && fieldsFit more

end

end Outline

------------------------------------------------------------
-- Stored Values Can Be Written
------------------------------------------------------------

/- A text that fits is stored as a value that fits. -/
theorem fits_ofString
    {s : String}
    (hShort : s.utf8ByteSize < 2 ^ 32) :
    (Value.ofString s).Fits := by
  simp only [Value.ofString, Value.Fits,
    length_toUTF8_toList]
  exact hShort

/- A number that fits is stored as a value that fits. -/
theorem fits_ofInt
    {n : Int}
    (hLow : -2 ^ 63 ≤ n)
    (hHigh : n < 2 ^ 64) :
    (Value.ofInt n).Fits := by
  unfold Value.ofInt
  split
  · simp only [Value.Fits]
    omega
  · simp only [Value.Fits]
    omega

namespace Outline

@[simp] theorem length_storedItems (items : List Outline) :
    (storedItems items).length = items.length := by
  induction items with
  | nil => rfl
  | cons o more ih => simp [storedItems, ih]

@[simp] theorem length_storedEntries
    (entries : List (Outline × Outline)) :
    (storedEntries entries).length = entries.length := by
  induction entries with
  | nil => rfl
  | cons e more ih => simp [storedEntries, ih]

@[simp] theorem length_storedFields
    (fields : List (String × Outline)) :
    (storedFields fields).length = fields.length := by
  induction fields with
  | nil => rfl
  | cons f more ih => simp [storedFields, ih]

mutual

/- What fits is stored as a value that can be written. -/
theorem stored_fits
    (o : Outline)
    (hNamed : o.named = true)
    (hFits : o.fits = true) :
    o.stored.Fits := by
  match o with
  | .flag b => simp [stored, Value.Fits]
  | .number n =>
      simp only [fits, Bool.and_eq_true, decide_eq_true_eq]
        at hFits
      exact fits_ofInt hFits.1 hFits.2
  | .text s =>
      exact fits_ofString (of_decide_eq_true hFits)
  | .absent => simp [stored, Value.Fits]
  | .present o =>
      exact stored_fits o hNamed hFits
  | .list items | .set items =>
      simp only [fits, Bool.and_eq_true, decide_eq_true_eq]
        at hFits
      simp only [stored, Value.Fits, length_storedItems]
      exact ⟨hFits.1, storedItems_fit items hNamed hFits.2⟩
  | .mapping entries =>
      simp only [fits, Bool.and_eq_true, decide_eq_true_eq]
        at hFits
      simp only [stored, Value.Fits, length_storedEntries]
      exact
        ⟨hFits.1, storedEntries_fit entries hNamed hFits.2⟩
  | .record _ fields =>
      simp only [named, Bool.and_eq_true, decide_eq_true_eq]
        at hNamed
      simp only [stored, Value.Fits, length_storedFields]
      exact
        ⟨hNamed.1, storedFields_fit fields hNamed.2 hFits⟩
  | .wrapped _ o => exact stored_fits o hNamed hFits
  | .choice tag [] =>
      simp only [named, Bool.and_eq_true, shortName,
        decide_eq_true_eq] at hNamed
      exact fits_ofString hNamed.1.1
  | .choice tag [o] =>
      simp only [named, itemsNamed, Bool.and_eq_true,
        shortName, decide_eq_true_eq] at hNamed
      simp only [fits, itemsFit, Bool.and_true] at hFits
      simp only [stored, Value.Fits, EntriesFit, and_true]
      exact ⟨by simp, fits_ofString hNamed.1.1,
        stored_fits o hNamed.2.1 hFits⟩
  | .choice tag (o :: p :: more) =>
      simp only [named, itemsNamed, Bool.and_eq_true,
        shortName, decide_eq_true_eq] at hNamed
      simp only [fits, itemsFit, Bool.and_eq_true] at hFits
      simp only [stored, Value.Fits, EntriesFit, and_true,
        ItemsFit, List.length_cons, length_storedItems]
      exact ⟨by simp, fits_ofString hNamed.1.1,
        by simpa using hNamed.1.2,
        stored_fits o hNamed.2.1 hFits.1,
        storedItems_fit (p :: more)
          (by simpa [itemsNamed] using hNamed.2.2)
          (by simpa [itemsFit] using hFits.2)⟩
  | .choiceRecord tag fields =>
      simp only [named, Bool.and_eq_true, shortName,
        decide_eq_true_eq] at hNamed
      simp only [stored, Value.Fits, EntriesFit, and_true,
        length_storedFields]
      exact ⟨by simp, fits_ofString hNamed.1.1, hNamed.1.2,
        storedFields_fit fields hNamed.2 hFits⟩

theorem storedItems_fit
    (items : List Outline)
    (hNamed : itemsNamed items = true)
    (hFit : itemsFit items = true) :
    ItemsFit (storedItems items) := by
  match items with
  | [] => simp [storedItems, ItemsFit]
  | o :: more =>
      simp only [itemsNamed, Bool.and_eq_true] at hNamed
      simp only [itemsFit, Bool.and_eq_true] at hFit
      simp only [storedItems, ItemsFit]
      exact ⟨stored_fits o hNamed.1 hFit.1,
        storedItems_fit more hNamed.2 hFit.2⟩

theorem storedEntries_fit
    (entries : List (Outline × Outline))
    (hNamed : entriesNamed entries = true)
    (hFit : entriesFit entries = true) :
    EntriesFit (storedEntries entries) := by
  match entries with
  | [] => simp [storedEntries, EntriesFit]
  | (k, v) :: more =>
      simp only [entriesNamed, Bool.and_eq_true] at hNamed
      simp only [entriesFit, Bool.and_eq_true] at hFit
      simp only [storedEntries, EntriesFit]
      exact ⟨stored_fits k hNamed.1.1 hFit.1.1,
        stored_fits v hNamed.1.2 hFit.1.2,
        storedEntries_fit more hNamed.2 hFit.2⟩

theorem storedFields_fit
    (fields : List (String × Outline))
    (hNamed : fieldsNamed fields = true)
    (hFit : fieldsFit fields = true) :
    EntriesFit (storedFields fields) := by
  match fields with
  | [] => simp [storedFields, EntriesFit]
  | (name, o) :: more =>
      simp only [fieldsNamed, Bool.and_eq_true, shortName,
        decide_eq_true_eq] at hNamed
      simp only [fieldsFit, Bool.and_eq_true] at hFit
      simp only [storedFields, EntriesFit]
      exact ⟨fits_ofString hNamed.1.1,
        stored_fits o hNamed.1.2 hFit.1,
        storedFields_fit more hNamed.2 hFit.2⟩

end

end Outline

------------------------------------------------------------
-- Storable Types
------------------------------------------------------------

/-
  A type whose values are stored under short names, never as
  nothing at all, and are restored exactly as long as all the
  levels of their outlines are allowed.
-/
class Storable
    (α : Type)
    [Outlined α]
    [Restorable α] : Prop where
  named (a : α) : (outline a).named = true
  stored_ne_nil (a : α) : (outline a).stored ≠ .nil
  restore?_stored
    {levels : Nat}
    {a b : α} :
    restore? (.value levels (outline a).stored) = some b ↔
      b = a ∧ (outline a).levels ≤ levels

attribute [simp] Storable.named Storable.restore?_stored

/- The bytes of a value that fits hold this value. -/
theorem ofBytesWithin?_toBytes
    {α : Type}
    [Outlined α]
    [Restorable α]
    [Storable α]
    {a b : α}
    (hFits : (outline a).fits = true)
    (levels : Nat) :
    ofBytesWithin? levels (toBytes a) = some b ↔
      b = a ∧ (outline a).levels ≤ levels := by
  have hStored :=
    (outline a).stored_fits (Storable.named a) hFits
  rw [ofBytesWithin?, toBytes, read?_write hStored,
    Option.bind_some, Storable.restore?_stored]

------------------------------------------------------------
-- Names and Tags
------------------------------------------------------------

/- A stored name is found at its place among the names. -/
theorem nameIndex?_ofString
    (names : List String)
    (name : String) :
    nameIndex? names (.ofString name) =
      some (names.findIdx? fun other => other == name) := by
  have hBytes :
      (fun other : String =>
        other.toUTF8.toList == name.toUTF8.toList) =
      fun other => other == name := by
    funext other
    rw [Bool.eq_iff_iff, beq_iff_eq, beq_iff_eq,
      toUTF8_toList_inj]
  rw [Value.ofString, nameIndex?, hBytes]

theorem tagIndex?_ofString
    (tags : List String)
    (tag : String) :
    tagIndex? tags (.ofString tag) =
      tags.findIdx? fun other => other == tag := by
  rw [tagIndex?, nameIndex?_ofString, Option.join_some]

/- A member without parts is stored as its tag. -/
theorem choice?_ofString
    (tags : List String)
    (levels : Nat)
    (tag : String) :
    choice? tags (.value levels (.ofString tag)) =
      (tags.findIdx? fun other => other == tag).map
        fun i => (i, none) := by
  rw [← tagIndex?_ofString]
  rfl

/- A member with parts is stored with its tag in front. -/
theorem choice?_map
    (tags : List String)
    (levels : Nat)
    (tag : String)
    (parts : Value) :
    choice? tags
        (.value levels (.map [(.ofString tag, parts)])) =
      (tags.findIdx? fun other => other == tag).map
        fun i => (i, some (.value levels parts)) := by
  rw [← tagIndex?_ofString]
  rfl

/- The place of a member is found by its tag. -/
theorem findIdx?_tag
    {α : Type}
    [Tagged α]
    {members : List α}
    {i : Nat}
    {a : α}
    (hNodup : (members.map Tagged.tag).Nodup)
    (hAt : members[i]? = some a) :
    (members.map Tagged.tag).findIdx?
        (fun other => other == Tagged.tag a) =
      some i := by
  have hTag :
      (members.map Tagged.tag)[i]? = some (Tagged.tag a) := by
    rw [List.getElem?_map, hAt, Option.map_some]
  obtain ⟨hLt, hGet⟩ := List.getElem?_eq_some_iff.mp hTag
  rw [List.findIdx?_eq_some_iff_getElem]
  refine ⟨hLt, by rw [hGet, beq_self_eq_true], ?_⟩
  intro j hj hSame
  rw [beq_iff_eq, ← hGet] at hSame
  exact absurd ((List.getElem_inj hNodup).mp hSame)
    (Nat.ne_of_lt hj)

/- A type is storable by tags that are short and differ. -/
theorem Storable.ofTags
    {α : Type}
    [Tagged α]
    [Outlined α]
    [Restorable α]
    (hOutline : ∀ a : α, outline a = outlineOfTag a)
    (hRestore : ∀ p : Part,
      restore? p = (restoreTag? p : Option α))
    (hComplete : ∀ a : α, a ∈ (Tagged.members : List α))
    (hNodup :
      ((Tagged.members : List α).map Tagged.tag).Nodup)
    (hShort :
      ∀ a ∈ (Tagged.members : List α),
        Outline.shortName (Tagged.tag a) = true) :
    Storable α where
  named a := by
    have hTag := hShort a (hComplete a)
    rw [hOutline]
    exact Outline.named_choice hTag (by decide) (by simp)
  stored_ne_nil a := by
    rw [hOutline, outlineOfTag]
    simp [Outline.stored, Value.ofString]
  restore?_stored {levels a b} := by
    obtain ⟨i, hi⟩ :=
      List.mem_iff_getElem?.mp (hComplete a)
    rw [hOutline, hRestore, outlineOfTag, Outline.stored,
      restoreTag?, choice?_ofString, findIdx?_tag hNodup hi]
    simp only [Option.map_some, Option.bind_some, noParts,
      if_true, hi, Outline.levels, Option.some.injEq,
      Nat.zero_le, and_true]
    exact eq_comm

------------------------------------------------------------
-- Records
------------------------------------------------------------

/- The places from some field on are filled field by field. -/
theorem fillSlots_storedFields
    (levels : Nat)
    (done more : List (String × Outline))
    (hNodup : ((done ++ more).map Prod.fst).Nodup) :
    fillSlots ((done ++ more).map Prod.fst) levels
        (done.map (fun f => some (.value levels f.2.stored))
          ++ more.map fun _ => none)
        (Outline.storedFields more) =
      some ((done ++ more).map
        fun f => some (.value levels f.2.stored)) := by
  induction more generalizing done with
  | nil => simp [Outline.storedFields, fillSlots]
  | cons f more ih =>
      obtain ⟨name, o⟩ := f
      have hIndex :
          ((done ++ (name, o) :: more).map
              Prod.fst).findIdx?
            (fun other => other == name) =
          some done.length := by
        rw [List.findIdx?_eq_some_iff_getElem]
        refine ⟨by simp, by simp, ?_⟩
        intro j hj
        have hBefore : (done[j]).1 ∈ done.map Prod.fst :=
          List.mem_map_of_mem (List.getElem_mem hj)
        rw [List.map_append, List.map_cons] at hNodup
        have hDiffers :=
          (List.nodup_append.mp hNodup).2.2 _ hBefore name
            (List.mem_cons_self ..)
        rw [List.getElem_map, List.getElem_append_left hj]
        simpa using hDiffers
      have hRest := ih (done ++ [(name, o)])
        (by simpa [List.append_assoc] using hNodup)
      rw [Outline.storedFields, fillSlots,
        nameIndex?_ofString, hIndex]
      simpa [List.append_assoc, List.set_append] using hRest

/- The fields of a stored record are found in their order. -/
theorem fields?_storedFields
    {names : List String}
    {fields : List (String × Outline)}
    (least levels : Nat)
    (hNames : fields.map Prod.fst = names)
    (hNodup : names.Nodup) :
    fields? names least
        (.value (levels + 1)
          (.map (Outline.storedFields fields))) =
      some (fields.map
        fun f => some (.value levels f.2.stored)) := by
  subst hNames
  have hFill :=
    fillSlots_storedFields levels [] fields
      (by simpa using hNodup)
  rw [fields?, List.map_map]
  exact hFill

/- None are found where no further map is allowed. -/
theorem fields?_zero
    (names : List String)
    (least : Nat)
    (entries : List (Value × Value)) :
    fields? names least (.value 0 (.map entries)) = none := by
  rfl

/-
  A record type is storable if it is restored from its stored
  fields exactly as long as all their levels are allowed.
-/
theorem Storable.ofRecord
    {α : Type}
    [Outlined α]
    [Restorable α]
    (slots? : Part → Option (List (Option Part)))
    {names : List String}
    {least : Nat}
    (hSlots : slots? = fields? names least)
    {title : String}
    {fields : α → List (String × Outline)}
    (hOutline : ∀ a, outline a = .record title (fields a))
    (hNames : ∀ a, (fields a).map Prod.fst = names)
    (hNodup : names.Nodup)
    (hShort :
      names.length < 2 ^ 32 ∧
        ∀ name ∈ names, Outline.shortName name = true)
    (hNamed : ∀ a, ∀ f ∈ fields a, f.2.named = true)
    (hNone : ∀ p, slots? p = none →
      (restore? p : Option α) = none)
    (hSome : ∀ p levels a b,
      slots? p = some ((fields a).map
        fun f => some (.value levels f.2.stored)) →
      (restore? p = some b ↔
        Outline.levelsOfFields (fields a) ≤ levels ∧
          a = b)) :
    Storable α where
  named a := by
    have hLength := congrArg List.length (hNames a)
    rw [List.length_map] at hLength
    rw [hOutline, Outline.named, Bool.and_eq_true,
      decide_eq_true_eq, hLength, Outline.fieldsNamed_eq_true]
    refine ⟨hShort.1, fun f hf => ⟨?_, hNamed a f hf⟩⟩
    refine hShort.2 f.1 ?_
    rw [← hNames a]
    exact List.mem_map_of_mem hf
  stored_ne_nil a := by
    rw [hOutline, Outline.stored]
    exact Value.noConfusion
  restore?_stored {levels a b} := by
    rw [hOutline, Outline.stored, Outline.levels]
    subst hSlots
    cases levels with
    | zero =>
        rw [hNone _ (fields?_zero names least _)]
        simp
    | succ levels =>
        rw [Nat.add_le_add_iff_right, and_comm,
          eq_comm (a := b)]
        exact hSome _ levels a b
          (fields?_storedFields least levels (hNames a) hNodup)

------------------------------------------------------------
-- Parts and Fields
------------------------------------------------------------

/- What gives one value only passes this value on. -/
theorem bind_eq_some_of_iff
    {α β : Type}
    {found : Option α}
    {a : α}
    {allowed : Prop}
    (hFound : ∀ c, found = some c ↔ c = a ∧ allowed)
    {more : α → Option β}
    {b : β} :
    found.bind more = some b ↔ allowed ∧ more a = some b := by
  rw [Option.bind_eq_some_iff]
  constructor
  · rintro ⟨c, hPart, hMore⟩
    obtain ⟨rfl, hAllowed⟩ := (hFound c).mp hPart
    exact ⟨hAllowed, hMore⟩
  · rintro ⟨hAllowed, hMore⟩
    exact ⟨a, (hFound a).mpr ⟨rfl, hAllowed⟩, hMore⟩

@[simp] theorem required?_some
    {α : Type}
    [Restorable α]
    (p : Part) :
    required? (some p) = (restore? p : Option α) := by
  rfl

@[simp] theorem optional?_some
    {α : Type}
    [Restorable α]
    (p : Part) :
    optional? (some p) = (restore? p : Option (Option α)) := by
  rfl

@[simp] theorem orEmpty?_some (p : Part) :
    orEmpty? (some p) = restore? p := by
  rfl

section Fields

variable
  {α : Type}
  [Outlined α]
  [Restorable α]
  [Storable α]
  {levels : Nat}

/- What is made of a restored part is restored with it. -/
theorem map_restore?_stored
    {β : Type}
    {make : α → β}
    {a : α}
    {b : β} :
    (restore? (.value levels (outline a).stored)).map make =
        some b ↔
      b = make a ∧ (outline a).levels ≤ levels := by
  rw [Option.map_eq_some_iff]
  constructor
  · rintro ⟨c, hStored, rfl⟩
    obtain ⟨rfl, hLevels⟩ := Storable.restore?_stored.mp hStored
    exact ⟨rfl, hLevels⟩
  · rintro ⟨rfl, hLevels⟩
    exact ⟨a, Storable.restore?_stored.mpr ⟨rfl, hLevels⟩, rfl⟩

@[simp] theorem named_option
    (a : Option α) :
    (outline a).named = true := by
  cases a with
  | none => rfl
  | some a => exact Storable.named a

/- What is stored for a value is not taken for its absence. -/
theorem restore?_option
    (a : α) :
    restore? (.value levels (outline a).stored) =
      (restore? (.value levels (outline a).stored)).map
        (some : α → Option α) := by
  have hNil := Storable.stored_ne_nil a
  generalize (outline a).stored = v at hNil
  cases v with
  | nil => exact absurd rfl hNil
  | _ => rfl

/- What may be absent is restored. -/
@[simp] theorem restore?_stored_option
    {a b : Option α} :
    restore? (.value levels (outline a).stored) = some b ↔
      b = a ∧ (outline a).levels ≤ levels := by
  cases a with
  | none =>
      change some none = some b ↔ b = none ∧ 0 ≤ levels
      simp [eq_comm]
  | some a =>
      change restore? (.value levels (outline a).stored) =
          some b ↔
        b = some a ∧ (outline a).levels ≤ levels
      rw [restore?_option, map_restore?_stored]

variable {β : Type} {b : β}

/- Restoring goes on with the part that was stored. -/
@[simp] theorem bind_restore?_stored
    {a : α}
    {more : α → Option β} :
    (restore? (.value levels (outline a).stored)).bind more =
        some b ↔
      (outline a).levels ≤ levels ∧ more a = some b :=
  bind_eq_some_of_iff fun _ => Storable.restore?_stored

@[simp] theorem bind_restore?_stored_option
    {a : Option α}
    {more : Option α → Option β} :
    (restore? (.value levels (outline a).stored)).bind more =
        some b ↔
      (outline a).levels ≤ levels ∧ more a = some b :=
  bind_eq_some_of_iff fun _ => restore?_stored_option

end Fields

end CreatureProse
