import CreatureProse.Proofs.Ordered.Set
import CreatureProse.Proofs.Storage.Restore

/-
  Flags, numbers, texts, lists, ordered maps and ordered sets
  are storable.

  Main declarations:
    * `OrderedMap.ofList_entries`
    * `mapM_storedItems`
    * `mapM_storedEntries`
-/

namespace CreatureProse

open Storage

------------------------------------------------------------
-- Flags, Numbers and Texts
------------------------------------------------------------

/- A number has no sign in front unless it is negative. -/
theorem ofInt_ne_nil (n : Int) :
    Value.ofInt n ≠ .nil := by
  unfold Value.ofInt
  split
  · exact Value.noConfusion
  · exact Value.noConfusion

/- A stored number is found again. -/
theorem int?_ofInt
    (levels : Nat)
    (n : Int) :
    (Part.value levels (.ofInt n)).int? = some n := by
  unfold Value.ofInt
  split
  · rename_i hNonneg
    rw [Part.int?, Int.toNat_of_nonneg hNonneg]
  · rfl

instance : Storable Bool where
  named _ := rfl
  stored_ne_nil _ := Value.noConfusion
  restore?_stored {levels a b} := by
    change some a = some b ↔ b = a ∧ 0 ≤ levels
    simp [eq_comm]

instance : Storable Nat where
  named _ := rfl
  stored_ne_nil n := ofInt_ne_nil n
  restore?_stored {levels a b} := by
    change ((Part.value levels (.ofInt a)).int?.bind _) =
        some b ↔
      b = a ∧ 0 ≤ levels
    rw [int?_ofInt, Option.bind_some,
      if_pos (Int.natCast_nonneg a), Int.toNat_natCast]
    simp [eq_comm]

instance : Storable UInt32 where
  named _ := rfl
  stored_ne_nil n := ofInt_ne_nil n.toNat
  restore?_stored {levels a b} := by
    have hBound := a.toNat_lt
    change ((Part.value levels (.ofInt a.toNat)).int?.bind _) =
        some b ↔
      b = a ∧ 0 ≤ levels
    rw [int?_ofInt, Option.bind_some, if_pos (by simp; omega),
      Int.toNat_natCast, UInt32.ofNat_toNat]
    simp [eq_comm]

instance : Storable Int32 where
  named _ := rfl
  stored_ne_nil n := ofInt_ne_nil n.toInt
  restore?_stored {levels a b} := by
    have hLow := a.le_toInt
    have hHigh := a.toInt_lt
    change ((Part.value levels (.ofInt a.toInt)).int?.bind _) =
        some b ↔
      b = a ∧ 0 ≤ levels
    rw [int?_ofInt, Option.bind_some, if_pos (by simp; omega),
      Int32.ofInt_toInt]
    simp [eq_comm]

instance : Storable String where
  named _ := rfl
  stored_ne_nil _ := Value.noConfusion
  restore?_stored {levels a b} := by
    change String.fromUTF8? ⟨a.toUTF8.toList.toArray⟩ =
        some b ↔
      b = a ∧ 0 ≤ levels
    rw [fromUTF8?_toUTF8_toList]
    simp [eq_comm]

------------------------------------------------------------
-- Lists
------------------------------------------------------------

section Lists

variable
  {α : Type}
  [Outlined α]
  [Restorable α]
  [Storable α]

theorem itemsNamed_map (as : List α) :
    Outline.itemsNamed (as.map outline) = true := by
  induction as with
  | nil => rfl
  | cons a as ih =>
      simp [Outline.itemsNamed, Storable.named, ih]

/- The members of a stored list are restored one by one. -/
theorem mapM_storedItems
    {levels : Nat}
    {as bs : List α} :
    ((Outline.storedItems (as.map outline)).map
        (Part.value levels)).mapM restore? = some bs ↔
      bs = as ∧
        Outline.levelsOfItems (as.map outline) ≤ levels := by
  induction as generalizing bs with
  | nil =>
      simp [Outline.storedItems, Outline.levelsOfItems,
        eq_comm]
  | cons a as ih =>
      simp only [List.map_cons, Outline.storedItems,
        List.mapM_cons, Outline.levelsOfItems, Nat.max_le]
      simp only [Option.bind_eq_bind, Option.pure_def,
        Option.bind_eq_some_iff, Option.some.injEq,
        Storable.restore?_stored, ih]
      constructor
      · rintro ⟨b, ⟨rfl, hHead⟩, bs, ⟨rfl, hRest⟩, rfl⟩
        exact ⟨rfl, hHead, hRest⟩
      · rintro ⟨rfl, hHead, hRest⟩
        exact ⟨a, ⟨rfl, hHead⟩, as, ⟨rfl, hRest⟩, rfl⟩

instance : Storable (List α) where
  named as := itemsNamed_map as
  stored_ne_nil _ := Value.noConfusion
  restore?_stored {levels as bs} := by
    cases levels with
    | zero =>
        change none = some bs ↔ bs = as ∧ _ + 1 ≤ 0
        simp
    | succ levels =>
        change ((Outline.storedItems (as.map outline)).map
            (Part.value levels)).mapM restore? = some bs ↔
          bs = as ∧
            Outline.levelsOfItems (as.map outline) + 1 ≤
              levels + 1
        rw [mapM_storedItems, Nat.add_le_add_iff_right]

end Lists

------------------------------------------------------------
-- Ordered Maps
------------------------------------------------------------

section Entries

variable
  {κ ν : Type}
  [Outlined κ]
  [Restorable κ]
  [Storable κ]
  [Outlined ν]
  [Restorable ν]
  [Storable ν]

theorem entriesNamed_map (entries : List (κ × ν)) :
    Outline.entriesNamed
        (entries.map fun e => (outline e.1, outline e.2)) =
      true := by
  induction entries with
  | nil => rfl
  | cons e more ih =>
      simp [Outline.entriesNamed, Storable.named, ih]

/- The entries of a stored map are restored one by one. -/
theorem mapM_storedEntries
    {levels : Nat}
    {entries others : List (κ × ν)} :
    ((Outline.storedEntries (entries.map
        fun e => (outline e.1, outline e.2))).map
          fun e => (Part.value levels e.1,
            Part.value levels e.2)).mapM
        (fun e => (restore? e.1).bind fun k =>
          (restore? e.2).map fun v => (k, v)) = some others ↔
      others = entries ∧
        Outline.levelsOfEntries (entries.map
          fun e => (outline e.1, outline e.2)) ≤ levels := by
  induction entries generalizing others with
  | nil =>
      simp [Outline.storedEntries, Outline.levelsOfEntries,
        eq_comm]
  | cons e more ih =>
      simp only [List.map_cons, Outline.storedEntries,
        List.mapM_cons, Outline.levelsOfEntries, Nat.max_le]
      simp only [Option.bind_eq_bind, Option.pure_def,
        Option.bind_eq_some_iff, Option.map_eq_some_iff,
        Option.some.injEq, Storable.restore?_stored, ih]
      constructor
      · rintro
          ⟨_, ⟨k, ⟨rfl, hKey⟩, v, ⟨rfl, hValue⟩, rfl⟩,
            _, ⟨rfl, hRest⟩, rfl⟩
        exact ⟨rfl, ⟨hKey, hValue⟩, hRest⟩
      · rintro ⟨rfl, ⟨hKey, hValue⟩, hRest⟩
        exact
          ⟨e, ⟨e.1, ⟨rfl, hKey⟩, e.2, ⟨rfl, hValue⟩, rfl⟩,
            more, ⟨rfl, hRest⟩, rfl⟩

end Entries

section OrderedMaps

variable
  {κ ν : Type}
  [Ord κ]

/- Maps with the same entries are equal. -/
theorem OrderedMap.eq_of_entries
    {m n : OrderedMap κ ν}
    (hEntries : m.entries = n.entries) :
    m = n := by
  cases m
  cases n
  cases hEntries
  rfl

variable [Std.TransOrd κ]

/- An entry with the greatest key is put at the end. -/
theorem insertEntry_of_forall_lt
    {k : κ}
    {v : ν}
    {entries : List (κ × ν)}
    (hLast : ∀ e ∈ entries, compare e.1 k = .lt) :
    insertEntry k v entries = entries ++ [(k, v)] := by
  induction entries with
  | nil => rfl
  | cons e rest ih =>
      have hGt : compare k e.1 = .gt :=
        Std.OrientedCmp.gt_iff_lt.mpr
          (hLast e (List.mem_cons_self ..))
      rw [insertEntry, hGt, List.cons_append]
      exact congrArg (e :: ·)
        (ih fun f hf => hLast f (List.mem_cons_of_mem _ hf))

variable [Std.LawfulEqOrd κ]

/- Ascending entries are put one after the other. -/
theorem entries_foldl_insert
    (more : List (κ × ν))
    (m : OrderedMap κ ν)
    (hAscending : AscendingKeys (m.entries ++ more)) :
    (more.foldl (fun m e => m.insert e.1 e.2) m).entries =
      m.entries ++ more := by
  induction more generalizing m with
  | nil => simp
  | cons e more ih =>
      have hLast : ∀ f ∈ m.entries, compare f.1 e.1 = .lt :=
        fun f hf =>
          (List.pairwise_append.mp hAscending).2.2 f hf e
            (List.mem_cons_self ..)
      have hInsert :
          (m.insert e.1 e.2).entries = m.entries ++ [e] :=
        insertEntry_of_forall_lt hLast
      rw [List.foldl_cons, ih, hInsert, List.append_assoc,
        List.singleton_append]
      rw [hInsert, List.append_assoc, List.singleton_append]
      exact hAscending

/- A map is made up again of its entries. -/
theorem OrderedMap.ofList_entries (m : OrderedMap κ ν) :
    OrderedMap.ofList m.entries = m :=
  OrderedMap.eq_of_entries
    (entries_foldl_insert m.entries .empty m.ascending)

variable
  [Outlined κ]
  [Restorable κ]
  [Storable κ]
  [Outlined ν]
  [Restorable ν]
  [Storable ν]

instance : Storable (OrderedMap κ ν) where
  named m := entriesNamed_map m.entries
  stored_ne_nil _ := Value.noConfusion
  restore?_stored {levels m n} := by
    cases levels with
    | zero =>
        change none = some n ↔ n = m ∧ _ + 1 ≤ 0
        simp
    | succ levels =>
        change ((((Outline.storedEntries (m.entries.map
              fun e => (outline e.1, outline e.2))).map
                fun e => (Part.value levels e.1,
                  Part.value levels e.2)).mapM
              fun e => (restore? e.1).bind fun k =>
                (restore? e.2).map fun v => (k, v)).map
            OrderedMap.ofList) = some n ↔
          n = m ∧
            Outline.levelsOfEntries (m.entries.map
              fun e => (outline e.1, outline e.2)) + 1 ≤
                levels + 1
        rw [Option.map_eq_some_iff, Nat.add_le_add_iff_right]
        simp only [mapM_storedEntries]
        constructor
        · rintro ⟨_, ⟨rfl, hLevels⟩, rfl⟩
          exact ⟨m.ofList_entries, hLevels⟩
        · rintro ⟨rfl, hLevels⟩
          exact ⟨n.entries, ⟨rfl, hLevels⟩, n.ofList_entries⟩

end OrderedMaps

------------------------------------------------------------
-- Ordered Sets
------------------------------------------------------------

section OrderedSets

variable
  {α : Type}
  [Ord α]
  [Std.TransOrd α]
  [Outlined α]
  [Restorable α]
  [Storable α]

instance : Storable (OrderedSet α) where
  named s := itemsNamed_map s.members
  stored_ne_nil _ := Value.noConfusion
  restore?_stored {levels s t} := by
    cases levels with
    | zero =>
        change none = some t ↔ t = s ∧ _ + 1 ≤ 0
        simp
    | succ levels =>
        change (((Outline.storedItems
              (s.members.map outline)).map
                (Part.value levels)).mapM restore?).map
            OrderedSet.ofList = some t ↔
          t = s ∧
            Outline.levelsOfItems (s.members.map outline) + 1 ≤
              levels + 1
        rw [Option.map_eq_some_iff, Nat.add_le_add_iff_right]
        simp only [mapM_storedItems]
        constructor
        · rintro ⟨_, ⟨rfl, hLevels⟩, rfl⟩
          exact ⟨s.ofList_members, hLevels⟩
        · rintro ⟨rfl, hLevels⟩
          exact ⟨t.members, ⟨rfl, hLevels⟩, t.ofList_members⟩

end OrderedSets

end CreatureProse
