/-
  This file defines finite maps whose entries are kept in
  ascending order of their keys. Two maps with the same entries
  are equal, so the order of insertion leaves no trace.

  Key definitions include:
    * `OrderedMap`
    * `OrderedMap.insert`
    * `OrderedMap.insertNew`
    * `OrderedMap.get?`
    * `OrderedMap.ofList`
-/

namespace CreatureProse

------------------------------------------------------------
-- Ascending Entry Lists
------------------------------------------------------------

/- The entries have strictly ascending keys. -/
def AscendingKeys
    {κ ν : Type}
    [Ord κ]
    (entries : List (κ × ν)) : Prop :=
  entries.Pairwise fun a b => compare a.1 b.1 = .lt

instance
    {κ ν : Type}
    [Ord κ]
    (entries : List (κ × ν)) :
    Decidable (AscendingKeys entries) := by
  unfold AscendingKeys
  infer_instance

/-
  Put an entry at its place among ascending entries. An entry
  with the same key gives way to it.
-/
def insertEntry
    {κ ν : Type}
    [Ord κ]
    (k : κ)
    (v : ν) : List (κ × ν) → List (κ × ν)
| [] => [(k, v)]
| e :: rest =>
  match compare k e.1 with
  | .lt => (k, v) :: e :: rest
  | .eq => (k, v) :: rest
  | .gt => e :: insertEntry k v rest

/- An entry of the result is the new one or an old one. -/
theorem mem_insertEntry
    {κ ν : Type}
    [Ord κ]
    {k : κ}
    {v : ν}
    {a : κ × ν}
    {entries : List (κ × ν)}
    (h : a ∈ insertEntry k v entries) :
    a = (k, v) ∨ a ∈ entries := by
  induction entries with
  | nil =>
      exact Or.inl (by simpa [insertEntry] using h)
  | cons e rest ih =>
      unfold insertEntry at h
      split at h
      · simpa using h
      · rcases List.mem_cons.mp h with h | h
        · exact Or.inl h
        · exact Or.inr (List.mem_cons_of_mem _ h)
      · rcases List.mem_cons.mp h with h | h
        · exact Or.inr (by simp [h])
        · exact (ih h).imp id (List.mem_cons_of_mem _)

/- Insertion keeps the keys ascending. -/
theorem insertEntry_ascending
    {κ ν : Type}
    [Ord κ]
    [Std.TransOrd κ]
    [Std.LawfulEqOrd κ]
    (k : κ)
    (v : ν)
    {entries : List (κ × ν)}
    (h : AscendingKeys entries) :
    AscendingKeys (insertEntry k v entries) := by
  induction entries with
  | nil => simp [insertEntry, AscendingKeys]
  | cons e rest ih =>
      have hHead : ∀ a ∈ rest, compare e.1 a.1 = .lt :=
        fun _ ha => List.rel_of_pairwise_cons h ha
      have hRest : AscendingKeys rest := List.Pairwise.of_cons h
      unfold insertEntry
      split
      · rename_i hLt
        refine List.Pairwise.cons ?_ h
        intro a ha
        rcases List.mem_cons.mp ha with ha | ha
        · simpa [ha] using hLt
        · exact Std.TransCmp.lt_trans hLt (hHead a ha)
      · rename_i hEq
        refine List.Pairwise.cons ?_ hRest
        intro a ha
        rw [Std.LawfulEqCmp.eq_of_compare hEq]
        exact hHead a ha
      · rename_i hGt
        refine List.Pairwise.cons ?_ (ih hRest)
        intro a ha
        rcases mem_insertEntry ha with ha | ha
        · rw [ha]
          exact Std.OrientedCmp.gt_iff_lt.mp hGt
        · exact hHead a ha

------------------------------------------------------------
-- Ordered Maps
------------------------------------------------------------

/- A finite map as its entries with strictly ascending keys. -/
structure OrderedMap
    (κ ν : Type)
    [Ord κ] where
  entries : List (κ × ν)
  ascending : AscendingKeys entries := by decide
deriving DecidableEq

namespace OrderedMap

variable {κ ν : Type} [Ord κ]

/- The map without entries. -/
def empty : OrderedMap κ ν where
  entries := []
  ascending := List.Pairwise.nil

instance : Inhabited (OrderedMap κ ν) :=
  ⟨empty⟩

/- The value of a key, if the key has one. -/
def get?
    (m : OrderedMap κ ν)
    (k : κ) : Option ν :=
  (m.entries.find? fun e => compare k e.1 == .eq).map Prod.snd

/- The values in ascending order of their keys. -/
def values (m : OrderedMap κ ν) : List ν :=
  m.entries.map Prod.snd

variable [Std.TransOrd κ] [Std.LawfulEqOrd κ]

/- Give a key a value, in place of the one it may have had. -/
def insert
    (m : OrderedMap κ ν)
    (k : κ)
    (v : ν) : OrderedMap κ ν where
  entries := insertEntry k v m.entries
  ascending := insertEntry_ascending k v m.ascending

/- Give a key a value unless it has one. -/
def insertNew
    (m : OrderedMap κ ν)
    (k : κ)
    (v : ν) : OrderedMap κ ν :=
  match m.get? k with
  | some _ => m
  | none => m.insert k v

/- The map of a list of entries; of a repeated key the last. -/
def ofList (entries : List (κ × ν)) : OrderedMap κ ν :=
  entries.foldl (fun m e => m.insert e.1 e.2) empty

end OrderedMap

end CreatureProse
