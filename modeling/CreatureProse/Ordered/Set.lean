/-
  This file defines finite sets whose members are kept in
  ascending order.

  Key definitions include:
    * `OrderedSet`
    * `OrderedSet.insert`
    * `OrderedSet.ofList`
-/

namespace CreatureProse

------------------------------------------------------------
-- Ascending Lists
------------------------------------------------------------

/- The members are strictly ascending. -/
def Ascending
    {α : Type}
    [Ord α]
    (members : List α) : Prop :=
  members.Pairwise fun a b => compare a b = .lt

instance
    {α : Type}
    [Ord α]
    (members : List α) :
    Decidable (Ascending members) := by
  unfold Ascending
  infer_instance

/- Put a member at its place, unless it is there already. -/
def insertMember
    {α : Type}
    [Ord α]
    (a : α) : List α → List α
| [] => [a]
| b :: rest =>
  match compare a b with
  | .lt => a :: b :: rest
  | .eq => b :: rest
  | .gt => b :: insertMember a rest

/- A member of the result is the new one or an old one. -/
theorem mem_insertMember
    {α : Type}
    [Ord α]
    {a b : α}
    {members : List α}
    (h : b ∈ insertMember a members) :
    b = a ∨ b ∈ members := by
  induction members with
  | nil =>
      exact Or.inl (by simpa [insertMember] using h)
  | cons c rest ih =>
      unfold insertMember at h
      split at h
      · simpa using h
      · exact Or.inr h
      · rcases List.mem_cons.mp h with h | h
        · exact Or.inr (by simp [h])
        · exact (ih h).imp id (List.mem_cons_of_mem _)

/- Insertion keeps the members ascending. -/
theorem insertMember_ascending
    {α : Type}
    [Ord α]
    [Std.TransOrd α]
    (a : α)
    {members : List α}
    (h : Ascending members) :
    Ascending (insertMember a members) := by
  induction members with
  | nil => simp [insertMember, Ascending]
  | cons c rest ih =>
      have hHead : ∀ b ∈ rest, compare c b = .lt :=
        fun _ hb => List.rel_of_pairwise_cons h hb
      have hRest : Ascending rest := List.Pairwise.of_cons h
      unfold insertMember
      split
      · rename_i hLt
        refine List.Pairwise.cons ?_ h
        intro b hb
        rcases List.mem_cons.mp hb with hb | hb
        · simpa [hb] using hLt
        · exact Std.TransCmp.lt_trans hLt (hHead b hb)
      · exact h
      · rename_i hGt
        refine List.Pairwise.cons ?_ (ih hRest)
        intro b hb
        rcases mem_insertMember hb with hb | hb
        · rw [hb]
          exact Std.OrientedCmp.gt_iff_lt.mp hGt
        · exact hHead b hb

------------------------------------------------------------
-- Ordered Sets
------------------------------------------------------------

/- A finite set as its strictly ascending members. -/
structure OrderedSet
    (α : Type)
    [Ord α] where
  members : List α
  ascending : Ascending members := by decide
deriving DecidableEq

namespace OrderedSet

variable {α : Type} [Ord α]

/- The set without members. -/
def empty : OrderedSet α where
  members := []
  ascending := List.Pairwise.nil

instance : Inhabited (OrderedSet α) :=
  ⟨empty⟩

/- The least member. -/
def least? (s : OrderedSet α) : Option α :=
  s.members.head?

/- The greatest member. -/
def greatest? (s : OrderedSet α) : Option α :=
  s.members.getLast?

variable [Std.TransOrd α]

/- The set with one more member. -/
def insert
    (s : OrderedSet α)
    (a : α) : OrderedSet α where
  members := insertMember a s.members
  ascending := insertMember_ascending a s.ascending

/- The set of the members of a list. -/
def ofList (members : List α) : OrderedSet α :=
  members.foldr (fun a s => s.insert a) empty

end OrderedSet

end CreatureProse
