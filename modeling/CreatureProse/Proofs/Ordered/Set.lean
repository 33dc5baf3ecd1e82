import CreatureProse.Ordered.Set

/-
  A finite set is determined by its members, and a list that is
  ascending already is the list of members of the set that is
  made of it.

  Main declarations:
    * `OrderedSet.eq_of_members`
    * `OrderedSet.members_ofList`
    * `OrderedSet.ofList_members`
-/

namespace CreatureProse

variable {α : Type} [Ord α]

/- A member less than all others is put in front. -/
theorem insertMember_of_forall_lt
    {a : α}
    {members : List α}
    (hFirst : ∀ b ∈ members, compare a b = .lt) :
    insertMember a members = a :: members := by
  cases members with
  | nil => rfl
  | cons b rest =>
      rw [insertMember, hFirst b (List.mem_cons_self ..)]

namespace OrderedSet

/- Sets with the same members are equal. -/
theorem eq_of_members
    {s t : OrderedSet α}
    (hMembers : s.members = t.members) :
    s = t := by
  cases s
  cases t
  cases hMembers
  rfl

variable [Std.TransOrd α]

theorem members_ofList
    {members : List α}
    (hAscending : Ascending members) :
    (ofList members).members = members := by
  induction members with
  | nil => rfl
  | cons a rest ih =>
      have hRest := ih (List.Pairwise.of_cons hAscending)
      change insertMember a (ofList rest).members = a :: rest
      rw [hRest]
      exact insertMember_of_forall_lt fun b hb =>
        List.rel_of_pairwise_cons hAscending hb

/- A set is made up again of its members. -/
theorem ofList_members (s : OrderedSet α) :
    ofList s.members = s :=
  eq_of_members (members_ofList s.ascending)

end OrderedSet

end CreatureProse
