import CreatureProse.Proofs.Ordered.Map
import CreatureProse.Proofs.Span
import CreatureProse.Spellcasting.Grammar
import Mathlib.Data.List.Flatten
import Mathlib.Data.List.Perm.Basic

/-
  The spells of a spellcasting are names of the fragments that
  were added to it. A fragment that lists the spells of a level
  takes away those that were listed for it before, and no other
  name is lost.

  Main declarations:
    * `Spellcasting.Fragment.names`
    * `Spellcasting.Fragment.relisted`
    * `Spellcasting.kept`
    * `Spellcasting.spells_foldl_add_perm`
    * `Spellcasting.spells_perm_kept`
-/

namespace CreatureProse

open scoped List

namespace Spellcasting

------------------------------------------------------------
-- Names and Spells
------------------------------------------------------------

/- The spell names of a fragment. -/
def Fragment.names : Fragment → List ListedName
| .spellsByLevel _ _ names => names
| .spellsByUse _ _ names => names
| _ => []

/- The spells in groups are those that were put into them. -/
theorem flatMap_groups
    (limit : Option LimitedUse)
    (shared : Bool)
    (spells : List ListedSpell) :
    ((if shared then
        [⟨spells, limit⟩]
      else
        spells.map fun spell => ⟨[spell], limit⟩ :
          List SpellGroup).flatMap SpellGroup.spells) =
      spells := by
  cases shared with
  | true => simp
  | false => simp [List.flatMap_map]

------------------------------------------------------------
-- Levels Listed Again
------------------------------------------------------------

/- The level whose spells a fragment lists. -/
def Fragment.level? : Fragment → Option UInt32
| .spellsByLevel level _ _ => some level
| _ => none

/- The levels that fragments list spells of. -/
def levelsIn (fragments : List Fragment) : List UInt32 :=
  fragments.filterMap Fragment.level?

/- Whether the level of a fragment is listed again later on. -/
def Fragment.relisted
    (f : Fragment)
    (later : List Fragment) : Bool :=
  f.level?.any (levelsIn later).contains

/- The fragments whose level is not listed again. -/
def kept : List Fragment → List Fragment
| [] => []
| f :: later =>
  if f.relisted later then kept later else f :: kept later

theorem kept_sublist
    (fragments : List Fragment) :
    (kept fragments).Sublist fragments := by
  induction fragments with
  | nil => exact .slnil
  | cons f later ih =>
      unfold kept
      split
      · exact .cons f ih
      · exact .cons_cons f ih

/- A fragment stays if its level is not listed again after it. -/
theorem mem_kept
    {f : Fragment}
    {later : List Fragment}
    (hLast : f.relisted later = false)
    (before : List Fragment) :
    f ∈ kept (before ++ f :: later) := by
  induction before with
  | nil => simp [kept, hLast]
  | cons g more ih =>
      rw [List.cons_append]
      unfold kept
      split
      · exact ih
      · exact List.mem_cons_of_mem g ih

/- What stays is found among the others if it is listed again. -/
theorem kept_sublist_of_relisted
    {f : Fragment}
    {later : List Fragment}
    (hAgain : f.relisted later = true)
    (before : List Fragment) :
    (kept (before ++ f :: later)).Sublist (before ++ later) := by
  induction before with
  | nil =>
      rw [List.nil_append, kept, if_pos hAgain]
      exact kept_sublist later
  | cons g more ih =>
      rw [List.cons_append, List.cons_append]
      unfold kept
      split
      · exact .cons g ih
      · exact .cons_cons g ih

------------------------------------------------------------
-- What Adding a Fragment Keeps
------------------------------------------------------------

/- The spells, those of the given levels left out. -/
def spellsBut
    (s : Spellcasting)
    (levels : List UInt32) : List ListedSpell :=
  ((s.spellsByLevel.entries.filter fun e =>
      !levels.contains e.1).map Prod.snd).flatten
    ++ s.groups.flatMap SpellGroup.spells

theorem spellsBut_nil (s : Spellcasting) :
    s.spellsBut [] = s.spells := by
  simp [spellsBut, spells, OrderedMap.values]

/- Of a level that is left out the new spells are left out too. -/
theorem filter_insertEntry_perm
    (level : UInt32)
    (spells : List ListedSpell)
    (levels : List UInt32)
    {entries : List (UInt32 × List ListedSpell)}
    (hAscending : AscendingKeys entries) :
    (((insertEntry level spells entries).filter fun e =>
        !levels.contains e.1).map Prod.snd).flatten ~
      ((entries.filter fun e =>
          !(level :: levels).contains e.1).map Prod.snd).flatten ++
        if levels.contains level then [] else spells := by
  have hOthers :
      (entries.filter fun e => decide (e.1 ≠ level)).filter
          (fun e => !levels.contains e.1) =
        entries.filter fun e => !(level :: levels).contains e.1 := by
    rw [List.filter_filter]
    apply List.filter_congr
    intro e _
    simp [Bool.and_comm]
  have hInsert :=
    (((OrderedMap.insertEntry_perm level spells hAscending).filter
      fun e => !levels.contains e.1).map Prod.snd).flatten
  by_cases hMem : levels.contains level = true
  · rw [List.filter_cons_of_neg (by simpa using hMem), hOthers]
      at hInsert
    rwa [if_pos hMem, List.append_nil]
  · rw [List.filter_cons_of_pos (by simpa using hMem), hOthers]
      at hInsert
    rw [if_neg hMem]
    exact hInsert.trans List.perm_append_comm

/-
  A fragment adds its names, and takes away the spells that its
  level had before.
-/
theorem spellsBut_add_perm
    (s : Spellcasting)
    (f : Fragment)
    (levels : List UInt32) :
    (s.add f).spellsBut levels ~
      s.spellsBut (f.level?.toList ++ levels) ++
        if f.level?.any levels.contains then
          []
        else
          f.names.map spellOf := by
  cases f with
  | casterLevel _ | ability _ | innateAbility _ | saveDC _
  | attackHit _ =>
      simp [spellsBut, add, Fragment.level?, Fragment.names]
  | spellsByLevel level slots names =>
      have hLevels := filter_insertEntry_perm level
        (names.map spellOf) levels s.spellsByLevel.ascending
      refine (hLevels.append_right _).trans ?_
      rw [List.append_assoc, spellsBut, List.append_assoc]
      exact List.perm_append_comm.append_left _
  | spellsByUse limit shared names =>
      have hGroups := flatMap_groups limit shared
        (names.map spellOf)
      apply List.Perm.of_eq
      change _ ++ (s.groups ++ _).flatMap SpellGroup.spells =
        (_ ++ s.groups.flatMap SpellGroup.spells) ++ _
      rw [List.flatMap_append, hGroups, List.append_assoc]
      rfl

/-
  The spells are the names of the fragments that stay, and the
  earlier spells whose levels no fragment lists.
-/
theorem spells_foldl_add_perm
    (s : Spellcasting)
    (fragments : List Fragment) :
    (fragments.foldl add s).spells ~
      s.spellsBut (levelsIn fragments) ++
        ((kept fragments).flatMap Fragment.names).map
          spellOf := by
  induction fragments generalizing s with
  | nil => simp [levelsIn, kept, spellsBut_nil]
  | cons f later ih =>
      have hLevels :
          levelsIn (f :: later) =
            f.level?.toList ++ levelsIn later := by
        cases hLevel : f.level? with
        | none => simp [levelsIn, hLevel]
        | some level => simp [levelsIn, hLevel]
      have hStep := spellsBut_add_perm s f (levelsIn later)
      refine (ih (s.add f)).trans ?_
      refine (hStep.append_right _).trans ?_
      rw [hLevels, List.append_assoc]
      apply List.Perm.append_left
      rw [kept, Fragment.relisted]
      split
      · exact List.Perm.refl _
      · simp

/- Added to nothing, they are the names that stay. -/
theorem spells_perm_kept (fragments : List Fragment) :
    (fragments.foldl add unknown).spells ~
      ((kept fragments).flatMap Fragment.names).map spellOf := by
  have hNone (levels : List UInt32) :
      unknown.spellsBut levels = [] :=
    rfl
  have hPerm := spells_foldl_add_perm unknown fragments
  rwa [hNone, List.nil_append] at hPerm

/- The names that stay are some of the names of the fragments. -/
theorem map_kept_sublist (fragments : List Fragment) :
    (((kept fragments).flatMap Fragment.names).map
        spellOf).Sublist
      ((fragments.flatMap Fragment.names).map spellOf) :=
  ((kept_sublist fragments).flatMap _).map spellOf

/- Each spell is a name of one of the fragments. -/
theorem exists_name_of_mem_spells
    {fragments : List Fragment}
    {a : ListedSpell}
    (hMem : a ∈ (fragments.foldl add unknown).spells) :
    ∃ name ∈ fragments.flatMap Fragment.names,
      spellOf name = a := by
  have hKept := (spells_perm_kept fragments).mem_iff.mp hMem
  exact List.mem_map.mp ((map_kept_sublist fragments).mem hKept)

/- What holds of pairs of names holds of pairs of spells. -/
theorem pairwise_spells
    {R : ListedSpell → ListedSpell → Prop}
    (hSymm : ∀ {a b}, R a b → R b a)
    {fragments : List Fragment}
    (hNames :
      ((fragments.flatMap Fragment.names).map
        spellOf).Pairwise R) :
    (fragments.foldl add unknown).spells.Pairwise R := by
  have hKept := hNames.sublist (map_kept_sublist fragments)
  exact ((spells_perm_kept fragments).pairwise_iff hSymm).mpr hKept

end Spellcasting

end CreatureProse
