import CreatureProse.Proofs.Spellcasting.Grammar
import Mathlib.Data.List.Count
import Mathlib.Data.List.Nodup

/-
  What becomes of the names that are listed in a description. A
  name is lost where its level is listed once more further on.
  Every other name is a spell of the spellcasting, with its span,
  and is one only once.

  Main declarations:
    * `Spellcasting.fragmentsIn`
    * `Spellcasting.count_names_kept`
    * `Spellcasting.conserved_fragmentsIn`
    * `Spellcasting.not_always_listed_once`
-/

namespace CreatureProse.Spellcasting

open CreatureProse.Parser
open scoped List

------------------------------------------------------------
-- Fragments of a Description
------------------------------------------------------------

/- All fragments that the search of a folded text comes upon. -/
def fragmentsIn (prose : Prose) : List Fragment :=
  (fragmentParser.ahead.repeatFrom (Cursor.start prose) []).1

/- They are what the spellcasting of the text is made up from. -/
theorem value?_eq_foldl (prose : Prose) :
    parser.value? prose =
      some ((fragmentsIn prose).foldl add unknown) :=
  rfl

theorem exists_chain_fragmentsIn (prose : Prose) :
    ∃ r, Chain fragmentParser.ahead (Cursor.start prose)
      (fragmentsIn prose) r := by
  rcases repeatFrom_chain fragmentParser.ahead
      (Cursor.start prose) [] with
    ⟨fragments, r, hEq, hChain, -⟩
  refine ⟨r, ?_⟩
  simpa [fragmentsIn, hEq] using hChain

/- No name is read twice, as no two have the same span. -/
theorem nodup_names_fragmentsIn (prose : Prose) :
    ((fragmentsIn prose).flatMap Fragment.names).Nodup := by
  rcases exists_chain_fragmentsIn prose with ⟨r, hChain⟩
  rcases names_of_chain hChain with ⟨hNamed, hOrder⟩
  apply List.Nodup.of_map Located.span
  refine hOrder.pairwise_apart.imp_of_mem ?_
  intro s t hs _ hApart hSame
  rcases List.mem_map.mp hs with ⟨name, hName, rfl⟩
  have hNonempty := (hNamed name hName).nonempty
  rw [← hSame, Span.apart_iff] at hApart
  omega

------------------------------------------------------------
-- Names That Are Lost and Names That Are Not
------------------------------------------------------------

theorem spellOf_inj
    {name other : ListedName}
    (hSame : spellOf name = spellOf other) :
    name = other := by
  cases name
  cases other
  simpa [spellOf, Located.map, ItemReference.spell] using hSame

/- Different names are different spells. -/
theorem count_map_spellOf
    (name : ListedName)
    (names : List ListedName) :
    (names.map spellOf).count (spellOf name) =
      names.count name := by
  exact List.count_map_of_injective names spellOf
    (fun _ _ => spellOf_inj) name

/- A name stays once if its level is not listed again. -/
theorem count_names_kept
    {before later : List Fragment}
    {f : Fragment}
    {name : ListedName}
    (hNodup :
      ((before ++ f :: later).flatMap Fragment.names).Nodup)
    (hName : name ∈ f.names) :
    ((kept (before ++ f :: later)).flatMap
        Fragment.names).count name =
      if f.relisted later then 0 else 1 := by
  by_cases hAgain : f.relisted later = true
  · rw [if_pos hAgain, List.count_eq_zero]
    intro hKept
    have hOthers : name ∈ (before ++ later).flatMap Fragment.names :=
      ((kept_sublist_of_relisted hAgain before).flatMap _).mem
        hKept
    have hFirst := (List.perm_middle.flatMap_right
      Fragment.names).nodup_iff.mp hNodup
    rw [List.flatMap_cons] at hFirst
    exact (List.disjoint_of_nodup_append hFirst) hName hOthers
  · have hLast := Bool.eq_false_iff.mpr hAgain
    rw [if_neg hAgain]
    apply List.count_eq_one_of_mem
    · exact hNodup.sublist ((kept_sublist _).flatMap _)
    · exact List.mem_flatMap.mpr
        ⟨f, mem_kept hLast before, hName⟩

/-
  What a spellcasting has of the names that fragments list: each
  of them once, unless its level is listed again later on.
-/
structure Conserved
    (fragments : List Fragment)
    (s : Spellcasting) : Prop where
  perm :
    s.spells ~
      ((kept fragments).flatMap Fragment.names).map spellOf
  count_name :
    ∀ before f later, fragments = before ++ f :: later →
      ∀ name ∈ f.names,
        s.spells.count (spellOf name) =
          if f.relisted later then 0 else 1

/-
  Every text has a spellcasting, whose spells are the names that
  the text lists but for those of levels that are listed again.
-/
theorem conserved_fragmentsIn (prose : Prose) :
    ∃ s, parser.value? prose = some s ∧
      Conserved (fragmentsIn prose) s := by
  have hPerm := spells_perm_kept (fragmentsIn prose)
  refine ⟨_, value?_eq_foldl prose, hPerm, ?_⟩
  intro before f later hSplit name hName
  have hNodup := nodup_names_fragmentsIn prose
  rw [hPerm.count_eq, count_map_spellOf]
  rw [hSplit] at hNodup ⊢
  exact count_names_kept hNodup hName

/- A level whose spells are listed twice. -/
def twiceListed : String :=
  "1st level (2 slots): bless\n1st level (3 slots): shield"

/- What is listed first is not a spell of the spellcasting. -/
theorem not_always_listed_once :
    ¬ ∀ prose, ∃ s, parser.value? prose = some s ∧
      ∀ f ∈ fragmentsIn prose, ∀ name ∈ f.names,
        s.spells.count (spellOf name) = 1 := by
  intro hAlways
  rcases hAlways (Prose.folded twiceListed) with
    ⟨s, hRead, hOnce⟩
  have hFragments :
      fragmentsIn (Prose.folded twiceListed) =
        [.spellsByLevel 1 (some 2) [⟨"bless", ⟨21, 26⟩⟩],
          .spellsByLevel 1 (some 3) [⟨"shield", ⟨48, 54⟩⟩]] := by
    decide +kernel
  rw [hFragments] at hOnce
  rw [value?_eq_foldl, hFragments, Option.some.injEq] at hRead
  have hBless := hOnce _ (List.mem_cons_self ..)
    ⟨"bless", ⟨21, 26⟩⟩ (List.mem_cons_self ..)
  rw [← hRead] at hBless
  revert hBless
  decide

end CreatureProse.Spellcasting
