import CreatureProse.Proofs.Parser.Character
import CreatureProse.Proofs.Parser.Scan
import CreatureProse.Reference.Catalog

/-
  The names that a catalog finds are not empty, and each of them
  is what its span covers.

  Main declarations:
    * `Catalog.ahead_of_run`
    * `Catalog.allIn_inOrder`
    * `Catalog.text_of_mem_allIn`
-/

namespace CreatureProse

open CreatureProse.Parser

variable {prose : Prose} {c r : Cursor prose}

namespace Catalog

/- A name that is read is not empty and stands where it is. -/
theorem ahead_of_run
    {catalog : Catalog}
    {reference : ItemReference}
    (hRun : catalog.parser.run c = some (reference, r)) :
    reference.text.toList ≠ [] ∧
      c.ahead = reference.text.toList ++ r.ahead := by
  rcases exists_of_run_firstOf hRun with ⟨p, hMem, hFound⟩
  rcases List.mem_map.mp hMem with ⟨⟨name, kind⟩, hName, rfl⟩
  rcases run_map_eq_some.mp hFound with ⟨text, hWord, rfl⟩
  rcases ahead_of_run_wholeWord hWord with ⟨rfl, hAhead⟩
  refine ⟨?_, hAhead⟩
  have hEntry : (name, kind) ∈ catalog.names.entries :=
    List.mem_mergeSort.mp hName
  have hNamed := catalog.named (name, kind) hEntry
  rwa [ne_eq, String.toList_eq_nil_iff]

theorem lt_of_run
    {catalog : Catalog}
    {reference : ItemReference}
    (hRun : catalog.parser.run c = some (reference, r)) :
    c.position < r.position := by
  rcases ahead_of_run hRun with ⟨hNe, hAhead⟩
  exact Cursor.position_lt_of_ahead_eq hAhead hNe

/- The names that are found stand in the order of the text. -/
theorem allIn_inOrder
    (catalog : Catalog)
    (prose : Prose) :
    Span.InOrder ((catalog.allIn prose).map Located.span) 0
      prose.size := by
  unfold allIn
  split
  · exact Nat.zero_le _
  · exact Parser.allIn_inOrder lt_of_run

/- A name that is found is the text that its span covers. -/
theorem text_of_mem_allIn
    {catalog : Catalog}
    {a : Located ItemReference}
    (hMem : a ∈ catalog.allIn prose) :
    a.span.text prose.toString = a.value.text := by
  unfold allIn at hMem
  split at hMem
  · cases hMem
  · rcases readAt_of_mem_allIn hMem with ⟨c, r, hRun, hSpan⟩
    rw [hSpan, Cursor.text_between (ahead_of_run hRun).2,
      String.ofList_toList]

end Catalog

end CreatureProse
