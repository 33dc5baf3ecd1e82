import CreatureProse.Proofs.Parser.Scan
import CreatureProse.Proofs.Parser.Word
import CreatureProse.Proofs.Spellcasting.Basic
import CreatureProse.Proofs.Text.Fold

/-
  Where the spells of a description were read. The names of its
  fragments stand in the order of the text, and each of them is
  what its span covers, with single spaces put between words.

  Main declarations:
    * `collapsed`
    * `Spellcasting.Named`
    * `Spellcasting.named_of_run`
    * `Spellcasting.exists_fragments`
-/

namespace CreatureProse

open CreatureProse.Parser

variable {prose : Prose} {c r : Cursor prose}

------------------------------------------------------------
-- Single Spaces
------------------------------------------------------------

/- A text with one space for each run of spaces and tabs. -/
def collapsed : List Char → List Char
| [] => []
| a :: rest =>
  if isGap a then
    if rest.head?.any isGap then
      collapsed rest
    else
      ' ' :: collapsed rest
  else
    a :: collapsed rest

/- What has no spaces and tabs stays as it is. -/
theorem collapsed_append
    {cs : List Char}
    (hNone : ∀ a ∈ cs, isGap a = false)
    (rest : List Char) :
    collapsed (cs ++ rest) = cs ++ collapsed rest := by
  induction cs with
  | nil => rfl
  | cons a more ih =>
      rw [List.cons_append, collapsed,
        hNone a (List.mem_cons_self ..), List.cons_append,
        ih fun b hb => hNone b (List.mem_cons_of_mem a hb)]
      rfl

/- A run of spaces and tabs becomes one space. -/
theorem collapsed_gap_append
    {gap rest : List Char}
    (hNe : gap ≠ [])
    (hGap : ∀ a ∈ gap, isGap a = true)
    (hNext : NotNext isGap rest) :
    collapsed (gap ++ rest) = ' ' :: collapsed rest := by
  induction gap with
  | nil => exact absurd rfl hNe
  | cons a more ih =>
      rw [List.cons_append, collapsed,
        if_pos (hGap a (List.mem_cons_self ..))]
      cases more with
      | nil =>
          have hNone : rest.head?.any isGap = false := by
            cases rest with
            | nil => rfl
            | cons b rest =>
                rw [notNext_cons] at hNext
                simp [hNext]
          rw [List.nil_append, hNone]
          rfl
      | cons b more =>
          have hSome :
              (b :: more ++ rest).head?.any isGap = true := by
            simp [hGap b (by simp)]
          rw [hSome, if_pos rfl]
          exact ih (List.cons_ne_nil b more)
            fun d hd => hGap d (List.mem_cons_of_mem a hd)

theorem exists_of_run_word
    {s : String}
    (hRun : word.run c = some (s, r)) :
    s.toList ≠ [] ∧ (∀ a ∈ s.toList, isGap a = false) ∧
      c.ahead = s.toList ++ r.ahead := by
  rcases run_word_eq_some.mp hRun with
    ⟨hNe, hLetters, hAhead, -⟩
  exact
    ⟨hNe, fun a ha => isGap_eq_false (hLetters a ha), hAhead⟩

theorem exists_of_run_spaces
    {s : String}
    (hRun : spaces.run c = some (s, r)) :
    s.toList ≠ [] ∧ (∀ a ∈ s.toList, isGap a = true) ∧
      c.ahead = s.toList ++ r.ahead := by
  rcases run_spaces_eq_some.mp hRun with ⟨hNe, hGap, hAhead, -⟩
  exact ⟨hNe, hGap, hAhead⟩

namespace Spellcasting

------------------------------------------------------------
-- Spell Names
------------------------------------------------------------

/-
  A name that stands where it is said to be: its span is not
  empty, and the characters there are the name but for the
  spaces between its words.
-/
structure Named
    (prose : Prose)
    (name : ListedName) : Prop where
  nonempty : name.span.start < name.span.stop
  text :
    collapsed (name.span.text prose.toString).toList =
      name.value.toList

/- Words with spaces in front become words after one space. -/
theorem collapsed_of_chain
    {more : List String}
    (hChain : Chain (spaces *> word) c more r) :
    ∃ cs, c.ahead = cs ++ r.ahead ∧
      collapsed cs = more.flatMap fun s => ' ' :: s.toList := by
  induction hChain with
  | nil => exact ⟨[], rfl, rfl⟩
  | cons hRun hMoves hMore ih =>
      rename_i c m r s more
      rcases ih with ⟨rest, hRest, hCollapsed⟩
      rcases run_seqRight_eq_some.mp hRun with
        ⟨gap, k, hSpaces, hWord⟩
      rcases exists_of_run_spaces hSpaces with
        ⟨hGapNe, hGap, hFirst⟩
      rcases exists_of_run_word hWord with
        ⟨hWordNe, hLetters, hSecond⟩
      refine ⟨gap.toList ++ (s.toList ++ rest), ?_, ?_⟩
      · rw [hFirst, hSecond, hRest]
        simp only [List.append_assoc]
      · have hNext : NotNext isGap (s.toList ++ rest) := by
          rcases List.exists_cons_of_ne_nil hWordNe with
            ⟨a, letters, hCons⟩
          rw [hCons, List.cons_append, notNext_cons]
          exact hLetters a (by rw [hCons]; simp)
        rw [collapsed_gap_append hGapNe hGap hNext,
          collapsed_append hLetters, hCollapsed,
          List.flatMap_cons, List.cons_append]

/- A spell name that is read stands where it is read. -/
theorem named_of_run
    {name : ListedName}
    (hRun : spellName.run c = some (name, r)) :
    Named prose name ∧ name.span = ⟨c.position, r.position⟩ := by
  rw [spellName, run_located_eq_some] at hRun
  rcases hRun with ⟨hText, hSpan⟩
  simp only [run_seq_eq_some, run_map_eq_some,
    run_repeated_eq_some] at hText
  rcases hText with
    ⟨_, m, ⟨first, hFirst, rfl⟩, more, ⟨hMore, -⟩, hValue⟩
  rcases exists_of_run_word hFirst with
    ⟨hNe, hLetters, hAhead⟩
  rcases collapsed_of_chain hMore with
    ⟨rest, hRest, hCollapsed⟩
  have hRead : c.ahead = (first.toList ++ rest) ++ r.ahead := by
    rw [hAhead, hRest, List.append_assoc]
  have hPosition := Cursor.position_eq_add_length hRead
  have hLength := List.length_pos_iff.mpr hNe
  rw [List.length_append] at hPosition
  refine ⟨⟨?_, ?_⟩, hSpan⟩
  · rw [hSpan]
    dsimp only
    omega
  · rw [hSpan, Cursor.text_between hRead,
      String.toList_ofList, collapsed_append hLetters,
      hCollapsed, ← hValue, Text.toList_intercalate]
    rfl

------------------------------------------------------------
-- Spell Lists
------------------------------------------------------------

/- A spell name and what parts it from the next one. -/
def listItem : Parser ListedName :=
  spellName <* note <* ((literal ",").padded spaces).optional

instance : Forward note :=
  inferInstanceAs (Forward
    (((char '*').optional
      *> (spaces.optional *> bracketed).optional).as ()))

/- Spell names that stand in the order of the text. -/
def NamesInOrder
    (names : List ListedName)
    (c r : Cursor prose) : Prop :=
  (∀ name ∈ names, Named prose name) ∧
    Span.InOrder (names.map Located.span) c.position r.position

theorem namesInOrder_of_chain
    {names : List ListedName}
    (hChain : Chain listItem c names r) :
    NamesInOrder names c r := by
  induction hChain with
  | nil => exact ⟨by simp, Nat.le_refl _⟩
  | cons hRun hMoves hMore ih =>
      rename_i c m r name more
      rw [listItem] at hRun
      simp only [run_seqLeft_eq_some] at hRun
      rcases hRun with ⟨k, ⟨j, hName, _, hNote⟩, _, hComma⟩
      rcases named_of_run hName with ⟨hNamed, hSpan⟩
      have hAfter : j.position ≤ m.position :=
        Nat.le_trans (Forward.le hNote) (Forward.le hComma)
      refine ⟨?_, ?_, hNamed.nonempty, ?_⟩
      · intro other hOther
        rcases List.mem_cons.mp hOther with rfl | hOther
        · exact hNamed
        · exact ih.1 other hOther
      · exact Nat.le_of_eq (congrArg Span.start hSpan).symm
      · rw [hSpan]
        exact ih.2.of_le hAfter

theorem namesInOrder_of_run
    {names : List ListedName}
    (hRun : spellList.run c = some (names, r)) :
    NamesInOrder names c r :=
  namesInOrder_of_chain (run_repeated_eq_some.mp hRun).1

/- Names may begin at an earlier position. -/
theorem NamesInOrder.of_le
    {names : List ListedName}
    {m : Cursor prose}
    (hNames : NamesInOrder names m r)
    (hLe : c.position ≤ m.position) :
    NamesInOrder names c r :=
  ⟨hNames.1, hNames.2.of_le hLe⟩

------------------------------------------------------------
-- Fragments
------------------------------------------------------------

instance
    {closing : String} :
    Forward (listStart closing) :=
  inferInstanceAs (Forward
    ((literal closing <* char ':' <* spaces.optional).as ()))

instance : Forward levelParser :=
  inferInstanceAs (Forward
    ((literal "cantrips").as 0
      <|> number <* word <* literal " level"))

instance : Forward slotsParser :=
  inferInstanceAs (Forward
    ((literal "at will").as none
      <|> some <$> (number <* literal " slot"
        <* word.optional)))

instance : Forward LimitedUse.perDayParser :=
  inferInstanceAs (Forward
    ((fun amount each => (amount, Option.isSome each))
      <$> (number <* (char 'e').optional <* literal "/day")
      <*> (literal " each").optional))

instance : Forward rateParser :=
  inferInstanceAs (Forward
    ((literal "at will").as (none, false)
      <|> (fun limit : UInt32 × Bool =>
            (some (LimitedUse.perDay limit.1), !limit.2))
          <$> LimitedUse.perDayParser))

/- The names of a fragment, if any, stand where it is read. -/
theorem names_of_run_fragmentParser
    {f : Fragment}
    (hRun : fragmentParser.run c = some (f, r)) :
    f.names = [] ∨ NamesInOrder f.names c r := by
  rcases exists_of_run_firstOf hRun with ⟨p, hMem, hFound⟩
  simp only [List.mem_cons, List.not_mem_nil, or_false] at hMem
  rcases hMem with
    rfl | rfl | rfl | rfl | rfl | rfl | rfl | rfl
  iterate 6
    · rcases run_map_eq_some.mp hFound with ⟨_, -, rfl⟩
      exact Or.inl rfl
  · rcases run_seq_eq_some.mp hFound with
      ⟨g, k, hFront, names, hNames, rfl⟩
    rcases run_seq_eq_some.mp hFront with
      ⟨h, j, hLevel, slots, hSlots, rfl⟩
    rcases run_map_eq_some.mp hLevel with ⟨level, hLevel, rfl⟩
    have hLe : c.position ≤ k.position :=
      Nat.le_trans (Forward.le hLevel) (Forward.le hSlots)
    exact Or.inr ((namesInOrder_of_run hNames).of_le hLe)
  · rcases run_seq_eq_some.mp hFound with
      ⟨g, k, hFront, names, hNames, rfl⟩
    rcases run_map_eq_some.mp hFront with ⟨rate, hRate, rfl⟩
    have hLe : c.position ≤ k.position := Forward.le hRate
    exact Or.inr ((namesInOrder_of_run hNames).of_le hLe)

/- The names of all fragments stand in the order of the text. -/
theorem names_of_chain
    {fragments : List Fragment}
    (hChain : Chain fragmentParser.ahead c fragments r) :
    NamesInOrder (fragments.flatMap Fragment.names) c r := by
  induction hChain with
  | nil => exact ⟨by simp, Nat.le_refl _⟩
  | cons hRun hMoves hMore ih =>
      rename_i c m r f more
      have hNames : NamesInOrder f.names c m := by
        rcases run_ahead_eq_some hRun with ⟨s, hLe, hFound, -⟩
        rcases names_of_run_fragmentParser hFound with
          hNone | hSome
        · rw [hNone]
          exact ⟨by simp, Nat.le_of_lt hMoves⟩
        · exact hSome.of_le hLe
      refine ⟨?_, ?_⟩
      · intro name hName
        rw [List.flatMap_cons] at hName
        rcases List.mem_append.mp hName with hFirst | hRest
        · exact hNames.1 name hFirst
        · exact ih.1 name hRest
      · rw [List.flatMap_cons, List.map_append]
        exact hNames.2.append ih.2

------------------------------------------------------------
-- Descriptions
------------------------------------------------------------

/-
  A spellcasting in a description is made up of fragments whose
  names stand in the order of the text.
-/
theorem exists_fragments
    {name description : String}
    {s : Spellcasting}
    (hFound : ofText? name description = some s) :
    ∃ (fragments : List Fragment)
        (r : Cursor (Prose.folded description)),
      s.spells = (fragments.foldl add unknown).spells ∧
        NamesInOrder (fragments.flatMap Fragment.names)
          (Cursor.start (Prose.folded description)) r := by
  unfold ofText? at hFound
  dsimp only at hFound
  split at hFound
  · rcases Option.map_eq_some_iff.mp hFound with
      ⟨t, hParsed, rfl⟩
    rcases Option.map_eq_some_iff.mp hParsed with
      ⟨⟨t, r⟩, hRun, rfl⟩
    rcases run_map_eq_some.mp hRun with
      ⟨fragments, hFragments, rfl⟩
    exact ⟨fragments, r, rfl,
      names_of_chain (run_repeated_eq_some.mp hFragments).1⟩
  · cases hFound

end Spellcasting

end CreatureProse
