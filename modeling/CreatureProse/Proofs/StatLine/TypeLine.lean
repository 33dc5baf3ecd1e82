import CreatureProse.Proofs.Parser.Word
import CreatureProse.Proofs.Text.Fold
import CreatureProse.StatLine.TypeLine

/-
  A type line is read component by component. What a component
  of a line tells is what it tells when it stands alone, and of
  what the components tell the first of each kind is taken.

  Main declarations:
    * `TypeLine.IsComponent`
    * `TypeLine.SizedWord`
    * `TypeLine.Tells`
    * `TypeLine.Tells.run`
    * `TypeLine.alone`
    * `TypeLine.chain_components`
    * `TypeLine.component_by_component`
-/

namespace CreatureProse.TypeLine

open CreatureProse.Parser

variable {prose : Prose} {c m r : Cursor prose}

------------------------------------------------------------
-- What Components Tell
------------------------------------------------------------

/-
  A text that can stand between the commas of a line and has no
  brackets.
-/
structure IsComponent (s : String) : Prop where
  ne_nil : s.toList ≠ []
  noComma : ∀ a ∈ s.toList, a ≠ ','
  noOpening : ∀ a ∈ s.toList, a ≠ '('
  noClosing : ∀ a ∈ s.toList, a ≠ ')'
  noSpace : s.toList.head? ≠ some ' '

theorem isComponent_iff
    {s : String} :
    IsComponent s ↔
      s.toList.isEmpty = false ∧
        s.toList.all (fun a => a != ',' && a != '(' && a != ')') =
            true ∧
          s.toList.head? ≠ some ' ' := by
  simp only [List.isEmpty_eq_false_iff, List.all_eq_true,
    Bool.and_eq_true, bne_iff_ne]
  constructor
  · intro hComponent
    exact
      ⟨hComponent.ne_nil,
        fun a ha =>
          ⟨⟨hComponent.noComma a ha, hComponent.noOpening a ha⟩,
            hComponent.noClosing a ha⟩,
        hComponent.noSpace⟩
  · rintro ⟨hNe, hMarks, hSpace⟩
    exact
      ⟨hNe, fun a ha => (hMarks a ha).1.1,
        fun a ha => (hMarks a ha).1.2, fun a ha => (hMarks a ha).2,
        hSpace⟩

instance
    (s : String) :
    Decidable (IsComponent s) :=
  decidable_of_iff _ isComponent_iff.symm

/- Letters, at least one. -/
structure IsWord (cs : List Char) : Prop where
  ne_nil : cs ≠ []
  letters : ∀ a ∈ cs, isWordLetter a = true

/- A word that may have the word of a size in front of it. -/
inductive SizedWord :
    List Char → Option CreatureSize → String → Prop where
| bare
    {cs : List Char}
    (hWord : IsWord cs) :
    SizedWord cs none (String.ofList cs)
| sized
    {front gap cs : List Char}
    {size : CreatureSize}
    (hFront : IsWord front)
    (hSize : CreatureSize.ofName? (String.ofList front) = some size)
    (hNe : gap ≠ [])
    (hGap : ∀ a ∈ gap, isGap a = true)
    (hWord : IsWord cs) :
    SizedWord (front ++ (gap ++ cs)) (some size) (String.ofList cs)

/-
  What a text tells as a component: an alignment, else a type
  with or without a size, else nothing.
-/
inductive Tells (s : String) : Component → Prop where
| alignment
    {alignment : Alignment}
    (hPhrase : Alignment.ofPhrase? s = some alignment) :
    Tells s { Component.none with alignment := some alignment }
| sizedWord
    {size? : Option CreatureSize}
    {creatureType : String}
    (hPhrase : Alignment.ofPhrase? s = none)
    (hWord : SizedWord s.toList size? creatureType) :
    Tells s { Component.none with
      size := size?
      creatureType := some creatureType }
| nothing
    (hPhrase : Alignment.ofPhrase? s = none)
    (hWord : ∀ size? creatureType,
      ¬ SizedWord s.toList size? creatureType) :
    Tells s Component.none

/- Every text tells something as a component, if only nothing. -/
theorem exists_tells (s : String) : ∃ told, Tells s told := by
  cases hPhrase : Alignment.ofPhrase? s with
  | some alignment => exact ⟨_, .alignment hPhrase⟩
  | none =>
      by_cases hWord : ∃ size? creatureType,
        SizedWord s.toList size? creatureType
      · rcases hWord with ⟨size?, creatureType, hWord⟩
        exact ⟨_, .sizedWord hPhrase hWord⟩
      · refine ⟨_, .nothing hPhrase fun size? creatureType hSized => ?_⟩
        exact hWord ⟨size?, creatureType, hSized⟩

/- The characters of a component, up to the next comma. -/
def inComponent (a : Char) : Bool :=
  a != ','

theorem IsComponent.inside
    {s : String}
    (hComponent : IsComponent s) :
    ∀ a ∈ s.toList, inComponent a = true :=
  fun a ha => bne_iff_ne.mpr (hComponent.noComma a ha)

theorem IsWord.inside
    {cs : List Char}
    (hWord : IsWord cs) :
    ∀ a ∈ cs, inComponent a = true :=
  fun a ha => bne_of_kind (by decide) a (hWord.letters a ha)

/-
  What is read of a component, up to the comma after it, is a
  beginning of the component.
-/
theorem prefix_of_inComponent
    {cs rest read more : List Char}
    (hNext : NotNext inComponent rest)
    (hRead : ∀ a ∈ read, inComponent a = true)
    (hEq : cs ++ rest = read ++ more) :
    read <+: cs := by
  rcases List.append_eq_append_iff.mp hEq with
    ⟨back, hBack, hRest⟩ | ⟨back, hBack, -⟩
  · cases back with
    | nil =>
        exact ⟨[], by rw [hBack, List.append_nil, List.append_nil]⟩
    | cons a back =>
        rw [hRest, List.cons_append, notNext_cons] at hNext
        have hIn := hRead a (by rw [hBack]; simp)
        rw [hNext] at hIn
        cases hIn
  · exact ⟨back, hBack.symm⟩

------------------------------------------------------------
-- The Ends of Components
------------------------------------------------------------

/- What ends a component: the end of the line, or a comma. -/
inductive Ending : List Char → List Char → Prop where
| stop : Ending [] []
| comma
    {gap rest : List Char}
    (hGap : ∀ a ∈ gap, (a == ' ') = true)
    (hNext : NotNext (· == ' ') rest) :
    Ending (',' :: gap) rest

theorem Ending.notNext
    {ending rest : List Char}
    (hEnding : Ending ending rest) :
    NotNext inComponent (ending ++ rest) := by
  cases hEnding with
  | stop => exact notNext_nil inComponent
  | comma hGap hNext => exact notNext_cons.mpr (by decide)

theorem ending_stop : Ending [] (Cursor.stop prose).ahead := by
  rw [Cursor.ahead_stop]
  exact .stop

theorem run_endOfComponent_iff :
    (∃ u, endOfComponent.run c = some (u, r)) ↔
      ∃ ending, Ending ending r.ahead ∧
        c.ahead = ending ++ r.ahead := by
  constructor
  · rintro ⟨u, hRun⟩
    rcases run_orElse_eq_some.mp hRun with hComma | ⟨-, hEnd⟩
    · rcases (run_as_eq_some.mp hComma).1 with ⟨a, hLeft⟩
      rcases run_seqLeft_eq_some.mp hLeft with
        ⟨m, hMark, gap, hSpaces⟩
      rcases run_char_eq_some.mp hMark with ⟨rfl, hAhead⟩
      rcases run_repeated_character_eq_some.mp hSpaces with
        ⟨⟨hGap, hRest⟩, hNext⟩
      refine ⟨',' :: gap, .comma hGap hNext, ?_⟩
      rw [hAhead, hRest, List.cons_append]
    · rcases run_atEnd_eq_some.mp hEnd with ⟨hStop, rfl⟩
      have hAhead : c.ahead = [] :=
        Cursor.eq_stop_iff.mp
          (Cursor.eq_of_position_eq (beq_iff_eq.mp hStop))
      refine ⟨[], ?_, rfl⟩
      rw [hAhead]
      exact .stop
  · rintro ⟨ending, hEnding, hAhead⟩
    refine ⟨(), run_orElse_eq_some.mpr ?_⟩
    generalize hRest : r.ahead = rest at hEnding
    cases hEnding with
    | stop =>
        rw [hRest] at hAhead
        have hStop := Cursor.eq_stop_iff.mpr hAhead
        have hSame : c = r :=
          hStop.trans (Cursor.eq_stop_iff.mpr hRest).symm
        refine Or.inr ⟨?_, run_atEnd_eq_some.mpr ⟨?_, hSame⟩⟩
        · apply run_eq_none
          intro u n hComma
          rcases (run_as_eq_some.mp hComma).1 with ⟨a, hLeft⟩
          rcases run_seqLeft_eq_some.mp hLeft with ⟨m, hMark, -⟩
          rw [run_char_eq_some, hAhead] at hMark
          cases hMark.2
        · rw [hStop]
          exact beq_self_eq_true _
    | comma hGap hNext =>
        rw [List.cons_append] at hAhead
        rcases Cursor.exists_of_ahead_eq_cons hAhead with
          ⟨m, hMiddle⟩
        have hMark : (char ',').run c = some (',', m) :=
          run_char_eq_some.mpr ⟨rfl, by rw [hAhead, hMiddle]⟩
        have hSpaces :=
          run_repeated_character_eq_some.mpr
            ⟨⟨hGap, hMiddle⟩, hRest ▸ hNext⟩
        exact Or.inl (run_as_eq_some.mpr
          ⟨⟨',', run_seqLeft_eq_some.mpr ⟨m, hMark, _, hSpaces⟩⟩,
            rfl⟩)

------------------------------------------------------------
-- Sizes and Types
------------------------------------------------------------

theorem starts_subtype :
    Starts (fun a => isGap a || a == '(') (bracketed.padded spaces) := by
  have hOpening :
      Starts (fun a => isGap a || a == '(') (char '(') :=
    starts_char (by decide)
  refine Starts.padded ((hOpening.seqRight _).seqLeft _) ?_
  exact starts_spaces.mono fun a ha => by rw [ha, Bool.true_or]

/- No subtype is read at the end of a component. -/
theorem takes_no_subtype :
    Takes (bracketed.padded spaces).optional [] (NotNext inComponent)
      none :=
  starts_subtype.takes_none.mono fun _ hNext =>
    hNext.of_ne (by decide)

theorem takes_sizeParser
    {front gap : List Char}
    {size : CreatureSize}
    (hFront : IsWord front)
    (hSize : CreatureSize.ofName? (String.ofList front) = some size)
    (hNe : gap ≠ [])
    (hGap : ∀ a ∈ gap, isGap a = true) :
    Takes sizeParser (front ++ gap) (NotNext isGap) size := by
  have hSpaces :
      Takes spaces gap (NotNext isGap) (String.ofList gap) := by
    constructor
    intro prose c r hAhead hFollow
    rw [run_spaces_eq_some, String.toList_ofList]
    exact ⟨hNe, hGap, hAhead, hFollow⟩
  refine ((takes_word hFront.ne_nil hFront.letters).seqLeft hSpaces
    fun rest _ => ?_).filterMap hSize
  rcases List.exists_cons_of_ne_nil hNe with ⟨a, more, rfl⟩
  exact notNext_cons.mpr
    (isWordLetter_eq_false_of_isGap (hGap a (List.mem_cons_self ..)))

/- A word that ends a component has no size in front of it. -/
theorem run_sizeParser_eq_none
    {cs : List Char}
    (hWord : IsWord cs)
    (hAhead : c.ahead = cs ++ m.ahead)
    (hNext : NotNext inComponent m.ahead) :
    sizeParser.run c = none := by
  apply run_eq_none
  intro size r hRun
  rcases run_filterMap_eq_some.mp hRun with ⟨s, hLeft, -⟩
  rcases run_seqLeft_eq_some.mp hLeft with ⟨n, hFirst, gap, hSpaces⟩
  have hWhole :=
    (takes_word hWord.ne_nil hWord.letters).run hAhead
      (hNext.of_ne (by decide))
  rw [hWhole] at hFirst
  cases hFirst
  rw [starts_spaces.run_eq_none (hNext.of_ne (by decide))]
    at hSpaces
  cases hSpaces

/- A word with or without a size is read at the end. -/
theorem SizedWord.takes
    {cs : List Char}
    {size? : Option CreatureSize}
    {creatureType : String}
    (hSized : SizedWord cs size? creatureType) :
    Takes sizeAndType cs (NotNext inComponent)
      { Component.none with
        size := size?
        creatureType := some creatureType } := by
  cases hSized with
  | bare hWord =>
      constructor
      intro prose c r hAhead hNext
      have hSize := run_sizeParser_eq_none hWord hAhead hNext
      have hNone : sizeParser.optional.run c = some (none, c) :=
        run_optional_eq_some.mpr (Or.inr ⟨hSize, rfl, rfl⟩)
      have hType :=
        (takes_word hWord.ne_nil hWord.letters).run hAhead
          (hNext.of_ne (by decide))
      have hSubtype := takes_no_subtype.run rfl hNext
      exact run_seq_eq_some.mpr
        ⟨_, r, run_seq_eq_some.mpr
            ⟨_, c, run_map_eq_some.mpr ⟨none, hNone, rfl⟩,
              _, hType, rfl⟩,
          none, hSubtype, rfl⟩
  | @sized front gap cs size hFront hSize hNe hGap hWord =>
      have hText : front ++ (gap ++ cs) = front ++ gap ++ cs ++ [] := by
        rw [List.append_nil, List.append_assoc]
      rw [hText]
      refine ((((takes_sizeParser hFront hSize hNe hGap).optional.map
        _).seq (takes_word hWord.ne_nil hWord.letters)
          fun rest _ => ?_).seq takes_no_subtype fun rest hNext => ?_)
      · rcases List.exists_cons_of_ne_nil hWord.ne_nil with
          ⟨a, more, rfl⟩
        exact notNext_cons.mpr
          (isGap_eq_false (hWord.letters a (List.mem_cons_self ..)))
      · exact hNext.of_ne (by decide)

theorem isWord_of_run_word
    {s : String}
    (hRun : word.run c = some (s, r)) :
    IsWord s.toList ∧ c.ahead = s.toList ++ r.ahead := by
  rcases run_word_eq_some.mp hRun with ⟨hNe, hLetters, hAhead, -⟩
  exact ⟨⟨hNe, hLetters⟩, hAhead⟩

/- What is read as a size and a type is a word with its size. -/
theorem exists_sizedWord_of_run
    {size? : Option CreatureSize}
    {creatureType : String}
    (hSize : sizeParser.optional.run c = some (size?, m))
    (hType : word.run m = some (creatureType, r)) :
    ∃ read, SizedWord read size? creatureType ∧
      (∀ a ∈ read, inComponent a = true) ∧
        c.ahead = read ++ r.ahead := by
  rcases isWord_of_run_word hType with ⟨hWord, hAhead⟩
  rcases run_optional_eq_some.mp hSize with
    ⟨size, hRun, rfl⟩ | ⟨-, rfl, rfl⟩
  · rcases run_filterMap_eq_some.mp hRun with ⟨front, hLeft, hName⟩
    rcases run_seqLeft_eq_some.mp hLeft with
      ⟨n, hFirst, gap, hSpaces⟩
    rcases isWord_of_run_word hFirst with ⟨hFront, hFirstAhead⟩
    rcases run_spaces_eq_some.mp hSpaces with
      ⟨hNe, hGap, hGapAhead, -⟩
    refine
      ⟨front.toList ++ (gap.toList ++ creatureType.toList), ?_, ?_, ?_⟩
    · have hSized :=
        SizedWord.sized hFront (by rwa [String.ofList_toList])
          hNe hGap hWord
      rwa [String.ofList_toList] at hSized
    · intro a ha
      simp only [List.mem_append] at ha
      rcases ha with ha | ha | ha
      · exact hFront.inside a ha
      · exact bne_of_kind (by decide) a (hGap a ha)
      · exact hWord.inside a ha
    · rw [hFirstAhead, hGapAhead, hAhead, List.append_assoc,
        List.append_assoc]
  · refine ⟨creatureType.toList, ?_, hWord.inside, hAhead⟩
    have hBare := SizedWord.bare hWord
    rwa [String.ofList_toList] at hBare

/- Inside a component there is no subtype. -/
theorem eq_of_run_subtype
    {s : String}
    {read rest : List Char}
    {subtype? : Option String}
    (hComponent : IsComponent s)
    (hNext : NotNext inComponent rest)
    (hRead : ∀ a ∈ read, inComponent a = true)
    (hAhead : s.toList ++ rest = read ++ c.ahead)
    (hRun :
      (bracketed.padded spaces).optional.run c =
        some (subtype?, r)) :
    c = r := by
  rcases run_optional_eq_some.mp hRun with
    ⟨subtype, hPadded, -⟩ | ⟨-, -, hSame⟩
  · rcases run_seqLeft_eq_some.mp hPadded with ⟨n, hRight, -⟩
    rcases run_seqRight_eq_some.mp hRight with
      ⟨gap?, k, hSpaces, hBrackets⟩
    rcases run_optional_spaces_iff.mp ⟨gap?, hSpaces⟩ with
      ⟨gap, hGap, hGapAhead, -⟩
    rcases run_seqLeft_eq_some.mp hBrackets with ⟨i, hInner, -⟩
    rcases run_seqRight_eq_some.mp hInner with ⟨a, j, hOpening, -⟩
    rcases run_char_eq_some.mp hOpening with ⟨rfl, hMark⟩
    have hPrefix : read ++ gap ++ ['('] <+: s.toList := by
      apply prefix_of_inComponent hNext
      · intro a ha
        simp only [List.mem_append, List.mem_singleton] at ha
        rcases ha with (ha | ha) | rfl
        · exact hRead a ha
        · exact bne_of_kind (by decide) a (hGap a ha)
        · decide
      · rw [hAhead, hGapAhead, hMark, List.append_assoc,
          List.append_assoc, List.singleton_append]
    exact absurd rfl
      (hComponent.noOpening '(' (hPrefix.subset (by simp)))
  · exact hSame

/- Only a word with or without a size is read as a whole. -/
theorem exists_sizedWord
    {s : String}
    {rest : List Char}
    {told : Component}
    (hComponent : IsComponent s)
    (hNext : NotNext inComponent rest)
    (hAhead : c.ahead = s.toList ++ rest)
    (hRun :
      (sizeAndType <* endOfComponent).run c = some (told, r)) :
    ∃ size? creatureType, SizedWord s.toList size? creatureType := by
  rcases run_seqLeft_eq_some.mp hRun with ⟨m, hBoth, hEnd⟩
  rcases run_seq_eq_some.mp hBoth with
    ⟨_, n, hFront, subtype?, hSubtype, -⟩
  rcases run_seq_eq_some.mp hFront with
    ⟨_, k, hMap, creatureType, hType, -⟩
  rcases run_map_eq_some.mp hMap with ⟨size?, hSize, -⟩
  rcases exists_sizedWord_of_run hSize hType with
    ⟨read, hSized, hRead, hReadAhead⟩
  rw [hReadAhead] at hAhead
  cases eq_of_run_subtype hComponent hNext hRead hAhead.symm hSubtype
  rcases run_endOfComponent_iff.mp hEnd with
    ⟨ending, hEnding, hEndAhead⟩
  have hStop := hEnding.notNext
  rw [← hEndAhead] at hStop
  have hShort := prefix_of_inComponent hNext hRead hAhead.symm
  have hLong :=
    prefix_of_inComponent hStop hComponent.inside hAhead
  have hSame : read = s.toList :=
    hShort.eq_of_length
      (Nat.le_antisymm hShort.length_le hLong.length_le)
  exact ⟨size?, creatureType, hSame ▸ hSized⟩

------------------------------------------------------------
-- Components
------------------------------------------------------------

theorem IsComponent.run_componentText
    {s : String}
    (hComponent : IsComponent s)
    (hAhead : c.ahead = s.toList ++ m.ahead)
    (hNext : NotNext inComponent m.ahead) :
    componentText.run c = some (s, m) :=
  run_characters_eq_some.mpr
    ⟨hComponent.ne_nil, hComponent.inside, hAhead, hNext⟩

/- An alignment is read if a component is an alignment phrase. -/
theorem IsComponent.run_alignmentParser
    {s : String}
    (hComponent : IsComponent s)
    (hAhead : c.ahead = s.toList ++ m.ahead)
    (hNext : NotNext inComponent m.ahead) :
    alignmentParser.run c =
      (Alignment.ofPhrase? s).map fun alignment =>
        ({ Component.none with alignment := some alignment }, m) := by
  rw [alignmentParser, run_filterMap,
    hComponent.run_componentText hAhead hNext, Option.bind_some,
    Option.map_map]
  rfl

/- A component that tells nothing is not read in part. -/
theorem IsComponent.run_recognized_eq_none
    {s : String}
    (hComponent : IsComponent s)
    (hAhead : c.ahead = s.toList ++ m.ahead)
    (hNext : NotNext inComponent m.ahead)
    (hPhrase : Alignment.ofPhrase? s = none)
    (hWord : ∀ size? creatureType,
      ¬ SizedWord s.toList size? creatureType) :
    recognized.run c = none := by
  apply run_eq_none
  intro told r hRun
  rcases run_seqLeft_eq_some.mp hRun with ⟨k, hEither, hEnd⟩
  rcases run_orElse_eq_some.mp hEither with
    hAlignment | ⟨-, hSized⟩
  · rw [hComponent.run_alignmentParser hAhead hNext, hPhrase]
      at hAlignment
    cases hAlignment
  · rcases exists_sizedWord hComponent hNext hAhead
      (run_seqLeft_eq_some.mpr ⟨k, hSized, hEnd⟩) with
      ⟨size?, creatureType, hFound⟩
    exact hWord size? creatureType hFound

/-
  A component of a line is read with what ends it, and what is
  read is what the component tells.
-/
theorem Tells.run
    {s : String}
    {ending : List Char}
    {told : Component}
    (hTells : Tells s told)
    (hComponent : IsComponent s)
    (hEnding : Ending ending r.ahead)
    (hAhead : c.ahead = s.toList ++ (ending ++ r.ahead)) :
    (recognized <|> skipped).run c = some (told, r) := by
  rcases Cursor.exists_of_ahead_eq_append hAhead with ⟨m, hMiddle⟩
  rw [← hMiddle] at hAhead
  have hNext : NotNext inComponent m.ahead := by
    rw [hMiddle]
    exact hEnding.notNext
  have hAlignment := hComponent.run_alignmentParser hAhead hNext
  have hEnd := run_endOfComponent_iff.mpr ⟨ending, hEnding, hMiddle⟩
  rw [run_orElse_eq_some]
  cases hTells with
  | alignment hPhrase =>
      rw [hPhrase, Option.map_some] at hAlignment
      exact Or.inl (run_seqLeft_eq_some.mpr
        ⟨m, run_orElse_eq_some.mpr (Or.inl hAlignment), hEnd⟩)
  | sizedWord hPhrase hWord =>
      rw [hPhrase, Option.map_none] at hAlignment
      have hSized := hWord.takes.run hAhead hNext
      exact Or.inl (run_seqLeft_eq_some.mpr
        ⟨m, run_orElse_eq_some.mpr (Or.inr ⟨hAlignment, hSized⟩),
          hEnd⟩)
  | nothing hPhrase hWord =>
      have hText := hComponent.run_componentText hAhead hNext
      refine Or.inr
        ⟨hComponent.run_recognized_eq_none hAhead hNext hPhrase hWord,
          run_as_eq_some.mpr ⟨⟨s, ?_⟩, rfl⟩⟩
      exact run_seqLeft_eq_some.mpr ⟨m, hText, hEnd⟩

/- What a text tells when it is the only component of a line. -/
def alone (s : String) : Component :=
  ((recognized <|> skipped).value? (Prose.ofString s)).getD
    Component.none

/- What a component tells alone is what it tells. -/
theorem alone_eq_iff
    {s : String}
    {told : Component}
    (hComponent : IsComponent s) :
    alone s = told ↔ Tells s told := by
  have hAlone
      {told : Component}
      (hTells : Tells s told) :
      alone s = told := by
    have hRun :
        (recognized <|> skipped).run
            (Cursor.start (Prose.ofString s)) =
          some (told, Cursor.stop (Prose.ofString s)) := by
      apply hTells.run hComponent ending_stop
      rw [Cursor.ahead_stop, List.append_nil, List.append_nil]
      rfl
    rw [alone, value?, hRun]
    rfl
  constructor
  · rintro rfl
    rcases exists_tells s with ⟨told, hTells⟩
    rwa [hAlone hTells]
  · exact hAlone

------------------------------------------------------------
-- Lines
------------------------------------------------------------

/- A component in front of others is read before them. -/
theorem IsComponent.chain_cons
    {s : String}
    {ending : List Char}
    {more : List Component}
    (hComponent : IsComponent s)
    (hEnding : Ending ending m.ahead)
    (hAhead : c.ahead = s.toList ++ (ending ++ m.ahead))
    (hMore : Chain (recognized <|> skipped) m more r) :
    Chain (recognized <|> skipped) c (alone s :: more) r := by
  have hTells := (alone_eq_iff hComponent).mp rfl
  refine .cons (hTells.run hComponent hEnding hAhead) ?_ hMore
  rw [← List.append_assoc] at hAhead
  exact Cursor.position_lt_of_ahead_eq hAhead
    (List.append_ne_nil_of_left_ne_nil hComponent.ne_nil ending)

/- After a comma and a space a component comes next. -/
theorem IsComponent.ending
    {s : String}
    (hComponent : IsComponent s)
    (more : List String) :
    Ending ", ".toList (", ".intercalate (s :: more)).toList := by
  refine .comma (List.forall_mem_singleton.mpr (by decide)) ?_
  rw [Text.toList_intercalate]
  rcases List.exists_cons_of_ne_nil hComponent.ne_nil with
    ⟨a, rest, hText⟩
  have hSpace := hComponent.noSpace
  rw [hText, List.head?_cons] at hSpace
  rw [hText, List.cons_append, notNext_cons, beq_eq_false_iff_ne]
  rintro rfl
  exact hSpace rfl

/- The components of a line are read one after the other. -/
theorem chain_components
    {components : List String}
    (hComponents : ∀ s ∈ components, IsComponent s)
    (hAhead : c.ahead = (", ".intercalate components).toList) :
    Chain (recognized <|> skipped) c (components.map alone)
      (Cursor.stop prose) := by
  induction components generalizing c with
  | nil =>
      rw [Cursor.eq_stop_iff.mpr hAhead]
      exact .nil
  | cons s more ih =>
      rw [List.forall_mem_cons] at hComponents
      cases more with
      | nil =>
          refine hComponents.1.chain_cons ending_stop ?_ .nil
          rw [hAhead, String.intercalate_singleton, Cursor.ahead_stop,
            List.append_nil, List.append_nil]
      | cons t more =>
          rw [String.intercalate_cons_cons, String.toList_append,
            String.toList_append, List.append_assoc] at hAhead
          rcases Cursor.exists_of_ahead_eq_append
            (hAhead.trans (List.append_assoc ..).symm) with
            ⟨m, hMiddle⟩
          rw [← hMiddle] at hAhead
          have hEnding :=
            (hComponents.2 t (List.mem_cons_self ..)).ending more
          rw [← hMiddle] at hEnding
          exact hComponents.1.chain_cons hEnding hAhead
            (ih hComponents.2 hMiddle)

/- The first that the parts of components tell is what is told. -/
theorem foldl_orElse
    {β : Type}
    (part : Component → Option β)
    (hPart : ∀ first second : Component,
      part (first.orElse second) = (part first <|> part second))
    (told : List Component)
    (before : Component) :
    part (told.foldl Component.orElse before) =
      (part before <|> told.findSome? part) := by
  induction told generalizing before with
  | nil => simp
  | cons first more ih =>
      rw [List.foldl_cons, ih, hPart, List.findSome?_cons]
      cases part before with
      | some b => rfl
      | none =>
          cases part first with
          | some b => rfl
          | none => rfl

/- The line that the first of each kind of value makes. -/
theorem ofComponents?_eq (told : List Component) :
    ofComponents? told =
      (told.findSome? Component.creatureType).map fun creatureType =>
        { size := told.findSome? Component.size
          creatureType
          subtype := told.findSome? Component.subtype
          alignment := told.findSome? Component.alignment } := by
  rw [ofComponents?]
  simp only [foldl_orElse Component.creatureType (fun _ _ => rfl),
    foldl_orElse Component.size (fun _ _ => rfl),
    foldl_orElse Component.subtype (fun _ _ => rfl),
    foldl_orElse Component.alignment (fun _ _ => rfl)]
  rfl

/-
  The line of the first size, the first type and the first
  alignment that components tell when each stands alone.
-/
def combined (components : List String) : Option TypeLine :=
  (components.findSome? fun s => (alone s).creatureType).map
    fun creatureType =>
      { size := components.findSome? fun s => (alone s).size
        creatureType
        subtype := none
        alignment :=
          components.findSome? fun s => (alone s).alignment }

/- Without brackets there is no subtype. -/
theorem Tells.subtype_eq_none
    {s : String}
    {told : Component}
    (hTells : Tells s told) :
    told.subtype = none := by
  cases hTells with
  | alignment hPhrase => rfl
  | sizedWord hPhrase hWord => rfl
  | nothing hPhrase hWord => rfl

theorem ofString?_eq_combined
    {components : List String}
    (hComponents : ∀ s ∈ components, IsComponent s) :
    ofString? (", ".intercalate components) = combined components := by
  let prose := Prose.ofString (", ".intercalate components)
  have hChain :=
    chain_components (c := Cursor.start prose) hComponents rfl
  have hStuck :
      Stuck (recognized <|> skipped) (Cursor.stop prose) :=
    fun _ r _ => r.position_le
  have hRun := run_repeated_eq_some.mpr ⟨hChain, hStuck⟩
  have hSubtype :
      (components.findSome? fun s => (alone s).subtype) = none := by
    rw [List.findSome?_eq_none_iff]
    intro s hs
    exact ((alone_eq_iff (hComponents s hs)).mp rfl).subtype_eq_none
  have hLine :
      ofString? (", ".intercalate components) =
        ofComponents? (components.map alone) := by
    rw [ofString?, value?, parser, run_filterMap, hRun,
      Option.bind_some, Option.map_map]
    exact Option.map_id'
  rw [hLine, ofComponents?_eq, combined]
  simp only [List.findSome?_map, Function.comp_def, hSubtype]

/-
  A line of components is read as the first size, the first type
  and the first alignment that the components tell when each
  stands alone: an alignment, else a type with or without a size,
  else nothing. It is not read just where none of them tells a
  type, and components that tell nothing change nothing.
-/
theorem component_by_component
    (components : List String)
    (hComponents : ∀ s ∈ components, IsComponent s) :
    (∀ s ∈ components, ∀ told, alone s = told ↔ Tells s told) ∧
      ofString? (", ".intercalate components) =
        combined components ∧
      (ofString? (", ".intercalate components) = none ↔
        ∀ s ∈ components, (alone s).creatureType = none) ∧
      ∀ before after s, components = before ++ after →
        IsComponent s → Tells s Component.none →
          ofString? (", ".intercalate (before ++ s :: after)) =
            ofString? (", ".intercalate components) := by
  refine ⟨fun s hs told => alone_eq_iff (hComponents s hs),
    ofString?_eq_combined hComponents, ?_, ?_⟩
  · rw [ofString?_eq_combined hComponents, combined,
      Option.map_eq_none_iff, List.findSome?_eq_none_iff]
  · rintro before after s rfl hComponent hTells
    have hMore : ∀ t ∈ before ++ s :: after, IsComponent t := by
      intro t ht
      rcases List.mem_append.mp ht with hBefore | hRest
      · exact hComponents t (List.mem_append_left after hBefore)
      · rcases List.mem_cons.mp hRest with rfl | hAfter
        · exact hComponent
        · exact hComponents t (List.mem_append_right before hAfter)
    have hNothing := (alone_eq_iff hComponent).mpr hTells
    rw [ofString?_eq_combined hMore,
      ofString?_eq_combined hComponents, combined, combined]
    simp only [List.findSome?_append, List.findSome?_cons, hNothing,
      Component.none]

/-
  The first type wins, an alignment may come before it, and the
  name of a book tells nothing.
-/
theorem component_by_component_dragon :
    let components :=
      ["neutral evil", "Large dragon", "Tiny swarm"]
    let line : TypeLine :=
      { size := some .large
        creatureType := "dragon"
        subtype := none
        alignment := some (.both .neutral .evil) }
    (∀ s ∈ components, IsComponent s) ∧
      ofString? (", ".intercalate components) = some line ∧
      ofString? (", ".intercalate ("Monster Manual" :: components)) =
        some line := by
  intro components line
  have hComponents : ∀ s ∈ components, IsComponent s := by
    decide +kernel
  have hBook : IsComponent "Monster Manual" := by decide +kernel
  rcases component_by_component components hComponents with
    ⟨-, hLine, -, hMore⟩
  have hCombined : combined components = some line := by
    decide +kernel
  have hNothing : Tells "Monster Manual" Component.none :=
    (alone_eq_iff hBook).mp (by decide +kernel)
  rw [hCombined] at hLine
  exact
    ⟨hComponents, hLine,
      (hMore [] components _ rfl hBook hNothing).trans hLine⟩

end CreatureProse.TypeLine
