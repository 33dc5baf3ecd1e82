import CreatureProse.Proofs.Parser.Word
import CreatureProse.StatLine.SpeedLine

/-
  The entries of speed lines: how they are meant to be written,
  and what is accepted as one. The search for the unit after a
  number passes over anything, so that more is accepted.

  Main declarations:
    * `Movement.Entry`
    * `Movement.Accepted`
    * `Movement.accepted_of_run_speedParser`
    * `Movement.Accepted.run_speedParser`
-/

namespace CreatureProse.Movement

open CreatureProse.Parser

variable {prose : Prose} {c r : Cursor prose}

------------------------------------------------------------
-- Units
------------------------------------------------------------

/- No unit stands in a text. -/
def NoUnit (cs : List Char) : Prop :=
  ¬ "ft.".toList <:+: cs

theorem noUnit_cons_iff
    {a : Char}
    {cs : List Char} :
    NoUnit (a :: cs) ↔
      ¬ "ft.".toList <+: a :: cs ∧ NoUnit cs := by
  rw [NoUnit, List.infix_cons_iff, not_or]
  rfl

/- A unit does not begin inside of another one. -/
theorem eq_nil_of_unit_append
    {cs rest more : List Char}
    (hNone : NoUnit cs)
    (hEq :
      "ft.".toList ++ rest = cs ++ ("ft.".toList ++ more)) :
    cs = [] := by
  have hUnit : "ft.".toList = ['f', 't', '.'] := rfl
  rw [hUnit] at hEq
  match cs with
  | [] => rfl
  | [a] => simp at hEq
  | [a, b] => simp at hEq
  | a :: b :: d :: cs =>
      simp only [List.cons_append, List.nil_append,
        List.cons.injEq] at hEq
      rcases hEq with ⟨rfl, rfl, rfl, -⟩
      exact absurd (List.prefix_append ['f', 't', '.'] cs)
        (noUnit_cons_iff.mp hNone).1

/- The first unit of a text stands at one place only. -/
theorem eq_of_append_unit
    {cs ds rest more : List Char}
    (hFirst : NoUnit cs)
    (hSecond : NoUnit ds)
    (hEq :
      cs ++ ("ft.".toList ++ rest) =
        ds ++ ("ft.".toList ++ more)) :
    cs = ds := by
  induction cs generalizing ds with
  | nil => exact (eq_nil_of_unit_append hSecond hEq).symm
  | cons a cs ih =>
      cases ds with
      | nil => exact eq_nil_of_unit_append hFirst hEq.symm
      | cons b ds =>
          rw [List.cons_append, List.cons_append,
            List.cons.injEq] at hEq
          rw [hEq.1, ih (noUnit_cons_iff.mp hFirst).2
            (noUnit_cons_iff.mp hSecond).2 hEq.2]

/- What has no part of a unit at its end adds none to a text. -/
theorem NoUnit.append
    {front cs : List Char}
    (hNone : NoUnit cs)
    (hStop : ∀ a ∈ front, a ≠ '.')
    (hLast : ∀ a ∈ front.getLast?, a ≠ 'f' ∧ a ≠ 't') :
    NoUnit (front ++ cs) := by
  induction front with
  | nil => exact hNone
  | cons a front ih =>
      have hRest : NoUnit (front ++ cs) := by
        apply ih fun b hb => hStop b (List.mem_cons_of_mem a hb)
        intro b hb
        apply hLast
        rw [List.getLast?_cons, Option.mem_def.mp hb]
        rfl
      rw [List.cons_append]
      refine noUnit_cons_iff.mpr ⟨?_, hRest⟩
      rintro ⟨rest, hUnit⟩
      have hLetters : "ft.".toList = ['f', 't', '.'] := rfl
      rw [hLetters] at hUnit
      cases front with
      | nil =>
          rw [List.cons_append, List.cons_append,
            List.cons.injEq] at hUnit
          exact (hLast a rfl).1 hUnit.1.symm
      | cons b front =>
          cases front with
          | nil =>
              simp only [List.cons_append, List.nil_append,
                List.cons.injEq] at hUnit
              exact (hLast b rfl).2 hUnit.2.1.symm
          | cons d front =>
              simp only [List.cons_append,
                List.cons.injEq] at hUnit
              exact hStop d (by simp) hUnit.2.2.1.symm

/- The unit is found where it stands first. -/
theorem run_feet_eq_some
    {s : String} :
    feet.run c = some (s, r) ↔
      "ft." = s ∧ ∃ gap, NoUnit gap ∧
        c.ahead = gap ++ ("ft.".toList ++ r.ahead) := by
  have hFound {s : String} {r : Cursor prose}
      (hRun : feet.run c = some (s, r)) :
      "ft." = s ∧ ∃ gap, NoUnit gap ∧
        c.ahead = gap ++ ("ft.".toList ++ r.ahead) := by
    rcases run_ahead_eq_some hRun with ⟨d, hLe, hUnit, hBefore⟩
    rcases run_literal_eq_some.mp hUnit with ⟨hText, hAhead⟩
    rcases Cursor.exists_ahead_eq_append hLe with ⟨gap, hGap⟩
    refine ⟨hText, gap, ?_, by rw [hGap, hAhead]⟩
    rintro ⟨front, back, hInfix⟩
    rw [← hInfix, List.append_assoc, List.append_assoc] at hGap
    rcases Cursor.exists_of_ahead_eq_append hGap with ⟨e, hE⟩
    rcases Cursor.exists_of_ahead_eq_append hE with ⟨x, hX⟩
    rw [← hE] at hGap
    rw [← hX] at hE
    have hFirst := Cursor.position_eq_add_length hGap
    have hSecond := Cursor.position_eq_add_length hE
    have hThird := Cursor.position_le_of_ahead_eq hX
    have hLength : "ft.".toList.length = 3 := rfl
    have hNone := hBefore e (by omega) (by omega)
    rw [run_literal_eq_some.mpr ⟨rfl, hE⟩] at hNone
    cases hNone
  constructor
  · exact hFound
  · rintro ⟨rfl, gap, hNone, hAhead⟩
    rcases Cursor.exists_of_ahead_eq_append hAhead with ⟨d, hD⟩
    have hUnit : (literal "ft.").run d = some ("ft.", r) :=
      run_literal_eq_some.mpr ⟨rfl, hD⟩
    have hLe := Cursor.position_le_of_ahead_eq
      (hAhead.trans (congrArg (gap ++ ·) hD.symm))
    cases hRun : feet.run c with
    | none =>
        rw [run_eq_none_of_run_ahead hRun hLe] at hUnit
        cases hUnit
    | some reply =>
        obtain ⟨s, m⟩ := reply
        rcases hFound hRun with ⟨rfl, other, hOther, hSame⟩
        rw [hAhead] at hSame
        have hGap := eq_of_append_unit hNone hOther hSame
        rw [hGap] at hSame
        rw [Cursor.eq_of_ahead_eq (List.append_cancel_left
          (List.append_cancel_left hSame))]

------------------------------------------------------------
-- Parts of an Entry
------------------------------------------------------------

/- A number and its unit, with a text of some kind between. -/
inductive Measure
    (between : List Char → Prop) :
    List Char → UInt32 → Prop where
| mk
    {digits gap : List Char}
    {n : UInt32}
    (hNumber : Numeral digits n)
    (hBetween : between gap) :
    Measure between (digits ++ (gap ++ "ft.".toList)) n

/- Nothing but spaces and tabs. -/
def Spacing (gap : List Char) : Prop :=
  ∀ a ∈ gap, isGap a = true

/- What is passed over on the way from a number to its unit. -/
structure Skipped (gap : List Char) : Prop where
  notNext : NotNext Char.isDigit gap
  noUnit : NoUnit gap

theorem notNext_append_unit
    {gap : List Char}
    (rest : List Char) :
    NotNext Char.isDigit (gap ++ ("ft.".toList ++ rest)) ↔
      NotNext Char.isDigit gap := by
  cases gap with
  | nil =>
      have hUnit :
          NotNext Char.isDigit ("ft.".toList ++ rest) :=
        notNext_append rfl
      exact iff_of_true hUnit (notNext_nil _)
  | cons a more =>
      rw [List.cons_append, notNext_cons, notNext_cons]

theorem run_measure_eq_some
    {n : UInt32} :
    (number <* feet).run c = some (n, r) ↔
      ∃ cs, Measure Skipped cs n ∧ c.ahead = cs ++ r.ahead := by
  simp only [run_seqLeft_eq_some, run_number_eq_some,
    run_feet_eq_some]
  constructor
  · rintro
      ⟨m, ⟨digits, hNumber, hFirst, hNext⟩, _, -, gap, hNone,
        hSecond⟩
    rw [hSecond, notNext_append_unit] at hNext
    refine ⟨_, .mk hNumber ⟨hNext, hNone⟩, ?_⟩
    rw [hFirst, hSecond, List.append_assoc, List.append_assoc]
  · rintro ⟨_, ⟨hNumber, hSkipped⟩, hAhead⟩
    rw [List.append_assoc, List.append_assoc] at hAhead
    rcases Cursor.exists_of_ahead_eq_append hAhead with ⟨m, hM⟩
    rw [← hM] at hAhead
    refine
      ⟨m, ⟨_, hNumber, hAhead, ?_⟩, _, rfl, _, hSkipped.noUnit,
        hM⟩
    rw [hM, notNext_append_unit]
    exact hSkipped.notNext

/- A comma with spaces around it. -/
inductive Comma : List Char → Prop where
| mk
    {front back : List Char}
    (hFront : ∀ a ∈ front, isGap a = true)
    (hBack : ∀ a ∈ back, isGap a = true) :
    Comma (front ++ ',' :: back)

/- What ends an entry: the end of the line, or a comma. -/
inductive Ending : List Char → List Char → Prop where
| stop : Ending [] []
| comma
    {cs rest : List Char}
    (hComma : Comma cs)
    (hNext : NotNext isGap rest) :
    Ending cs rest

theorem run_comma_iff :
    (∃ s, ((literal ",").padded spaces).run c = some (s, r)) ↔
      ∃ cs, Comma cs ∧ NotNext isGap r.ahead ∧
        c.ahead = cs ++ r.ahead := by
  have hMark : ",".toList = [','] := rfl
  constructor
  · rintro ⟨s, hRun⟩
    rcases run_seqLeft_eq_some.mp hRun with ⟨m, hFirst, t, hBack⟩
    rcases run_seqRight_eq_some.mp hFirst with ⟨u, k, hFront, hText⟩
    rcases run_optional_spaces_iff.mp ⟨u, hFront⟩ with
      ⟨front, hFrontGap, hK, -⟩
    rcases run_optional_spaces_iff.mp ⟨t, hBack⟩ with
      ⟨back, hBackGap, hM, hNext⟩
    refine ⟨_, .mk hFrontGap hBackGap, hNext, ?_⟩
    rw [hK, (run_literal_eq_some.mp hText).2, hMark, hM]
    simp
  · rintro ⟨_, ⟨hFrontGap, hBackGap⟩, hNext, hAhead⟩
    rw [List.append_assoc, List.cons_append] at hAhead
    rcases Cursor.exists_of_ahead_eq_append hAhead with ⟨k, hK⟩
    rcases Cursor.exists_of_ahead_eq_cons hK with ⟨m, hM⟩
    have hComma : NotNext isGap k.ahead := by
      rw [hK]
      exact notNext_cons.mpr (by decide)
    rcases run_optional_spaces_iff.mpr
        ⟨_, hFrontGap, hAhead.trans (by rw [hK]), hComma⟩ with
      ⟨u, hFront⟩
    rcases run_optional_spaces_iff.mpr ⟨_, hBackGap, hM, hNext⟩
      with ⟨t, hBack⟩
    have hText : (literal ",").run k = some (",", m) := by
      rw [run_literal_eq_some, hK, hM]
      exact ⟨rfl, rfl⟩
    exact
      ⟨",", run_seqLeft_eq_some.mpr
        ⟨m, run_seqRight_eq_some.mpr ⟨u, k, hFront, hText⟩, t,
          hBack⟩⟩

theorem run_separator_eq_some
    {u : Unit} :
    separator.run c = some (u, r) ↔
      ∃ cs, Ending cs r.ahead ∧ c.ahead = cs ++ r.ahead := by
  rw [separator, run_orElse_eq_some, run_atEnd_eq_some,
    run_as_eq_some, run_comma_iff]
  constructor
  · rintro (⟨⟨cs, hComma, hNext, hAhead⟩, -⟩ | ⟨-, hEnd, rfl⟩)
    · exact ⟨cs, .comma hComma hNext, hAhead⟩
    · have hNil : c.ahead = [] :=
        Cursor.eq_stop_iff.mp
          (Cursor.eq_of_position_eq (beq_iff_eq.mp hEnd))
      rw [hNil]
      exact ⟨[], .stop, rfl⟩
  · rintro ⟨cs, hEnding, hAhead⟩
    generalize hRest : r.ahead = rest at hEnding
    cases hEnding with
    | stop =>
        rw [hRest, List.append_nil] at hAhead
        have hStop := Cursor.eq_stop_iff.mpr hAhead
        have hNone :
            (((literal ",").padded spaces).as ()).run c = none := by
          apply run_eq_none
          intro u m hRun
          rcases run_comma_iff.mp (run_as_eq_some.mp hRun).1 with
            ⟨_, ⟨-, -⟩, -, hSome⟩
          rw [hAhead] at hSome
          simp at hSome
        refine Or.inr ⟨hNone, ?_, ?_⟩
        · rw [hStop]
          exact beq_self_eq_true prose.size
        · exact Cursor.eq_of_ahead_eq (hAhead.trans hRest.symm)
    | comma hComma hNext =>
        rw [hRest] at hAhead
        exact Or.inl ⟨⟨cs, hComma, hNext, hAhead⟩, rfl⟩

/- What may follow a label at the end of an entry. -/
theorem Ending.notNext
    {cs rest : List Char}
    (hEnding : Ending cs rest) :
    NotNext isWordLetter (cs ++ rest) := by
  cases hEnding with
  | stop => exact notNext_nil _
  | comma hComma hNext =>
      rcases hComma with ⟨hFront, -⟩
      rename_i front back
      cases front with
      | nil => exact notNext_cons.mpr (by decide)
      | cons a front =>
          exact notNext_cons.mpr (isWordLetter_eq_false_of_isGap
            (hFront a (List.mem_cons_self ..)))

/- Nor does a label follow a space that belongs to a comma. -/
theorem Ending.notNext_of_space
    {cs rest more : List Char}
    (hEnding : Ending cs rest)
    (hSpace : cs ++ rest = ' ' :: more) :
    NotNext isWordLetter more := by
  cases hEnding with
  | stop => cases hSpace
  | comma hComma hNext =>
      rcases hComma with ⟨hFront, hBack⟩
      rename_i front back
      cases front with
      | nil =>
          rw [List.nil_append, List.cons_append, List.cons.injEq]
            at hSpace
          exact absurd hSpace.1 (by decide)
      | cons a front =>
          rw [List.cons_append, List.cons_append, List.cons.injEq]
            at hSpace
          rw [← hSpace.2]
          have hInner : Ending (front ++ ',' :: back) rest :=
            .comma (.mk (fun b hMem =>
              hFront b (List.mem_cons_of_mem a hMem)) hBack) hNext
          exact hInner.notNext

/- What stands in front of a number, with the label in it. -/
inductive Front : List Char → Option String → Prop where
| space : Front [' '] none
| word
    {label : String}
    (hNe : label.toList ≠ [])
    (hLetters : ∀ a ∈ label.toList, isWordLetter a = true) :
    Front (label.toList ++ [' ']) (some label)

theorem run_front_eq_some
    {label : Option String} :
    (word.optional <* char ' ').run c = some (label, r) ↔
      ∃ cs, Front cs label ∧ c.ahead = cs ++ r.ahead := by
  rw [run_seqLeft_eq_some]
  constructor
  · rintro ⟨m, hWord, a, hChar⟩
    rcases run_char_eq_some.mp hChar with ⟨rfl, hSpace⟩
    rcases run_optional_eq_some.mp hWord with
      ⟨s, hRun, rfl⟩ | ⟨-, rfl, rfl⟩
    · rcases run_word_eq_some.mp hRun with
        ⟨hNe, hLetters, hAhead, -⟩
      refine ⟨_, .word hNe hLetters, ?_⟩
      rw [hAhead, hSpace, List.append_assoc,
        List.singleton_append]
    · exact ⟨_, .space, hSpace⟩
  · rintro ⟨_, hFront, hAhead⟩
    cases hFront with
    | space =>
        have hNone : word.run c = none := by
          apply starts_word.run_eq_none
          rw [hAhead]
          exact notNext_cons.mpr (by decide)
        exact
          ⟨c, run_optional_eq_some.mpr (Or.inr ⟨hNone, rfl, rfl⟩),
            ' ', run_char_eq_some.mpr ⟨rfl, hAhead⟩⟩
    | @word label hNe hLetters =>
        rw [List.append_assoc] at hAhead
        rcases Cursor.exists_of_ahead_eq_append hAhead with
          ⟨m, hM⟩
        have hRun : word.run c = some (label, m) := by
          rw [run_word_eq_some, hAhead, hM]
          exact ⟨hNe, hLetters, rfl, notNext_cons.mpr (by decide)⟩
        exact
          ⟨m, run_optional_eq_some.mpr (Or.inl ⟨_, hRun, rfl⟩),
            ' ', run_char_eq_some.mpr ⟨rfl, hM⟩⟩

/- What stands behind a unit, with the label in it. -/
inductive Back : List Char → Option String → Prop where
| nothing : Back [] none
| word
    {label : String}
    (hNe : label.toList ≠ [])
    (hLetters : ∀ a ∈ label.toList, isWordLetter a = true) :
    Back (' ' :: label.toList) (some label)

/- What is behind a unit is read up to the end of the entry. -/
theorem run_back_eq_some
    {label : Option String} :
    ((char ' ' *> word).optional <* separator).run c =
        some (label, r) ↔
      ∃ cs ending, Back cs label ∧ Ending ending r.ahead ∧
        c.ahead = cs ++ (ending ++ r.ahead) := by
  simp only [run_seqLeft_eq_some, run_separator_eq_some]
  constructor
  · rintro ⟨m, hWord, _, ending, hEnding, hM⟩
    rcases run_optional_eq_some.mp hWord with
      ⟨s, hRun, rfl⟩ | ⟨-, rfl, rfl⟩
    · rcases run_seqRight_eq_some.mp hRun with ⟨a, k, hChar, hText⟩
      rcases run_char_eq_some.mp hChar with ⟨rfl, hSpace⟩
      rcases run_word_eq_some.mp hText with
        ⟨hNe, hLetters, hAhead, -⟩
      refine ⟨_, ending, .word hNe hLetters, hEnding, ?_⟩
      rw [hSpace, hAhead, hM, List.cons_append]
    · exact ⟨[], ending, .nothing, hEnding, hM⟩
  · rintro ⟨_, ending, hBack, hEnding, hAhead⟩
    rcases Cursor.exists_of_ahead_eq_append hAhead with ⟨m, hM⟩
    refine ⟨m, ?_, (), ending, hEnding, hM⟩
    rw [← hM] at hAhead
    cases hBack with
    | nothing =>
        cases Cursor.eq_of_ahead_eq hAhead
        refine run_optional_eq_some.mpr (Or.inr ⟨?_, rfl, rfl⟩)
        apply run_eq_none
        intro s k hRun
        rcases run_seqRight_eq_some.mp hRun with
          ⟨a, d, hChar, hText⟩
        rcases run_char_eq_some.mp hChar with ⟨rfl, hSpace⟩
        rw [starts_word.run_eq_none (hEnding.notNext_of_space
          (hM.symm.trans hSpace))] at hText
        cases hText
    | @word label hNe hLetters =>
        rw [List.cons_append] at hAhead
        rcases Cursor.exists_of_ahead_eq_cons hAhead with ⟨d, hD⟩
        have hRun : word.run d = some (label, m) := by
          rw [run_word_eq_some, hM]
          exact
            ⟨hNe, hLetters, hD.trans (by rw [hM]),
              hEnding.notNext⟩
        have hSpace : (char ' ').run c = some (' ', d) := by
          rw [run_char_eq_some, hD]
          exact ⟨rfl, hAhead⟩
        exact run_optional_eq_some.mpr (Or.inl
          ⟨label, run_seqRight_eq_some.mpr ⟨_, d, hSpace, hRun⟩,
            rfl⟩)

------------------------------------------------------------
-- Entries
------------------------------------------------------------

theorem run_modeFirst_eq_some
    {label : Option String}
    {n : UInt32} :
    modeFirst.run c = some ((label, n), r) ↔
      ∃ front cs ending, Front front label ∧
        Measure Skipped cs n ∧ Ending ending r.ahead ∧
        c.ahead = front ++ (cs ++ (ending ++ r.ahead)) := by
  constructor
  · intro hRun
    rcases run_seq_eq_some.mp hRun with
      ⟨f, m, hMap, k, hSpeed, hPair⟩
    rcases run_map_eq_some.mp hMap with ⟨l, hFirst, rfl⟩
    cases hPair
    rcases run_seqLeft_eq_some.mp hSpeed with ⟨d, hMeasure, u, hEnd⟩
    rcases run_front_eq_some.mp hFirst with ⟨front, hFront, hC⟩
    rcases run_measure_eq_some.mp hMeasure with ⟨cs, hCs, hM⟩
    rcases run_separator_eq_some.mp hEnd with ⟨ending, hEnding, hD⟩
    exact
      ⟨front, cs, ending, hFront, hCs, hEnding,
        by rw [hC, hM, hD]⟩
  · rintro ⟨front, cs, ending, hFront, hCs, hEnding, hAhead⟩
    rcases Cursor.exists_of_ahead_eq_append hAhead with ⟨m, hM⟩
    rcases Cursor.exists_of_ahead_eq_append hM with ⟨d, hD⟩
    rw [← hM] at hAhead
    rw [← hD] at hM
    have hLabel := run_front_eq_some.mpr ⟨front, hFront, hAhead⟩
    have hMeasure := run_measure_eq_some.mpr ⟨cs, hCs, hM⟩
    have hEnd : separator.run d = some ((), r) :=
      run_separator_eq_some.mpr ⟨ending, hEnding, hD⟩
    exact run_seq_eq_some.mpr
      ⟨_, m, run_map_eq_some.mpr ⟨label, hLabel, rfl⟩, n,
        run_seqLeft_eq_some.mpr ⟨d, hMeasure, (), hEnd⟩, rfl⟩

theorem run_speedFirst_eq_some
    {label : Option String}
    {n : UInt32} :
    speedFirst.run c = some ((label, n), r) ↔
      ∃ cs back ending, Measure Skipped cs n ∧
        Back back label ∧ Ending ending r.ahead ∧
        c.ahead = cs ++ (back ++ (ending ++ r.ahead)) := by
  constructor
  · intro hRun
    rcases run_seq_eq_some.mp hRun with
      ⟨f, m, hMap, l, hLabel, hPair⟩
    rcases run_map_eq_some.mp hMap with ⟨k, hMeasure, rfl⟩
    cases hPair
    rcases run_measure_eq_some.mp hMeasure with ⟨cs, hCs, hC⟩
    rcases run_back_eq_some.mp hLabel with
      ⟨back, ending, hBack, hEnding, hM⟩
    exact ⟨cs, back, ending, hCs, hBack, hEnding, by rw [hC, hM]⟩
  · rintro ⟨cs, back, ending, hCs, hBack, hEnding, hAhead⟩
    rcases Cursor.exists_of_ahead_eq_append hAhead with ⟨m, hM⟩
    rw [← hM] at hAhead
    have hMeasure := run_measure_eq_some.mpr ⟨cs, hCs, hAhead⟩
    have hLabel := run_back_eq_some.mpr
      ⟨back, ending, hBack, hEnding, hM⟩
    exact run_seq_eq_some.mpr
      ⟨_, m, run_map_eq_some.mpr ⟨n, hMeasure, rfl⟩, label, hLabel,
        rfl⟩

/- A word that names a way of moving. -/
structure Label
    (cs : List Char)
    (mode : MovementMode) : Prop where
  letters : ∀ a ∈ cs, isWordLetter a = true
  names : MovementMode.ofName? (String.ofList cs) = some mode

theorem label_toList
    {label : String}
    {mode : MovementMode}
    (hLetters : ∀ a ∈ label.toList, isWordLetter a = true)
    (hNames : MovementMode.ofName? label = some mode) :
    Label label.toList mode :=
  ⟨hLetters, by rw [String.ofList_toList]; exact hNames⟩

theorem Label.ne_nil
    {cs : List Char}
    {mode : MovementMode}
    (hLabel : Label cs mode) :
    cs ≠ [] := by
  rintro rfl
  have hNone : MovementMode.ofName? (String.ofList []) = none := by
    decide
  have hNames := hLabel.names
  rw [hNone] at hNames
  cases hNames

theorem Label.front
    {cs : List Char}
    {mode : MovementMode}
    (hLabel : Label cs mode) :
    Front (cs ++ [' ']) (some (String.ofList cs)) := by
  have hFront := @Front.word (String.ofList cs)
  rw [String.toList_ofList] at hFront
  exact hFront hLabel.ne_nil hLabel.letters

theorem Label.back
    {cs : List Char}
    {mode : MovementMode}
    (hLabel : Label cs mode) :
    Back (' ' :: cs) (some (String.ofList cs)) := by
  have hBack := @Back.word (String.ofList cs)
  rw [String.toList_ofList] at hBack
  exact hBack hLabel.ne_nil hLabel.letters

/-
  An entry as it is meant to be written: a speed with a label in
  front or behind, or a speed alone, which is one of walking.
-/
inductive Entry : List Char → MovementMode × UInt32 → Prop where
| unlabeled
    {cs : List Char}
    {n : UInt32}
    (hMeasure : Measure Spacing cs n) :
    Entry cs (.walk, n)
| labelFirst
    {label cs : List Char}
    {mode : MovementMode}
    {n : UInt32}
    (hLabel : Label label mode)
    (hMeasure : Measure Spacing cs n) :
    Entry (label ++ ' ' :: cs) (mode, n)
| labelLast
    {label cs : List Char}
    {mode : MovementMode}
    {n : UInt32}
    (hMeasure : Measure Spacing cs n)
    (hLabel : Label label mode) :
    Entry (cs ++ ' ' :: label) (mode, n)

/-
  A speed that begins like a speed with a label in front, and is
  taken for one.
-/
def Mistaken (cs : List Char) : Prop :=
  ∃ front label inner n, Front front label ∧
    Measure Skipped inner n ∧ cs = front ++ inner

/-
  An entry as it is accepted: anything but a unit may stand
  between a number and its unit, and a space in front.
-/
inductive Accepted :
    List Char → MovementMode × UInt32 → Prop where
| unlabeled
    {cs : List Char}
    {n : UInt32}
    (hMeasure : Measure Skipped cs n)
    (hAlone : ¬ Mistaken cs) :
    Accepted cs (.walk, n)
| spaced
    {cs : List Char}
    {n : UInt32}
    (hMeasure : Measure Skipped cs n) :
    Accepted (' ' :: cs) (.walk, n)
| labelFirst
    {label cs : List Char}
    {mode : MovementMode}
    {n : UInt32}
    (hLabel : Label label mode)
    (hMeasure : Measure Skipped cs n) :
    Accepted (label ++ ' ' :: cs) (mode, n)
| labelLast
    {label cs : List Char}
    {mode : MovementMode}
    {n : UInt32}
    (hMeasure : Measure Skipped cs n)
    (hLabel : Label label mode) :
    Accepted (cs ++ ' ' :: label) (mode, n)

/- The unit of a speed is the first one of its text. -/
theorem Measure.exists_unit
    {cs : List Char}
    {n : UInt32}
    (hMeasure : Measure Skipped cs n) :
    ∃ body, NoUnit body ∧ cs = body ++ "ft.".toList := by
  rcases hMeasure with ⟨hNumber, hSkipped⟩
  rename_i digits gap
  refine ⟨digits ++ gap, ?_, (List.append_assoc ..).symm⟩
  apply hSkipped.noUnit.append
  · rintro a ha rfl
    exact absurd (hNumber.isDigit _ ha) (by decide)
  · intro a ha
    have hDigit := hNumber.isDigit a (List.mem_of_getLast? ha)
    constructor
    · rintro rfl
      exact absurd hDigit (by decide)
    · rintro rfl
      exact absurd hDigit (by decide)

theorem Front.noUnit_append
    {front body : List Char}
    {label : Option String}
    (hFront : Front front label)
    (hBody : NoUnit body) :
    NoUnit (front ++ body) := by
  have hSpace : ' ' ≠ '.' ∧ ' ' ≠ 'f' ∧ ' ' ≠ 't' := by decide
  cases hFront with
  | space =>
      apply hBody.append
      · intro a ha
        rw [List.mem_singleton.mp ha]
        exact hSpace.1
      · intro a ha
        cases ha
        exact hSpace.2
  | word hNe hLetters =>
      apply hBody.append
      · rintro a ha rfl
        rcases List.mem_append.mp ha with hLetter | hLast
        · exact absurd (hLetters _ hLetter) (by decide)
        · exact hSpace.1 (List.mem_singleton.mp hLast).symm
      · intro a ha
        rw [List.getLast?_append] at ha
        cases ha
        exact hSpace.2

/- Where the same text is read twice, both have one unit. -/
theorem eq_of_front_append
    {cs front inner rest more : List Char}
    {n k : UInt32}
    {label : Option String}
    (hMeasure : Measure Skipped cs n)
    (hFront : Front front label)
    (hInner : Measure Skipped inner k)
    (hEq : cs ++ rest = front ++ (inner ++ more)) :
    cs = front ++ inner ∧ rest = more := by
  rcases hMeasure.exists_unit with ⟨body, hBody, rfl⟩
  rcases hInner.exists_unit with ⟨other, hOther, rfl⟩
  have hUnit :
      body ++ ("ft.".toList ++ rest) =
        (front ++ other) ++ ("ft.".toList ++ more) := by
    rw [← List.append_assoc, hEq, List.append_assoc,
      List.append_assoc]
  have hSame :=
    eq_of_append_unit hBody (hFront.noUnit_append hOther) hUnit
  rw [hSame] at hUnit
  refine ⟨by rw [hSame, List.append_assoc], ?_⟩
  exact List.append_cancel_left (List.append_cancel_left hUnit)

/- An entry that ends with its label has none in front. -/
theorem run_modeFirst_eq_none_of_labelLast
    {cs label rest : List Char}
    {mode : MovementMode}
    {n : UInt32}
    (hMeasure : Measure Skipped cs n)
    (hLabel : Label label mode)
    (hAhead : c.ahead = cs ++ (' ' :: label ++ rest)) :
    modeFirst.run c = none := by
  apply run_eq_none
  rintro ⟨l, k⟩ m hRun
  rcases run_modeFirst_eq_some.mp hRun with
    ⟨front, inner, ending, hFront, hInner, hEnding, hOther⟩
  rw [hAhead] at hOther
  have hRest := (eq_of_front_append hMeasure hFront hInner hOther).2
  rw [List.cons_append] at hRest
  have hNext := hEnding.notNext_of_space hRest.symm
  rcases List.exists_cons_of_ne_nil hLabel.ne_nil with
    ⟨a, letters, rfl⟩
  rw [List.cons_append, notNext_cons,
    hLabel.letters a (List.mem_cons_self ..)] at hNext
  cases hNext

/- A speed that is not mistaken has no label in front. -/
theorem run_modeFirst_eq_none_of_alone
    {cs rest : List Char}
    {n : UInt32}
    (hMeasure : Measure Skipped cs n)
    (hAlone : ¬ Mistaken cs)
    (hAhead : c.ahead = cs ++ rest) :
    modeFirst.run c = none := by
  apply run_eq_none
  rintro ⟨l, k⟩ m hRun
  rcases run_modeFirst_eq_some.mp hRun with
    ⟨front, inner, ending, hFront, hInner, hEnding, hOther⟩
  rw [hAhead] at hOther
  exact hAlone
    ⟨front, l, inner, k, hFront, hInner,
      (eq_of_front_append hMeasure hFront hInner hOther).1⟩

/- Nothing but an entry that is accepted is read as a speed. -/
theorem accepted_of_run_speedParser
    {e : MovementMode × UInt32}
    (hRun : speedParser.run c = some (e, r)) :
    ∃ cs ending, Accepted cs e ∧ Ending ending r.ahead ∧
      c.ahead = cs ++ (ending ++ r.ahead) := by
  rcases run_filterMap_eq_some.mp hRun with
    ⟨⟨label, n⟩, hSpeed, hMode⟩
  rcases Option.map_eq_some_iff.mp hMode with ⟨mode, hNames, rfl⟩
  rcases run_orElse_eq_some.mp hSpeed with hFirst | ⟨hNone, hLast⟩
  · rcases run_modeFirst_eq_some.mp hFirst with
      ⟨_, cs, ending, hFront, hCs, hEnding, hAhead⟩
    cases hFront with
    | space =>
        cases hNames
        exact ⟨_, ending, .spaced hCs, hEnding, hAhead⟩
    | @word label hNe hLetters =>
        have hLabel := label_toList hLetters hNames
        refine ⟨_, ending, .labelFirst hLabel hCs, hEnding, ?_⟩
        rw [hAhead]
        simp
  · rcases run_speedFirst_eq_some.mp hLast with
      ⟨cs, _, ending, hCs, hBack, hEnding, hAhead⟩
    cases hBack with
    | nothing =>
        cases hNames
        refine ⟨cs, ending, .unlabeled hCs ?_, hEnding, hAhead⟩
        rintro ⟨front, label, inner, k, hFront, hInner, rfl⟩
        rw [List.nil_append, List.append_assoc] at hAhead
        have hOther : modeFirst.run c = some ((label, k), r) :=
          run_modeFirst_eq_some.mpr
            ⟨front, inner, ending, hFront, hInner, hEnding, hAhead⟩
        rw [hNone] at hOther
        cases hOther
    | @word label hNe hLetters =>
        have hLabel := label_toList hLetters hNames
        refine ⟨_, ending, .labelLast hCs hLabel, hEnding, ?_⟩
        rw [hAhead, List.append_assoc]

theorem Accepted.run_speedParser
    {cs ending : List Char}
    {e : MovementMode × UInt32}
    (hAccepted : Accepted cs e)
    (hEnding : Ending ending r.ahead)
    (hAhead : c.ahead = cs ++ (ending ++ r.ahead)) :
    speedParser.run c = some (e, r) := by
  cases hAccepted with
  | unlabeled hCs hAlone =>
      have hNone :=
        run_modeFirst_eq_none_of_alone hCs hAlone hAhead
      have hLast := run_speedFirst_eq_some.mpr
        ⟨_, [], ending, hCs, .nothing, hEnding, hAhead⟩
      exact run_filterMap_eq_some.mpr
        ⟨_, run_orElse_eq_some.mpr (Or.inr ⟨hNone, hLast⟩), rfl⟩
  | spaced hCs =>
      have hFirst := run_modeFirst_eq_some.mpr
        ⟨_, _, ending, .space, hCs, hEnding, hAhead⟩
      exact run_filterMap_eq_some.mpr
        ⟨_, run_orElse_eq_some.mpr (Or.inl hFirst), rfl⟩
  | labelFirst hLabel hCs =>
      rename_i label cs mode n
      have hFirst := run_modeFirst_eq_some.mpr
        ⟨_, cs, ending, hLabel.front, hCs, hEnding,
          hAhead.trans (by simp)⟩
      refine run_filterMap_eq_some.mpr
        ⟨_, run_orElse_eq_some.mpr (Or.inl hFirst), ?_⟩
      exact congrArg (Option.map fun mode => (mode, n)) hLabel.names
  | labelLast hCs hLabel =>
      rename_i label cs mode n
      rw [List.append_assoc] at hAhead
      have hNone :=
        run_modeFirst_eq_none_of_labelLast hCs hLabel hAhead
      have hLast := run_speedFirst_eq_some.mpr
        ⟨_, _, ending, hCs, hLabel.back, hEnding, hAhead⟩
      refine run_filterMap_eq_some.mpr
        ⟨_, run_orElse_eq_some.mpr (Or.inr ⟨hNone, hLast⟩), ?_⟩
      exact congrArg (Option.map fun mode => (mode, n)) hLabel.names

theorem Measure.ne_nil
    {between : List Char → Prop}
    {cs : List Char}
    {n : UInt32}
    (hMeasure : Measure between cs n) :
    cs ≠ [] := by
  rcases hMeasure with ⟨hNumber, -⟩
  exact List.append_ne_nil_of_left_ne_nil hNumber.ne_nil _

theorem Accepted.ne_nil
    {cs : List Char}
    {e : MovementMode × UInt32}
    (hEntry : Accepted cs e) :
    cs ≠ [] := by
  cases hEntry with
  | unlabeled hMeasure hAlone => exact hMeasure.ne_nil
  | spaced hMeasure => exact List.cons_ne_nil _ _
  | labelFirst hLabel hMeasure =>
      exact List.append_ne_nil_of_left_ne_nil hLabel.ne_nil _
  | labelLast hMeasure hLabel =>
      exact List.append_ne_nil_of_left_ne_nil hMeasure.ne_nil _

------------------------------------------------------------
-- Entries That Are Written Well
------------------------------------------------------------

theorem Spacing.skipped
    {gap : List Char}
    (hGap : Spacing gap) :
    Skipped gap := by
  constructor
  · intro a ha
    exact isDigit_eq_false_of_isGap
      (hGap a (List.mem_of_mem_head? ha))
  · intro hUnit
    have hStop : '.' ∈ gap := hUnit.subset (by decide)
    exact absurd (hGap '.' hStop) (by decide)

theorem Measure.skipped
    {cs : List Char}
    {n : UInt32}
    (hMeasure : Measure Spacing cs n) :
    Measure Skipped cs n := by
  rcases hMeasure with ⟨hNumber, hGap⟩
  exact .mk hNumber hGap.skipped

theorem Measure.exists_digit
    {between : List Char → Prop}
    {cs : List Char}
    {n : UInt32}
    (hMeasure : Measure between cs n) :
    ∃ a more, cs = a :: more ∧ a.isDigit = true := by
  rcases hMeasure with ⟨hNumber, hBetween⟩
  rename_i digits gap
  rcases List.exists_cons_of_ne_nil hNumber.ne_nil with
    ⟨a, more, rfl⟩
  exact ⟨a, _, rfl, hNumber.isDigit a (List.mem_cons_self ..)⟩

/- No digit stands behind the number of a speed. -/
theorem isDigit_eq_false_of_mem_unit
    {gap : List Char}
    {a : Char}
    (hGap : Spacing gap)
    (ha : a ∈ gap ++ "ft.".toList) :
    a.isDigit = false := by
  rcases List.mem_append.mp ha with hMem | hUnit
  · exact isDigit_eq_false_of_isGap (hGap a hMem)
  · have hNone :
        "ft.".toList.all (fun a => !a.isDigit) = true := by
      decide
    have hOther := List.all_eq_true.mp hNone a hUnit
    rwa [Bool.not_eq_true'] at hOther

/- A speed has a space only behind its digits. -/
theorem Measure.not_mistaken
    {cs : List Char}
    {n : UInt32}
    (hMeasure : Measure Spacing cs n) :
    ¬ Mistaken cs := by
  rintro ⟨front, label, inner, k, hFront, hInner, hEq⟩
  have hSpace : ' ' ∈ front := by
    cases hFront with
    | space => exact List.mem_singleton_self _
    | word hNe hLetters => simp
  rcases hInner.exists_digit with ⟨a, more, rfl, hDigit⟩
  rcases hMeasure with ⟨hNumber, hGap⟩
  rcases List.append_eq_append_iff.mp hEq with
    ⟨beyond, rfl, hRest⟩ | ⟨beyond, hDigits, hRest⟩
  · have hMem : a ∈ beyond ++ a :: more := by simp
    rw [← hRest] at hMem
    rw [isDigit_eq_false_of_mem_unit hGap hMem] at hDigit
    cases hDigit
  · have hMem := List.mem_append_left beyond hSpace
    rw [← hDigits] at hMem
    exact absurd (hNumber.isDigit _ hMem) (by decide)

/- An entry that is written well is accepted. -/
theorem Entry.accepted
    {cs : List Char}
    {e : MovementMode × UInt32}
    (hEntry : Entry cs e) :
    Accepted cs e := by
  cases hEntry with
  | unlabeled hMeasure =>
      exact .unlabeled hMeasure.skipped hMeasure.not_mistaken
  | labelFirst hLabel hMeasure =>
      exact .labelFirst hLabel hMeasure.skipped
  | labelLast hMeasure hLabel =>
      exact .labelLast hMeasure.skipped hLabel

/- An entry that is written well begins with a word. -/
theorem Entry.notNext
    {cs : List Char}
    {e : MovementMode × UInt32}
    (hEntry : Entry cs e)
    (rest : List Char) :
    NotNext isGap (cs ++ rest) := by
  have hMeasured
      {cs : List Char}
      {n : UInt32}
      (hMeasure : Measure Spacing cs n)
      (rest : List Char) :
      NotNext isGap (cs ++ rest) := by
    rcases hMeasure.exists_digit with ⟨a, more, rfl, hDigit⟩
    exact notNext_cons.mpr
      (isGap_eq_false (isWordLetter_of_isDigit hDigit))
  cases hEntry with
  | unlabeled hMeasure => exact hMeasured hMeasure rest
  | labelFirst hLabel hMeasure =>
      rcases List.exists_cons_of_ne_nil hLabel.ne_nil with
        ⟨a, more, rfl⟩
      exact notNext_cons.mpr
        (isGap_eq_false (hLabel.letters a (List.mem_cons_self ..)))
  | labelLast hMeasure hLabel =>
      rw [List.append_assoc]
      exact hMeasured hMeasure _

/- Whether a character can stand in a line that is written well. -/
def isLineLetter (a : Char) : Bool :=
  isWordLetter a || isGap a || a == ',' || a == '.'

theorem Comma.isLineLetter
    {cs : List Char}
    (hComma : Comma cs) :
    ∀ a ∈ cs, Movement.isLineLetter a = true := by
  have hGap {a : Char} (hMem : isGap a = true) :
      Movement.isLineLetter a = true := by
    rw [Movement.isLineLetter, hMem, Bool.or_true]
    rfl
  rcases hComma with ⟨hFront, hBack⟩
  intro a ha
  rcases List.mem_append.mp ha with hMem | hRest
  · exact hGap (hFront a hMem)
  · rcases List.mem_cons.mp hRest with rfl | hMem
    · decide
    · exact hGap (hBack a hMem)

theorem Entry.isLineLetter
    {cs : List Char}
    {e : MovementMode × UInt32}
    (hEntry : Entry cs e) :
    ∀ a ∈ cs, Movement.isLineLetter a = true := by
  have hSpace : Movement.isLineLetter ' ' = true := by decide
  have hMeasured
      {cs : List Char}
      {n : UInt32}
      (hMeasure : Measure Spacing cs n) :
      ∀ a ∈ cs, Movement.isLineLetter a = true := by
    rcases hMeasure with ⟨hNumber, hGap⟩
    intro a ha
    rcases List.mem_append.mp ha with hDigit | hRest
    · rw [Movement.isLineLetter,
        isWordLetter_of_isDigit (hNumber.isDigit a hDigit)]
      rfl
    · rcases List.mem_append.mp hRest with hMem | hUnit
      · rw [Movement.isLineLetter, hGap a hMem, Bool.or_true]
        rfl
      · have hAll :
            "ft.".toList.all Movement.isLineLetter = true := by
          decide
        exact List.all_eq_true.mp hAll a hUnit
  have hLabeled
      {label : List Char}
      {mode : MovementMode}
      (hLabel : Label label mode) :
      ∀ a ∈ label, Movement.isLineLetter a = true := by
    intro a ha
    rw [Movement.isLineLetter, hLabel.letters a ha]
    rfl
  intro a ha
  cases hEntry with
  | unlabeled hMeasure => exact hMeasured hMeasure a ha
  | labelFirst hLabel hMeasure =>
      rcases List.mem_append.mp ha with hMem | hRest
      · exact hLabeled hLabel a hMem
      · rcases List.mem_cons.mp hRest with rfl | hMem
        · exact hSpace
        · exact hMeasured hMeasure a hMem
  | labelLast hMeasure hLabel =>
      rcases List.mem_append.mp ha with hMem | hRest
      · exact hMeasured hMeasure a hMem
      · rcases List.mem_cons.mp hRest with rfl | hMem
        · exact hSpace
        · exact hLabeled hLabel a hMem

end CreatureProse.Movement
