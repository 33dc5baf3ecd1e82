import CreatureProse.LimitedUse.Grammar
import CreatureProse.Proofs.Parser.Character
import CreatureProse.Proofs.Parser.Scan

/-
  The texts of usage limits, as a grammar apart from the parser.
  A limit that is found in a name is found again in the text
  that it covers, and covers all of it.

  Main declarations:
    * `LimitedUse.Written`
    * `LimitedUse.written_of_run`
    * `LimitedUse.run_of_written`
    * `LimitedUse.inName?_text`
-/

namespace CreatureProse.LimitedUse

open CreatureProse.Parser

variable {prose : Prose} {c r : Cursor prose}

------------------------------------------------------------
-- Written Limits
------------------------------------------------------------

/- A number of uses each day, as it is written. -/
inductive Daily : List Char → UInt32 → Prop where
| mk
    {digits mark each : List Char}
    {n : UInt32}
    (hNumber : Numeral digits n)
    (hMark : mark = [] ∨ mark = ['e'])
    (hEach : each = [] ∨ each = " each".toList) :
    Daily (digits ++ (mark ++ ("/day".toList ++ each))) n

/- The faces of a recharge, as they are written. -/
inductive Faces : List Char → OrderedSet UInt32 → Prop where
| one
    {digits : List Char}
    {n : UInt32}
    (hNumber : Numeral digits n) :
    Faces digits (facesBetween n n)
| between
    {first last : List Char}
    {dash : Char}
    {m n : UInt32}
    (hFirst : Numeral first m)
    (hDash : dash ∈ "-–".toList)
    (hLast : Numeral last n) :
    Faces (first ++ dash :: last) (facesBetween m n)

/- The text of a usage limit. -/
inductive Written : List Char → LimitedUse → Prop where
| daily
    {cs : List Char}
    {n : UInt32}
    (hDaily : Daily cs n) :
    Written cs (perDay n)
| recharge
    {cs : List Char}
    {faces : OrderedSet UInt32}
    (hFaces : Faces cs faces) :
    Written ("recharge ".toList ++ cs) (rechargeOn faces)
| anyRest :
    Written "recharges after a short or long rest".toList
      (perRest true true)
| shortRest :
    Written "recharges after a short rest".toList
      (perRest true false)
| longRest :
    Written "recharges after a long rest".toList
      (perRest false true)

------------------------------------------------------------
-- Uses Each Day
------------------------------------------------------------

/- The part in front of each is a number with its unit. -/
theorem run_dailyAmount_iff
    {n : UInt32} :
    (number <* (char 'e').optional <* literal "/day").run c =
        some (n, r) ↔
      ∃ digits mark, Numeral digits n ∧
        (mark = [] ∨ mark = ['e']) ∧
          c.ahead =
            digits ++ (mark ++ ("/day".toList ++ r.ahead)) := by
  simp only [run_seqLeft_eq_some, run_literal_eq_some]
  constructor
  · rintro ⟨k, ⟨j, hNumber, mark?, hMark⟩, _, rfl, hDay⟩
    rcases run_number_eq_some.mp hNumber with
      ⟨digits, hDigits, hAhead, -⟩
    rcases (readsText_char 'e').run_optional_iff.mp
        ⟨mark?, hMark⟩ with hChar | ⟨-, rfl⟩
    · exact ⟨digits, ['e'], hDigits, Or.inr rfl,
        by rw [hAhead, hChar, hDay]⟩
    · exact ⟨digits, [], hDigits, Or.inl rfl,
        by rw [hAhead, hDay, List.nil_append]⟩
  · rintro ⟨digits, mark, hDigits, hMark, hAhead⟩
    rcases Cursor.exists_of_ahead_eq_append hAhead with
      ⟨j, hFirst⟩
    rcases Cursor.exists_of_ahead_eq_append hFirst with
      ⟨k, hSecond⟩
    have hNumberRun : number.run c = some (n, j) := by
      refine run_number_eq_some.mpr
        ⟨digits, hDigits, by rw [hAhead, hFirst], ?_⟩
      rw [hFirst]
      rcases hMark with rfl | rfl
      · exact notNext_cons.mpr (by decide)
      · exact notNext_cons.mpr (by decide)
    have hMarkRun :
        ∃ mark?, (char 'e').optional.run j =
          some (mark?, k) := by
      rw [(readsText_char 'e').run_optional_iff, hFirst, hSecond]
      rcases hMark with rfl | rfl
      · refine Or.inr ⟨rfl, Cursor.eq_of_ahead_eq ?_⟩
        rw [hFirst, hSecond, List.nil_append]
      · exact Or.inl rfl
    rcases hMarkRun with ⟨mark?, hMarkRun⟩
    exact ⟨k, ⟨j, hNumberRun, mark?, hMarkRun⟩, _, rfl, hSecond⟩

/- What is read is a number of uses as it is written. -/
theorem daily_of_run
    {limit : UInt32 × Bool}
    (hRun : perDayParser.run c = some (limit, r)) :
    ∃ cs, Daily cs limit.1 ∧ c.ahead = cs ++ r.ahead := by
  rw [perDayParser] at hRun
  simp only [run_seq_eq_some, run_map_eq_some] at hRun
  rcases hRun with ⟨_, m, ⟨n, hAmount, rfl⟩, each?, hEach, rfl⟩
  rcases run_dailyAmount_iff.mp hAmount with
    ⟨digits, mark, hDigits, hMark, hAhead⟩
  have hEachRead :
      ∃ each, (each = [] ∨ each = " each".toList) ∧
        m.ahead = each ++ r.ahead := by
    rcases (readsText_literal " each").run_optional_iff.mp
        ⟨each?, hEach⟩ with hText | ⟨-, rfl⟩
    · exact ⟨" each".toList, Or.inr rfl, hText⟩
    · exact ⟨[], Or.inl rfl, rfl⟩
  rcases hEachRead with ⟨each, hEachs, hEachAhead⟩
  refine ⟨_, .mk hDigits hMark hEachs, ?_⟩
  rw [hAhead, hEachAhead]
  simp only [List.append_assoc]

/- A written number of uses is read if it is all there is. -/
theorem run_of_daily
    {cs : List Char}
    {n : UInt32}
    (hDaily : Daily cs n)
    (hAhead : c.ahead = cs) :
    ∃ each, perDayParser.run c =
      some ((n, each), Cursor.stop prose) := by
  rcases hDaily with ⟨hNumber, hMark, hEach⟩
  rename_i digits mark each
  rw [← List.append_assoc, ← List.append_assoc] at hAhead
  rcases Cursor.exists_of_ahead_eq_append hAhead with
    ⟨m, hFront⟩
  rw [← hFront, List.append_assoc, List.append_assoc] at hAhead
  have hEachRun :
      ∃ each?, (literal " each").optional.run m =
        some (each?, Cursor.stop prose) := by
    rw [(readsText_literal " each").run_optional_iff, hFront,
      Cursor.ahead_stop, List.append_nil]
    rcases hEach with rfl | rfl
    · exact Or.inr
        ⟨by decide, Cursor.eq_stop_iff.mpr hFront⟩
    · exact Or.inl rfl
  rcases hEachRun with ⟨each?, hEachRun⟩
  refine ⟨each?.isSome, ?_⟩
  rw [perDayParser]
  simp only [run_seq_eq_some, run_map_eq_some]
  exact
    ⟨_, m, ⟨n, run_dailyAmount_iff.mpr
      ⟨digits, mark, hNumber, hMark, hAhead⟩, rfl⟩,
      each?, hEachRun, rfl⟩

/- No number of uses is read where no digit is next. -/
theorem run_perDayParser_eq_none
    (hNext : NotNext Char.isDigit c.ahead) :
    perDayParser.run c = none := by
  apply run_eq_none
  intro limit r hRun
  rw [perDayParser] at hRun
  simp only [run_seq_eq_some, run_map_eq_some,
    run_seqLeft_eq_some] at hRun
  rcases hRun with
    ⟨_, m, ⟨n, ⟨k, ⟨j, hNumber, -⟩, -⟩, -⟩, -⟩
  rw [run_number_eq_none hNext] at hNumber
  cases hNumber

------------------------------------------------------------
-- Recharges
------------------------------------------------------------

/- A first face with a dash after it. -/
def firstFace : Parser UInt32 :=
  number <* oneOf "-–"

theorem run_firstFace_eq_some
    {n : UInt32} :
    firstFace.run c = some (n, r) ↔
      ∃ m dash, number.run c = some (n, m) ∧
        dash ∈ "-–".toList ∧ m.ahead = dash :: r.ahead := by
  rw [firstFace, run_seqLeft_eq_some]
  simp only [run_oneOf_eq_some]
  constructor
  · rintro ⟨m, hNumber, dash, hDash, hAhead⟩
    exact ⟨m, dash, hNumber, hDash, hAhead⟩
  · rintro ⟨m, dash, hNumber, hDash, hAhead⟩
    exact ⟨m, hNumber, dash, hDash, hAhead⟩

theorem run_rechargeParser_eq_some
    {limit : LimitedUse} :
    rechargeParser.run c = some (limit, r) ↔
      ∃ first? last m k,
        limit =
          rechargeOn (facesBetween (first?.getD last) last) ∧
        c.ahead = "recharge ".toList ++ m.ahead ∧
        firstFace.optional.run m = some (first?, k) ∧
        number.run k = some (last, r) := by
  change ((fun first last =>
      rechargeOn (facesBetween (first.getD last) last))
    <$> (literal "recharge " *> firstFace.optional)
    <*> number).run c = some (limit, r) ↔ _
  simp only [run_seq_eq_some, run_map_eq_some,
    run_seqRight_eq_some, run_literal_eq_some]
  constructor
  · rintro
      ⟨_, k, ⟨first?, ⟨_, m, ⟨rfl, hText⟩, hFirst⟩, rfl⟩,
        last, hLast, rfl⟩
    exact ⟨first?, last, m, k, rfl, hText, hFirst, hLast⟩
  · rintro ⟨first?, last, m, k, rfl, hText, hFirst, hLast⟩
    exact
      ⟨_, k, ⟨first?, ⟨_, m, ⟨rfl, hText⟩, hFirst⟩, rfl⟩,
        last, hLast, rfl⟩

/- What is read are faces as they are written. -/
theorem faces_of_run
    {limit : LimitedUse}
    (hRun : rechargeParser.run c = some (limit, r)) :
    ∃ cs faces, Faces cs faces ∧ limit = rechargeOn faces ∧
      c.ahead = "recharge ".toList ++ (cs ++ r.ahead) := by
  rcases run_rechargeParser_eq_some.mp hRun with
    ⟨first?, last, m, k, rfl, hText, hFirst, hLast⟩
  rcases run_number_eq_some.mp hLast with
    ⟨digits, hDigits, hAhead, -⟩
  rcases run_optional_eq_some.mp hFirst with
    ⟨n, hFace, rfl⟩ | ⟨-, rfl, rfl⟩
  · rcases run_firstFace_eq_some.mp hFace with
      ⟨j, dash, hNumber, hDash, hDashAhead⟩
    rcases run_number_eq_some.mp hNumber with
      ⟨firsts, hFirsts, hFirstAhead, -⟩
    refine ⟨_, _, .between hFirsts hDash hDigits, rfl, ?_⟩
    rw [hText, hFirstAhead, hDashAhead, hAhead]
    simp only [List.append_assoc, List.cons_append]
  · refine ⟨digits, _, .one hDigits, rfl, ?_⟩
    rw [hText, hAhead]

/- Written faces are read if they are all there is. -/
theorem run_of_faces
    {cs : List Char}
    {faces : OrderedSet UInt32}
    (hFaces : Faces cs faces)
    (hAhead : c.ahead = "recharge ".toList ++ cs) :
    rechargeParser.run c =
      some (rechargeOn faces, Cursor.stop prose) := by
  rcases Cursor.exists_of_ahead_eq_append hAhead with
    ⟨m, hFirst⟩
  rw [run_rechargeParser_eq_some]
  cases hFaces with
  | one hNumber =>
      rename_i n
      have hRun : number.run m =
          some (n, Cursor.stop prose) :=
        run_number_eq_some.mpr
          ⟨cs, hNumber, by simp [hFirst], by simp⟩
      refine ⟨none, n, m, m, rfl, by rw [hAhead, hFirst],
        run_optional_eq_some.mpr
          (Or.inr ⟨run_eq_none ?_, rfl, rfl⟩), hRun⟩
      -- The number ends the text, so no dash follows it.
      intro a r hFace
      rcases run_firstFace_eq_some.mp hFace with
        ⟨j, dash, hNumber, -, hDash⟩
      rw [hRun] at hNumber
      cases hNumber
      rw [Cursor.ahead_stop] at hDash
      cases hDash
  | between hNumber hDash hLast =>
      rename_i first last dash a b
      rcases Cursor.exists_of_ahead_eq_append hFirst with
        ⟨j, hSecond⟩
      rcases Cursor.exists_of_ahead_eq_append
          (hSecond.trans (List.singleton_append ..).symm) with
        ⟨k, hThird⟩
      have hFace : firstFace.run m = some (a, k) := by
        refine run_firstFace_eq_some.mpr
          ⟨j, dash, run_number_eq_some.mpr
            ⟨first, hNumber, by rw [hFirst, hSecond], ?_⟩,
            hDash, by rw [hSecond, hThird]⟩
        rw [hSecond, notNext_cons]
        have hDashes : "-–".toList = ['-', '–'] := rfl
        rw [hDashes, List.mem_cons, List.mem_singleton] at hDash
        rcases hDash with rfl | rfl
        · rfl
        · rfl
      exact ⟨some a, b, m, k, rfl, by rw [hAhead, hFirst],
        run_optional_eq_some.mpr (Or.inl ⟨a, hFace, rfl⟩),
        run_number_eq_some.mpr
          ⟨last, hLast, by simp [hThird], by simp⟩⟩

theorem run_rechargeParser_eq_none
    (hPrefix :
      "recharge ".toList.isPrefixOf c.ahead = false) :
    rechargeParser.run c = none := by
  apply run_eq_none_of_isPrefixOf _ hPrefix
  intro limit r hRun
  rcases faces_of_run hRun with ⟨cs, faces, -, -, hAhead⟩
  exact ⟨cs ++ r.ahead, hAhead⟩

------------------------------------------------------------
-- Limits
------------------------------------------------------------

/- What is read is the text of a limit. -/
theorem written_of_run
    {limit : LimitedUse}
    (hRun : parser.run c = some (limit, r)) :
    ∃ cs, Written cs limit ∧ c.ahead = cs ++ r.ahead := by
  rcases exists_of_run_firstOf hRun with ⟨p, hMem, hFound⟩
  simp only [List.mem_cons, List.not_mem_nil, or_false] at hMem
  rcases hMem with rfl | rfl | rfl | rfl | rfl
  · rcases run_map_eq_some.mp hFound with ⟨daily, hDay, rfl⟩
    rcases daily_of_run hDay with ⟨cs, hDaily, hAhead⟩
    exact ⟨cs, .daily hDaily, hAhead⟩
  · rcases faces_of_run hFound with
      ⟨cs, faces, hFaces, rfl, hAhead⟩
    exact ⟨_, .recharge hFaces,
      by rw [hAhead, List.append_assoc]⟩
  · rcases run_as_eq_some.mp hFound with ⟨⟨s, hText⟩, rfl⟩
    exact ⟨_, .anyRest, (run_literal_eq_some.mp hText).2⟩
  · rcases run_as_eq_some.mp hFound with ⟨⟨s, hText⟩, rfl⟩
    exact ⟨_, .shortRest, (run_literal_eq_some.mp hText).2⟩
  · rcases run_as_eq_some.mp hFound with ⟨⟨s, hText⟩, rfl⟩
    exact ⟨_, .longRest, (run_literal_eq_some.mp hText).2⟩

/- The given text alone is read as a limit of its own. -/
theorem run_as_of_ahead_eq
    {text : String}
    (limit : LimitedUse)
    (hAhead : c.ahead = text.toList) :
    ((literal text).as limit).run c =
      some (limit, Cursor.stop prose) :=
  run_as_eq_some.mpr
    ⟨⟨text, run_literal_eq_some.mpr
      ⟨rfl, by rw [hAhead, Cursor.ahead_stop, List.append_nil]⟩⟩,
      rfl⟩

theorem run_as_eq_none
    {text : String}
    (limit : LimitedUse)
    (hPrefix : text.toList.isPrefixOf c.ahead = false) :
    ((literal text).as limit).run c = none :=
  run_map_eq_none _ (run_literal_eq_none hPrefix)

/- The text of a limit alone is read to its end. -/
theorem run_of_written
    {cs : List Char}
    {limit : LimitedUse}
    (hWritten : Written cs limit)
    (hAhead : c.ahead = cs) :
    parser.run c = some (limit, Cursor.stop prose) := by
  have hDaily
      (hNext : NotNext Char.isDigit c.ahead) :
      ((fun limit : UInt32 × Bool => perDay limit.1)
        <$> perDayParser).run c = none :=
    run_map_eq_none _ (run_perDayParser_eq_none hNext)
  rw [parser]
  cases hWritten with
  | daily hDaily =>
      rcases run_of_daily hDaily hAhead with ⟨each, hRun⟩
      exact run_firstOf_of_some _
        (run_map_eq_some.mpr ⟨_, hRun, rfl⟩)
  | recharge hFaces =>
      rw [run_firstOf_of_none _ (hDaily ?_)]
      · exact run_firstOf_of_some _ (run_of_faces hFaces hAhead)
      · rw [hAhead]
        exact notNext_cons.mpr (by decide)
  | anyRest =>
      rw [run_firstOf_of_none _ (hDaily ?_),
        run_firstOf_of_none _ (run_rechargeParser_eq_none ?_)]
      · exact run_firstOf_of_some _
          (run_as_of_ahead_eq _ hAhead)
      · rw [hAhead]
        decide
      · rw [hAhead]
        exact notNext_cons.mpr (by decide)
  | shortRest =>
      rw [run_firstOf_of_none _ (hDaily ?_),
        run_firstOf_of_none _ (run_rechargeParser_eq_none ?_),
        run_firstOf_of_none _ (run_as_eq_none _ ?_)]
      · exact run_firstOf_of_some _
          (run_as_of_ahead_eq _ hAhead)
      · rw [hAhead]
        decide
      · rw [hAhead]
        decide
      · rw [hAhead]
        exact notNext_cons.mpr (by decide)
  | longRest =>
      rw [run_firstOf_of_none _ (hDaily ?_),
        run_firstOf_of_none _ (run_rechargeParser_eq_none ?_),
        run_firstOf_of_none _ (run_as_eq_none _ ?_),
        run_firstOf_of_none _ (run_as_eq_none _ ?_)]
      · exact run_firstOf_of_some _
          (run_as_of_ahead_eq _ hAhead)
      · rw [hAhead]
        decide
      · rw [hAhead]
        decide
      · rw [hAhead]
        decide
      · rw [hAhead]
        exact notNext_cons.mpr (by decide)

/- The text of a limit is not empty. -/
theorem Written.ne_nil
    {cs : List Char}
    {limit : LimitedUse}
    (hWritten : Written cs limit) :
    cs ≠ [] := by
  cases hWritten with
  | daily hDaily =>
      rcases hDaily with ⟨hNumber, -, -⟩
      exact List.append_ne_nil_of_left_ne_nil hNumber.ne_nil _
  | recharge hFaces =>
      exact List.append_ne_nil_of_left_ne_nil (by decide) _
  | anyRest => decide
  | shortRest => decide
  | longRest => decide

------------------------------------------------------------
-- Limits in Names
------------------------------------------------------------

/- A limit in a name stands where it is read. -/
theorem readAt_of_inName?
    {name : String}
    {limit : Located LimitedUse}
    (hFound : inName? name = some limit) :
    ReadAt parser (Prose.folded name) limit := by
  rcases Option.map_eq_some_iff.mp hFound with
    ⟨⟨found, r⟩, hRun, rfl⟩
  rcases run_ahead_eq_some hRun with ⟨s, -, hLocated, -⟩
  rw [run_located_eq_some] at hLocated
  exact ⟨s, r, hLocated.1, hLocated.2⟩

/- A name that is a limit and nothing else holds this limit. -/
theorem inName?_of_written
    {name : String}
    {cs : List Char}
    {limit : LimitedUse}
    (hWritten : Written cs limit)
    (hFolded : (Prose.folded name).toList = cs) :
    inName? name = some ⟨limit, ⟨0, cs.length⟩⟩ := by
  have hSize : (Prose.folded name).size = cs.length := by
    rw [← hFolded, Array.length_toList]
  have hLocated :
      parser.located.run (Cursor.start (Prose.folded name)) =
        some (⟨limit, ⟨0, cs.length⟩⟩, Cursor.stop _) := by
    refine run_located_eq_some.mpr
      ⟨run_of_written hWritten hFolded, ?_⟩
    rw [← hSize]
    rfl
  rw [inName?, value?, nextParser, run_ahead_of_run hLocated]
  rfl

/-
  A limit that is found in a name is found in the text that it
  covers, from the beginning to the end.
-/
theorem inName?_text
    {name : String}
    {limit : Located LimitedUse}
    (hFound : inName? name = some limit) :
    inName? (limit.span.text name) =
      some ⟨limit.value,
        ⟨0, limit.span.stop - limit.span.start⟩⟩ := by
  rcases readAt_of_inName? hFound with ⟨s, r, hRun, hSpan⟩
  rcases written_of_run hRun with ⟨cs, hWritten, hAhead⟩
  have hPosition := Cursor.position_eq_add_length hAhead
  have hCovered :
      (Prose.folded (limit.span.text name)).toList = cs := by
    rw [hSpan]
    exact Cursor.folded_text_between hAhead
  have hCount :
      limit.span.stop - limit.span.start = cs.length := by
    rw [hSpan]
    dsimp only
    omega
  rw [inName?_of_written hWritten hCovered, hCount]

end CreatureProse.LimitedUse
