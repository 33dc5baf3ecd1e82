import CreatureProse.Proofs.Dice.Grammar
import CreatureProse.Proofs.Parser.Numeral

/-
  What is found inside of an expression that can be read. An
  expression with dice is found as a whole. One without dice is
  not, and the search goes on a single character further, inside
  of it. There it can find a modifier, where a sign stands right
  in front of its number, and a roll whose first count is the end
  of the expression, as 61d4 in 0d61d4.

  Main declarations:
    * `DiceExpression.Place`
    * `DiceExpression.goesOn_of_place`
    * `DiceExpression.exists_run_checkParser_of_place`
    * `DiceExpression.rollInside_iff`
    * `DiceExpression.found_inside_iff`
    * `DiceExpression.not_never_inside`
-/

namespace CreatureProse.DiceExpression

open CreatureProse.Parser

variable {prose : Prose} {c d k m r s : Cursor prose}

------------------------------------------------------------
-- Dice in an Expression
------------------------------------------------------------

/- A sum has dice if one of its terms has. -/
theorem hasDice_joinTerms
    (first : DiceExpression)
    (more : List (Operator × DiceExpression)) :
    (joinTerms first more).hasDice =
      (first.hasDice || more.any fun x => x.2.hasDice) := by
  induction more generalizing first with
  | nil => exact (Bool.or_false _).symm
  | cons x more ih =>
      change (joinTerms (.compound first x.1 x.2) more).hasDice = _
      rw [ih, hasDice, List.any_cons, Bool.or_assoc]

/- Whether no die is rolled. -/
def Plain (e : DiceExpression) : Prop :=
  e.hasDice = false

theorem plain_pool_iff
    {count sides : UInt32} :
    (pool count sides).Plain ↔ count.toNat = 0 := by
  rw [Plain, hasDice, decide_eq_false_iff_not,
    UInt32.lt_iff_toNat_lt, UInt32.toNat_zero, Nat.pos_iff_ne_zero,
    not_ne_iff]

theorem plain_joinTerms_iff
    {first : DiceExpression}
    {more : List (Operator × DiceExpression)} :
    (joinTerms first more).Plain ↔
      first.Plain ∧ ∀ x ∈ more, x.2.Plain := by
  rw [Plain, hasDice_joinTerms, Bool.or_eq_false_iff,
    List.any_eq_false]
  simp only [Plain, Bool.not_eq_true]

/- A modifier is a roll of one die. -/
theorem hasDice_check (n : Int32) :
    (check n).hasDice = true := by
  unfold check
  split
  · rfl
  · rfl

------------------------------------------------------------
-- Places in a Sum
------------------------------------------------------------

/-
  Where a position inside of a plain sum lies: in a term that
  others may follow up to the end, or in an operator before one.
-/
inductive Place (d r : Cursor prose) : Prop where
| term
    {k m : Cursor prose}
    {t : DiceExpression}
    {more : List (Operator × DiceExpression)}
    (hTerm : termParser.run k = some (t, m))
    (hFrom : k.position ≤ d.position)
    (hTo : d.position < m.position)
    (hPlain : t.Plain)
    (hChain : Chain moreParser m more r)
    (hMore : ∀ x ∈ more, x.2.Plain)
| joint
    {k m s : Cursor prose}
    {op : Operator}
    {t : DiceExpression}
    (hOperator : operatorParser.run k = some (op, m))
    (hFrom : k.position ≤ d.position)
    (hTo : d.position < m.position)
    (hTerm : termParser.run m = some (t, s))
    (hPlain : t.Plain)

theorem place_of_chain
    {first : DiceExpression}
    {more : List (Operator × DiceExpression)}
    (hTerm : termParser.run k = some (first, m))
    (hChain : Chain moreParser m more r)
    (hFirst : first.Plain)
    (hMore : ∀ x ∈ more, x.2.Plain)
    (hFrom : k.position ≤ d.position)
    (hTo : d.position < r.position) :
    Place d r := by
  induction hChain generalizing k first with
  | nil => exact .term hTerm hFrom hTo hFirst .nil hMore
  | @cons m middle r x later hRun hMoves hRest ih =>
      rcases run_moreParser_eq_some.mp hRun with
        ⟨y, hOperator, hNext⟩
      by_cases hInTerm : d.position < m.position
      · exact .term hTerm hFrom hInTerm hFirst
          (.cons hRun hMoves hRest) hMore
      · rw [List.forall_mem_cons] at hMore
        by_cases hInJoint : d.position < y.position
        · exact .joint hOperator (Nat.le_of_not_lt hInTerm)
            hInJoint hNext hMore.1
        · exact ih hNext hMore.1 hMore.2
            (Nat.le_of_not_lt hInJoint) hTo

------------------------------------------------------------
-- Sums inside of a Plain Sum
------------------------------------------------------------

/- From a number on there is a plain term, or a pool. -/
theorem plain_or_goesOn_of_number
    {n : UInt32}
    {t : DiceExpression}
    (hNumber : number.run d = some (n, m))
    (hTerm : termParser.run d = some (t, s)) :
    (s = m ∧ t.Plain) ∨ ∃ rest, m.ahead = 'd' :: rest := by
  rcases run_orElse_eq_some.mp hTerm with hPool | ⟨-, hConstant⟩
  · rcases run_poolParser_eq_some.mp hPool with
      ⟨count, sides, x, -, hCount, y, hMark, -⟩
    rw [hNumber] at hCount
    cases hCount
    exact Or.inr ⟨y.ahead, hMark⟩
  · rcases run_constantParser_eq_some.mp hConstant with
      ⟨other, hOther, -, rfl⟩
    rw [hNumber] at hOther
    cases hOther
    exact Or.inl ⟨rfl, rfl⟩

/-
  From inside of a plain term there is a plain one with the same
  end, unless a pool begins with the last digits of the term.
-/
theorem plain_or_goesOn_of_inside
    {t u : DiceExpression}
    (hTerm : termParser.run k = some (t, m))
    (hPlain : t.Plain)
    (hFrom : k.position ≤ d.position)
    (hTo : d.position < m.position)
    (hInner : termParser.run d = some (u, s)) :
    (s = m ∧ u.Plain) ∨ ∃ rest, m.ahead = 'd' :: rest := by
  rcases run_orElse_eq_some.mp hTerm with hPool | ⟨-, hConstant⟩
  · rcases run_poolParser_eq_some.mp hPool with
      ⟨count, sides, x, rfl, hCount, y, hMark, hSides⟩
    have hAfter := Cursor.position_of_ahead_eq_cons hMark
    rcases Nat.lt_trichotomy d.position x.position with
      hInCount | hAtMark | hInSides
    · rcases exists_run_number_inside hCount hFrom hInCount with
        ⟨last, hLe, hLast⟩
      have hOther : termParser.run d = some (.pool last sides, m) :=
        run_orElse_eq_some.mpr (Or.inl
          (run_poolParser_eq_some.mpr
            ⟨last, sides, x, rfl, hLast, y, hMark, hSides⟩))
      rw [hOther] at hInner
      cases hInner
      refine Or.inl ⟨rfl, ?_⟩
      -- The last digits of no dice are no dice either.
      rw [plain_pool_iff] at hPlain ⊢
      omega
    · rcases exists_digit_of_run_termParser hInner with
        ⟨a, rest, hAhead, hDigit⟩
      rw [Cursor.eq_of_position_eq hAtMark, hMark,
        List.cons.injEq] at hAhead
      rw [← hAhead.1] at hDigit
      cases hDigit
    · rcases exists_run_number_inside hSides (by omega) hTo with
        ⟨last, -, hLast⟩
      exact plain_or_goesOn_of_number hLast hInner
  · rcases run_constantParser_eq_some.mp hConstant with
      ⟨n, hNumber, -, -⟩
    rcases exists_run_number_inside hNumber hFrom hTo with
      ⟨last, -, hLast⟩
    exact plain_or_goesOn_of_number hLast hInner

/- No operator follows right before the mark of a pool. -/
theorem run_moreParser_eq_none_of_mark
    {rest : List Char}
    (hMark : m.ahead = 'd' :: rest) :
    moreParser.run m = none := by
  apply run_eq_none
  intro x s hRun
  rcases run_moreParser_eq_some.mp hRun with ⟨y, hOperator, -⟩
  rcases run_operatorParser_eq_some.mp hOperator with
    ⟨joint, hJoint, hAhead, -⟩
  have hNext : NotNext endsTerm (joint ++ y.ahead) :=
    hJoint.notNext
  rw [← hAhead, hMark, notNext_cons] at hNext
  cases hNext

/-
  A sum with dice that begins inside of a plain one takes in the
  mark of a pool right behind it.
-/
theorem goesOn_of_place
    {e : DiceExpression}
    (hPlace : Place d r)
    (hStuck : Stuck moreParser r)
    (hInner : sumParser.run d = some (e, s))
    (hDice : e.hasDice = true) :
    ∃ rest, r.ahead = 'd' :: rest := by
  rcases run_sumParser_eq_some.mp hInner with
    ⟨first, others, n, rfl, hFirst, hOthers, hOthersStuck⟩
  cases hPlace with
  | @term k m t more hTerm hFrom hTo hPlain hChain hMore =>
      rcases plain_or_goesOn_of_inside hTerm hPlain hFrom hTo
          hFirst with
        ⟨rfl, hFirstPlain⟩ | ⟨rest, hMark⟩
      · -- The terms behind are the same in both of the sums.
        rcases hOthers.eq_of_stuck hOthersStuck hChain hStuck with
          ⟨rfl, -⟩
        have hNone := plain_joinTerms_iff.mpr ⟨hFirstPlain, hMore⟩
        rw [Plain, hDice] at hNone
        cases hNone
      · cases hChain with
        | nil => exact ⟨rest, hMark⟩
        | cons hRun hMoves hRest =>
            rw [run_moreParser_eq_none_of_mark hMark] at hRun
            cases hRun
  | @joint k m s op t hOperator hFrom hTo hTerm hPlain =>
      rcases run_operatorParser_eq_some.mp hOperator with
        ⟨joint, hJoint, hAhead, -⟩
      rcases exists_digit_of_run_termParser hFirst with
        ⟨a, rest, hNext, hDigit⟩
      have hMem := Cursor.mem_of_position_lt hAhead hNext hFrom hTo
      rw [hJoint.not_isDigit hMem] at hDigit
      cases hDigit

------------------------------------------------------------
-- Modifiers inside of a Plain Sum
------------------------------------------------------------

/- A sign stands right in front of a digit. -/
def SignedAt (d : Cursor prose) : Prop :=
  ∃ sign digit rest, d.ahead = sign :: digit :: rest ∧
    (sign = '+' ∨ sign = '-') ∧ digit.isDigit = true

theorem signedAt_of_run
    {e : DiceExpression}
    (hCheck : checkParser.run d = some (e, s)) :
    SignedAt d := by
  rcases run_checkParser_eq_some.mp hCheck with
    ⟨n, m, hNumber, -, hSign⟩
  rcases run_number_eq_some.mp hNumber with
    ⟨digits, hDigits, hAhead, -⟩
  rcases List.exists_cons_of_ne_nil hDigits.ne_nil with
    ⟨a, rest, rfl⟩
  have hDigit := hDigits.isDigit a (List.mem_cons_self ..)
  rw [hAhead, List.cons_append] at hSign
  rcases hSign with ⟨-, hPlus⟩ | ⟨-, hMinus⟩
  · exact ⟨'+', a, _, hPlus, Or.inl rfl, hDigit⟩
  · exact ⟨'-', a, _, hMinus, Or.inr rfl, hDigit⟩

/- A plain term begins with a number that a modifier can have. -/
theorem exists_number_of_plain
    {t : DiceExpression}
    (hTerm : termParser.run k = some (t, m))
    (hPlain : t.Plain) :
    ∃ n x, number.run k = some (n, x) ∧ n.toNat < 0x80000000 := by
  rcases run_orElse_eq_some.mp hTerm with hPool | ⟨-, hConstant⟩
  · rcases run_poolParser_eq_some.mp hPool with
      ⟨count, sides, x, rfl, hCount, -⟩
    refine ⟨count, x, hCount, ?_⟩
    rw [plain_pool_iff] at hPlain
    omega
  · rcases run_constantParser_eq_some.mp hConstant with
      ⟨n, hNumber, hSmall, -⟩
    exact ⟨n, m, hNumber, hSmall⟩

/- A sign right in front of a term can be read with its number. -/
theorem exists_run_checkParser_of_place
    (hPlace : Place d r)
    (hSigned : SignedAt d) :
    ∃ e s, checkParser.run d = some (e, s) := by
  rcases hSigned with ⟨sign, digit, rest, hAhead, hSign, hDigit⟩
  cases hPlace with
  | @term k m t more hTerm hFrom hTo hPlain hChain hMore =>
      rcases term_of_run hTerm with ⟨cs, hWritten, hRead⟩
      have hMem := Cursor.mem_of_position_lt hRead hAhead hFrom hTo
      have hEnds := hWritten.endsTerm_of_mem hMem
      rcases hSign with rfl | rfl
      · cases hEnds
      · cases hEnds
  | @joint k m s op t hOperator hFrom hTo hTerm hPlain =>
      rcases run_operatorParser_eq_some.mp hOperator with
        ⟨joint, hJoint, hRead, -⟩
      rcases Cursor.exists_suffix_of_position_lt hRead hFrom hTo
        with ⟨inner, hNe, hSuffix, hInner⟩
      rcases List.exists_cons_of_ne_nil hNe with ⟨a, more, rfl⟩
      rw [hAhead, List.cons_append, List.cons.injEq] at hInner
      -- The sign is the last character of the operator.
      cases more with
      | cons b more =>
          have hMem : b ∈ joint := hSuffix.mem (by simp)
          rw [List.cons_append, List.cons.injEq] at hInner
          rw [hInner.2.1, hJoint.not_isDigit hMem] at hDigit
          cases hDigit
      | nil =>
          rw [List.nil_append] at hInner
          rcases exists_number_of_plain hTerm hPlain with
            ⟨n, x, hNumber, hSmall⟩
          rw [hInner.2] at hAhead
          rcases hSign with rfl | rfl
          · exact ⟨_, x, run_checkParser_eq_some.mpr
              ⟨n, m, hNumber, hSmall, Or.inl ⟨rfl, hAhead⟩⟩⟩
          · exact ⟨_, x, run_checkParser_eq_some.mpr
              ⟨n, m, hNumber, hSmall, Or.inr ⟨rfl, hAhead⟩⟩⟩

------------------------------------------------------------
-- What Is Found
------------------------------------------------------------

/- A modifier is a roll wherever its sign stands. -/
theorem run_rolled_of_checkParser
    {e : DiceExpression}
    (hCheck : checkParser.run d = some (e, s)) :
    rolled.run d = some (e, s) := by
  rcases signedAt_of_run hCheck with
    ⟨sign, digit, rest, hAhead, hSign, -⟩
  have hNone : sumParser.run d = none := by
    apply run_sumParser_eq_none hAhead
    rcases hSign with rfl | rfl
    · rfl
    · rfl
  refine run_filter_eq_some.mpr
    ⟨run_orElse_eq_some.mpr (Or.inr ⟨hNone, hCheck⟩), ?_⟩
  rcases run_map_eq_some.mp hCheck with ⟨n, -, rfl⟩
  exact hasDice_check n

/- Whatever lies inside of a plain expression has its place. -/
theorem place_of_run
    {e : DiceExpression}
    (hRun : parser.run c = some (e, r))
    (hPlain : e.Plain)
    (hFrom : c.position < d.position)
    (hTo : d.position < r.position) :
    Place d r ∧ Stuck moreParser r := by
  rcases run_orElse_eq_some.mp hRun with hSum | ⟨-, hCheck⟩
  · rcases run_sumParser_eq_some.mp hSum with
      ⟨first, more, m, rfl, hFirst, hChain, hStuck⟩
    rcases plain_joinTerms_iff.mp hPlain with
      ⟨hFirstPlain, hMorePlain⟩
    exact
      ⟨place_of_chain hFirst hChain hFirstPlain hMorePlain
        (Nat.le_of_lt hFrom) hTo, hStuck⟩
  · rcases run_map_eq_some.mp hCheck with ⟨n, -, rfl⟩
    rw [Plain, hasDice_check] at hPlain
    cases hPlain

/- A roll can be read inside of a plain expression. -/
def RollInside (c r : Cursor prose) : Prop :=
  ∃ d : Cursor prose, c.position < d.position ∧
    d.position < r.position ∧
      ∃ roll s, rolled.run d = some (roll, s)

/-
  Inside of a plain expression there are only modifiers and rolls
  that take in the mark of a pool behind it.
-/
theorem rollInside_iff
    {e : DiceExpression}
    (hRun : parser.run c = some (e, r))
    (hPlain : e.Plain) :
    RollInside c r ↔
      ∃ d : Cursor prose, c.position < d.position ∧
        d.position < r.position ∧
          (SignedAt d ∨ (∃ rest, r.ahead = 'd' :: rest) ∧
            ∃ roll s, rolled.run d = some (roll, s)) := by
  constructor
  · rintro ⟨d, hFrom, hTo, roll, s, hRolled⟩
    refine ⟨d, hFrom, hTo, ?_⟩
    rcases run_filter_eq_some.mp hRolled with ⟨hInner, hDice⟩
    rcases place_of_run hRun hPlain hFrom hTo with ⟨hPlace, hStuck⟩
    rcases run_orElse_eq_some.mp hInner with hSum | ⟨-, hCheck⟩
    · exact Or.inr
        ⟨goesOn_of_place hPlace hStuck hSum hDice, roll, s, hRolled⟩
    · exact Or.inl (signedAt_of_run hCheck)
  · rintro ⟨d, hFrom, hTo, hSigned | ⟨-, hFound⟩⟩
    · rcases place_of_run hRun hPlain hFrom hTo with ⟨hPlace, -⟩
      rcases exists_run_checkParser_of_place hPlace hSigned with
        ⟨roll, s, hCheck⟩
      exact ⟨d, hFrom, hTo, roll, s,
        run_rolled_of_checkParser hCheck⟩
    · exact ⟨d, hFrom, hTo, hFound⟩

/- A plain expression is not a roll. -/
theorem run_rolled_eq_none
    {e : DiceExpression}
    (hRun : parser.run c = some (e, r))
    (hPlain : e.Plain) :
    rolled.run c = none := by
  apply run_eq_none
  intro other s hRolled
  rcases run_filter_eq_some.mp hRolled with ⟨hOther, hDice⟩
  rw [hRun] at hOther
  cases hOther
  rw [hPlain] at hDice
  cases hDice

/-
  Something is found that begins inside of an expression, if and
  only if the expression has no dice and, inside of it, a sign
  stands right in front of a digit or, with the mark of a pool
  behind it, a roll begins. It is assumed that nothing that was
  found before goes on into the expression.
-/
theorem found_inside_iff
    {e : DiceExpression}
    (hRun : parser.run c = some (e, r))
    (hClear : ∀ a ∈ allIn prose,
      a.span.start < c.position → a.span.stop ≤ c.position) :
    (∃ a ∈ allIn prose, c.position < a.span.start ∧
        a.span.start < r.position) ↔
      e.Plain ∧ ∃ d : Cursor prose, c.position < d.position ∧
        d.position < r.position ∧
          (SignedAt d ∨ (∃ rest, r.ahead = 'd' :: rest) ∧
            ∃ roll s, rolled.run d = some (roll, s)) := by
  by_cases hPlain : e.Plain
  · have hNone := run_rolled_eq_none hRun hPlain
    have hFound : _ ↔ RollInside c r :=
      exists_mem_allIn_between_iff lt_of_run hClear hNone
    exact (hFound.trans (rollInside_iff hRun hPlain)).trans
      (iff_and_self.mpr fun _ => hPlain)
  · refine iff_of_false ?_ fun hInside => hPlain hInside.1
    rintro ⟨a, ha, hInside⟩
    have hDice : e.hasDice = true := by
      rwa [Plain, Bool.not_eq_false] at hPlain
    rcases exists_mem_allIn_at lt_of_run hClear
        (run_filter_eq_some.mpr ⟨hRun, hDice⟩) with
      ⟨whole, hWhole, hSpan⟩
    apply not_between_of_mem_allIn lt_of_run hWhole ha
    rwa [hSpan]

/- The sides of no dice are read as the count of other dice. -/
example :
    allIn (Prose.ofString "0d61d4") = [⟨.pool 61 4, ⟨2, 6⟩⟩] := by
  decide +kernel

/- A range of numbers some way behind a roll. -/
def rangeBehindRoll : Prose :=
  Prose.folded "1d6, Recharge 5-6"

/- Where the range begins. -/
def rangeStart : Cursor rangeBehindRoll where
  position := 14
  position_le := by decide

/- Where the range ends. -/
def rangeStop : Cursor rangeBehindRoll where
  position := 17
  position_le := by decide

theorem found_inside_iff_range :
    let e : DiceExpression := .constant 5 - .constant 6
    parser.run rangeStart = some (e, rangeStop) ∧
      (∀ a ∈ allIn rangeBehindRoll,
        a.span.start < rangeStart.position →
          a.span.stop ≤ rangeStart.position) ∧
        ∃ a ∈ allIn rangeBehindRoll,
          rangeStart.position < a.span.start ∧
            a.span.start < rangeStop.position := by
  have hRun :
      parser.run rangeStart =
        some (.constant 5 - .constant 6, rangeStop) := by
    decide +kernel
  have hFound :
      allIn rangeBehindRoll =
        [⟨.pool 1 6, ⟨0, 3⟩⟩, ⟨check (-6), ⟨15, 17⟩⟩] := by
    decide +kernel
  have hClear :
      ∀ a ∈ allIn rangeBehindRoll,
        a.span.start < rangeStart.position →
          a.span.stop ≤ rangeStart.position := by
    rw [hFound]
    decide
  let sign : Cursor rangeBehindRoll := ⟨15, by decide⟩
  have hSigned : SignedAt sign :=
    ⟨'-', '6', [], by decide, Or.inr rfl, by decide⟩
  exact
    ⟨hRun, hClear, (found_inside_iff hRun hClear).mpr
      ⟨rfl, sign, by decide, by decide, Or.inl hSigned⟩⟩

/- The upper number of a range is found as a modifier. -/
theorem not_never_inside :
    ¬ ∀ (prose : Prose) (c r : Cursor prose) (e : DiceExpression),
      parser.run c = some (e, r) →
        (∀ a ∈ allIn prose,
          a.span.start < c.position → a.span.stop ≤ c.position) →
          ∀ a ∈ allIn prose,
            ¬ (c.position < a.span.start ∧
              a.span.start < r.position) := by
  intro hNever
  let prose := Prose.ofString "5-6"
  have hRun :
      parser.run (Cursor.start prose) =
        some (.constant 5 - .constant 6, Cursor.stop prose) := by
    decide +kernel
  have hFound : allIn prose = [⟨check (-6), ⟨1, 3⟩⟩] := by
    decide +kernel
  have hNone := hNever prose _ _ _ hRun
    (fun a _ hBefore => absurd hBefore (Nat.not_lt_zero _))
  rw [hFound] at hNone
  exact hNone _ (List.mem_singleton_self _) (by decide)

end CreatureProse.DiceExpression
