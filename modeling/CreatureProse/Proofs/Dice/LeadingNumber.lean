import CreatureProse.Proofs.Dice.Inside
import CreatureProse.Proofs.Parser.DigitRun

/-
  The number that a roll in a text begins with. It is the longest
  end of its run of digits that the first term of the roll can
  hold: 32 bits for a count of dice, and 31 for a number. All
  other numbers of a roll are whole.

  Main declarations:
    * `DiceExpression.leading`
    * `DiceExpression.leadingBound`
    * `DiceExpression.run_rolled_in_front`
    * `DiceExpression.longestEnd_of_mem_allIn`
    * `DiceExpression.exists_mem_allIn_of_digits`
-/

namespace CreatureProse.DiceExpression

open CreatureProse.Parser

variable {prose : Prose} {c d k m r s : Cursor prose}

------------------------------------------------------------
-- The First Number
------------------------------------------------------------

/- The number that the first term begins with. -/
def leading : DiceExpression → Nat
| .pool count _ => count.toNat
| .constant n => n.toInt.toNat
| .compound lhs _ _ => lhs.leading

/- What this number stays below. -/
def leadingBound : DiceExpression → Nat
| .pool _ _ => 0x100000000
| .constant _ => 0x80000000
| .compound lhs _ _ => lhs.leadingBound

/- What a sum has from its left side it has from its first term. -/
theorem joinTerms_of_left
    {α : Type}
    (f : DiceExpression → α)
    (hLeft : ∀ lhs op rhs, f (.compound lhs op rhs) = f lhs)
    (first : DiceExpression)
    (more : List (Operator × DiceExpression)) :
    f (joinTerms first more) = f first := by
  induction more generalizing first with
  | nil => rfl
  | cons x more ih =>
      exact (ih (.compound first x.1 x.2)).trans (hLeft ..)

/- A term has the value of the digits ahead as its first number. -/
theorem leading_of_run_termParser
    {t : DiceExpression}
    (hTerm : termParser.run d = some (t, m)) :
    Text.digitsValue (prose.digitsAhead d.position) = t.leading ∧
      t.leading < t.leadingBound := by
  rcases run_orElse_eq_some.mp hTerm with hPool | ⟨-, hConstant⟩
  · rcases run_poolParser_eq_some.mp hPool with
      ⟨count, sides, x, rfl, hCount, -⟩
    exact ⟨digitsValue_of_run_number hCount, count.toNat_lt⟩
  · rcases run_constantParser_eq_some.mp hConstant with
      ⟨n, hNumber, hSmall, rfl⟩
    have hValue :
        (constant (Int32.ofInt n.toNat)).leading = n.toNat := by
      rw [leading, Int32.toInt_ofInt_of_le (by omega) (by omega)]
      exact Int.toNat_natCast _
    rw [hValue]
    exact ⟨digitsValue_of_run_number hNumber, hSmall⟩

/-
  With more digits in front a term is still read, to the same
  end and with the same dice or more, if its first number fits.
-/
theorem run_termParser_in_front
    {t : DiceExpression}
    {back : List Char}
    (hTerm : termParser.run d = some (t, m))
    (hBack : ∀ a ∈ back, a.isDigit = true)
    (hAhead : c.ahead = back ++ d.ahead)
    (hFits :
      Text.digitsValue (back ++ prose.digitsAhead d.position) <
        t.leadingBound) :
    ∃ u, termParser.run c = some (u, m) ∧
      (u.Plain → t.Plain) := by
  have hMore :=
    Text.digitsValue_le_append back (prose.digitsAhead d.position)
  rcases run_orElse_eq_some.mp hTerm with
    hPool | ⟨hNoPool, hConstant⟩
  · rcases run_poolParser_eq_some.mp hPool with
      ⟨count, sides, x, rfl, hCount, y, hMark, hSides⟩
    rcases run_number_in_front hCount hBack hAhead hFits with
      ⟨total, hRun, hTotal⟩
    refine ⟨.pool total sides, run_orElse_eq_some.mpr (Or.inl
      (run_poolParser_eq_some.mpr
        ⟨total, sides, x, rfl, hRun, y, hMark, hSides⟩)), ?_⟩
    rw [digitsValue_of_run_number hCount] at hMore
    rw [plain_pool_iff, plain_pool_iff]
    omega
  · rcases run_constantParser_eq_some.mp hConstant with
      ⟨n, hNumber, -, rfl⟩
    change _ < 0x80000000 at hFits
    rcases run_number_in_front hNumber hBack hAhead
        (Nat.lt_trans hFits (by decide)) with
      ⟨total, hRun, hTotal⟩
    refine ⟨.constant (Int32.ofInt total.toNat),
      run_orElse_eq_some.mpr (Or.inr ⟨?_,
        run_constantParser_eq_some.mpr
          ⟨total, hRun, by omega, rfl⟩⟩), fun _ => rfl⟩
    -- A pool from further left would be one from here as well.
    apply run_eq_none
    intro e z hPool
    rcases run_poolParser_eq_some.mp hPool with
      ⟨count, sides, x, -, hCount, y, hMark, hSides⟩
    rw [hRun] at hCount
    cases hCount
    rw [run_poolParser_eq_some.mpr
      ⟨n, sides, _, rfl, hNumber, y, hMark, hSides⟩] at hNoPool
    cases hNoPool

/- The same holds of a roll that begins with a digit. -/
theorem run_rolled_in_front
    {e : DiceExpression}
    {back : List Char}
    (hRun : rolled.run d = some (e, s))
    (hDigit : prose.digitsAhead d.position ≠ [])
    (hBack : ∀ a ∈ back, a.isDigit = true)
    (hAhead : c.ahead = back ++ d.ahead) :
    (Text.digitsValue (prose.digitsAhead d.position) = e.leading ∧
      e.leading < e.leadingBound) ∧
      (Text.digitsValue (back ++ prose.digitsAhead d.position) <
          e.leadingBound →
        ∃ u, rolled.run c = some (u, s)) := by
  rcases run_filter_eq_some.mp hRun with ⟨hParser, hDice⟩
  rcases run_orElse_eq_some.mp hParser with hSum | ⟨-, hCheck⟩
  · rcases run_sumParser_eq_some.mp hSum with
      ⟨first, more, m, rfl, hFirst, hChain, hStuck⟩
    rw [joinTerms_of_left leading fun _ _ _ => rfl,
      joinTerms_of_left leadingBound fun _ _ _ => rfl]
    refine ⟨leading_of_run_termParser hFirst, fun hFits => ?_⟩
    rcases run_termParser_in_front hFirst hBack hAhead hFits with
      ⟨t, hTerm, hPlain⟩
    refine ⟨joinTerms t more, run_filter_eq_some.mpr
      ⟨run_orElse_eq_some.mpr (Or.inl
        (run_sumParser_eq_some.mpr
          ⟨t, more, m, rfl, hTerm, hChain, hStuck⟩)), ?_⟩⟩
    rw [hasDice_joinTerms, Bool.or_eq_true] at hDice ⊢
    refine hDice.imp_left fun hFirstDice => ?_
    rw [← Bool.not_eq_false] at hFirstDice ⊢
    exact fun hNone => hFirstDice (hPlain hNone)
  · rcases signedAt_of_run hCheck with
      ⟨sign, digit, rest, hNext, hSign, -⟩
    refine absurd (digitsAhead_eq_nil_iff.mpr ?_) hDigit
    rw [hNext, notNext_cons]
    rcases hSign with rfl | rfl
    · rfl
    · rfl

------------------------------------------------------------
-- The Last Number
------------------------------------------------------------

theorem digitsAhead_of_run_termParser
    {t : DiceExpression}
    (hTerm : termParser.run d = some (t, m)) :
    prose.digitsAhead m.position = [] := by
  rcases run_orElse_eq_some.mp hTerm with hPool | ⟨-, hConstant⟩
  · rcases run_poolParser_eq_some.mp hPool with
      ⟨count, sides, x, -, -, y, -, hSides⟩
    exact digitsAhead_of_run_number hSides
  · rcases run_constantParser_eq_some.mp hConstant with
      ⟨n, hNumber, -, -⟩
    exact digitsAhead_of_run_number hNumber

/- No digit is left behind the last number of an expression. -/
theorem digitsAhead_of_run
    {e : DiceExpression}
    (hRun : parser.run c = some (e, r)) :
    prose.digitsAhead r.position = [] := by
  rcases run_orElse_eq_some.mp hRun with hSum | ⟨-, hCheck⟩
  · rcases run_sumParser_eq_some.mp hSum with
      ⟨first, more, m, rfl, hFirst, hChain, -⟩
    have hEnd := digitsAhead_of_run_termParser hFirst
    clear hFirst hSum hRun
    induction hChain with
    | nil => exact hEnd
    | cons hMore hMoves hRest ih =>
        rcases run_moreParser_eq_some.mp hMore with
          ⟨y, -, hTerm⟩
        exact ih (digitsAhead_of_run_termParser hTerm)
  · rcases run_checkParser_eq_some.mp hCheck with
      ⟨n, m, hNumber, -⟩
    exact digitsAhead_of_run_number hNumber

------------------------------------------------------------
-- What Is Found
------------------------------------------------------------

/-
  No roll begins further to the left in the run of digits that a
  roll begins with: it would not end inside of the run, and what
  was found would begin inside of it.
-/
theorem run_rolled_eq_none_in_front
    {a : Located DiceExpression}
    {back : List Char}
    (ha : a ∈ allIn prose)
    (hStart : a.span.start = d.position)
    (hDigit : prose.digitsAhead d.position ≠ [])
    (hBack : ∀ x ∈ back, x.isDigit = true)
    (hNe : back ≠ [])
    (hAhead : c.ahead = back ++ d.ahead) :
    rolled.run c = none := by
  apply run_eq_none
  intro e r hRun
  have hMoves := Cursor.position_lt_of_ahead_eq hAhead hNe
  rcases exists_mem_allIn_of_run lt_of_run hRun with
    ⟨b, hb, hFrom, hTo⟩
  have hApart := not_between_of_mem_allIn lt_of_run hb ha
  rcases readAt_of_mem_allIn hb with ⟨x, y, hOther, hSpan⟩
  rw [hSpan] at hFrom hTo hApart
  rw [hStart] at hApart
  dsimp only at hFrom hTo hApart
  have hEnd := digitsAhead_of_run (run_filter_eq_some.mp hOther).1
  rcases Nat.lt_or_ge y.position d.position with hInside | hPast
  · rcases Cursor.exists_suffix_of_position_lt hAhead
        (Nat.le_of_lt hTo) hInside with
      ⟨inner, hInner, hSuffix, hNext⟩
    rcases List.exists_cons_of_ne_nil hInner with ⟨z, more, rfl⟩
    rw [digitsAhead_eq_nil_iff, hNext, List.cons_append,
      notNext_cons, hBack z (hSuffix.mem (by simp))] at hEnd
    cases hEnd
  · have hSame : y.position = d.position := by omega
    rw [hSame] at hEnd
    exact hDigit hEnd

/-
  The first number of a roll that begins with a digit is the
  longest end of its run that the first term can hold, and its
  last number ends where a run does.
-/
theorem longestEnd_of_mem_allIn
    {a : Located DiceExpression}
    (ha : a ∈ allIn prose)
    (hDigit : prose.digitsAhead a.span.start ≠ []) :
    LongestEnd a.value.leadingBound
        (prose.digitsBehind a.span.start)
        (prose.digitsAhead a.span.start) ∧
      Text.digitsValue (prose.digitsAhead a.span.start) =
        a.value.leading ∧
      prose.digitsAhead a.span.stop = [] := by
  rcases readAt_of_mem_allIn ha with ⟨d, s, hRun, hSpan⟩
  have hStart : a.span.start = d.position := by rw [hSpan]
  have hStop : a.span.stop = s.position := by rw [hSpan]
  rw [hStart] at hDigit ⊢
  rcases (run_rolled_in_front hRun hDigit (List.forall_mem_nil _)
      (List.nil_append d.ahead).symm).1 with ⟨hValue, hFits⟩
  refine ⟨⟨by rwa [hValue], ?_⟩, hValue, ?_⟩
  · intro back hNe hSuffix
    rcases exists_of_suffix_digitsBehind hSuffix with
      ⟨c, hAhead, hBack⟩
    apply Nat.le_of_not_lt
    intro hSmall
    rcases (run_rolled_in_front hRun hDigit hBack hAhead).2 hSmall
      with ⟨u, hFront⟩
    rw [run_rolled_eq_none_in_front ha hStart hDigit hBack hNe
      hAhead] at hFront
    cases hFront
  · rw [hStop]
    exact digitsAhead_of_run (run_filter_eq_some.mp hRun).1

theorem leadingBound_le (e : DiceExpression) :
    e.leadingBound ≤ 0x100000000 := by
  induction e with
  | pool count sides => exact Nat.le_refl _
  | constant n => exact (by decide : 0x80000000 ≤ 0x100000000)
  | compound lhs op rhs ihLeft ihRight => exact ihLeft

/- A roll is not found where the number ahead is too large. -/
theorem digitsValue_lt_of_mem_allIn
    {a : Located DiceExpression}
    (ha : a ∈ allIn prose) :
    Text.digitsValue (prose.digitsAhead a.span.start) <
      0x100000000 := by
  by_cases hDigit : prose.digitsAhead a.span.start = []
  · rw [hDigit]
    exact (by decide : 0 < 0x100000000)
  · exact Nat.lt_of_lt_of_le (longestEnd_of_mem_allIn ha hDigit).1.fits
      (leadingBound_le a.value)

/- No roll is found in a run in front of its longest end. -/
theorem start_lt_of_longestEnd
    {a : Located DiceExpression}
    {back last : List Char}
    (ha : a ∈ allIn prose)
    (hEnd : LongestEnd 0x100000000 back last)
    (hDigits : ∀ x ∈ back ++ last, x.isDigit = true)
    (hAhead : c.ahead = back ++ d.ahead)
    (hLast : d.ahead = last ++ m.ahead)
    (hNext : NotNext Char.isDigit m.ahead)
    (hTo : a.span.start < d.position) :
    a.span.start < c.position := by
  rcases readAt_of_mem_allIn ha with ⟨x, y, -, hSpan⟩
  have hStart : a.span.start = x.position := by rw [hSpan]
  have hFits := digitsValue_lt_of_mem_allIn ha
  rw [hStart] at hFits hTo ⊢
  apply Nat.lt_of_not_le
  intro hFrom
  have hLarge :=
    hEnd.le_of_lt hDigits hAhead hLast hNext hFrom hTo
  exact absurd hFits (Nat.not_lt.mpr hLarge)

/- A pool that can be read is the first term of a roll. -/
theorem exists_run_rolled_of_pool
    {count sides : UInt32}
    (hPool : poolParser.run c = some (.pool count sides, m))
    (hCount : count.toNat ≠ 0) :
    ∃ e r, rolled.run c = some (e, r) := by
  rcases repeatFrom_chain moreParser m [] with
    ⟨more, r, -, hChain, hStuck⟩
  refine ⟨joinTerms (.pool count sides) more, r,
    run_filter_eq_some.mpr ⟨run_orElse_eq_some.mpr (Or.inl
      (run_sumParser_eq_some.mpr ⟨_, more, m, rfl,
        run_orElse_eq_some.mpr (Or.inl hPool), hChain,
        hStuck⟩)), ?_⟩⟩
  rw [← Bool.not_eq_false]
  intro hPlain
  exact hCount (plain_pool_iff.mp (plain_joinTerms_iff.mp hPlain).1)

/-
  What stands in front of the mark of a pool is found as a count
  of dice from the first digit on with which it fits, unless it
  is zero then, or something that was found before goes on into
  the digits.
-/
theorem exists_mem_allIn_of_digits
    {digits : List Char}
    {sides : UInt32}
    (hNe : digits ≠ [])
    (hDigits : ∀ x ∈ digits, x.isDigit = true)
    (hAhead : c.ahead = digits ++ 'd' :: k.ahead)
    (hSides : number.run k = some (sides, s))
    (hClear : ∀ a ∈ allIn prose,
      a.span.start < c.position → a.span.stop ≤ c.position) :
    ∃ back last, digits = back ++ last ∧
      LongestEnd 0x100000000 back last ∧
        (Text.digitsValue last ≠ 0 →
          ∃ a ∈ allIn prose,
            a.span.start = c.position + back.length ∧
              a.value.leading = Text.digitsValue last) := by
  rcases @exists_longestEnd 0x100000000 (by decide) _ hNe hDigits
    with
    ⟨back, last, rfl, hLastNe, hEnd⟩
  refine ⟨back, last, rfl, hEnd, fun hCount => ?_⟩
  rw [List.append_assoc] at hAhead
  rcases Cursor.exists_of_ahead_eq_append hAhead with ⟨d, hD⟩
  rcases Cursor.exists_of_ahead_eq_append hD with ⟨m, hMark⟩
  rw [← hD] at hAhead
  rw [← hMark] at hD
  have hPosition := Cursor.position_eq_add_length hAhead
  have hNext : NotNext Char.isDigit m.ahead := by
    rw [hMark]
    exact notNext_cons.mpr rfl
  have hLast := (List.forall_mem_append.mp hDigits).2
  have hRead := digitsAhead_eq hLast hD hNext
  have hValue := UInt32.toNat_ofNat_of_lt' hEnd.fits
  have hNumber : number.run d = some (.ofNat _, m) :=
    (run_number_of_digits hLastNe hLast hD hNext).mpr
      ⟨hValue.symm, rfl⟩
  have hPool := run_poolParser_eq_some.mpr
    ⟨_, sides, m, rfl, hNumber, k, hMark, hSides⟩
  rcases exists_run_rolled_of_pool hPool (by rwa [hValue]) with
    ⟨e, r, hRun⟩
  have hBefore : ∀ a ∈ allIn prose,
      a.span.start < d.position → a.span.stop ≤ d.position := by
    intro a ha hLt
    have hStop := hClear a ha
      (start_lt_of_longestEnd ha hEnd hDigits hAhead hD hNext hLt)
    omega
  rcases exists_mem_allIn_at lt_of_run hBefore hRun with
    ⟨a, ha, hSpan⟩
  have hStart : a.span.start = d.position := by rw [hSpan]
  have hFound := (longestEnd_of_mem_allIn ha
    (by rwa [hStart, hRead])).2.1
  rw [hStart, hRead] at hFound
  exact ⟨a, ha, hStart.trans hPosition, hFound.symm⟩

end CreatureProse.DiceExpression
