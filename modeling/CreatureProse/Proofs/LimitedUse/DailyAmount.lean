import CreatureProse.Proofs.Dice.LeadingNumber
import CreatureProse.Proofs.LimitedUse.Grammar
import CreatureProse.Proofs.Parser.Search

/-
  The number of uses each day that is found in a name. It is the
  longest end of its run of digits that fits into 32 bits, as is
  a count of dice that is found in a text. So a number that is
  too large does not keep a limit or a roll from being found, but
  the last digits of the number are taken for it.

  Main declarations:
    * `LimitedUse.EachDay`
    * `LimitedUse.exists_numeral_of_run`
    * `LimitedUse.longestEnd_of_inName?`
    * `LimitedUse.inName?_of_digits`
    * `longest_end_found`
    * `not_always_whole`
-/

namespace CreatureProse

open CreatureProse.Parser

namespace LimitedUse

variable {prose : Prose} {c d m r : Cursor prose}

------------------------------------------------------------
-- Uses Each Day
------------------------------------------------------------

/- The unit of a number of uses each day comes next. -/
def EachDay (cs : List Char) : Prop :=
  ∃ mark rest, (mark = [] ∨ mark = ['e']) ∧
    cs = mark ++ ("/day".toList ++ rest)

theorem EachDay.notNext
    {cs : List Char}
    (hUnit : EachDay cs) :
    NotNext Char.isDigit cs := by
  rcases hUnit with ⟨mark, rest, rfl | rfl, rfl⟩
  · exact notNext_cons.mpr rfl
  · exact notNext_cons.mpr rfl

/- Where a number and its unit stand, a limit is read. -/
theorem exists_run_of_numeral
    {digits : List Char}
    {n : UInt32}
    (hNumber : Numeral digits n)
    (hAhead : c.ahead = digits ++ m.ahead)
    (hUnit : EachDay m.ahead) :
    ∃ r, parser.run c = some (perDay n, r) := by
  rcases hUnit with ⟨mark, rest, hMark, hDay⟩
  have hText := hDay.trans (List.append_assoc ..).symm
  rcases Cursor.exists_of_ahead_eq_append hText with ⟨k, rfl⟩
  rw [hDay] at hAhead
  have hAmount :=
    run_dailyAmount_iff.mpr ⟨digits, mark, hNumber, hMark, hAhead⟩
  rcases exists_run_optional (literal " each") k with
    ⟨each?, r, hEach⟩
  refine ⟨r, run_firstOf_of_some _ (run_map_eq_some.mpr
    ⟨(n, each?.isSome), ?_, rfl⟩)⟩
  rw [perDayParser]
  simp only [run_seq_eq_some, run_map_eq_some]
  exact ⟨_, k, ⟨n, hAmount, rfl⟩, each?, hEach, rfl⟩

/- A limit that begins with a digit is a number with its unit. -/
theorem exists_numeral_of_run
    {limit : LimitedUse}
    (hRun : parser.run c = some (limit, r))
    (hDigit : prose.digitsAhead c.position ≠ []) :
    ∃ (n : UInt32) (m : Cursor prose), limit = perDay n ∧
      Numeral (prose.digitsAhead c.position) n ∧
        c.ahead = prose.digitsAhead c.position ++ m.ahead ∧
          EachDay m.ahead := by
  rcases written_of_run hRun with ⟨cs, hWritten, hAhead⟩
  rw [ne_eq, digitsAhead_eq_nil_iff, hAhead] at hDigit
  cases hWritten with
  | daily hDaily =>
      rcases hDaily with ⟨hNumber, hMark, hEach⟩
      rename_i n digits mark each
      rw [List.append_assoc] at hAhead
      rcases Cursor.exists_of_ahead_eq_append hAhead with ⟨m, hM⟩
      rw [← hM] at hAhead
      have hUnit : EachDay m.ahead :=
        ⟨mark, each ++ r.ahead, hMark, by
          rw [hM, List.append_assoc, List.append_assoc]⟩
      have hDigits :=
        digitsAhead_eq hNumber.isDigit hAhead hUnit.notNext
      refine ⟨n, m, rfl, ?_, ?_, hUnit⟩
      · rwa [hDigits]
      · rwa [hDigits]
  | recharge hFaces => exact absurd (notNext_cons.mpr rfl) hDigit
  | anyRest => exact absurd (notNext_cons.mpr rfl) hDigit
  | shortRest => exact absurd (notNext_cons.mpr rfl) hDigit
  | longRest => exact absurd (notNext_cons.mpr rfl) hDigit

/- A number that fits is not passed over in front of its unit. -/
theorem exists_run_of_digits
    {digits : List Char}
    (hNe : digits ≠ [])
    (hDigits : ∀ a ∈ digits, a.isDigit = true)
    (hFits : Text.digitsValue digits < 0x100000000)
    (hAhead : c.ahead = digits ++ m.ahead)
    (hUnit : EachDay m.ahead) :
    ∃ r, parser.run c =
      some (perDay (.ofNat (Text.digitsValue digits)), r) :=
  exists_run_of_numeral
    (numeral_iff.mpr
      ⟨hNe, hDigits, (UInt32.toNat_ofNat_of_lt' hFits).symm⟩)
    hAhead hUnit

------------------------------------------------------------
-- Limits in Names
------------------------------------------------------------

theorem ofNat_of_numeral
    {digits : List Char}
    {n : UInt32}
    (hNumber : Numeral digits n) :
    n = .ofNat (Text.digitsValue digits) := by
  rw [(numeral_iff.mp hNumber).2.2, UInt32.ofNat_toNat]

/-
  The number of uses each day that is found in a name is the
  longest end of its run of digits that fits into 32 bits.
-/
theorem longestEnd_of_inName?
    {name : String}
    {limit : Located LimitedUse}
    (hFound : inName? name = some limit)
    (hDigit :
      (Prose.folded name).digitsAhead limit.span.start ≠ []) :
    LongestEnd 0x100000000
        ((Prose.folded name).digitsBehind limit.span.start)
        ((Prose.folded name).digitsAhead limit.span.start) ∧
      limit.value = perDay (.ofNat (Text.digitsValue
        ((Prose.folded name).digitsAhead limit.span.start))) := by
  rcases Option.map_eq_some_iff.mp hFound with
    ⟨⟨found, r⟩, hSearch, rfl⟩
  rcases run_ahead_eq_some hSearch with ⟨d, -, hLocated, hBefore⟩
  rcases run_located_eq_some.mp hLocated with ⟨hRun, hSpan⟩
  have hStart : found.span.start = d.position := by rw [hSpan]
  dsimp only at hDigit ⊢
  rw [hStart] at hDigit ⊢
  rcases exists_numeral_of_run hRun hDigit with
    ⟨n, m, hValue, hNumber, hAhead, hUnit⟩
  rw [← ofNat_of_numeral hNumber]
  rcases numeral_iff.mp hNumber with ⟨hNe, hDigits, hSize⟩
  refine ⟨⟨hSize ▸ n.toNat_lt, ?_⟩, hValue⟩
  intro back hBackNe hSuffix
  rcases exists_of_suffix_digitsBehind hSuffix with
    ⟨c, hFront, hBack⟩
  have hMoves := Cursor.position_lt_of_ahead_eq hFront hBackNe
  apply Nat.le_of_not_lt
  intro hFits
  rw [hAhead, ← List.append_assoc] at hFront
  rcases exists_run_of_digits
      (List.append_ne_nil_of_right_ne_nil back hNe)
      (List.forall_mem_append.mpr ⟨hBack, hDigits⟩) hFits hFront
      hUnit with
    ⟨s, hEarlier⟩
  have hNone := hBefore c (Nat.zero_le _) (by omega)
  rw [run_located, hEarlier] at hNone
  cases hNone

/- No limit is read in a run in front of its longest end. -/
theorem run_eq_none_of_longestEnd
    {x : Cursor prose}
    {back last : List Char}
    (hEnd : LongestEnd 0x100000000 back last)
    (hDigits : ∀ a ∈ back ++ last, a.isDigit = true)
    (hAhead : c.ahead = back ++ d.ahead)
    (hLast : d.ahead = last ++ m.ahead)
    (hNext : NotNext Char.isDigit m.ahead)
    (hFrom : c.position ≤ x.position)
    (hTo : x.position < d.position) :
    parser.run x = none := by
  have hLarge :=
    hEnd.le_of_lt hDigits hAhead hLast hNext hFrom hTo
  have hDigit : prose.digitsAhead x.position ≠ [] := by
    intro hNone
    rw [hNone] at hLarge
    exact absurd hLarge (by decide)
  apply run_eq_none
  intro limit s hRun
  rcases exists_numeral_of_run hRun hDigit with
    ⟨n, k, -, hNumber, -⟩
  rw [(numeral_iff.mp hNumber).2.2] at hLarge
  exact absurd n.toNat_lt (Nat.not_lt.mpr hLarge)

/-
  In front of the unit the digits are found as a number of uses
  from the first one on with which it fits, if no limit stands in
  front of them.
-/
theorem inName?_of_digits
    {name : String}
    {c m : Cursor (Prose.folded name)}
    {digits : List Char}
    (hNe : digits ≠ [])
    (hDigits : ∀ a ∈ digits, a.isDigit = true)
    (hAhead : c.ahead = digits ++ m.ahead)
    (hUnit : EachDay m.ahead)
    (hFirst : ∀ d : Cursor (Prose.folded name),
      d.position < c.position → parser.run d = none) :
    ∃ back last limit, digits = back ++ last ∧
      LongestEnd 0x100000000 back last ∧
        inName? name = some limit ∧
          limit.span.start = c.position + back.length ∧
            limit.value =
              perDay (.ofNat (Text.digitsValue last)) := by
  rcases @exists_longestEnd 0x100000000 (by decide) _ hNe hDigits
    with
    ⟨back, last, rfl, hLastNe, hEnd⟩
  rw [List.append_assoc] at hAhead
  rcases Cursor.exists_of_ahead_eq_append hAhead with ⟨d, hD⟩
  rw [← hD] at hAhead
  rcases exists_run_of_digits hLastNe
      (List.forall_mem_append.mp hDigits).2 hEnd.fits hD hUnit with
    ⟨r, hRun⟩
  have hPlace : First parser.located (Cursor.start _) d := by
    refine ⟨Nat.zero_le _, fun x _ hLt => ?_⟩
    rw [run_located, Option.map_eq_none_iff]
    by_cases hFront : x.position < c.position
    · exact hFirst x hFront
    · exact run_eq_none_of_longestEnd hEnd hDigits hAhead hD
        hUnit.notNext (Nat.le_of_not_lt hFront) hLt
  let limit : Located LimitedUse :=
    ⟨perDay (.ofNat (Text.digitsValue last)),
      ⟨d.position, r.position⟩⟩
  have hLocated : parser.located.run d = some (limit, r) :=
    run_located_eq_some.mpr ⟨hRun, rfl⟩
  refine
    ⟨back, last, limit, rfl, hEnd, ?_,
      Cursor.position_eq_add_length hAhead, rfl⟩
  rw [inName?, value?, nextParser,
    run_ahead_of_first hPlace hLocated, Option.map_some]

end LimitedUse

------------------------------------------------------------
-- Rolls and Limits
------------------------------------------------------------

/-
  A roll or a limit that begins with a digit begins with the
  longest end of a run of digits that it can hold: the whole run
  if this fits, and its last digits if it does not. A run in
  front of the mark of a pool or of the unit of a limit is always
  found so, however large its number is.
-/
theorem longest_end_found
    (prose : Prose)
    (name : String) :
    (∀ a ∈ DiceExpression.allIn prose,
      let behind := prose.digitsBehind a.span.start
      let digits := prose.digitsAhead a.span.start
      digits ≠ [] →
        (behind = [] ↔
          Text.digitsValue (behind ++ digits) <
            a.value.leadingBound) ∧
        LongestEnd a.value.leadingBound behind digits ∧
        Text.digitsValue digits = a.value.leading ∧
        prose.digitsAhead a.span.stop = []) ∧
    (∀ (c k s : Cursor prose) (sides : UInt32)
        (digits : List Char),
      digits ≠ [] → (∀ x ∈ digits, x.isDigit = true) →
        c.ahead = digits ++ 'd' :: k.ahead →
          number.run k = some (sides, s) →
            (∀ a ∈ DiceExpression.allIn prose,
              a.span.start < c.position →
                a.span.stop ≤ c.position) →
              ∃ back last, digits = back ++ last ∧
                LongestEnd 0x100000000 back last ∧
                (Text.digitsValue last ≠ 0 →
                  ∃ a ∈ DiceExpression.allIn prose,
                    a.span.start = c.position + back.length ∧
                      a.value.leading = Text.digitsValue last)) ∧
    (∀ limit : Located LimitedUse,
      let behind :=
        (Prose.folded name).digitsBehind limit.span.start
      let digits :=
        (Prose.folded name).digitsAhead limit.span.start
      LimitedUse.inName? name = some limit → digits ≠ [] →
        (behind = [] ↔
          Text.digitsValue (behind ++ digits) < 0x100000000) ∧
        LongestEnd 0x100000000 behind digits ∧
        limit.value = .perDay (.ofNat (Text.digitsValue digits))) ∧
    ∀ (c m : Cursor (Prose.folded name)) (digits : List Char),
      digits ≠ [] → (∀ a ∈ digits, a.isDigit = true) →
        c.ahead = digits ++ m.ahead →
          LimitedUse.EachDay m.ahead →
            (∀ d : Cursor (Prose.folded name),
              d.position < c.position →
                LimitedUse.parser.run d = none) →
              ∃ back last limit, digits = back ++ last ∧
                LongestEnd 0x100000000 back last ∧
                LimitedUse.inName? name = some limit ∧
                limit.span.start = c.position + back.length ∧
                limit.value =
                  .perDay (.ofNat (Text.digitsValue last)) := by
  refine ⟨?_, ?_, ?_, ?_⟩
  · intro a ha behind digits hDigit
    rcases DiceExpression.longestEnd_of_mem_allIn ha hDigit with
      ⟨hEnd, hLeading⟩
    exact ⟨hEnd.whole_iff, hEnd, hLeading⟩
  · intro c k s sides digits hNe hDigits hAhead hSides
    exact DiceExpression.exists_mem_allIn_of_digits hNe hDigits
      hAhead hSides
  · intro limit behind digits hFound hDigit
    rcases LimitedUse.longestEnd_of_inName? hFound hDigit with
      ⟨hEnd, hValue⟩
    exact ⟨hEnd.whole_iff, hEnd, hValue⟩
  · intro c m digits hNe hDigits hAhead hUnit
    exact LimitedUse.inName?_of_digits hNe hDigits hAhead hUnit

/- Ten digits in front of the mark of a pool. -/
def largeCount : Prose :=
  Prose.folded "9999999999d6"

/- Ten digits in front of the unit of a limit. -/
def largeAmount : String :=
  "9999999999/Day"

theorem longest_end_found_nines :
    let digits := List.replicate 10 '9'
    let roll : Located DiceExpression :=
      ⟨.pool 999999999 6, ⟨1, 12⟩⟩
    let limit : Located LimitedUse :=
      ⟨.perDay 999999999, ⟨1, 14⟩⟩
    (roll ∈ DiceExpression.allIn largeCount ∧
      LongestEnd 0x100000000 (largeCount.digitsBehind 1)
        (largeCount.digitsAhead 1)) ∧
    (∃ back last, digits = back ++ last ∧
      LongestEnd 0x100000000 back last) ∧
    (LimitedUse.inName? largeAmount = some limit ∧
      LongestEnd 0x100000000
        ((Prose.folded largeAmount).digitsBehind 1)
        ((Prose.folded largeAmount).digitsAhead 1)) ∧
    ∃ back last limit, digits = back ++ last ∧
      LimitedUse.inName? largeAmount = some limit ∧
        limit.value = .perDay (.ofNat (Text.digitsValue last)) := by
  intro digits roll limit
  have hRoll : roll ∈ DiceExpression.allIn largeCount := by
    decide +kernel
  have hLimit : LimitedUse.inName? largeAmount = some limit := by
    decide +kernel
  have hDigits : ∀ x ∈ digits, x.isDigit = true := by
    intro x hx
    rw [List.eq_of_mem_replicate hx]
    rfl
  let sides : Cursor largeCount := ⟨11, by decide +kernel⟩
  let unit : Cursor (Prose.folded largeAmount) :=
    ⟨10, by decide +kernel⟩
  rcases longest_end_found largeCount largeAmount with
    ⟨hRolls, hCounts, hLimits, hAmounts⟩
  rcases hRolls roll hRoll (by decide +kernel) with
    ⟨-, hRollEnd, -⟩
  rcases hCounts (Cursor.start _) sides (Cursor.stop _) 6 digits
      (by decide) hDigits (by decide +kernel) (by decide +kernel)
      (fun a _ hLt => absurd hLt (Nat.not_lt_zero _)) with
    ⟨back, last, hCount, hCountEnd, -⟩
  rcases hLimits limit hLimit (by decide +kernel) with
    ⟨-, hLimitEnd, -⟩
  rcases hAmounts (Cursor.start _) unit digits (by decide) hDigits
      (by decide +kernel)
      ⟨[], [], Or.inl rfl, by decide +kernel⟩
      (fun d hLt => absurd hLt (Nat.not_lt_zero _)) with
    ⟨front, rest, found, hAmount, -, hFound, -, hValue⟩
  exact
    ⟨⟨hRoll, hRollEnd⟩, ⟨back, last, hCount, hCountEnd⟩,
      ⟨hLimit, hLimitEnd⟩,
      ⟨front, rest, found, hAmount, hFound, hValue⟩⟩

/- Rolls and limits begin inside of numbers that are too large. -/
theorem not_always_whole :
    (¬ ∀ (prose : Prose) (a : Located DiceExpression),
      a ∈ DiceExpression.allIn prose →
        prose.digitsAhead a.span.start ≠ [] →
          prose.digitsBehind a.span.start = []) ∧
    ¬ ∀ (name : String) (limit : Located LimitedUse),
      LimitedUse.inName? name = some limit →
        (Prose.folded name).digitsAhead limit.span.start ≠ [] →
          (Prose.folded name).digitsBehind limit.span.start = [] := by
  constructor
  · intro hWhole
    have hBehind := hWhole largeCount ⟨.pool 999999999 6, ⟨1, 12⟩⟩
      (by decide +kernel) (by decide +kernel)
    exact absurd hBehind (by decide +kernel)
  · intro hWhole
    have hBehind := hWhole largeAmount
      ⟨.perDay 999999999, ⟨1, 14⟩⟩ (by decide +kernel)
      (by decide +kernel)
    exact absurd hBehind (by decide +kernel)

end CreatureProse
